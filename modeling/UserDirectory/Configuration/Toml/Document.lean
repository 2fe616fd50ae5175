import UserDirectory.Configuration.Path
import UserDirectory.Configuration.Toml.Node
import UserDirectory.Configuration.Toml.Scalar

namespace UserDirectory.Configuration.Toml

/-- Keys may have this many parts, and values this many lists and tables around them. -/
def depthLimit : Nat := 79

def readPart? (text : List Char) : Option (String × List Char) :=
  match text with
  | '"' :: _ | '\'' :: _ => readString? true text
  | _ => readName? text

def readParts? : Nat → Reader (List String)
  | 0, _ => none
  | fuel + 1, text => do
    let (part, rest) ← readPart? (skipSpaces text)
    match skipSpaces rest with
    | '.' :: rest => do
      let (parts, rest) ← readParts? fuel rest
      return (part :: parts, rest)
    | rest => return ([part], rest)

def readKey? (text : List Char) : Option (List String × List Char) :=
  readParts? depthLimit text

def readItems? (value : Reader Tree) : Nat → Reader (List Tree)
  | 0, _ => none
  | fuel + 1, text =>
    match skipGaps text.length text with
    | ']' :: rest => some ([], rest)
    | start => do
      let (item, rest) ← value start
      match skipGaps rest.length rest with
      | ',' :: rest => do
        let (items, rest) ← readItems? value fuel rest
        return (item :: items, rest)
      | ']' :: rest => return ([item], rest)
      | _ => none

def readPair? (value : Reader Tree) : Reader (List String × Tree) := fun text => do
  let (key, rest) ← readKey? text
  match rest with
  | '=' :: rest => do
    let (tree, rest) ← value (skipSpaces rest)
    return ((key, tree), skipSpaces rest)
  | _ => none

def readPairs? (value : Reader Tree) : Nat → Reader (List (List String × Tree))
  | 0, _ => none
  | fuel + 1, text => do
    let (pair, rest) ← readPair? value text
    match rest with
    | ',' :: rest => do
      let (pairs, rest) ← readPairs? value fuel rest
      return (pair :: pairs, rest)
    | '\x7d' :: rest => return ([pair], rest)
    | _ => none

def assignPair (table : Node) (pair : List String × Tree) : Option Node :=
  pair.1.getLast?.bind fun key => table.assign pair.1.dropLast key pair.2

def readTable? (value : Reader Tree) : Reader Tree := fun text =>
  match skipSpaces text with
  | '\x7d' :: rest => some (.table [], rest)
  | start => do
    let (pairs, rest) ← readPairs? value (start.length + 1) start
    let table ← pairs.foldlM assignPair (Node.empty .explicit)
    return (table.tree, rest)

/-- A value with at most `depth` lists and tables around its parts. -/
def readValue? : Nat → Reader Tree
  | depth, text =>
    match text with
    | '"' :: _ | '\'' :: _ =>
      (readString? false text).map fun (value, rest) => (.text value, rest)
    | '[' :: rest =>
      match depth with
      | 0 => none
      | depth + 1 =>
        (readItems? (readValue? depth) (rest.length + 1) rest).map fun (items, rest) =>
          (.list items, rest)
    | '\x7b' :: rest =>
      match depth with
      | 0 => none
      | depth + 1 => readTable? (readValue? depth) rest
    | _ => readScalar? text

structure Draft where
  root : Node := Node.empty .explicit
  path : List String := []

/-- A header opens a table or, within double brackets, one more table of a list. -/
def readHeader? (draft : Draft) (text : List Char) : Option (Draft × List Char) := do
  let (double, start) := match text with
    | '[' :: rest => (true, rest)
    | rest => (false, rest)
  let (path, rest) ← readKey? start
  let key ← path.getLast?
  match double, rest with
  | true, ']' :: ']' :: rest =>
    return ({ root := ← draft.root.openItem path.dropLast key, path }, rest)
  | false, ']' :: rest => return ({ root := ← draft.root.openTable path.dropLast key, path }, rest)
  | _, _ => none

def readLine (draft : Draft) (text : List Char) : Option (Draft × List Char) :=
  match text with
  | '[' :: rest => readHeader? draft rest
  | text => do
    let (pair, rest) ← readPair? (readValue? depthLimit) text
    let root ← draft.root.within false draft.path fun table => assignPair table pair
    return ({ draft with root }, rest)

def readLinesOf : Nat → Draft → List Char → Option Draft
  | 0, _, _ => none
  | fuel + 1, draft, text =>
    match skipSpaces text with
    | [] => some draft
    | c :: rest =>
      if c = '#' ∨ c = '\n' ∨ c = '\r' then
        (readLineEnd? (c :: rest)).bind fun rest => readLinesOf fuel draft rest
      else do
        let (draft, rest) ← readLine draft (c :: rest)
        readLinesOf fuel draft (← readLineEnd? rest)

/-- The table that a file holds. A byte order mark at its front is skipped. -/
def read? (text : List Char) : Option Tree :=
  let text := match text with
    | '\ufeff' :: rest => rest
    | text => text
  (readLinesOf (text.length + 1) {} text).map fun draft => draft.root.tree

end UserDirectory.Configuration.Toml
