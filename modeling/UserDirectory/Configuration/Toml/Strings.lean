/-!
The lexical layer of TOML: spaces, comments, ends of lines, and the four kinds of strings. A reader
takes the front off a text, or fails.
-/

namespace UserDirectory.Configuration.Toml

abbrev Reader (α : Type) := List Char → Option (α × List Char)

def isSpace (c : Char) : Bool := c = ' ' || c = '\t'

def isPlain (c : Char) : Bool := c = '\t' || (' ' ≤ c && c ≤ '~') || '\x80' ≤ c

def skipSpaces (text : List Char) : List Char := text.dropWhile isSpace

def skipComment (text : List Char) : List Char :=
  match text with
  | '#' :: rest => rest.dropWhile isPlain
  | text => text

def readNewline? (text : List Char) : Option (List Char) :=
  match text with
  | '\n' :: rest => some rest
  | '\r' :: '\n' :: rest => some rest
  | _ => none

def readLineEnd? (text : List Char) : Option (List Char) :=
  match skipComment (skipSpaces text) with
  | [] => some []
  | rest => readNewline? rest

def skipGaps : Nat → List Char → List Char
  | 0, text => text
  | fuel + 1, text =>
    let rest := skipSpaces text
    match readNewline? (skipComment rest) with
    | some next => skipGaps fuel next
    | none => rest

def hexValue? (c : Char) : Option Nat :=
  if c.isDigit then some (c.toNat - 48)
  else if 'a' ≤ c ∧ c ≤ 'f' then some (c.toNat - 87)
  else if 'A' ≤ c ∧ c ≤ 'F' then some (c.toNat - 55)
  else none

def coded? (code : List Char) : Option Char := do
  let code := (← code.mapM hexValue?).foldl (fun n value => 16 * n + value) 0
  if code.isValidChar then some (Char.ofNat code) else none

def escaped? (c : Char) : Option Char :=
  match c with
  | 'b' => some '\x08'
  | 't' => some '\t'
  | 'n' => some '\n'
  | 'f' => some '\x0c'
  | 'r' => some '\r'
  | '"' => some '"'
  | '\\' => some '\\'
  | _ => none

def readEscape? : Reader Char
  | 'u' :: a :: b :: c :: d :: rest => (coded? [a, b, c, d]).map (·, rest)
  | 'U' :: a :: b :: c :: d :: e :: f :: g :: h :: rest =>
    (coded? [a, b, c, d, e, f, g, h]).map (·, rest)
  | c :: rest => (escaped? c).map (·, rest)
  | [] => none

def readLine? (quote : Char) (escapes : Bool) : Nat → Reader (List Char)
  | 0, _ => none
  | _ + 1, [] => none
  | fuel + 1, c :: rest =>
    if c = quote then some ([], rest)
    else if escapes && c = '\\' then do
      let (character, rest) ← readEscape? rest
      let (body, rest) ← readLine? quote escapes fuel rest
      return (character :: body, rest)
    else if isPlain c then do
      let (body, rest) ← readLine? quote escapes fuel rest
      return (c :: body, rest)
    else none

/-- A run of quotes inside a string over several lines: fewer than three belong to the string, and
of three to five the last three close it. -/
def readQuotes (quote : Char) (text : List Char) : List Char × Bool × List Char :=
  let (quotes, rest) := text.span (· = quote)
  if quotes.length < 3 then (quotes, false, rest)
  else
    let count := min quotes.length 5
    (quotes.take (count - 3), true, quotes.drop count ++ rest)

/-- The rest of a string over several lines. A backslash at the end of a line takes away the line
end and all spaces and line ends behind it. -/
def readLines? (quote : Char) (escapes : Bool) : Nat → Reader (List Char)
  | 0, _ => none
  | _ + 1, [] => none
  | fuel + 1, c :: rest =>
    if c = quote then
      match readQuotes quote (c :: rest) with
      | (quotes, true, rest) => some (quotes, rest)
      | (quotes, false, rest) => do
        let (body, rest) ← readLines? quote escapes fuel rest
        return (quotes ++ body, rest)
    else if escapes && c = '\\' then
      match readNewline? (skipSpaces rest) with
      | some next => readLines? quote escapes fuel (skipBreaks next.length next)
      | none => do
        let (character, rest) ← readEscape? rest
        let (body, rest) ← readLines? quote escapes fuel rest
        return (character :: body, rest)
    else
      match readNewline? (c :: rest) with
      | some next => do
        let (body, rest) ← readLines? quote escapes fuel next
        return ('\n' :: body, rest)
      | none =>
        if isPlain c then do
          let (body, rest) ← readLines? quote escapes fuel rest
          return (c :: body, rest)
        else none
where
  /-- Spaces and ends of lines. -/
  skipBreaks : Nat → List Char → List Char
    | 0, text => text
    | fuel + 1, text =>
      match readNewline? (skipSpaces text) with
      | some next => skipBreaks fuel next
      | none => skipSpaces text

def skipNewline (text : List Char) : List Char := (readNewline? text).getD text

def readString? (oneLine : Bool) (text : List Char) : Option (String × List Char) :=
  let read := match text with
    | '"' :: '"' :: '"' :: rest =>
      if oneLine then none
      else readLines? '"' true (rest.length + 1) (skipNewline rest)
    | '"' :: rest => readLine? '"' true (rest.length + 1) rest
    | '\'' :: '\'' :: '\'' :: rest =>
      if oneLine then none
      else readLines? '\'' false (rest.length + 1) (skipNewline rest)
    | '\'' :: rest => readLine? '\'' false (rest.length + 1) rest
    | _ => none
  read.map fun (body, rest) => (String.ofList body, rest)

end UserDirectory.Configuration.Toml
