import UserDirectory.Configuration.Tree
import UserDirectory.Text.Decimal

/-!
Names of configuration values as paths: `database.url`, `servers[2].name`.
-/

namespace UserDirectory.Configuration

open Text

def isNameCharacter (c : Char) : Bool := c.isAlphanum || c = '_' || c = '-'

def readName? (text : List Char) : Option (String × List Char) :=
  match text.span isNameCharacter with
  | ([], _) => none
  | (name, rest) => some (String.ofList name, rest)

def readStep? (text : List Char) : Option (Tree.Step × List Char) :=
  match text with
  | '.' :: rest => (readName? rest).map fun (name, rest) => (.member name, rest)
  | '[' :: rest =>
    match rest.span Char.isDigit with
    | (index, ']' :: rest) => if index.isEmpty then none else some (.item (ofDigits index), rest)
    | _ => none
  | _ => none

/-- Every step takes a character at least, so the length of the text is enough. -/
def readSteps? : Nat → List Char → Option (List Tree.Step)
  | _, [] => some []
  | 0, _ => none
  | fuel + 1, text => do
    let (step, rest) ← readStep? text
    return step :: (← readSteps? fuel rest)

/-- A name that cannot be read as a path is the name of a single member. -/
def pathOf (name : String) : List Tree.Step :=
  let path : Option (List Tree.Step) := do
    let (first, rest) ← readName? name.toList
    return .member first :: (← readSteps? rest.length rest)
  path.getD [.member name]

def Tree.lay (tree : Tree) (name : String) (value : Tree) : Tree := layAt (pathOf name) value tree

end UserDirectory.Configuration
