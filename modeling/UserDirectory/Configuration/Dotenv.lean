import UserDirectory.Configuration.Variable
import UserDirectory.Text.Blank
import UserDirectory.Text.Digit
import UserDirectory.Text.Letter

/-!
Files of environment variables, a `NAME=value` a line. They supply variables that are not set yet;
the first line that cannot be read ends the file.
-/

namespace UserDirectory.Configuration.Dotenv

open Text

inductive Position
  | word
  | space
  | backslash
  | quoted (quote : Char)
  | quotedBackslash (quote : Char)
deriving DecidableEq

/-- The position behind a character; none where a comment begins. -/
def Position.next? (position : Position) (c : Char) : Option Position :=
  match position with
  | quoted quote =>
    some (if c = '\\' then quotedBackslash quote else if c = quote then word else quoted quote)
  | quotedBackslash quote => some (quoted quote)
  | backslash => some word
  | position =>
    if c = '\\' then some backslash
    else if c = '"' ∨ c = '\'' then some (quoted c)
    else if c = '#' ∧ position = space then none
    else if isBlank c ∧ c ≠ '\n' ∧ c ≠ '\r' ∧ position = word then some space
    else some word

/-- Goes through a line. A comment ends it; then only what stands before the comment counts. -/
def scan : Position → List Char → List Char × Option Position
  | position, [] => ([], some position)
  | position, c :: rest =>
    match position.next? c with
    | none => ([], none)
    | some next =>
      let (front, last) := scan next rest
      (c :: front, last)

def brokenLines : List Char → List (List Char)
  | [] => []
  | c :: rest =>
    match brokenLines rest with
    | [] => [[c]]
    | line :: lines => if c = '\n' then [c] :: line :: lines else (c :: line) :: lines

def withoutBreak (line : List Char) : List Char :=
  match line.reverse with
  | '\n' :: '\r' :: front => front.reverse
  | '\n' :: front => front.reverse
  | _ => line

/-- Joins lines as long as a quote is open. What is still open at the end cannot be read. -/
def joinLines : List Char → Position → List (List Char) → List (Option (List Char))
  | _, position, [] => if position = .word then [] else [none]
  | front, position, line :: rest =>
    if (skipBlanks (front ++ line)).head? = some '#' then some [] :: joinLines [] .word rest
    else
      match scan position line with
      | (before, none) => some (front ++ before) :: joinLines [] .word rest
      | (_, some .word) => some (withoutBreak (front ++ line)) :: joinLines [] .word rest
      | (_, some position) => joinLines (front ++ line) position rest

inductive Mode
  | plain
  | backslash
  /-- A name behind a dollar sign. -/
  | name (found : List Char)
  /-- A name in braces behind a dollar sign. -/
  | braced (found : List Char)
  /-- Behind the value only a comment may come. -/
  | ended

def isNumeral (c : Char) : Bool := isLetter c || isDecimalDigit c

/-- A value with its quotes taken off and its names replaced. `quote` is the one that is open. -/
def readValue? (meaning : List Char → List Char) :
    Option Char → Mode → List Char → Option (List Char)
  | quote, mode, [] =>
    match quote, mode with
    | some _, _ => none
    | none, .braced _ => none
    | none, .name found => some (meaning found)
    | none, _ => some []
  | quote, .ended, c :: rest =>
    if c = ' ' ∨ c = '\t' then readValue? meaning quote .ended rest
    else if c = '#' then some []
    else none
  | quote, .backslash, c :: rest =>
    if c = 'n' then (readValue? meaning quote .plain rest).map ('\n' :: ·)
    else if "\\'\"$ ".toList.contains c then (readValue? meaning quote .plain rest).map (c :: ·)
    else none
  | quote, .braced found, c :: rest =>
    if c = '\x7d' then (readValue? meaning quote .plain rest).map (meaning found ++ ·)
    else readValue? meaning quote (.braced (found ++ [c])) rest
  | quote, .name found, c :: rest =>
    if isNumeral c then readValue? meaning quote (.name (found ++ [c])) rest
    else if c = '\x7b' ∧ found = [] then readValue? meaning quote (.braced []) rest
    else if c = '$' then (readValue? meaning quote (.name []) rest).map (meaning found ++ ·)
    else (readValue? meaning quote .plain rest).map fun value => meaning found ++ c :: value
  | some '\'', .plain, c :: rest =>
    if c = '\'' then readValue? meaning none .plain rest
    else (readValue? meaning (some '\'') .plain rest).map (c :: ·)
  | quote, .plain, c :: rest =>
    if c = '$' then readValue? meaning quote (.name []) rest
    else if c = '\\' then readValue? meaning quote .backslash rest
    else if quote = some c then readValue? meaning none .plain rest
    else if quote.isSome then (readValue? meaning quote .plain rest).map (c :: ·)
    else if c = '"' ∨ c = '\'' then readValue? meaning (some c) .plain rest
    else if c = ' ' ∨ c = '\t' then readValue? meaning none .ended rest
    else (readValue? meaning none .plain rest).map (c :: ·)

def readName? (text : List Char) : Option (List Char × List Char) :=
  match text with
  | c :: _ =>
    if c.isAlpha ∨ c = '_' then
      let (name, rest) := text.span fun c => c.isAlphanum || c = '_' || c = '.'
      some (name, skipBlanks rest)
    else none
  | [] => none

/-- The name before the equals sign and the text behind it. The word `export` may come first. -/
def readAssignment? (line : List Char) : Option (List Char × List Char) := do
  let (name, rest) ← readName? line
  match rest with
  | '=' :: rest => return (name, skipBlanks rest)
  | rest =>
    if name = "export".toList then
      match ← readName? rest with
      | (name, '=' :: rest) => return (name, skipBlanks rest)
      | _ => none
    else none

structure State where
  environment : Environment
  given : Environment := []

def State.meaning (state : State) (name : List Char) : List Char :=
  let name := String.ofList name
  ((state.environment.lookup name <|> state.given.lookup name).getD "").toList

def State.add (state : State) (name value : String) : State where
  environment :=
    if (state.environment.lookup name).isSome then state.environment
    else state.environment ++ [(name, value)]
  given := (name, value) :: state.given

def State.take? (state : State) (line : List Char) : Option State :=
  match skipBlanks line with
  | [] => some state
  | '#' :: _ => some state
  | text => do
    let (name, rest) ← readAssignment? text
    let value ←
      if rest.isEmpty || rest.head? = some '#' then some []
      else readValue? state.meaning none .plain rest
    return state.add (String.ofList name) (String.ofList value)

def State.takeAll : State → List (Option (List Char)) → State
  | state, some line :: rest =>
    match state.take? line with
    | some state => state.takeAll rest
    | none => state
  | state, _ => state

def extend (text : String) (environment : Environment) : Environment :=
  let text := match text.toList with
    | '\ufeff' :: rest => rest
    | text => text
  (State.takeAll { environment } (joinLines [] .word (brokenLines text))).environment

end UserDirectory.Configuration.Dotenv
