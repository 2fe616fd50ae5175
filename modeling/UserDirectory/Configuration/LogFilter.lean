import UserDirectory.Configuration.Basic
import UserDirectory.Configuration.Variable
import UserDirectory.Text.Blank
import UserDirectory.Text.Digit
import UserDirectory.Text.Fields
import UserDirectory.Text.Letter

/-!
Which texts are log filters: directives with commas between them, each a level, a target, a target
and its level, or either with a span in brackets.
-/

namespace UserDirectory.Configuration.LogFilter

open Text

/-- Levels are words in either case, numbers from 0 to 5, or nothing at all. -/
def isLevel (text : List Char) : Bool :=
  let word := String.ofList (text.map Char.toLower)
  ["", "error", "warn", "info", "debug", "trace", "off"].contains word ||
    (text.head? ≠ some '-' && (readInt? text).any (· ≤ 5))

inductive Part
  | start
  | word
  | span
  /-- A field of a span, with what is read of it. -/
  | field (read : Nat)
  | fields
  /-- Behind the bracket that closes a span. -/
  | target
  /-- A level that begins at a place of the directive. -/
  | level (first : Nat)
deriving DecidableEq

def opens (c : Char) : Bool :=
  c = '-' || c = ':' || c = '_' || isLetter c || isDecimalDigit c

def Part.next? (part : Part) (place : Nat) (c : Char) : Option Part :=
  match part with
  | start => if c = '[' then some span else if opens c then some word else none
  | word => if c = '=' then some (level (place + 1)) else some (if c = '[' then span else word)
  | span => some (if c = ']' then target else if c = '\x7b' then field 0 else span)
  | field read =>
    if c = '\x7d' then if read = 0 then none else some fields
    else some (field (read + 1))
  | fields => if c = ']' then some target else none
  | target => if c = '=' then some (level (place + 1)) else none
  | level first => some (level first)

def Part.after? : Part → Nat → List Char → Option Part
  | part, _, [] => some part
  | part, place, c :: rest => (part.next? place c).bind fun next => next.after? (place + 1) rest

/-- A single word is always a directive: it is a level or a target. -/
def isDirective (text : List Char) : Bool :=
  match Part.start.after? 0 (trim text) with
  | some .word => true
  | some .target => true
  | some (.level first) => isLevel (text.drop first)
  | _ => false

def isFilter (text : String) : Bool :=
  ((fields ',' text.toList).filter fun directive => !directive.isEmpty).all isDirective

/-- The filter that `RUST_LOG` gives, if it is one, and the configured level otherwise. -/
def check (logging : Logging) (environment : Environment) : Except Failure Unit :=
  if (environment.lookup "RUST_LOG").any isFilter || isFilter logging.level then .ok ()
  else
    .error (.configuration
      ("Invalid log level '" ++ logging.level ++ "': invalid filter directive"))

end UserDirectory.Configuration.LogFilter
