import UserDirectory.Password.Argon2
import UserDirectory.Text.Base64
import UserDirectory.Text.Decimal
import UserDirectory.Text.Fields

/-!
Password digests as text: `$argon2id$v=19$m=19456,t=2,p=1$<salt>$<output>`. The text carries the
whole recipe, so a digest can be checked whatever its cost.
-/

namespace UserDirectory.Password

open Text

def Variant.name : Variant → String
  | dependent => "argon2d"
  | independent => "argon2i"
  | hybrid => "argon2id"

structure Digest where
  recipe : Recipe
  output : List UInt8
deriving DecidableEq

namespace Digest

def costText (cost : Cost) : List Char :=
  "m=".toList ++ digits cost.memory ++ ",t=".toList ++ digits cost.passes ++
    ",p=".toList ++ digits cost.lanes

def associatedText (associated : List UInt8) : List Char :=
  if associated.isEmpty then [] else ",data=".toList ++ Base64.encode associated

def text (digest : Digest) : List Char :=
  '$' :: digest.recipe.variant.name.toList ++
  "$v=".toList ++ digits digest.recipe.version.number ++
  '$' :: costText digest.recipe.cost ++ associatedText digest.recipe.associated ++
  '$' :: Base64.encode digest.recipe.salt ++
  '$' :: Base64.encode digest.output

def variant? (name : List Char) : Option Variant :=
  [Variant.dependent, .independent, .hybrid].find? fun variant => variant.name.toList = name

def number? (text : List Char) : Option Nat :=
  if text.isEmpty || !text.all Char.isDigit then none
  else if text.length > 10 || (text.length > 1 && text.head? = some '0') then none
  else if ofDigits text < 0x100000000 then some (ofDigits text) else none

def version? (text : List Char) : Option Version :=
  match number? text with
  | some 16 => some .v16
  | some 19 => some .v19
  | _ => none

/-- The version field may be left out, which stands for version 19. -/
def readVersion (fields : List (List Char)) : Option (Version × List (List Char)) :=
  match fields with
  | ('v' :: '=' :: text) :: rest =>
    if text.contains ',' then some (.v19, fields) else (version? text).map (·, rest)
  | _ => some (.v19, fields)

structure Parameters where
  memory : Nat := 19456
  passes : Nat := 2
  lanes : Nat := 1
  associated : List UInt8 := []

def bytesUpTo? (most : Nat) (text : List Char) : Option (List UInt8) :=
  (Base64.decode? text).filter fun bytes => bytes.length ≤ most

/-- Of a parameter given twice the last one counts. A key name is checked and not used. -/
def Parameters.read? (parameters : Parameters) (item : List Char) : Option Parameters := do
  let (name, value) ← cut? '=' item
  match String.ofList name with
  | "m" => return { parameters with memory := ← number? value }
  | "t" => return { parameters with passes := ← number? value }
  | "p" => return { parameters with lanes := ← number? value }
  | "keyid" => (bytesUpTo? 8 value).map fun _ => parameters
  | "data" => return { parameters with associated := ← bytesUpTo? 32 value }
  | _ => none

/-- A field is read as parameters where it has an equals sign in it. -/
def readParameters (fields : List (List Char)) : Option (Parameters × List (List Char)) :=
  match fields with
  | field :: rest =>
    if field.contains '=' then
      if field.length > 127 then none
      else ((Text.fields ',' field).foldlM Parameters.read? {}).map (·, rest)
    else some ({}, fields)
  | [] => some ({}, [])

def salt? (text : List Char) : Option (List UInt8) :=
  if text.length > 64 then none
  else (Base64.decode? text).filter fun bytes => 8 ≤ bytes.length

def output? (text : List Char) : Option (List UInt8) :=
  (Base64.decode? text).filter fun bytes => 10 ≤ bytes.length ∧ bytes.length ≤ 64

def ofText? (text : List Char) : Option Digest :=
  match fields '$' text with
  | [] :: name :: rest => do
    let variant ← variant? name
    let (version, rest) ← readVersion rest
    let (parameters, rest) ← readParameters rest
    match rest with
    | [salt, output] =>
      let cost ← (Cost.make parameters.memory parameters.passes parameters.lanes).toOption
      let salt ← salt? salt
      let output ← output? output
      some {
        recipe := {
          variant, version, cost, salt
          associated := parameters.associated
          size := output.length }
        output }
    | _ => none
  | _ => none

def accepts (digest : Digest) (password : String) : Bool :=
  Argon2.hash digest.recipe password.toUTF8.toList = digest.output

end Digest

end UserDirectory.Password
