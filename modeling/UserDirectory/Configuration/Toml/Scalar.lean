import UserDirectory.Configuration.Toml.Strings
import UserDirectory.Configuration.Tree
import UserDirectory.Text.Fields
import UserDirectory.Text.Floating
import UserDirectory.Time.DateText

/-!
TOML scalars other than strings: truth values, whole and decimal numbers, and times, which become
text in one normal form.
-/

namespace UserDirectory.Configuration.Toml

open Text

def ungroup? (isDigit : Char → Bool) : List Char → Option (List Char)
  | [] => none
  | [c] => if isDigit c then some [c] else none
  | c :: '_' :: rest => if isDigit c then (ungroup? isDigit rest).map (c :: ·) else none
  | c :: rest => if isDigit c then (ungroup? isDigit rest).map (c :: ·) else none

def wholeDigits? (text : List Char) : Option (List Char) :=
  (ungroup? Char.isDigit text).filter fun found => text.length = 1 || found.head? ≠ some '0'

def splitSign (text : List Char) : Bool × List Char :=
  match text with
  | '-' :: rest => (true, rest)
  | '+' :: rest => (false, rest)
  | rest => (false, rest)

def ofBase (base : Nat) (text : List Char) : Option Nat :=
  (ungroup? (fun c => (hexValue? c).any (· < base)) text).map fun found =>
    found.foldl (fun n c => base * n + (hexValue? c).getD 0) 0

/-- A whole number of 64 bits: decimal, or hexadecimal, octal or binary without a sign. -/
def whole? (text : List Char) : Option Tree :=
  let value : Option Int := match text with
    | '0' :: 'x' :: rest => (ofBase 16 rest).map fun n => (n : Int)
    | '0' :: 'o' :: rest => (ofBase 8 rest).map fun n => (n : Int)
    | '0' :: 'b' :: rest => (ofBase 2 rest).map fun n => (n : Int)
    | text =>
      let (negative, body) := splitSign text
      (wholeDigits? body).map fun found =>
        if negative then -(ofDigits found : Int) else (ofDigits found : Int)
  (value.filter isSigned64).map Tree.whole

def exponent? (power : List Char) : Option Int :=
  match power with
  | [] => some 0
  | _ :: power =>
    let (negative, power) := splitSign power
    (ungroup? Char.isDigit power).map fun found =>
      if negative then -(ofDigits found : Int) else (ofDigits found : Int)

/-- A numeral with a fraction or an exponent, or a word for infinity or for no number. Numerals too
large for any number are refused. -/
def decimal? (text : List Char) : Option Tree :=
  let (negative, body) := splitSign text
  let signed (size : Float) := if negative then -size else size
  if body = "inf".toList then some (.decimal (signed (1 / 0)))
  else if body = "nan".toList then some (.decimal (signed (0 / 0)))
  else do
    let isMark (c : Char) := c = 'e' || c = 'E'
    let (mantissa, power) := body.span fun c => !isMark c
    let exponent ← exponent? power
    let (front, fraction) ← match cut? '.' mantissa with
      | none => if power.isEmpty then none else some (mantissa, [])
      | some (front, back) => (ungroup? Char.isDigit back).map (front, ·)
    let found ← wholeDigits? front
    let size := Floating.ofDecimal (ofDigits (found ++ fraction)) (exponent - fraction.length)
    if size.isInf && !negative then none else some (.decimal (signed size))

def pair? (most : Nat) (text : List Char) : Option Nat :=
  match text with
  | [a, b] =>
    if a.isDigit && b.isDigit && ofDigits [a, b] ≤ most then some (ofDigits [a, b]) else none
  | _ => none

def dayText? (text : List Char) : Option (List Char) :=
  match fields '-' text with
  | [year, month, day] => do
    let month ← pair? 12 month
    let day ← pair? 31 day
    if year.length = 4 && year.all Char.isDigit then
      (Date.ofCivil? (ofDigits year) month day).map fun _ => text
    else none
  | _ => none

/-- Nine digits of a fraction count, and zeros at its end are left out. -/
def fractionText (text : List Char) : List Char :=
  let kept := ((text.take 9).reverse.dropWhile (· = '0')).reverse
  if kept.isEmpty then [] else '.' :: kept

def clockText? (text : List Char) : Option (List Char) := do
  let (clock, fraction) ← match cut? '.' text with
    | none => some (text, [])
    | some (clock, fraction) =>
      if fraction.isEmpty || !fraction.all Char.isDigit then none
      else some (clock, fractionText fraction)
  match fields ':' clock with
  | [hour, minute, second] => do
    let _ ← pair? 23 hour
    let _ ← pair? 59 minute
    let _ ← pair? 60 second
    return clock ++ fraction
  | _ => none

/-- An offset of zero that is not written as `Z` has a plus sign. -/
def offsetText? (text : List Char) : Option (List Char) :=
  match text with
  | ['Z'] | ['z'] => some ['Z']
  | sign :: rest =>
    if sign = '+' ∨ sign = '-' then
      match fields ':' rest with
      | [hour, minute] => do
        let hours ← pair? 23 hour
        let minutes ← pair? 59 minute
        return (if hours = 0 ∧ minutes = 0 then '+' else sign) :: rest
      | _ => none
    else none
  | [] => none

def timeText? (text : List Char) : Option (List Char) :=
  let (clock, offset) := text.span fun c => c.isDigit || c = ':' || c = '.'
  if offset.isEmpty then clockText? clock
  else do return (← clockText? clock) ++ (← offsetText? offset)

def moment? (text : List Char) : Option Tree :=
  let written := match text.drop 10 with
    | [] => dayText? text <|> clockText? text
    | mark :: time =>
      if mark = 'T' ∨ mark = 't' ∨ mark = ' ' then do
        return (← dayText? (text.take 10)) ++ 'T' :: (← timeText? time)
      else clockText? text
  written.map fun written => .text (String.ofList written)

def scalar? (word : List Char) : Option Tree :=
  if word = "true".toList then some (.flag true)
  else if word = "false".toList then some (.flag false)
  else moment? word <|> whole? word <|> decimal? word

def isWordCharacter (c : Char) : Bool :=
  c.isAlphanum || c = '+' || c = '-' || c = '_' || c = '.' || c = ':'

/-- A blank may stand between a date and a time. -/
def readScalar? : Reader Tree := fun text =>
  let (word, rest) := text.span isWordCharacter
  match rest with
  | ' ' :: digit :: _ =>
    if (dayText? word).isSome && digit.isDigit then
      let (time, rest) := (rest.drop 1).span isWordCharacter
      (scalar? (word ++ ' ' :: time)).map (·, rest)
    else (scalar? word).map (·, rest)
  | rest => (scalar? word).map (·, rest)

end UserDirectory.Configuration.Toml
