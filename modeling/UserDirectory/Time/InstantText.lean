import UserDirectory.Time.DateText
import UserDirectory.Time.Instant

/-!
Instants as text. They are written in UTC as `2026-10-14T09:00:00Z`, the fraction of a second with
the fewest of three, six or nine digits that are exact, a leap second as `:60`. They are read with
any offset and a little more freely: `T`, `t` or one blank between date and time, blanks around the
parts, `Z`, `z` or `UTC` for an offset of zero.
-/

namespace UserDirectory.Instant

open Text

def fractionText (nano : Nat) : List Char :=
  if nano = 0 then []
  else if nano % 1000000 = 0 then '.' :: fixedDigits 3 (nano / 1000000)
  else if nano % 1000 = 0 then '.' :: fixedDigits 6 (nano / 1000)
  else '.' :: fixedDigits 9 nano

/-- Hours, minutes, seconds and the fraction; a leap second is the sixtieth. -/
def clockText (instant : Instant) : List Char :=
  let second := instant.secondOfDay
  let leap := if 1000000000 ≤ instant.nano then 1 else 0
  fixedDigits 2 (second / 3600) ++ ':' :: fixedDigits 2 (second / 60 % 60) ++
    ':' :: fixedDigits 2 (second % 60 + leap) ++ fractionText (instant.nano % 1000000000)

def text (instant : Instant) : List Char :=
  instant.date.text ++ 'T' :: instant.clockText ++ ['Z']

def displayText (instant : Instant) : List Char :=
  instant.date.text ++ ' ' :: instant.clockText ++ " UTC".toList

/-- Digits of a fraction, as nanoseconds; digits after the ninth are dropped. -/
def readFraction? : List Char → Option (Nat × List Char)
  | '.' :: rest =>
    match spanDigits 9 rest with
    | ([], _) => none
    | (front, back) =>
      some (ofDigits front * Nat.pow 10 (9 - front.length), back.dropWhile Char.isDigit)
  | rest => some (0, rest)

def readOffset? (text : List Char) : Option (Int × List Char) :=
  let signed (sign : Int) (rest : List Char) : Option (Int × List Char) :=
    match rest with
    | h :: k :: rest =>
      if h.isDigit && k.isDigit then
        match rest.dropWhile fun c => c = ':' || isBlank c with
        | m :: n :: rest =>
          if m.isDigit && n.isDigit && digitValue m < 6 then
            some (sign * (ofDigits [h, k] * 3600 + ofDigits [m, n] * 60), rest)
          else none
        | _ => none
      else none
    | _ => none
  match text with
  | 'Z' :: rest | 'z' :: rest => some (0, rest)
  | '+' :: rest => signed 1 rest
  | '-' :: rest | '\u2212' :: rest => signed (-1) rest
  | u :: t :: c :: rest =>
    if [u.toLower, t.toLower, c.toLower] = ['u', 't', 'c'] then some (0, rest) else none
  | _ => none

def readSeparator? : List Char → Option (List Char)
  | 'T' :: rest | 't' :: rest | ' ' :: rest => some rest
  | _ => none

/-- An instant with its offset. Seconds and offset are required; the sixtieth second is a leap
second. -/
def ofText? (text : List Char) : Option Instant := do
  let (year, rest) ← Date.readYear? text
  let (month, rest) ← Date.readPart? (← Date.readMark? '-' (skipBlanks rest))
  let (day, rest) ← Date.readPart? (← Date.readMark? '-' (skipBlanks rest))
  let (hour, rest) ← Date.readPart? (← readSeparator? rest)
  let (minute, rest) ← Date.readPart? (← Date.readMark? ':' (skipBlanks rest))
  let (second, rest) ← Date.readPart? (← Date.readMark? ':' (skipBlanks rest))
  let (nano, rest) ← readFraction? rest
  let (seconds, rest) ← readOffset? (skipBlanks rest)
  let date ← Date.ofCivil? year month day
  let offset ← Offset.ofSeconds? seconds
  if hour < 24 ∧ minute < 60 ∧ second ≤ 60 ∧ (skipBlanks rest).isEmpty then
    let carried := if second = 60 then 1000000000 else 0
    make? (date.number * 86400 + hour * 3600 + minute * 60 + min second 59 - offset.seconds)
      (nano + carried)
  else none

end UserDirectory.Instant
