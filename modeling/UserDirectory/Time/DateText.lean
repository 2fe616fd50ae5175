import UserDirectory.Text.Blank
import UserDirectory.Text.Decimal
import UserDirectory.Time.Date

/-!
Dates as text: `YYYY-MM-DD`, with a sign on years outside 0 to 9999.
-/

namespace UserDirectory.Date

open Text

def yearText (year : Int) : List Char :=
  if 0 ≤ year ∧ year ≤ 9999 then fixedDigits 4 year.toNat
  else (if year < 0 then '-' else '+') :: paddedDigits 4 year.natAbs

def text (date : Date) : List Char :=
  yearText date.year ++ '-' :: fixedDigits 2 date.month ++ '-' :: fixedDigits 2 date.day

/-- A year: four digits at most, or any number of digits after a sign. Blanks before it are
skipped. -/
def readYear? (text : List Char) : Option (Int × List Char) :=
  match skipBlanks text with
  | '-' :: rest => (readDigits? rest.length rest).map fun (n, rest) => (-(n : Int), rest)
  | '+' :: rest => (readDigits? rest.length rest).map fun (n, rest) => ((n : Int), rest)
  | rest => (readDigits? 4 rest).map fun (n, rest) => ((n : Int), rest)

def readPart? (text : List Char) : Option (Nat × List Char) := readDigits? 2 (skipBlanks text)

def readMark? (mark : Char) : List Char → Option (List Char)
  | c :: rest => if c = mark then some rest else none
  | [] => none

def ofText? (text : List Char) : Option Date := do
  let (year, rest) ← readYear? text
  let (month, rest) ← readPart? (← readMark? '-' rest)
  let (day, rest) ← readPart? (← readMark? '-' rest)
  if rest.isEmpty then ofCivil? year month day else none

end UserDirectory.Date
