import UserDirectory.Text.Decimal

/-!
Numbers in binary floating point as decimal text: written positionally with the fewest digits that
read back, and read in the usual forms with a fraction and an exponent.
-/

namespace UserDirectory.Text.Floating

/-- A positive finite number is `significand` times a power of two, given by the exponent plus
1076. -/
structure Parts where
  significand : Nat
  exponent : Nat

def implicitBit : Nat := 0x10000000000000

def signBit : Nat := 0x8000000000000000

def parts (bits : Nat) : Parts :=
  let fraction := bits % implicitBit
  let exponent := bits / implicitBit % 2048
  if exponent = 0 then ⟨fraction, 2⟩ else ⟨fraction + implicitBit, exponent + 1⟩

/-- What rounds to a number lies between `low` and `high` in units that make `step` the width of
the decimal grid. -/
structure Interval where
  low : Nat
  middle : Nat
  high : Nat
  closed : Bool
  step : Nat

def interval (p : Parts) (place : Nat) : Interval :=
  let scale := Nat.pow 10 (400 - place) * Nat.pow 2 (p.exponent - 1076)
  let below := if p.significand = implicitBit ∧ 2 < p.exponent then 1 else 2
  { low := (4 * p.significand - below) * scale
    middle := 4 * p.significand * scale
    high := (4 * p.significand + 2) * scale
    closed := p.significand % 2 = 0
    step := 4 * Nat.pow 10 (place - 400) * Nat.pow 2 (1076 - p.exponent) }

def Interval.contains (i : Interval) (n : Nat) : Bool :=
  let point := n * i.step
  if i.closed then i.low ≤ point && point ≤ i.high else i.low < point && point < i.high

def Interval.nearest? (i : Interval) : Option Nat :=
  let below := i.middle / i.step
  let rest := i.middle % i.step
  match i.contains below, i.contains (below + 1) with
  | true, true => some (if 2 * rest ≤ i.step then below else below + 1)
  | true, false => some below
  | false, true => some (below + 1)
  | false, false => none

def shortest (p : Parts) : Nat → Nat × Nat
  | 0 => (0, 0)
  | place + 1 =>
    match (interval p (place + 1)).nearest? with
    | some n => (n, place + 1)
    | none => shortest p place

def positional (numeral place : Nat) : List Char :=
  if 400 ≤ place then digits numeral ++ List.replicate (place - 400) '0'
  else
    let width := 400 - place
    digits (numeral / Nat.pow 10 width) ++ '.' :: fixedDigits width numeral

def text (value : Float) : List Char :=
  if value.isNaN then "NaN".toList
  else
    let bits := value.toBits.toNat
    let sign := if bits / signBit = 1 then ['-'] else []
    if value.isInf then sign ++ "inf".toList
    else if bits % signBit = 0 then sign ++ ['0']
    else
      let (numeral, place) := shortest (parts (bits % signBit)) 710
      sign ++ positional numeral place

def ofDecimal (numeral : Nat) (exponent : Int) : Float :=
  if numeral = 0 then 0
  else
    let size := (digits numeral).length + exponent
    if 400 < size then 1 / 0
    else if size < -400 then 0
    else if 0 ≤ exponent then Float.ofScientific numeral false exponent.toNat
    else Float.ofScientific numeral true exponent.natAbs

def readExponent? (text : List Char) : Option Int :=
  match text with
  | [] => some 0
  | mark :: power => if mark = 'e' ∨ mark = 'E' then readInt? power else none

def readUnsigned? (text : List Char) : Option Float := do
  let (whole, rest) := text.span Char.isDigit
  let (fraction, rest) := match rest with
    | '.' :: rest => rest.span Char.isDigit
    | rest => ([], rest)
  if whole.isEmpty && fraction.isEmpty then none
  else
    let exponent ← readExponent? rest
    some (ofDecimal (ofDigits (whole ++ fraction)) (exponent - fraction.length))

/-- A number after at most one sign; the words for infinity and for no number count as numbers. -/
def read? (text : List Char) : Option Float :=
  let (negative, body) := match text with
    | '-' :: body => (true, body)
    | '+' :: body => (false, body)
    | body => (false, body)
  let size :=
    match String.ofList (body.map Char.toLower) with
    | "inf" | "infinity" => some (1 / 0)
    | "nan" => some (0 / 0)
    | _ => readUnsigned? body
  size.map fun size => if negative then -size else size

end UserDirectory.Text.Floating
