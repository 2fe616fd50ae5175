import UserDirectory.Text.Utf8

/-!
Percent-encoded text: `%41` stands for the byte 65. What only looks like a code stands for itself.
-/

namespace UserDirectory.Database.Percent

open Text

def hexValue? (c : Char) : Option Nat :=
  if c.isDigit then some (c.toNat - 48)
  else if 'a' ≤ c ∧ c ≤ 'f' then some (c.toNat - 87)
  else if 'A' ≤ c ∧ c ≤ 'F' then some (c.toNat - 55)
  else none

def code? (a b : Char) : Option UInt8 := do
  return UInt8.ofNat (16 * (← hexValue? a) + (← hexValue? b))

def charBytes (c : Char) : List UInt8 := (String.singleton c).toUTF8.toList

def bytes : List Char → List UInt8
  | '%' :: a :: b :: rest =>
    match code? a b with
    | some byte => byte :: bytes rest
    | none => 0x25 :: bytes (a :: b :: rest)
  | c :: rest => charBytes c ++ bytes rest
  | [] => []

def decode? (text : List Char) : Option (List Char) := Utf8.decode? (bytes text)

/-- The name or value of a query, where a plus sign stands for a blank. -/
def decodeQuery (text : List Char) : List Char :=
  Utf8.decodeLossy (bytes (text.map fun c => if c = '+' then ' ' else c))

end UserDirectory.Database.Percent
