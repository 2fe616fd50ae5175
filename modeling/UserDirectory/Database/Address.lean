import UserDirectory.Database.Percent
import UserDirectory.Text.Decimal
import UserDirectory.Text.Fields

namespace UserDirectory.Database.Address

open Text

def byte? (text : List Char) : Option Nat :=
  if text.isEmpty || 3 < text.length || !text.all Char.isDigit then none
  else if 1 < text.length && text.head? = some '0' then none
  else if ofDigits text ≤ 255 then some (ofDigits text) else none

def ipv4? (text : List Char) : Option (List Nat) := do
  let parts ← (fields '.' text).mapM byte?
  if parts.length = 4 then some parts else none

def ofHex (values : List Nat) : Nat := values.foldl (fun n value => 16 * n + value) 0

def group? (text : List Char) : Option Nat :=
  if text.isEmpty || 4 < text.length then none
  else (text.mapM Percent.hexValue?).map ofHex

/-- Groups of 16 bits with colons between them; the last two may be an address of version 4. -/
def groups? (mayEndInIpv4 : Bool) (text : List Char) : Option (List Nat) :=
  if text.isEmpty then some []
  else
    let parts := fields ':' text
    match parts.getLast?.bind ipv4? with
    | some [a, b, c, d] =>
      if mayEndInIpv4 then
        (parts.dropLast.mapM group?).map (· ++ [256 * a + b, 256 * c + d])
      else none
    | _ => parts.mapM group?

def cutAtGap? : List Char → Option (List Char × List Char)
  | ':' :: ':' :: rest => some ([], rest)
  | c :: rest => (cutAtGap? rest).map fun (front, back) => (c :: front, back)
  | [] => none

/-- The eight groups of an address; two colons stand for one group of zeros or more. -/
def ipv6? (text : List Char) : Option (List Nat) :=
  match cutAtGap? text with
  | none => (groups? true text).filter fun groups => groups.length = 8
  | some (front, back) => do
    let front ← groups? false front
    let back ← groups? true back
    if front.length + back.length ≤ 7 then
      some (front ++ List.replicate (8 - front.length - back.length) 0 ++ back)
    else none

def hexDigits (n : Nat) : List Char := Nat.toDigits 16 n

def zerosAt (groups : List Nat) (start : Nat) : Nat :=
  ((groups.drop start).takeWhile (· = 0)).length

def longestGap (groups : List Nat) : Nat × Nat :=
  (List.range groups.length).foldl (fun best start =>
    if best.2 < zerosAt groups start then (start, zerosAt groups start) else best) (0, 0)

def colonSeparated (groups : List Nat) : List Char :=
  [':'].intercalate (groups.map hexDigits)

def ipv6Text (groups : List Nat) : List Char :=
  let (start, length) := longestGap groups
  if length < 2 then colonSeparated groups
  else
    colonSeparated (groups.take start) ++ "::".toList ++
      colonSeparated (groups.drop (start + length))

def isAddress (text : List Char) : Bool := (ipv4? text).isSome || (ipv6? text).isSome

end UserDirectory.Database.Address
