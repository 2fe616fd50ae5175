import UserDirectory.Json.Basic
import UserDirectory.Text.Decimal

/-!
JSON as text for people: two blanks of indentation, one item a line, and the members of an object
in the order of their names. Empty arrays and objects stay on one line.
-/

namespace UserDirectory.Json

open Text

def hexDigit (n : Nat) : Char := "0123456789abcdef".toList.getD n '0'

/-- A character inside quotes. Control characters have a short form or four hexadecimal digits. -/
def escape (c : Char) : List Char :=
  if c = '"' then ['\\', '"']
  else if c = '\\' then ['\\', '\\']
  else if c = '\n' then ['\\', 'n']
  else if c = '\r' then ['\\', 'r']
  else if c = '\t' then ['\\', 't']
  else if c = '\x08' then ['\\', 'b']
  else if c = '\x0c' then ['\\', 'f']
  else if c.toNat < 32 then
    ['\\', 'u', '0', '0', hexDigit (c.toNat / 16), hexDigit (c.toNat % 16)]
  else [c]

def quoted (value : String) : List Char := '"' :: value.toList.flatMap escape ++ ['"']

def numberText (mantissa : Int) (places : Nat) : List Char :=
  if places = 0 then signedDigits mantissa
  else
    let size := paddedDigits (places + 1) mantissa.natAbs
    let front := size.take (size.length - places)
    (if mantissa < 0 then ['-'] else []) ++ front ++ '.' :: size.drop (size.length - places)

def newLine (depth : Nat) : List Char := '\n' :: List.replicate (2 * depth) ' '

def separate (mark : List Char) : List (List Char) → List Char
  | [] => []
  | [item] => item
  | item :: rest => item ++ mark ++ separate mark rest

def byName (members : List (String × List Char)) : List (String × List Char) :=
  members.mergeSort fun a b => a.1 ≤ b.1

mutual

def render (depth : Nat) : Json → List Char
  | null => "null".toList
  | bool value => (if value then "true" else "false").toList
  | number mantissa places => numberText mantissa places
  | text value => quoted value
  | array [] => ['[', ']']
  | array (item :: rest) =>
    let items := renderItems (depth + 1) (item :: rest)
    '[' :: newLine (depth + 1) ++ separate (',' :: newLine (depth + 1)) items ++
      newLine depth ++ [']']
  | object [] => ['\x7b', '\x7d']
  | object (member :: rest) =>
    let members := byName (renderMembers (depth + 1) (member :: rest))
    let lines := members.map fun (name, value) => quoted name ++ ':' :: ' ' :: value
    '\x7b' :: newLine (depth + 1) ++ separate (',' :: newLine (depth + 1)) lines ++
      newLine depth ++ ['\x7d']

def renderItems (depth : Nat) : List Json → List (List Char)
  | [] => []
  | item :: rest => render depth item :: renderItems depth rest

def renderMembers (depth : Nat) : List (String × Json) → List (String × List Char)
  | [] => []
  | (name, value) :: rest => (name, render depth value) :: renderMembers depth rest

end

def pretty (value : Json) : String := String.ofList (render 0 value)

end UserDirectory.Json
