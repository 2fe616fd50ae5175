import UserDirectory.Text.Ranges

/-!
White space in the sense of the Unicode property `White_Space`: the blanks an identifier may
not contain and the readers of dates skip.
-/

namespace UserDirectory.Text

def blankRanges : List (Nat × Nat) :=
  [(0x9, 0xD), (0x20, 0x20), (0x85, 0x85), (0xA0, 0xA0), (0x1680, 0x1680), (0x2000, 0x200A),
    (0x2028, 0x2029), (0x202F, 0x202F), (0x205F, 0x205F), (0x3000, 0x3000)]

def isBlank (c : Char) : Bool := inRanges blankRanges c.toNat

def skipBlanks (text : List Char) : List Char := text.dropWhile isBlank

def trim (text : List Char) : List Char := (skipBlanks (skipBlanks text).reverse).reverse

end UserDirectory.Text
