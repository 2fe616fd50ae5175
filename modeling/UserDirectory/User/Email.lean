/-!
The shape of an email address: a local part, `@`, a host of at least two labels, the last of two
letters or more. Only ASCII is admitted.
-/

namespace UserDirectory.Email

def isLocalChar (c : Char) : Bool := c.isAlphanum || "._%+-".toList.contains c

def isHostChar (c : Char) : Bool := c.isAlphanum || ".-".toList.contains c

/-- Some host characters, a dot, and two letters or more. No letter is a dot, so the dot is the
last one of the text. -/
def isHost (text : List Char) : Bool :=
  let back := text.reverse
  match back.dropWhile Char.isAlpha with
  | '.' :: labels =>
    2 ≤ (back.takeWhile Char.isAlpha).length && !labels.isEmpty && labels.all isHostChar
  | _ => false

/-- No local character is `@`, so the local part ends at the first one. -/
def isAddress (text : List Char) : Bool :=
  match text.dropWhile isLocalChar with
  | '@' :: host => !(text.takeWhile isLocalChar).isEmpty && isHost host
  | _ => false

end UserDirectory.Email
