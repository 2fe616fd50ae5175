import UserDirectory.Text.Digit

/-!
The shape of a mobile number: eleven digits, the first `1` and the second `3` to `9`. The nine
digits after them may be decimal digits of any script.
-/

namespace UserDirectory.Mobile

def isNumber : List Char → Bool
  | '1' :: second :: rest =>
    '3' ≤ second && second ≤ '9' && rest.length = 9 && rest.all Text.isDecimalDigit
  | _ => false

end UserDirectory.Mobile
