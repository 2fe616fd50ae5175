namespace UserDirectory.Text

def digitChar (n : Nat) : Char := Char.ofNat (48 + n % 10)

def digitValue (c : Char) : Nat := c.toNat - 48

def fixedDigits : Nat → Nat → List Char
  | 0, _ => []
  | width + 1, n => fixedDigits width (n / 10) ++ [digitChar n]

def digits (n : Nat) : List Char :=
  if n < 10 then [digitChar n] else digits (n / 10) ++ [digitChar n]

def paddedDigits (width n : Nat) : List Char :=
  if n < Nat.pow 10 width then fixedDigits width n else digits n

def ofDigits (text : List Char) : Nat :=
  text.foldl (fun n c => 10 * n + digitValue c) 0

def signedDigits (n : Int) : List Char :=
  if n < 0 then '-' :: digits n.natAbs else digits n.natAbs

def spanDigits : Nat → List Char → List Char × List Char
  | most + 1, c :: rest =>
    if c.isDigit then
      let (front, back) := spanDigits most rest
      (c :: front, back)
    else ([], c :: rest)
  | _, text => ([], text)

def readDigits? (most : Nat) (text : List Char) : Option (Nat × List Char) :=
  match spanDigits most text with
  | ([], _) => none
  | (front, back) => some (ofDigits front, back)

/-- A number written with digits alone, after at most one sign. -/
def readInt? (text : List Char) : Option Int :=
  let unsigned (body : List Char) : Option Nat :=
    if body.isEmpty || !body.all Char.isDigit then none else some (ofDigits body)
  match text with
  | '-' :: body => (unsigned body).map fun n => -(n : Int)
  | '+' :: body => (unsigned body).map fun n => (n : Int)
  | body => (unsigned body).map fun n => (n : Int)

def isSigned64 (n : Int) : Bool := -9223372036854775808 ≤ n && n ≤ 9223372036854775807

end UserDirectory.Text
