/-!
JSON values. A number is a whole mantissa over a power of ten.
-/

namespace UserDirectory

inductive Json
  | null
  | bool (value : Bool)
  | number (mantissa : Int) (places : Nat)
  | text (value : String)
  | array (items : List Json)
  | object (members : List (String × Json))
deriving Inhabited

namespace Json

def ofInt (value : Int) : Json := number value 0

def ofNat (value : Nat) : Json := number value 0

def ofOption (value : Option Json) : Json := value.getD null

def optionalText (value : Option String) : Json := ofOption (value.map text)

/-- The member of that name; among several the last one counts. -/
def member? (name : String) (members : List (String × Json)) : Option Json :=
  (members.reverse.find? fun (key, _) => key = name).map (·.2)

end Json

end UserDirectory
