/-!
Patterns of `LIKE`: a percent sign stands for any text, an underscore for any one character, and a
backslash makes the character behind it stand for itself.
-/

namespace UserDirectory.Sql.Like

def isSpecial (c : Char) : Bool := c = '%' || c = '_' || c = '\\'

def escape (text : List Char) : List Char :=
  text.flatMap fun c => if isSpecial c then ['\\', c] else [c]

def containing (part : String) : String :=
  String.ofList ('%' :: escape part.toList ++ ['%'])

def anywhere (fits : List Char → Bool) : List Char → Bool
  | [] => fits []
  | c :: rest => fits (c :: rest) || anywhere fits rest

/-- Whether a pattern fits a whole text. A backslash at the end of a pattern fits nothing. -/
def fits : List Char → List Char → Bool
  | [], text => text.isEmpty
  | '%' :: pattern, text => anywhere (fits pattern) text
  | '_' :: pattern, text =>
    match text with
    | [] => false
    | _ :: rest => fits pattern rest
  | ['\\'], _ => false
  | '\\' :: c :: pattern, text =>
    match text with
    | [] => false
    | d :: rest => c = d && fits pattern rest
  | c :: pattern, text =>
    match text with
    | [] => false
    | d :: rest => c = d && fits pattern rest

end UserDirectory.Sql.Like
