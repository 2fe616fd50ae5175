namespace UserDirectory.Text

/-- The pieces between the separators; there is always one more of them than of separators. -/
def fields (separator : Char) : List Char → List (List Char)
  | [] => [[]]
  | c :: rest =>
    match fields separator rest with
    | [] => [[c]]
    | piece :: pieces => if c = separator then [] :: piece :: pieces else (c :: piece) :: pieces

def cut? (separator : Char) (text : List Char) : Option (List Char × List Char) :=
  match text.span (· ≠ separator) with
  | (_, []) => none
  | (front, _ :: back) => some (front, back)

end UserDirectory.Text
