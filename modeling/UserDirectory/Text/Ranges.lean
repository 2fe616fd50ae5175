namespace UserDirectory.Text

def inRanges : List (Nat × Nat) → Nat → Bool
  | [], _ => false
  | (low, high) :: rest, code =>
    if code < low then false else code ≤ high || inRanges rest code

end UserDirectory.Text
