import UserDirectory.Sql.Like
import UserDirectory.Text.Substring

namespace UserDirectory.Sql.Like

theorem fits_percent (text : List Char) : fits ['%'] text = true := by
  rw [fits]
  induction text with
  | nil => rfl
  | cons c rest ih => rw [anywhere, ih, Bool.or_true]

theorem fits_escaped (c : Char) (pattern text : List Char) :
    fits ('\\' :: c :: pattern) text =
      match text with
      | [] => false
      | d :: rest => c = d && fits pattern rest := by
  cases text <;> rw [fits]

theorem fits_plain {c : Char} (plain : isSpecial c = false) (pattern text : List Char) :
    fits (c :: pattern) text =
      match text with
      | [] => false
      | d :: rest => c = d && fits pattern rest := by
  simp only [isSpecial, Bool.or_eq_false_iff, decide_eq_false_iff_not] at plain
  obtain ⟨⟨percent, underscore⟩, backslash⟩ := plain
  cases text <;> rw [fits]
  case nil.x_2 | cons.x_2 => exact percent
  case nil.x_3 | cons.x_3 => exact underscore
  case nil.x_4 | cons.x_4 => exact fun same _ => backslash same
  case nil.x_5 | cons.x_5 => exact fun _ _ same _ => backslash same

/-- An escaped character fits itself and nothing else, whether it needs its backslash or not. -/
theorem fits_escape_cons (c : Char) (part pattern text : List Char) :
    fits (escape (c :: part) ++ pattern) text =
      match text with
      | [] => false
      | d :: rest => c = d && fits (escape part ++ pattern) rest := by
  cases special : isSpecial c with
  | true =>
    have split : escape (c :: part) = '\\' :: c :: escape part := by
      simp only [escape, List.flatMap_cons, special, ↓reduceIte, List.cons_append, List.nil_append]
    rw [split]
    exact fits_escaped c _ text
  | false =>
    have split : escape (c :: part) = c :: escape part := by
      simp only [escape, List.flatMap_cons, special, Bool.false_eq_true, ↓reduceIte,
        List.cons_append, List.nil_append]
    rw [split]
    exact fits_plain special _ text

theorem fits_escape_percent (part text : List Char) :
    fits (escape part ++ ['%']) text = part.isPrefixOf text := by
  induction part generalizing text with
  | nil => exact fits_percent text
  | cons c part ih =>
    rw [fits_escape_cons]
    cases text with
    | nil => rfl
    | cons d rest =>
      rw [List.isPrefixOf_cons_cons, ← ih rest]
      rfl

theorem anywhere_isPrefixOf (part text : List Char) :
    anywhere part.isPrefixOf text = Text.contains text part := by
  induction text with
  | nil => rw [anywhere, Text.contains, Bool.or_false]
  | cons c rest ih => rw [anywhere, Text.contains, ih]

theorem fits_containing (part : String) (text : List Char) :
    fits (containing part).toList text = Text.contains text part.toList := by
  rw [containing, String.toList_ofList, List.cons_append, fits,
    funext (fits_escape_percent part.toList), anywhere_isPrefixOf]

end UserDirectory.Sql.Like
