import Mathlib.Data.List.Infix
import UserDirectory.Proofs.Sql.Like

/-!
What `LIKE` means, told without a search: each mark of a pattern stands for a piece of the text. The
search succeeds exactly where the marks can be given their pieces. So the pattern of a part stands for
the texts that contain the part and for no others, whatever characters the part is made of.
-/

namespace UserDirectory.Sql.Like

/-- A text cut into the pieces that the marks of a pattern stand for. -/
inductive Matches : List Char → List Char → Prop
  | nothing : Matches [] []
  | percent (piece : List Char) {pattern text : List Char} (rest : Matches pattern text) :
    Matches ('%' :: pattern) (piece ++ text)
  | underscore (c : Char) {pattern text : List Char} (rest : Matches pattern text) :
    Matches ('_' :: pattern) (c :: text)
  | escaped (c : Char) {pattern text : List Char} (rest : Matches pattern text) :
    Matches ('\\' :: c :: pattern) (c :: text)
  | plain {c : Char} (unmarked : isSpecial c = false) {pattern text : List Char}
    (rest : Matches pattern text) : Matches (c :: pattern) (c :: text)

def dangles : List Char → Bool
  | [] => false
  | ['\\'] => true
  | '\\' :: _ :: pattern => dangles pattern
  | _ :: pattern => dangles pattern

theorem isSpecial_iff {c : Char} : isSpecial c = true ↔ c = '%' ∨ c = '_' ∨ c = '\\' := by
  simp only [isSpecial, Bool.or_eq_true, decide_eq_true_iff, or_assoc]

theorem anywhere_iff {fitting : List Char → Bool} {text : List Char} :
    anywhere fitting text = true ↔
      ∃ piece rest, text = piece ++ rest ∧ fitting rest = true := by
  induction text with
  | nil =>
    rw [anywhere]
    refine ⟨fun found => ⟨[], [], rfl, found⟩, ?_⟩
    rintro ⟨piece, rest, same, found⟩
    rwa [(List.append_eq_nil_iff.mp same.symm).2] at found
  | cons c text ih =>
    rw [anywhere, Bool.or_eq_true, ih]
    constructor
    · rintro (found | ⟨piece, rest, rfl, found⟩)
      · exact ⟨[], c :: text, rfl, found⟩
      · exact ⟨c :: piece, rest, rfl, found⟩
    · rintro ⟨piece, rest, same, found⟩
      cases piece with
      | nil => exact .inl (same ▸ found)
      | cons d piece => exact .inr ⟨piece, rest, (List.cons.inj same).2, found⟩

theorem Matches.fits {pattern text : List Char} (matched : Matches pattern text) :
    fits pattern text = true := by
  induction matched with
  | nothing => rfl
  | percent piece _ ih =>
    rw [Like.fits, anywhere_iff]
    exact ⟨piece, _, rfl, ih⟩
  | underscore c _ ih => rwa [Like.fits]
  | escaped c _ ih =>
    rw [fits_escaped]
    simp only [ih, decide_true, Bool.and_true]
  | plain unmarked _ ih =>
    rw [fits_plain unmarked]
    simp only [ih, decide_true, Bool.and_true]

/-- By recursion on the pattern, as the search goes; an escaped character takes two steps at once. -/
theorem matches_of_fits :
    (pattern text : List Char) → fits pattern text = true → Matches pattern text
  | [], text, fitting => by
    rw [fits, List.isEmpty_iff] at fitting
    exact fitting ▸ .nothing
  | c :: pattern, text, fitting => by
    cases special : isSpecial c with
    | false =>
      rw [fits_plain special] at fitting
      cases text with
      | nil => cases fitting
      | cons d rest =>
        rw [Bool.and_eq_true, decide_eq_true_iff] at fitting
        obtain ⟨rfl, fitting⟩ := fitting
        exact .plain special (matches_of_fits pattern rest fitting)
    | true =>
      obtain rfl | rfl | rfl := isSpecial_iff.mp special
      · rw [fits, anywhere_iff] at fitting
        obtain ⟨piece, rest, rfl, fitting⟩ := fitting
        exact .percent piece (matches_of_fits pattern rest fitting)
      · rw [fits.eq_def] at fitting
        cases text with
        | nil => cases fitting
        | cons d rest => exact .underscore d (matches_of_fits pattern rest fitting)
      · cases pattern with
        | nil => cases fitting
        | cons c pattern =>
          rw [fits_escaped] at fitting
          cases text with
          | nil => cases fitting
          | cons d rest =>
            rw [Bool.and_eq_true, decide_eq_true_iff] at fitting
            obtain ⟨rfl, fitting⟩ := fitting
            exact .escaped c (matches_of_fits pattern rest fitting)

theorem fits_iff_matches {pattern text : List Char} :
    fits pattern text = true ↔ Matches pattern text :=
  ⟨matches_of_fits pattern text, Matches.fits⟩

theorem Matches.not_dangles {pattern text : List Char} (matched : Matches pattern text) :
    dangles pattern = false := by
  induction matched with
  | nothing => rfl
  | percent _ _ ih | underscore _ _ ih | escaped _ _ ih => exact ih
  | @plain c unmarked pattern _ _ ih =>
    have noBackslash : c ≠ '\\' := by
      rintro rfl
      cases unmarked
    rw [dangles]
    · exact ih
    · exact fun same _ => noBackslash same
    · exact fun _ _ same _ => noBackslash same

theorem matches_containing (part text : String) :
    Matches (containing part).toList text.toList ↔ part.toList <:+: text.toList := by
  rw [← fits_iff_matches, fits_containing, Text.contains_iff_infix]

theorem matches_containing_self (part : String) :
    Matches (containing part).toList part.toList :=
  (matches_containing part part).mpr (List.infix_refl part.toList)

/-- A part is the shortest text that contains it, so its pattern tells it. -/
theorem eq_of_containing_eq {part other : String} (same : containing part = containing other) :
    part = other := by
  have inside : other.toList <:+: part.toList :=
    (matches_containing other part).mp (same ▸ matches_containing_self part)
  have around : part.toList <:+: other.toList :=
    (matches_containing part other).mp (same ▸ matches_containing_self other)
  exact String.toList_injective (List.infix_antisymm around inside)

/-- An escaped part is taken literally: a text fits its pattern exactly if it contains the part, no
escape is left dangling, and parts that differ have patterns that differ. -/
theorem containing_literal :
    (∀ part text : String,
      (Matches (containing part).toList text.toList ↔ part.toList <:+: text.toList) ∧
      (fits (containing part).toList text.toList = true ↔
        Matches (containing part).toList text.toList)) ∧
    (∀ part : String, dangles (containing part).toList = false) ∧
    Function.Injective containing := by
  refine ⟨fun part text => ⟨matches_containing part text, fits_iff_matches⟩, fun part => ?_,
    fun part other same => eq_of_containing_eq same⟩
  exact (matches_containing_self part).not_dangles

example : containing "a_b%c\\" = "%a\\_b\\%c\\\\%" := by decide

end UserDirectory.Sql.Like
