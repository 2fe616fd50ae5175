import Mathlib.Tactic.SplitIfs

/-!
Texts compared by their bytes. In UTF-8 the bytes of a greater character come after those of a
lesser one, and no character begins with the bytes of another, so the order of the bytes is the
order of the characters.
-/

namespace UserDirectory.Text

def utf8 (text : String) : List UInt8 := text.toUTF8.data.toList

theorem utf8_eq (text : String) : utf8 text = text.toList.flatMap String.utf8EncodeChar := by
  have encoded : text.toByteArray = text.toList.utf8Encode := by
    rw [← String.toByteArray_ofList, String.ofList_toList]
  rw [utf8, String.toUTF8_eq_toByteArray, encoded, List.utf8Encode, List.data_toByteArray]

/-- Whatever follows, the bytes of the lesser character come first. -/
theorem utf8EncodeChar_append_lt {c d : Char} (lesser : c < d) (front back : List UInt8) :
    String.utf8EncodeChar c ++ front < String.utf8EncodeChar d ++ back := by
  have order : c.val.toNat < d.val.toNat := lesser
  have bound : d.val.toNat < 1114112 := by
    rcases d.valid with low | high
    · exact Nat.lt_trans low (by decide)
    · exact high.2
  -- each further byte holds six bits of what is left
  have twice (n : Nat) : n / 4096 = n / 64 / 64 := (Nat.div_div_eq_div_mul n 64 64).symm
  have thrice (n : Nat) : n / 262144 = n / 64 / 64 / 64 := by
    rw [Nat.div_div_eq_div_mul, Nat.div_div_eq_div_mul]
  simp only [String.utf8EncodeChar, twice, thrice]
  generalize c.val.toNat = m at *
  generalize d.val.toNat = n at *
  split_ifs <;>
    simp only [List.cons_append, List.nil_append, List.cons_lt_cons_iff, UInt8.lt_iff_toNat_lt,
      ← UInt8.toNat_inj, UInt8.toNat_ofNat'] <;>
    omega

theorem flatMap_utf8EncodeChar_lt {a b : List Char} (lesser : a < b) :
    a.flatMap String.utf8EncodeChar < b.flatMap String.utf8EncodeChar := by
  induction lesser with
  | @nil c rest =>
    obtain ⟨byte, others, encoded⟩ :=
      List.exists_cons_of_ne_nil (String.utf8EncodeChar_ne_nil (c := c))
    rw [List.flatMap_nil, List.flatMap_cons, encoded]
    exact .nil
  | rel lesser =>
    rw [List.flatMap_cons, List.flatMap_cons]
    exact utf8EncodeChar_append_lt lesser _ _
  | cons _ ih =>
    rw [List.flatMap_cons, List.flatMap_cons]
    exact List.append_left_lt ih

theorem utf8_lt_iff {a b : String} : utf8 a < utf8 b ↔ a < b := by
  have forward {a b : String} (lesser : a < b) : utf8 a < utf8 b := by
    rw [utf8_eq, utf8_eq]
    exact flatMap_utf8EncodeChar_lt lesser
  refine ⟨fun bytes => Decidable.byContradiction fun notLesser => ?_, forward⟩
  by_cases greater : b < a
  · exact List.lt_asymm bytes (forward greater)
  · have same : a = b := String.le_antisymm greater notLesser
    exact List.lt_irrefl _ (same ▸ bytes)

end UserDirectory.Text
