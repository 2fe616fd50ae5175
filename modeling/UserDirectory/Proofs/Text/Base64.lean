import Mathlib.Tactic.SplitIfs
import Mathlib.Tactic.Tauto
import UserDirectory.Text.Base64

/-!
Base64 written and read back. The six-bit values of bytes stand between the two texts: a character
stands for exactly one of them, and a row of them comes from at most one run of bytes. So a text is
read only as the bytes that it is written for.
-/

namespace UserDirectory.Text.Base64

def values : List UInt8 → List Nat
  | a :: b :: c :: rest =>
    a.toNat / 4 :: (a.toNat % 4 * 16 + b.toNat / 16) :: (b.toNat % 16 * 4 + c.toNat / 64) ::
      c.toNat % 64 :: values rest
  | [a, b] => [a.toNat / 4, a.toNat % 4 * 16 + b.toNat / 16, b.toNat % 16 * 4]
  | [a] => [a.toNat / 4, a.toNat % 4 * 16]
  | [] => []

theorem encode_eq_map (bytes : List UInt8) : encode bytes = (values bytes).map digit := by
  induction bytes using encode.induct with
  | case1 a b c rest ih => rw [encode, values, ih]; rfl
  | case2 a b => rfl
  | case3 a => rfl
  | case4 => rfl

theorem values_lt (bytes : List UInt8) : ∀ n ∈ values bytes, n < 64 := by
  induction bytes using values.induct with
  | case1 a b c rest ih =>
    have first := a.toNat_lt
    have second := b.toNat_lt
    have third := c.toNat_lt
    simp only [values, List.forall_mem_cons]
    exact ⟨by omega, by omega, by omega, by omega, ih⟩
  | case2 a b =>
    have first := a.toNat_lt
    have second := b.toNat_lt
    simp only [values, List.forall_mem_cons]
    exact ⟨by omega, by omega, by omega, List.forall_mem_nil _⟩
  | case3 a =>
    have first := a.toNat_lt
    simp only [values, List.forall_mem_cons]
    exact ⟨by omega, by omega, List.forall_mem_nil _⟩
  | case4 => exact List.forall_mem_nil _

/-- Every three bytes take four characters, and bytes left over take one more than they are. -/
theorem length_encode (bytes : List UInt8) :
    (encode bytes).length = (4 * bytes.length + 2) / 3 := by
  induction bytes using encode.induct with
  | case1 a b c rest ih =>
    simp only [encode, List.length_cons, ih]
    omega
  | case2 a b => simp [encode]
  | case3 a => simp [encode]
  | case4 => rfl

section Digits

theorem value?_digit : ∀ n < 64, value? (digit n) = some n := by decide

theorem digit_not_mem : ∀ n < 64, digit n ∉ ['$', ',', '='] := by decide

theorem isUpper_iff_toNat {c : Char} : c.isUpper ↔ 65 ≤ c.toNat ∧ c.toNat ≤ 90 :=
  decide_eq_true_iff.trans (and_congr UInt32.le_iff_toNat_le UInt32.le_iff_toNat_le)

theorem isLower_iff_toNat {c : Char} : c.isLower ↔ 97 ≤ c.toNat ∧ c.toNat ≤ 122 := by
  change (decide ('a'.val ≤ c.val) && decide (c.val ≤ 'z'.val)) = true ↔ _
  rw [Bool.and_eq_true, decide_eq_true_iff, decide_eq_true_iff, UInt32.le_iff_toNat_le,
    UInt32.le_iff_toNat_le]
  rfl

theorem eq_digit (code : Nat) {n : Nat} {c : Char} (same : digit n = Char.ofNat code)
    (named : code = c.toNat) : c = digit n := by
  rw [same, named, Char.ofNat_toNat]

theorem eq_digit_of_value? {c : Char} {n : Nat} (read : value? c = some n) :
    n < 64 ∧ c = digit n := by
  rw [value?] at read
  split_ifs at read with upper lower decimal plus slash <;> obtain rfl := Option.some.inj read
  · obtain ⟨low, high⟩ := isUpper_iff_toNat.1 upper
    refine ⟨by omega, eq_digit (c.toNat - 65 + 65) ?_ (by omega)⟩
    rw [digit, if_pos (by omega)]
  · obtain ⟨low, high⟩ := isLower_iff_toNat.1 lower
    refine ⟨by omega, eq_digit (c.toNat - 71 + 71) ?_ (by omega)⟩
    rw [digit, if_neg (by omega), if_pos (by omega)]
  · obtain ⟨low, high⟩ : 48 ≤ c.toNat ∧ c.toNat ≤ 57 := Char.isDigit_iff_toNat.1 decimal
    refine ⟨by omega, eq_digit (c.toNat + 4 - 4) ?_ (by omega)⟩
    rw [digit, if_neg (by omega), if_neg (by omega), if_pos (by omega)]
  · exact ⟨by decide, plus⟩
  · exact ⟨by decide, slash⟩

theorem value?_eq_some_iff {c : Char} {n : Nat} : value? c = some n ↔ n < 64 ∧ c = digit n := by
  constructor
  · exact eq_digit_of_value?
  · rintro ⟨small, rfl⟩
    exact value?_digit n small

theorem mapM_value?_eq_some_iff {text : List Char} {row : List Nat} :
    text.mapM value? = some row ↔ (∀ n ∈ row, n < 64) ∧ text = row.map digit := by
  induction text generalizing row with
  | nil => cases row <;> simp
  | cons c text ih =>
    cases row with
    | nil => simp [List.mapM_cons, Option.bind_eq_some_iff]
    | cons n row =>
      simp only [List.mapM_cons, List.forall_mem_cons, List.map_cons, List.cons.injEq]
      simp [Option.bind_eq_some_iff, value?_eq_some_iff, ih]
      tauto

end Digits

section Bytes

theorem ofNat_eq {n : Nat} {byte : UInt8} (same : n = byte.toNat) : UInt8.ofNat n = byte := by
  rw [same, UInt8.ofNat_toNat]

theorem bytes?_values (bytes : List UInt8) : bytes? (values bytes) = some bytes := by
  induction bytes using values.induct with
  | case1 a b c rest ih =>
    have second := b.toNat_lt
    have third := c.toNat_lt
    simp only [values, bytes?, ih, Option.map_some, Option.some.injEq, List.cons.injEq, and_true]
    exact ⟨ofNat_eq (by omega), ofNat_eq (by omega), ofNat_eq (by omega)⟩
  | case2 a b =>
    have second := b.toNat_lt
    rw [values, bytes?, if_pos (by omega)]
    simp only [Option.some.injEq, List.cons.injEq, and_true]
    exact ⟨ofNat_eq (by omega), ofNat_eq (by omega)⟩
  | case3 a =>
    rw [values, bytes?, if_pos (by omega)]
    simp only [Option.some.injEq, List.cons.injEq, and_true]
    exact ofNat_eq (by omega)
  | case4 => rfl

theorem eq_values_of_bytes? {row : List Nat} {bytes : List UInt8} (small : ∀ n ∈ row, n < 64)
    (read : bytes? row = some bytes) : row = values bytes := by
  induction row using bytes?.induct generalizing bytes with
  | case1 a b c d rest ih =>
    simp only [List.forall_mem_cons] at small
    obtain ⟨first, second, third, fourth, small⟩ := small
    rw [bytes?] at read
    obtain ⟨tail, readTail, rfl⟩ := Option.map_eq_some_iff.1 read
    simp only [values, ← ih small readTail, UInt8.toNat_ofNat', List.cons.injEq, and_true]
    exact ⟨by omega, by omega, by omega, by omega⟩
  | case2 a b c spare =>
    simp only [List.forall_mem_cons] at small
    obtain ⟨first, second, third, -⟩ := small
    rw [bytes?, if_pos spare] at read
    obtain rfl := Option.some.inj read
    simp only [values, UInt8.toNat_ofNat', List.cons.injEq, and_true]
    exact ⟨by omega, by omega, by omega⟩
  | case3 a b c spare =>
    rw [bytes?, if_neg spare] at read
    nomatch read
  | case4 a b spare =>
    simp only [List.forall_mem_cons] at small
    obtain ⟨first, second, -⟩ := small
    rw [bytes?, if_pos spare] at read
    obtain rfl := Option.some.inj read
    simp only [values, UInt8.toNat_ofNat', List.cons.injEq, and_true]
    exact ⟨by omega, by omega⟩
  | case5 a b spare =>
    rw [bytes?, if_neg spare] at read
    nomatch read
  | case6 a => nomatch read
  | case7 =>
    obtain rfl := Option.some.inj read
    rfl

end Bytes

theorem decode?_eq_some_iff {text : List Char} {bytes : List UInt8} :
    decode? text = some bytes ↔ text = encode bytes := by
  rw [decode?, encode_eq_map, Option.bind_eq_some_iff]
  constructor
  · rintro ⟨row, read, assembled⟩
    obtain ⟨small, rfl⟩ := mapM_value?_eq_some_iff.1 read
    rw [eq_values_of_bytes? small assembled]
  · rintro rfl
    exact ⟨values bytes, mapM_value?_eq_some_iff.2 ⟨values_lt bytes, rfl⟩, bytes?_values bytes⟩

theorem not_mem_encode {c : Char} (mark : c ∈ ['$', ',', '=']) (bytes : List UInt8) :
    c ∉ encode bytes := by
  rw [encode_eq_map]
  intro member
  obtain ⟨n, inside, same⟩ := List.mem_map.1 member
  exact digit_not_mem n (values_lt bytes n inside) (same ▸ mark)

end UserDirectory.Text.Base64
