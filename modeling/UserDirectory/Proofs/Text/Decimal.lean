import Mathlib.Algebra.GroupWithZero.Nat
import Mathlib.Data.List.Basic
import Mathlib.Data.List.Induction
import UserDirectory.Text.Blank
import UserDirectory.Text.Decimal

/-!
Numbers in decimal, written and read back. A run of digits is read up to the first character that
is no digit, and as the number that it was written for. Digits without a leading zero are the one
numeral of their number.
-/

namespace UserDirectory.Text

theorem bind_read {read : Option α} {value : α} {next : α → Option β}
    (reads : read = some value) : (read >>= next) = next value := by
  rw [reads]
  rfl

theorem digitChar_spec (n : Nat) :
    (digitChar n).isDigit = true ∧ digitValue (digitChar n) = n % 10 := by
  have small : n % 10 < 10 := Nat.mod_lt n (by decide)
  rw [digitChar]
  generalize n % 10 = digit at small
  revert digit
  decide

theorem digitChar_isDigit (n : Nat) : (digitChar n).isDigit = true := (digitChar_spec n).1

theorem digitValue_digitChar (n : Nat) : digitValue (digitChar n) = n % 10 := (digitChar_spec n).2

theorem digits_isDigit (n : Nat) : ∀ c ∈ digits n, c.isDigit = true := by
  induction n using digits.induct with
  | case1 n small =>
    rw [digits, if_pos small]
    exact List.forall_mem_singleton.2 (digitChar_isDigit n)
  | case2 n large ih =>
    rw [digits, if_neg large]
    exact List.forall_mem_append.2 ⟨ih, List.forall_mem_singleton.2 (digitChar_isDigit n)⟩

theorem fixedDigits_isDigit (width n : Nat) : ∀ c ∈ fixedDigits width n, c.isDigit = true := by
  induction width generalizing n with
  | zero => exact List.forall_mem_nil _
  | succ width ih =>
    rw [fixedDigits]
    exact List.forall_mem_append.2 ⟨ih _, List.forall_mem_singleton.2 (digitChar_isDigit n)⟩

theorem paddedDigits_isDigit (width n : Nat) : ∀ c ∈ paddedDigits width n, c.isDigit = true := by
  rw [paddedDigits]
  split
  next short => exact fixedDigits_isDigit width n
  next long => exact digits_isDigit n

theorem length_fixedDigits (width n : Nat) : (fixedDigits width n).length = width := by
  induction width generalizing n with
  | zero => rfl
  | succ width ih => rw [fixedDigits, List.length_append, ih, List.length_singleton]

theorem ofDigits_append_digit (text : List Char) (n : Nat) :
    ofDigits (text ++ [digitChar n]) = 10 * ofDigits text + n % 10 := by
  rw [ofDigits, List.foldl_append, List.foldl_cons, List.foldl_nil, digitValue_digitChar]
  rfl

theorem ofDigits_fixedDigits {width n : Nat} (fits : n < 10 ^ width) :
    ofDigits (fixedDigits width n) = n := by
  induction width generalizing n with
  | zero =>
    rw [Nat.pow_zero] at fits
    rw [fixedDigits, Nat.lt_one_iff.1 fits]
    rfl
  | succ width ih =>
    have shorter : n / 10 < 10 ^ width := by
      rw [Nat.pow_succ] at fits
      omega
    rw [fixedDigits, ofDigits_append_digit, ih shorter]
    omega

theorem ofDigits_digits (n : Nat) : ofDigits (digits n) = n := by
  induction n using digits.induct with
  | case1 n small =>
    rw [digits, if_pos small]
    exact (ofDigits_append_digit [] n).trans ((Nat.zero_add _).trans (Nat.mod_eq_of_lt small))
  | case2 n large ih =>
    rw [digits, if_neg large, ofDigits_append_digit, ih]
    omega

theorem ofDigits_paddedDigits (width n : Nat) : ofDigits (paddedDigits width n) = n := by
  rw [paddedDigits]
  split
  next short => exact ofDigits_fixedDigits short
  next long => exact ofDigits_digits n

theorem digits_ne_nil (n : Nat) : digits n ≠ [] := by
  rw [digits]
  split
  next small => exact List.cons_ne_nil _ _
  next large => exact List.append_ne_nil_of_right_ne_nil _ (List.cons_ne_nil _ _)

theorem fixedDigits_ne_nil {width : Nat} (positive : 0 < width) (n : Nat) :
    fixedDigits width n ≠ [] := by
  apply List.ne_nil_of_length_pos
  rw [length_fixedDigits]
  exact positive

theorem paddedDigits_ne_nil {width : Nat} (positive : 0 < width) (n : Nat) :
    paddedDigits width n ≠ [] := by
  rw [paddedDigits]
  split
  next short => exact fixedDigits_ne_nil positive n
  next long => exact digits_ne_nil n

section Reading

variable {most : Nat} {front rest : List Char} (digital : ∀ c ∈ front, c.isDigit = true)
  (fits : front.length ≤ most) (ended : rest.head?.any Char.isDigit = false)
include digital fits ended

theorem spanDigits_append : spanDigits most (front ++ rest) = (front, rest) := by
  induction front generalizing most with
  | nil =>
    cases rest with
    | nil => cases most <;> rfl
    | cons c rest =>
      have other : c.isDigit = false := ended
      cases most with
      | zero => rfl
      | succ most => simp [spanDigits, other]
  | cons c front ih =>
    obtain ⟨digit, digital⟩ := List.forall_mem_cons.1 digital
    cases most with
    | zero => exact absurd fits (by simp)
    | succ most =>
      have onward := ih digital (Nat.le_of_succ_le_succ fits)
      simp [spanDigits, digit, onward]

theorem readDigits?_append (nonempty : front ≠ []) :
    readDigits? most (front ++ rest) = some (ofDigits front, rest) := by
  rw [readDigits?, spanDigits_append digital fits ended]
  split
  next none => exact absurd (congrArg Prod.fst none) nonempty
  next found => cases found; rfl

end Reading

theorem readDigits?_fixedDigits {most width n : Nat} {rest : List Char} (positive : 0 < width)
    (fits : width ≤ most) (small : n < 10 ^ width) (ended : rest.head?.any Char.isDigit = false) :
    readDigits? most (fixedDigits width n ++ rest) = some (n, rest) := by
  have short : (fixedDigits width n).length ≤ most := by
    rw [length_fixedDigits]
    exact fits
  rw [readDigits?_append (fixedDigits_isDigit width n) short ended (fixedDigits_ne_nil positive n),
    ofDigits_fixedDigits small]

theorem isBlank_of_isDigit {c : Char} (digit : c.isDigit = true) : isBlank c = false := by
  have range : 48 ≤ c.toNat ∧ c.toNat ≤ 57 := by
    rw [Char.isDigit, Bool.and_eq_true, decide_eq_true_iff, decide_eq_true_iff] at digit
    exact digit
  simp only [isBlank, blankRanges, inRanges]
  grind

theorem skipBlanks_cons {c : Char} (visible : isBlank c = false) (rest : List Char) :
    skipBlanks (c :: rest) = c :: rest :=
  List.dropWhile_cons_of_neg (by rw [visible]; exact Bool.false_ne_true)

theorem skipBlanks_digits {front : List Char} (digital : ∀ c ∈ front, c.isDigit = true)
    (nonempty : front ≠ []) (rest : List Char) : skipBlanks (front ++ rest) = front ++ rest := by
  obtain ⟨c, front, rfl⟩ := List.exists_cons_of_ne_nil nonempty
  exact skipBlanks_cons (isBlank_of_isDigit (digital c List.mem_cons_self)) _

section Numerals

theorem exists_digitChar {c : Char} (digit : c.isDigit = true) : ∃ n < 10, c = digitChar n := by
  obtain ⟨low, high⟩ : 48 ≤ c.toNat ∧ c.toNat ≤ 57 := Char.isDigit_iff_toNat.1 digit
  have small : c.toNat - 48 < 10 := by omega
  refine ⟨c.toNat - 48, small, ?_⟩
  rw [digitChar, Nat.mod_eq_of_lt small, Nat.add_sub_cancel' low, Char.ofNat_toNat]

theorem digits_of_lt {n : Nat} (small : n < 10) : digits n = [digitChar n] := by
  rw [digits, if_pos small]

theorem digits_of_le {n : Nat} (large : 10 ≤ n) : digits n = digits (n / 10) ++ [digitChar n] := by
  rw [digits, if_neg (Nat.not_lt.2 large)]

theorem length_digits_le {width n : Nat} (positive : 0 < width) (fits : n < 10 ^ width) :
    (digits n).length ≤ width := by
  induction width generalizing n with
  | zero => exact absurd positive (Nat.lt_irrefl 0)
  | succ width ih =>
    rcases Nat.lt_or_ge n 10 with small | large
    · rw [digits_of_lt small]
      exact positive
    · have shorter : n / 10 < 10 ^ width := by
        rw [Nat.pow_succ] at fits
        omega
      have wide : 0 < width := by
        rcases Nat.eq_zero_or_pos width with rfl | wide
        · omega
        · exact wide
      rw [digits_of_le large, List.length_append, List.length_singleton]
      exact Nat.succ_le_succ (ih wide shorter)

theorem head?_digits {n : Nat} (positive : 0 < n) : (digits n).head? ≠ some '0' := by
  induction n using digits.induct with
  | case1 n small =>
    rw [digits_of_lt small]
    revert n
    decide
  | case2 n large ih =>
    rw [digits_of_le (Nat.not_lt.1 large), List.head?_append_of_ne_nil _ (digits_ne_nil _)]
    exact ih (by omega)

/-- Digits without a leading zero are the numeral of their number, and not that of zero. -/
theorem digits_ofDigits {text : List Char} (digital : ∀ c ∈ text, c.isDigit = true)
    (nonempty : text ≠ []) (leading : text.head? ≠ some '0') :
    digits (ofDigits text) = text ∧ 0 < ofDigits text := by
  induction text using List.reverseRecOn with
  | nil => exact absurd rfl nonempty
  | append_singleton front c ih =>
    obtain ⟨before, last⟩ := List.forall_mem_append.1 digital
    obtain ⟨n, small, rfl⟩ := exists_digitChar (last c (List.mem_singleton_self c))
    have lastValue : n % 10 = n := Nat.mod_eq_of_lt small
    rw [ofDigits_append_digit, lastValue]
    rcases eq_or_ne front [] with rfl | longer
    · have positive : n ≠ 0 := by
        rintro rfl
        exact leading rfl
      have value : 10 * ofDigits [] + n = n := by simp [ofDigits]
      rw [value, digits_of_lt small]
      exact ⟨rfl, Nat.pos_of_ne_zero positive⟩
    · rw [List.head?_append_of_ne_nil _ longer] at leading
      obtain ⟨rebuilt, positive⟩ := ih before longer leading
      have quotient : (10 * ofDigits front + n) / 10 = ofDigits front := by omega
      have sameDigit : digitChar (10 * ofDigits front + n) = digitChar n := by
        rw [digitChar, digitChar, Nat.mul_add_mod]
      rw [digits_of_le (by omega), quotient, rebuilt, sameDigit]
      exact ⟨rfl, by omega⟩

theorem unsigned_digits (n : Nat) :
    (if (digits n).isEmpty || !(digits n).all Char.isDigit then none
      else some (ofDigits (digits n))) = some n := by
  have nonempty : (digits n).isEmpty = false := List.isEmpty_eq_false_iff.2 (digits_ne_nil n)
  have digital : (digits n).all Char.isDigit = true := List.all_eq_true.2 (digits_isDigit n)
  rw [nonempty, digital, ofDigits_digits]
  rfl

theorem digits_ne_cons {sign : Char} (mark : sign ∈ ['-', '+']) (n : Nat) (rest : List Char) :
    digits n ≠ sign :: rest := by
  intro same
  have digit : sign.isDigit = true := digits_isDigit n sign (same ▸ List.mem_cons_self)
  rcases List.mem_pair.1 mark with rfl | rfl <;> exact absurd digit (by decide)

theorem readInt?_signedDigits (n : Int) : readInt? (signedDigits n) = some n := by
  rw [signedDigits]
  split
  next negative =>
    have value : readInt? ('-' :: digits n.natAbs) = some (-(n.natAbs : Int)) := by
      simp only [readInt?, unsigned_digits]
      rfl
    rw [value, Int.ofNat_natAbs_of_nonpos (Int.le_of_lt negative), Int.neg_neg]
  next natural =>
    have value : readInt? (digits n.natAbs) = some (n.natAbs : Int) := by
      rw [readInt?.eq_3 _ (digits_ne_cons (by decide) _) (digits_ne_cons (by decide) _)]
      simp only [unsigned_digits]
      rfl
    rw [value, Int.natAbs_of_nonneg (Int.not_lt.1 natural)]

end Numerals

end UserDirectory.Text
