import UserDirectory.Proofs.Text.ByteOrder
import UserDirectory.Proofs.User.Email
import UserDirectory.Proofs.User.Mobile
import UserDirectory.User.RandomId

namespace UserDirectory

theorem Text.length_le_utf8ByteSize (text : String) : text.length ≤ text.utf8ByteSize := by
  have bytes : text.utf8ByteSize = (text.toList.map Char.utf8Size).sum := by
    change (utf8 text).length = _
    rw [utf8_eq, List.length_flatMap]
    simp only [String.length_utf8EncodeChar]
  rw [bytes, ← String.length_toList]
  induction text.toList with
  | nil => exact Nat.le_refl 0
  | cons c rest ih =>
    have byte : 0 < c.utf8Size := c.utf8Size_pos
    rw [List.length_cons, List.map_cons, List.sum_cons]
    omega

namespace Rule

theorem refuse_eq_ok {complaint : Prop} [Decidable complaint] {error : FieldError}
    {rest : Except FieldError Unit} :
    (if complaint then .error error else rest) = .ok () ↔ ¬complaint ∧ rest = .ok () := by
  by_cases broken : complaint
  · rw [if_pos broken]
    exact iff_of_false nofun fun passed => passed.1 broken
  · rw [if_neg broken]
    exact (and_iff_right broken).symm

variable {value : String}

theorem id_eq_ok :
    Rule.id value = .ok () ↔
      value ≠ "" ∧ value.length ≤ 64 ∧ ∀ c ∈ value.toList, Text.isBlank c = false := by
  simp [Rule.id, refuse_eq_ok, Limit.id]

theorem account_length_le (passed : Rule.account value = .ok ()) : value.length ≤ 50 := by
  simp only [Rule.account, refuse_eq_ok] at passed
  exact Nat.le_of_not_lt passed.2.2.1

theorem nickname_length_le (passed : Rule.nickname value = .ok ()) : value.length ≤ 30 :=
  Nat.le_of_not_lt (refuse_eq_ok.1 passed).1

theorem remark_length_le (passed : Rule.remark value = .ok ()) : value.length ≤ 500 :=
  Nat.le_of_not_lt (refuse_eq_ok.1 passed).1

theorem email_length_le (passed : Rule.email value = .ok ()) : value.length ≤ 254 := by
  rcases email_eq_ok.1 passed with rfl | ⟨short, -⟩
  · decide
  · exact Nat.le_trans (Text.length_le_utf8ByteSize value) short

theorem mobile_length (passed : Rule.mobile value = .ok ()) :
    value.length = 0 ∨ value.length = 11 := by
  rcases mobile_eq_ok.1 passed with rfl | ⟨second, rest, same, -, -, nine, -⟩
  · exact .inl rfl
  · right
    rw [← String.length_toList, same, List.length_cons, List.length_cons, nine]

end Rule

theorem UserId.length_le (id : UserId) : id.text.length ≤ 64 := (Rule.id_eq_ok.1 id.valid).2.1

theorem length_hexadecimals (width n : Nat) : (hexadecimals width n).length = width := by
  induction width generalizing n with
  | zero => rfl
  | succ width ih => rw [hexadecimals, List.length_append, ih, List.length_singleton]

theorem hexadecimal_mem (n : Nat) : hexadecimal n ∈ "0123456789abcdef".toList := by
  have small : n % 16 < "0123456789abcdef".toList.length := Nat.mod_lt n (by decide)
  rw [hexadecimal, List.getD_eq_getElem?_getD, List.getElem?_eq_getElem small]
  exact List.getElem_mem small

theorem hexadecimals_mem (width n : Nat) :
    ∀ c ∈ hexadecimals width n, c ∈ "0123456789abcdef".toList := by
  induction width generalizing n with
  | zero => exact List.forall_mem_nil _
  | succ width ih =>
    rw [hexadecimals]
    exact List.forall_mem_append.2 ⟨ih (n / 16), List.forall_mem_singleton.2 (hexadecimal_mem n)⟩

/-- Whatever the bits, there is an id of 32 characters made of them. -/
theorem UserId.exists_random (high low : UInt64) :
    ∃ id : UserId, UserId.random high low = .ok id ∧ id.text.length = 32 := by
  have long : (String.ofList (randomIdText high low)).length = 32 := by
    rw [String.length_ofList, randomIdText, List.length_append, length_hexadecimals,
      length_hexadecimals]
  have plain : ∀ c ∈ randomIdText high low, Text.isBlank c = false := by
    have digits : "0123456789abcdef".toList.any Text.isBlank = false := by rfl
    have one (width n : Nat) : ∀ c ∈ hexadecimals width n, Text.isBlank c = false :=
      fun c member => Bool.eq_false_iff.2
        (List.any_eq_false.1 digits c (hexadecimals_mem width n c member))
    exact List.forall_mem_append.2 ⟨one 16 _, one 16 _⟩
  have valid : Rule.id (String.ofList (randomIdText high low)) = .ok () := by
    refine Rule.id_eq_ok.2 ⟨?_, ?_, ?_⟩
    · intro empty
      rw [empty] at long
      cases long
    · omega
    · rw [String.toList_ofList]
      exact plain
  have made : UserId.ofText (String.ofList (randomIdText high low)) = .ok ⟨_, valid⟩ :=
    UserId.ofText_eq_ok.2 rfl
  refine ⟨⟨_, valid⟩, ?_, long⟩
  rw [UserId.random, made]
  rfl

end UserDirectory
