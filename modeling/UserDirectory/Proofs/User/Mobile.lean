import UserDirectory.Proofs.Service.Session
import UserDirectory.Proofs.Store.Consistency
import UserDirectory.Proofs.Text.Decimal
import UserDirectory.User.Rule

/-!
The texts of mobile numbers. The rule asks for the first two digits in ASCII and takes each of the
nine others in any script, so one number has many texts, and two users may have it in two of them.
In ASCII digits a number has one text, and there a unique text is a unique number.
-/

namespace UserDirectory

namespace Text

/-- The value of a code point as a digit, if it lies in one of the ranges. A range holds whole runs
of ten digits, each from zero to nine. -/
def valueIn? : List (Nat × Nat) → Nat → Option Nat
  | [], _ => none
  | (low, high) :: rest, code =>
    if low ≤ code ∧ code ≤ high then some ((code - low) % 10) else valueIn? rest code

def decimalValue? (c : Char) : Option Nat := valueIn? digitRanges c.toNat

example : ∀ range ∈ digitRanges, (range.2 + 1 - range.1) % 10 = 0 := by decide

/-- The digit of ASCII with the value of a digit of any script; what is no digit stays. -/
def plainDigit (c : Char) : Char :=
  match decimalValue? c with
  | some value => digitChar value
  | none => c

theorem exists_valueIn? {ranges : List (Nat × Nat)} {code : Nat}
    (inside : inRanges ranges code = true) : ∃ value, valueIn? ranges code = some value := by
  induction ranges with
  | nil => cases inside
  | cons range rest ih =>
    obtain ⟨low, high⟩ := range
    rw [inRanges] at inside
    by_cases below : code < low
    · rw [if_pos below] at inside
      cases inside
    · rw [if_neg below, Bool.or_eq_true, decide_eq_true_iff] at inside
      rw [valueIn?]
      by_cases above : code ≤ high
      · exact ⟨_, if_pos ⟨Nat.not_lt.1 below, above⟩⟩
      · rw [if_neg fun within => above within.2]
        exact ih (inside.resolve_left above)

theorem valueIn?_lt {ranges : List (Nat × Nat)} {code value : Nat}
    (found : valueIn? ranges code = some value) : value < 10 := by
  induction ranges with
  | nil => cases found
  | cons range rest ih =>
    rw [valueIn?] at found
    split at found
    next within =>
      cases found
      exact Nat.mod_lt _ (by decide)
    next => exact ih found

section Digits

variable {c : Char} (digit : c.isDigit = true)
include digit

theorem toNat_of_isDigit : 48 ≤ c.toNat ∧ c.toNat ≤ 57 := Char.isDigit_iff_toNat.1 digit

theorem decimalValue?_of_isDigit : decimalValue? c = some (digitValue c) := by
  have range := toNat_of_isDigit digit
  rw [decimalValue?, digitRanges, valueIn?, if_pos range, digitValue]
  congr 1
  omega

theorem isDecimalDigit_of_isDigit : isDecimalDigit c = true := by
  obtain ⟨low, high⟩ := toNat_of_isDigit digit
  rw [isDecimalDigit, digitRanges, inRanges, if_neg (Nat.not_lt.2 low), Bool.or_eq_true,
    decide_eq_true_iff]
  exact .inl high

theorem digitChar_digitValue : digitChar (digitValue c) = c := by
  obtain ⟨low, high⟩ := toNat_of_isDigit digit
  have back : 48 + (c.toNat - 48) % 10 = c.toNat := by omega
  rw [digitChar, digitValue, back, Char.ofNat_toNat]

theorem plainDigit_of_isDigit : plainDigit c = c := by
  rw [plainDigit, decimalValue?_of_isDigit digit]
  exact digitChar_digitValue digit

end Digits

theorem decimalValue?_digitChar {value : Nat} (small : value < 10) :
    decimalValue? (digitChar value) = some value := by
  rw [decimalValue?_of_isDigit (digitChar_isDigit value), digitValue_digitChar,
    Nat.mod_eq_of_lt small]

theorem decimalValue?_plainDigit (c : Char) : decimalValue? (plainDigit c) = decimalValue? c := by
  unfold plainDigit
  split
  next value found => rw [found, decimalValue?_digitChar (valueIn?_lt found)]
  next => rfl

theorem plainDigit_eq {c : Char} (decimal : isDecimalDigit c = true) :
    plainDigit c = digitChar ((decimalValue? c).getD 0) := by
  obtain ⟨value, found⟩ := exists_valueIn? decimal
  have known : decimalValue? c = some value := found
  rw [plainDigit, known]
  rfl

theorem isDigit_plainDigit {c : Char} (decimal : isDecimalDigit c = true) :
    (plainDigit c).isDigit = true := by
  rw [plainDigit_eq decimal]
  exact digitChar_isDigit _

end Text

open Text

namespace Mobile

/-- Eleven digits, the first of them one and the second three to nine, the nine others of a kind. -/
def Shaped (digit : Char → Bool) (text : List Char) : Prop :=
  ∃ second rest, text = '1' :: second :: rest ∧ '3' ≤ second ∧ second ≤ '9' ∧ rest.length = 9 ∧
    ∀ c ∈ rest, digit c = true

def number (value : String) : List (Option Nat) := value.toList.map decimalValue?

def plain (value : String) : String := String.ofList (value.toList.map plainDigit)

theorem isNumber_iff {text : List Char} : isNumber text = true ↔ Shaped isDecimalDigit text := by
  constructor
  · intro accepted
    unfold isNumber at accepted
    split at accepted
    next second rest =>
      simp only [Bool.and_eq_true, decide_eq_true_iff, List.all_eq_true] at accepted
      obtain ⟨⟨⟨low, high⟩, nine⟩, digits⟩ := accepted
      exact ⟨second, rest, rfl, low, high, nine, digits⟩
    next => cases accepted
  · rintro ⟨second, rest, rfl, low, high, nine, digits⟩
    simp only [isNumber, Bool.and_eq_true, decide_eq_true_iff, List.all_eq_true]
    exact ⟨⟨⟨low, high⟩, nine⟩, digits⟩

section Shapes

variable {text : List Char} {digit : Char → Bool}

theorem isDigit_second {second : Char} (low : '3' ≤ second) (high : second ≤ '9') :
    second.isDigit = true := by
  have lowest : '0' ≤ second := Char.le_trans (by decide) low
  rw [Char.isDigit, Bool.and_eq_true, decide_eq_true_iff, decide_eq_true_iff]
  exact ⟨lowest, high⟩

theorem Shaped.forall_mem (shaped : Shaped digit text) {holds : Char → Prop}
    (ascii : ∀ c, c.isDigit = true → holds c) (others : ∀ c, digit c = true → holds c) :
    ∀ c ∈ text, holds c := by
  obtain ⟨second, rest, rfl, low, high, -, digits⟩ := shaped
  refine List.forall_mem_cons.2 ⟨ascii '1' (by decide), List.forall_mem_cons.2
    ⟨ascii second (isDigit_second low high), fun c member => others c (digits c member)⟩⟩

theorem Shaped.decimal (shaped : Shaped isDecimalDigit text) :
    ∀ c ∈ text, isDecimalDigit c = true :=
  shaped.forall_mem (fun _ => isDecimalDigit_of_isDigit) fun _ decimal => decimal

theorem shaped_isDigit_iff :
    Shaped Char.isDigit text ↔ Shaped isDecimalDigit text ∧ ∀ c ∈ text, c.isDigit = true := by
  constructor
  · intro shaped
    refine ⟨?_, shaped.forall_mem (fun _ digit => digit) fun _ digit => digit⟩
    obtain ⟨second, rest, same, low, high, nine, digits⟩ := shaped
    exact ⟨second, rest, same, low, high, nine,
      fun c member => isDecimalDigit_of_isDigit (digits c member)⟩
  · rintro ⟨⟨second, rest, rfl, low, high, nine, -⟩, digits⟩
    have later := (List.forall_mem_cons.1 (List.forall_mem_cons.1 digits).2).2
    exact ⟨second, rest, rfl, low, high, nine, later⟩

theorem Shaped.plain (shaped : Shaped isDecimalDigit text) :
    Shaped Char.isDigit (text.map plainDigit) := by
  obtain ⟨second, rest, rfl, low, high, nine, digits⟩ := shaped
  refine ⟨second, rest.map plainDigit, ?_, low, high, ?_, ?_⟩
  · rw [List.map_cons, List.map_cons, plainDigit_of_isDigit (by decide),
      plainDigit_of_isDigit (isDigit_second low high)]
  · rw [List.length_map, nine]
  · exact List.forall_mem_map.2 fun c member => isDigit_plainDigit (digits c member)

end Shapes

section Texts

variable {a b value : String}

theorem number_plain (value : String) : number (plain value) = number value := by
  rw [number, plain, String.toList_ofList, List.map_map]
  exact List.map_congr_left fun c _ => decimalValue?_plainDigit c

theorem plain_eq_of_number_eq (decimalA : ∀ c ∈ a.toList, isDecimalDigit c = true)
    (decimalB : ∀ c ∈ b.toList, isDecimalDigit c = true) (same : number a = number b) :
    plain a = plain b := by
  have told {value : String} (decimal : ∀ c ∈ value.toList, isDecimalDigit c = true) :
      value.toList.map plainDigit = (number value).map fun digit => digitChar (digit.getD 0) := by
    rw [number, List.map_map]
    exact List.map_congr_left fun c member => plainDigit_eq (decimal c member)
  rw [plain, plain, told decimalA, told decimalB, same]

theorem plain_eq_self (digits : ∀ c ∈ value.toList, c.isDigit = true) : plain value = value := by
  have kept : value.toList.map plainDigit = value.toList.map id :=
    List.map_congr_left fun c member => plainDigit_of_isDigit (digits c member)
  rw [plain, kept, List.map_id, String.ofList_toList]

/-- In digits of ASCII a number has one text. -/
theorem eq_of_number_eq (digitsA : ∀ c ∈ a.toList, c.isDigit = true)
    (digitsB : ∀ c ∈ b.toList, c.isDigit = true) (same : number a = number b) : a = b := by
  have decimal {value : String} (digits : ∀ c ∈ value.toList, c.isDigit = true) :
      ∀ c ∈ value.toList, isDecimalDigit c = true :=
    fun c member => isDecimalDigit_of_isDigit (digits c member)
  calc a = plain a := (plain_eq_self digitsA).symm
    _ = plain b := plain_eq_of_number_eq (decimal digitsA) (decimal digitsB) same
    _ = b := plain_eq_self digitsB

end Texts

end Mobile

namespace Rule

variable {value : String}

theorem mobile_eq_ok :
    Rule.mobile value = .ok () ↔ value = "" ∨ Mobile.Shaped isDecimalDigit value.toList := by
  rw [Rule.mobile, ← Mobile.isNumber_iff]
  by_cases empty : value = ""
  · subst empty
    exact iff_of_true rfl (.inl rfl)
  · have filled : value.isEmpty = false := Bool.eq_false_iff.2 (mt String.isEmpty_iff.1 empty)
    by_cases accepted : Mobile.isNumber value.toList = true <;> simp [empty, filled, accepted]

theorem mobile_decimal (passed : Rule.mobile value = .ok ()) :
    ∀ c ∈ value.toList, isDecimalDigit c = true := by
  rcases mobile_eq_ok.1 passed with rfl | shaped
  · exact List.forall_mem_nil _
  · exact shaped.decimal

theorem mobile_plain (passed : Rule.mobile value = .ok ()) :
    Rule.mobile (Mobile.plain value) = .ok () ∧
      ∀ c ∈ (Mobile.plain value).toList, c.isDigit = true := by
  rw [mobile_eq_ok, Mobile.plain, String.toList_ofList]
  rcases mobile_eq_ok.1 passed with rfl | shaped
  · exact ⟨.inl rfl, List.forall_mem_nil _⟩
  · obtain ⟨decimal, digits⟩ := Mobile.shaped_isDigit_iff.1 shaped.plain
    exact ⟨.inr decimal, digits⟩

end Rule

/-- Of two live users who have one number in two texts one has a digit that is not of ASCII. -/
theorem Store.Reachable.exists_not_isDigit {store : Store} (reachable : store.Reachable)
    {a b : User} (liveA : a ∈ store.live) (liveB : b ∈ store.live) (different : a.id ≠ b.id)
    {x y : String} (hasA : a.mobile = some x) (hasB : b.mobile = some y) (filled : x ≠ "")
    (same : Mobile.number x = Mobile.number y) :
    ∃ c ∈ x.toList ++ y.toList, c.isDigit = false := by
  by_cases digits : ∀ c ∈ x.toList ++ y.toList, c.isDigit = true
  · obtain ⟨keyA, memberA, aliveA⟩ := Store.mem_live.1 liveA
    obtain ⟨keyB, memberB, aliveB⟩ := Store.mem_live.1 liveB
    have consistent := reachable.consistent
    have ownA : keyA = a.id.text := consistent.keyed _ memberA
    have ownB : keyB = b.id.text := consistent.keyed _ memberB
    have keys : keyA ≠ keyB := ownA ▸ ownB ▸ mt UserId.text_injective different
    have apart := consistent.apart _ memberA _ memberB keys aliveA aliveB
    obtain ⟨digitsX, digitsY⟩ := List.forall_mem_append.1 digits
    obtain rfl := Mobile.eq_of_number_eq digitsX digitsY same
    exact absurd hasB (apart.mobile x filled hasA)
  · simpa using digits

/-- A text is accepted exactly if it is empty or has the shape of a number, with nine digits of any
script; the shape in ASCII decides about a text exactly if it is refused or in ASCII. An accepted
text can be written in ASCII: so it is accepted too, stands for the same number, and is another text
unless it was in ASCII before. Accepted texts are of one number exactly if they are so written
alike, and those in ASCII only if they are the same. Of two live users with one number, then, one
has a digit of another script in it. -/
theorem Rule.mobile_spellings (value : String) :
    (Rule.mobile value = .ok () ↔ value = "" ∨ Mobile.Shaped isDecimalDigit value.toList) ∧
    ((Rule.mobile value = .ok () ↔ value = "" ∨ Mobile.Shaped Char.isDigit value.toList) ↔
      (Rule.mobile value = .ok () → ∀ c ∈ value.toList, c.isDigit = true)) ∧
    (Rule.mobile value = .ok () →
      Rule.mobile (Mobile.plain value) = .ok () ∧
        Mobile.number (Mobile.plain value) = Mobile.number value ∧
        (Mobile.plain value = value ↔ ∀ c ∈ value.toList, c.isDigit = true)) ∧
    (∀ other : String, Rule.mobile value = .ok () → Rule.mobile other = .ok () →
      (Mobile.number value = Mobile.number other ↔ Mobile.plain value = Mobile.plain other) ∧
        ((∀ c ∈ value.toList ++ other.toList, c.isDigit = true) →
          (Mobile.number value = Mobile.number other ↔ value = other))) ∧
    ∀ store : Store, store.Reachable → ∀ a ∈ store.live, ∀ b ∈ store.live, a.id ≠ b.id →
      ∀ other, a.mobile = some value → b.mobile = some other → value ≠ "" →
        Mobile.number value = Mobile.number other →
        ∃ c ∈ value.toList ++ other.toList, c.isDigit = false := by
  refine ⟨mobile_eq_ok, ?_, fun passed => ?_, fun other passed passedOther => ⟨⟨?_, ?_⟩, ?_⟩, ?_⟩
  · rw [Mobile.shaped_isDigit_iff, mobile_eq_ok]
    constructor
    · intro alike accepted
      rcases alike.1 accepted with rfl | ⟨-, digits⟩
      · exact List.forall_mem_nil _
      · exact digits
    · intro ascii
      constructor
      · intro accepted
        exact accepted.imp_right fun shaped => ⟨shaped, ascii accepted⟩
      · exact Or.imp_right And.left
  · obtain ⟨accepted, digits⟩ := mobile_plain passed
    refine ⟨accepted, Mobile.number_plain value, ?_, Mobile.plain_eq_self⟩
    intro same
    rw [← same]
    exact digits
  · exact Mobile.plain_eq_of_number_eq (mobile_decimal passed) (mobile_decimal passedOther)
  · intro same
    rw [← Mobile.number_plain value, same, Mobile.number_plain]
  · intro digits
    obtain ⟨digitsHere, digitsOther⟩ := List.forall_mem_append.1 digits
    exact ⟨Mobile.eq_of_number_eq digitsHere digitsOther, congrArg Mobile.number⟩
  · intro store reachable a liveA b liveB different other hasA hasB filled same
    exact reachable.exists_not_isDigit liveA liveB different hasA hasB filled same

namespace Mobile

def arabic : String := "1380013800٠"

def ascii : String := "13800138000"

def holder (id : UserId) (account mobile : String) : User :=
  User.ofNew id { account, passwordHash := some "#abc123", mobile := some mobile } .epoch

def enrolled : Session :=
  Session.run .utc .still .plain .steady
    [.createUser { account := "alice", password := "abc123", mobile := some ascii },
      .createUser { account := "bob", password := "abc123", mobile := some arabic }] ⟨.empty, []⟩

theorem enrolled_live :
    enrolled.memory.store.live = [holder .first "alice" ascii, holder .second "bob" arabic] := by
  rfl

theorem enrolled_reachable : enrolled.memory.store.Reachable :=
  Memory.run_reachable _ _ _ _ (Memory.run_reachable _ _ _ _ .empty)

end Mobile

/-- The two texts come to one in ASCII, and the users who have them have an Arabic digit. -/
theorem Rule.mobile_spellings_arabic :
    (Rule.mobile Mobile.ascii = .ok () ∧ Rule.mobile Mobile.arabic = .ok () ∧
      (Mobile.number Mobile.ascii = Mobile.number Mobile.arabic ↔
        Mobile.plain Mobile.ascii = Mobile.plain Mobile.arabic)) ∧
    Mobile.number Mobile.ascii = Mobile.number Mobile.arabic ∧
    ∃ c ∈ Mobile.ascii.toList ++ Mobile.arabic.toList, c.isDigit = false := by
  obtain ⟨-, -, -, alike, live⟩ := Rule.mobile_spellings Mobile.ascii
  refine ⟨⟨rfl, rfl, (alike _ rfl rfl).1⟩, rfl, ?_⟩
  refine live _ Mobile.enrolled_reachable (Mobile.holder .first "alice" Mobile.ascii) ?_
    (Mobile.holder .second "bob" Mobile.arabic) ?_ ?_ _ rfl rfl ?_ rfl
  · rw [Mobile.enrolled_live]
    exact List.mem_cons_self
  · rw [Mobile.enrolled_live]
    exact List.mem_cons_of_mem _ List.mem_cons_self
  · decide
  · decide

/-- A text is accepted that is not in digits of ASCII, and it is another text of a number that is
taken: a second user is created with it, and both are live. -/
theorem Mobile.taken_twice :
    (Rule.mobile arabic = .ok () ∧ arabic ≠ "" ∧ ¬Shaped Char.isDigit arabic.toList) ∧
    (Rule.mobile ascii = .ok () ∧ number ascii = number arabic ∧ ascii ≠ arabic) ∧
    ∃ a ∈ enrolled.memory.store.live, ∃ b ∈ enrolled.memory.store.live,
      a.id ≠ b.id ∧ a.mobile = some ascii ∧ b.mobile = some arabic := by
  refine ⟨⟨rfl, by decide, ?_⟩, ⟨rfl, rfl, by decide⟩, ?_⟩
  · intro shaped
    exact absurd ((shaped_isDigit_iff.1 shaped).2 '٠' (by decide)) (by decide)
  · rw [enrolled_live]
    refine ⟨_, List.mem_cons_self, _, List.mem_cons_of_mem _ List.mem_cons_self, ?_, rfl, rfl⟩
    decide

end UserDirectory
