import UserDirectory.Proofs.Store.Consistency
import UserDirectory.Proofs.Store.Rows
import UserDirectory.Proofs.Text.Decimal

/-!
Stores of any size that ids of ten digits allow. Users are saved one after another, each under a
number of its own, so the guard passes every one of them and all of them stay.
-/

namespace UserDirectory

open Text

def numbered (n : Nat) : String := String.ofList (fixedDigits 10 n)

theorem numbered_injective {a b : Nat} (small : a < 10 ^ 10) (least : b < 10 ^ 10)
    (same : numbered a = numbered b) : a = b :=
  calc a = ofDigits (fixedDigits 10 a) := (ofDigits_fixedDigits small).symm
    _ = ofDigits (fixedDigits 10 b) := congrArg ofDigits (String.ofList_injective same)
    _ = b := ofDigits_fixedDigits least

theorem numbered_valid (n : Nat) : Rule.id (numbered n) = .ok () := by
  have length : (numbered n).length = 10 := by
    rw [numbered, String.length_ofList, length_fixedDigits]
  have filled : (numbered n).isEmpty = false := by
    rw [Bool.eq_false_iff, ne_eq, String.isEmpty_iff]
    intro none
    rw [none] at length
    cases length
  have solid : ¬(numbered n).toList.any isBlank = true := by
    rw [List.any_eq_true, numbered, String.toList_ofList]
    rintro ⟨c, member, blank⟩
    rw [isBlank_of_isDigit (fixedDigits_isDigit 10 n c member)] at blank
    cases blank
  rw [Rule.id, filled, length, if_neg Bool.false_ne_true, if_neg (by decide), if_neg solid]

def UserId.numbered (n : Nat) : UserId := ⟨UserDirectory.numbered n, numbered_valid n⟩

def Supplies.numbered : Supplies where
  instant _ := .ok .epoch
  identifier number := .ok (.numbered number)

def NewUser.numbered (n : Nat) : NewUser := { account := UserDirectory.numbered n }

def User.numbered (n : Nat) : User := .ofNew (.numbered n) (.numbered n) .epoch

namespace Memory

structure Holds (memory : Memory) (count : Nat) : Prop where
  rows : memory.store.rows = (List.range count).map User.numbered
  drawn : memory.usage.identifiers = count
  keyed : ∀ entry ∈ memory.store.entries, entry.1 = entry.2.id.text

/-- The next number is nobody's yet. -/
theorem Holds.save {memory : Memory} {count : Nat} (holds : memory.Holds count)
    (room : count < 10 ^ 10) :
    (memory.answer .numbered (.save (.numbered count))).2.Holds (count + 1) := by
  have other {row : User} (member : row ∈ memory.store.rows) :
      ∃ n, row = .numbered n ∧ UserDirectory.numbered n ≠ UserDirectory.numbered count := by
    rw [holds.rows] at member
    obtain ⟨n, before, rfl⟩ := List.mem_map.1 member
    have less := List.mem_range.1 before
    refine ⟨n, rfl, fun same => ?_⟩
    have equal := numbered_injective (Nat.lt_trans less room) room same
    omega
  have free : memory.store.conflict? none (NewUser.numbered count).claimed = none := by
    refine Store.conflict?_eq_none.2 fun row member => ⟨?_, nofun, nofun⟩
    obtain ⟨n, rfl, apart⟩ := other (Store.mem_others_iff.1 member).1
    rintro text ⟨⟩
    exact apart
  have fresh : memory.store.row? (.numbered count) = none := by
    refine Option.eq_none_iff_forall_ne_some.2 fun row found => ?_
    obtain ⟨member, own⟩ := (Store.row?_eq_some_iff holds.keyed).1 found
    obtain ⟨n, rfl, apart⟩ := other member
    exact apart (congrArg UserId.text own)
  have saved : (memory.answer .numbered (.save (.numbered count))).2 =
      { store := memory.store.put (UserId.numbered count).text (.numbered count)
        usage := { memory.usage with
          instants := memory.usage.instants + 1
          identifiers := memory.usage.identifiers + 1 } } := by
    simp only [answer, Memory.save, free, drawIdentifier, Usage.drawIdentifier, Supplies.numbered,
      holds.drawn, fresh, Option.isSome_none, Bool.false_eq_true, ↓reduceIte, readInstant,
      Usage.readInstant]
    rfl
  have entries := Store.entries_put_fresh fresh (.numbered count)
  rw [saved]
  refine ⟨?_, congrArg (· + 1) holds.drawn, fun entry member => ?_⟩
  · rw [Store.rows, entries, List.map_append, ← Store.rows, holds.rows, List.range_succ,
      List.map_append]
    rfl
  · rw [entries, List.mem_append, List.mem_singleton] at member
    obtain before | rfl := member
    · exact holds.keyed entry before
    · rfl

end Memory

namespace Access

def crowd (count : Nat) : List Access :=
  (List.range count).map fun n => .call (.save (.numbered n))

theorem run_crowd {count : Nat} (room : count ≤ 10 ^ 10) :
    (run .numbered .plain (crowd count) {}).Holds count := by
  induction count with
  | zero => exact ⟨rfl, rfl, fun _ => nofun⟩
  | succ count ih =>
    rw [crowd, List.range_succ, List.map_append, run, List.foldl_append]
    exact (ih (Nat.le_of_succ_le room)).save room

end Access

end UserDirectory
