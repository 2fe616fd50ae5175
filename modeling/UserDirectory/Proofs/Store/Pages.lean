import Mathlib.Algebra.Order.Floor.Div
import UserDirectory.Proofs.Service.Invisible
import UserDirectory.Proofs.Text.ByteOrder

/-!
Listings taken page by page. The pages are consecutive pieces of one list, which holds the users
that the filter selects, each of them once and in an order without ties. So nobody is lost or shown
twice between two pages, in whatever order the store happens to keep its rows.
-/

namespace UserDirectory

/-- Newest first; of users of one instant, the one whose id has the greater bytes. -/
def User.ListedBefore (a b : User) : Prop :=
  b.createdAt < a.createdAt ∨
    (a.createdAt = b.createdAt ∧ Text.utf8 b.id.text < Text.utf8 a.id.text)

theorem User.listedBefore_of_precedes {a b : User} (sorted : Store.precedes a b = true)
    (other : a.id ≠ b.id) : a.ListedBefore b := by
  simp only [Store.precedes, Bool.or_eq_true, Bool.and_eq_true, decide_eq_true_iff] at sorted
  rcases sorted with newer | ⟨same, notLesser⟩
  · exact .inl newer
  · refine .inr ⟨same, Text.utf8_lt_iff.2 (Decidable.byContradiction fun notGreater => other ?_)⟩
    exact UserId.text_injective (String.le_antisymm notGreater notLesser)

/-- Pieces of one size, one after another, are the beginning of the list. -/
theorem List.flatMap_pieces (list : List α) (size count : Nat) :
    ((List.range count).flatMap fun k => (list.drop (k * size)).take size) =
      list.take (count * size) := by
  induction count with
  | zero => rw [List.range_zero, List.flatMap_nil, Nat.zero_mul, List.take_zero]
  | succ count ih =>
    rw [List.range_succ, List.flatMap_append, ih, List.flatMap_singleton, Nat.succ_mul,
      List.take_add]

namespace Store

def listing (store : Store) (filter : Filter) : List User :=
  (store.selection filter).mergeSort precedes

variable {store : Store} {filter : Filter} {size : Nat}

theorem listing_perm : (store.listing filter).Perm (store.selection filter) :=
  List.mergeSort_perm _ _

theorem length_listing : (store.listing filter).length = store.count filter :=
  listing_perm.length_eq

theorem page_users (number : Nat) :
    (store.page ⟨filter, number, size⟩).users =
      ((store.listing filter).drop ((number - 1) * size)).take size := rfl

theorem flatMap_pages (count : Nat) :
    ((List.range count).flatMap fun k => (store.page ⟨filter, k + 1, size⟩).users) =
      (store.listing filter).take (count * size) := by
  simp only [page_users, Nat.add_sub_cancel]
  exact List.flatMap_pieces ..

/-- The pages that there are hold the whole listing. -/
theorem flatMap_all_pages (positive : 0 < size) :
    ((List.range (store.count filter ⌈/⌉ size)).flatMap fun k =>
      (store.page ⟨filter, k + 1, size⟩).users) = store.listing filter := by
  have enough : store.count filter ≤ size * (store.count filter ⌈/⌉ size) :=
    (ceilDiv_le_iff_le_mul positive).1 (Nat.le_refl _)
  rw [flatMap_pages, List.take_of_length_le]
  rw [length_listing, Nat.mul_comm]
  exact enough

theorem page_beyond (positive : 0 < size) {number : Nat}
    (beyond : store.count filter ⌈/⌉ size < number) :
    (store.page ⟨filter, number, size⟩).users = [] := by
  have enough : store.count filter ≤ size * (number - 1) :=
    (ceilDiv_le_iff_le_mul positive).1 (Nat.le_sub_one_of_lt beyond)
  rw [page_users, List.drop_of_length_le, List.take_nil]
  rw [length_listing, Nat.mul_comm]
  exact enough

section Consistent

variable (consistent : store.Consistent)
include consistent

theorem Consistent.listing_ordered : (store.listing filter).Pairwise User.ListedBefore := by
  have distinct : ((store.listing filter).map User.id).Nodup :=
    (listing_perm.map User.id).nodup_iff.2
      (store.selection_ids_nodup (ids_nodup consistent.keyed) filter)
  have sorted := List.pairwise_mergeSort precedes_trans precedes_total (store.selection filter)
  exact (sorted.and (List.pairwise_map.1 distinct)).imp fun both =>
    User.listedBefore_of_precedes both.1 both.2

theorem Consistent.listing_nodup : (store.listing filter).Nodup :=
  listing_perm.nodup_iff.2 (consistent.live_nodup.filter _)

/-- In whatever order the rows stand, the pages are the same. -/
theorem Consistent.page_arranged (layout : Layout) (number : Nat) (query : Query) :
    (layout.arrange number store).page query = store.page query :=
  SameLive.page_eq (fun _ => mem_live_of_perm (layout.perm number store))
    (consistent.of_perm (layout.perm number store)) consistent query

end Consistent

theorem rows_matching :
    (store.rows.filter fun user => user.IsLive ∧ filter.selects user) = store.selection filter := by
  rw [selection, live, List.filter_filter]
  congr 1
  funext user
  rw [Bool.decide_and, Bool.decide_eq_true, Bool.and_comm]

end Store

/-- Each live user whom the filter selects is on one of the pages and on one only; the pages run on
from the newest user to the oldest, greater ids first; and there is nothing behind them. Every page,
and the count, tells how many users there are. The rows may stand in another order whenever a page
is taken. -/
theorem Memory.pages_tile_selection (supplies : Supplies) (layout : Layout) (memory : Memory)
    (reachable : memory.store.Reachable) (filter : Filter) (size : Nat) (positive : 0 < size) :
    let shown (number : Nat) : Memory :=
      { memory with store := layout.arrange number memory.store }
    let matching := memory.store.rows.filter fun user => user.IsLive ∧ filter.selects user
    ∃ pages : Nat → Page,
      (∀ number,
        ((shown number).answer supplies (.list ⟨filter, number, size⟩)).1 = .ok (pages number) ∧
        ((shown number).answer supplies (.count filter)).1 = .ok matching.length ∧
        (pages number).total = matching.length ∧ (pages number).users.length ≤ size) ∧
      (∀ number, matching.length ⌈/⌉ size < number → (pages number).users = []) ∧
      let listed := (List.range (matching.length ⌈/⌉ size)).flatMap fun k => (pages (k + 1)).users
      listed.Perm matching ∧ listed.Nodup ∧ listed.Pairwise User.ListedBefore := by
  intro shown matching
  have consistent := reachable.consistent
  have selected : matching = memory.store.selection filter := Store.rows_matching
  have counted : matching.length = memory.store.count filter := congrArg List.length selected
  rw [counted, selected]
  refine ⟨fun number => memory.store.page ⟨filter, number, size⟩, fun number => ⟨?_, ?_, ?_, ?_⟩,
    fun number beyond => Store.page_beyond positive beyond, ?_⟩
  · exact congrArg Except.ok (consistent.page_arranged layout number _)
  · exact congrArg Except.ok (Store.SameLive.count_eq
      (fun _ => Store.mem_live_of_perm (layout.perm number memory.store))
      (consistent.of_perm (layout.perm number memory.store)) consistent filter)
  · rfl
  · exact List.length_take_le _ _
  · dsimp only
    rw [Store.flatMap_all_pages positive]
    exact ⟨Store.listing_perm, consistent.listing_nodup, consistent.listing_ordered⟩

/-- Two users of one instant on two pages, the rows turned round between the two. -/
theorem Memory.twins_tile :
    let memory := Access.run .still .plain
      [.call (.save { account := "alice" }), .call (.save { account := "bob" })] {}
    memory.store.Reachable ∧ 0 < 1 ∧
    let shown (number : Nat) : Memory :=
      { memory with store := Layout.turning.arrange number memory.store }
    ∃ first second : Page,
      ((shown 1).answer .still (.list ⟨{}, 1, 1⟩)).1 = .ok first ∧
      ((shown 2).answer .still (.list ⟨{}, 2, 1⟩)).1 = .ok second ∧
      (first.users ++ second.users).Perm memory.store.rows ∧
      (first.users ++ second.users).Pairwise User.ListedBefore := by
  intro memory
  have reachable : memory.store.Reachable := Access.run_reachable .still .plain _ {} .empty
  refine ⟨reachable, Nat.one_pos, ?_⟩
  intro shown
  obtain ⟨pages, answered, -, tiled⟩ :=
    pages_tile_selection .still .turning memory reachable {} 1 Nat.one_pos
  have both : memory.store.rows.filter (fun user => user.IsLive ∧ Filter.selects {} user) =
      memory.store.rows := by decide
  have two : memory.store.rows.length ⌈/⌉ 1 = 2 := by decide
  have listed : ((List.range 2).flatMap fun k => (pages (k + 1)).users) =
      (pages 1).users ++ (pages 2).users :=
    congrArg ((pages 1).users ++ ·) (List.append_nil _)
  rw [both, two, listed] at tiled
  exact ⟨pages 1, pages 2, (answered 1).1, (answered 2).1, tiled.1, tiled.2.2⟩

end UserDirectory
