import UserDirectory.Proofs.Service.Run
import UserDirectory.Proofs.Store.Change
import UserDirectory.Service.Operation
import UserDirectory.Service.Platform

/-!
The store stays consistent: every row stands under its own id, and no two live rows share an
account, an email or a mobile number. The guard of an update passes over the rows with the id of
the patch, so it guards the right rows only because keys and ids agree.
-/

namespace UserDirectory

structure User.Apart (a b : User) : Prop where
  account : a.account ≠ b.account
  email : ∀ text, text ≠ "" → a.email = some text → b.email ≠ some text
  mobile : ∀ text, text ≠ "" → a.mobile = some text → b.mobile ≠ some text

theorem User.Apart.symm {a b : User} (apart : a.Apart b) : b.Apart a where
  account same := apart.account same.symm
  email text supplied held other := apart.email text supplied other held
  mobile text supplied held other := apart.mobile text supplied other held

theorem mem_nonEmptyText {value : Option String} {text : String} :
    text ∈ nonEmptyText value ↔ value = some text ∧ text ≠ "" := by
  rw [nonEmptyText, Option.mem_def, Option.filter_eq_some_iff, Bool.not_eq_true',
    ← Bool.not_eq_true, String.isEmpty_iff]

namespace Store

structure Consistent (store : Store) : Prop where
  keyed : ∀ entry ∈ store.entries, entry.1 = entry.2.id.text
  apart : ∀ a ∈ store.entries, ∀ b ∈ store.entries, a.1 ≠ b.1 → a.2.IsLive → b.2.IsLive →
    a.2.Apart b.2

theorem empty_consistent : Consistent {} where
  keyed _ member := absurd member List.not_mem_nil
  apart _ member := absurd member List.not_mem_nil

/-- A row may be put under its id where it is apart from the live rows under other keys. -/
theorem Consistent.put {store : Store} (consistent : store.Consistent) {key : String} {row : User}
    (own : key = row.id.text)
    (free : row.IsLive → ∀ entry ∈ store.entries, entry.1 ≠ key → entry.2.IsLive →
      row.Apart entry.2) : (store.put key row).Consistent where
  keyed entry member := by
    rcases mem_put.1 member with rfl | ⟨before, -⟩
    · exact own
    · exact consistent.keyed entry before
  apart a memberA b memberB different aliveA aliveB := by
    rcases mem_put.1 memberA with rfl | ⟨beforeA, elsewhereA⟩
    · rcases mem_put.1 memberB with rfl | ⟨beforeB, elsewhereB⟩
      · exact absurd rfl different
      · exact free aliveA b beforeB elsewhereB aliveB
    · rcases mem_put.1 memberB with rfl | ⟨beforeB, -⟩
      · exact (free aliveB a beforeA elsewhereA aliveA).symm
      · exact consistent.apart a beforeA b beforeB different aliveA aliveB

/-- The row in the place of a live row, where the guard has passed the new values in it. -/
theorem Consistent.alter {store : Store} (consistent : store.Consistent) {id : UserId}
    {row changed : User} (found : store.liveRow? id = some row) (sameId : changed.id = row.id)
    (free : changed.IsLive → ∀ other ∈ store.others (some id), row.Apart other →
      changed.Apart other) : (store.put id.text changed).Consistent := by
  obtain ⟨member, alive⟩ := liveRow?_eq_some.1 found
  apply consistent.put
  · rw [sameId]
    exact consistent.keyed _ member
  · intro live entry before elsewhere aliveEntry
    -- another key is another id, so the guard has not passed over this row
    have other : entry.2 ∈ store.others (some id) := by
      refine mem_others.2 ⟨entry.1, before, aliveEntry, fun same => elsewhere ?_⟩
      rw [consistent.keyed entry before, Option.some.inj same]
    exact free live entry.2 other
      (consistent.apart _ member entry before elsewhere.symm alive aliveEntry)

theorem added_apart {store : Store} {new : NewUser} {id : UserId} {now : Instant}
    (free : store.conflict? none new.claimed = none) {entry : String × User}
    (member : entry ∈ store.entries) (alive : entry.2.IsLive) :
    (User.ofNew id new now).Apart entry.2 := by
  have other : entry.2 ∈ store.others none :=
    mem_others.2 ⟨entry.1, member, alive, Option.some_ne_none _⟩
  obtain ⟨account, email, mobile⟩ := conflict?_eq_none.1 free entry.2 other
  exact
    { account := fun same => account _ rfl same.symm
      email := fun text supplied held => email text (mem_nonEmptyText.2 ⟨held, supplied⟩)
      mobile := fun text supplied held => mobile text (mem_nonEmptyText.2 ⟨held, supplied⟩) }

theorem patched_apart {store : Store} {patch : Patch} {row other : User} {now : Instant}
    (free : store.conflict? (some patch.id) patch.claimed = none)
    (member : other ∈ store.others (some patch.id)) (apart : row.Apart other) :
    (patch.apply row now).Apart other := by
  obtain ⟨-, email, mobile⟩ := conflict?_eq_none.1 free other member
  refine ⟨apart.account, ?_, ?_⟩
  · intro text supplied held
    rcases Option.or_eq_some_iff.1 (Option.orElse_eq_or.symm.trans held) with brought | ⟨-, kept⟩
    · exact email text (mem_nonEmptyText.2 ⟨brought, supplied⟩)
    · exact apart.email text supplied kept
  · intro text supplied held
    rcases Option.or_eq_some_iff.1 (Option.orElse_eq_or.symm.trans held) with brought | ⟨-, kept⟩
    · exact mobile text (mem_nonEmptyText.2 ⟨brought, supplied⟩)
    · exact apart.mobile text supplied kept

theorem Consistent.change {supplies : Supplies} {memory : Memory} {call : Call} {after : Store}
    (consistent : memory.store.Consistent) (change : Memory.Change supplies memory call after) :
    after.Consistent := by
  cases change with
  | kept => exact consistent
  | added new id now _ _ free _ =>
    exact consistent.put rfl fun _ entry member _ alive => added_apart free member alive
  | patched patch row now found _ free =>
    exact consistent.alter found rfl fun _ other member apart => patched_apart free member apart
  | deleted id row now found _ =>
    exact consistent.alter found rfl fun live => absurd live (Option.some_ne_none now)
  | switched id status updateBy row now found _ =>
    exact consistent.alter found rfl fun _ other _ apart =>
      ⟨apart.account, apart.email, apart.mobile⟩

/-- The stores that calls can make of the empty one, whatever the clock and the source of ids
give. -/
inductive Reachable : Store → Prop
  | empty : Reachable {}
  | answer (supplies : Supplies) (memory : Memory) (call : Call)
      (before : Reachable memory.store) : Reachable (memory.answer supplies call).2.store

theorem Reachable.consistent {store : Store} (reachable : store.Reachable) :
    store.Consistent := by
  induction reachable with
  | empty => exact empty_consistent
  | answer supplies memory call _ ih => exact ih.change (Memory.answer_change supplies memory call)

end Store

theorem Memory.run_reachable (supplies : Supplies) (hasher : Hasher) (program : Program α)
    (memory : Memory) (reachable : memory.store.Reachable) :
    (program.run (Memory.platform supplies hasher) memory).state.store.Reachable :=
  Program.run_keeps (fun memory => memory.store.Reachable)
    (fun _ before => before) (fun _ _ before => before)
    (fun wanted memory before => .answer supplies memory wanted before) program memory reachable

theorem Memory.run_consistent (supplies : Supplies) (hasher : Hasher) (program : Program α)
    (memory : Memory) (consistent : memory.store.Consistent) :
    (program.run (Memory.platform supplies hasher) memory).state.store.Consistent :=
  Program.run_keeps (fun memory => memory.store.Consistent)
    (fun _ before => before) (fun _ _ before => before)
    (fun wanted memory before => before.change (Memory.answer_change supplies memory wanted))
    program memory consistent

/-- What is asked of a store: one call, or the deletion of a batch, which makes one call for each
item that is an id. -/
inductive Access
  | call (call : Call)
  | batchDelete (ids : List String)

namespace Access

def perform (supplies : Supplies) (hasher : Hasher) (memory : Memory) : Access → Memory
  | call wanted => (memory.answer supplies wanted).2
  | batchDelete ids =>
    ((Service.deleteItems ids {}).run (Memory.platform supplies hasher) memory).state

def run (supplies : Supplies) (hasher : Hasher) (accesses : List Access) (memory : Memory) :
    Memory :=
  accesses.foldl (perform supplies hasher) memory

theorem run_reachable (supplies : Supplies) (hasher : Hasher) (accesses : List Access)
    (memory : Memory) (reachable : memory.store.Reachable) :
    (run supplies hasher accesses memory).store.Reachable := by
  induction accesses generalizing memory with
  | nil => exact reachable
  | cons access rest ih =>
    apply ih
    cases access with
    | call wanted => exact .answer supplies memory wanted reachable
    | batchDelete ids => exact Memory.run_reachable supplies hasher _ memory reachable

/-- However many calls and batches come to the empty store, and whatever the clock and the source
of ids give: each row stands under its own id, each id satisfies its rule, and two live rows under
different keys share no account, no email and no mobile number. -/
theorem run_apart (supplies : Supplies) (hasher : Hasher) (accesses : List Access) :
    let entries := (run supplies hasher accesses {}).store.entries
    (∀ entry ∈ entries, entry.1 = entry.2.id.text ∧ Rule.id entry.2.id.text = .ok ()) ∧
    ∀ a ∈ entries, ∀ b ∈ entries, a.1 ≠ b.1 → a.2.IsLive → b.2.IsLive →
      a.2.account ≠ b.2.account ∧
      (∀ text, text ≠ "" → ¬(a.2.email = some text ∧ b.2.email = some text)) ∧
      ∀ text, text ≠ "" → ¬(a.2.mobile = some text ∧ b.2.mobile = some text) := by
  intro entries
  have consistent := (run_reachable supplies hasher accesses {} .empty).consistent
  refine ⟨fun entry member => ⟨consistent.keyed entry member, entry.2.id.valid⟩, ?_⟩
  intro a memberA b memberB different aliveA aliveB
  have apart := consistent.apart a memberA b memberB different aliveA aliveB
  refine ⟨apart.account, ?_, ?_⟩
  · rintro text supplied ⟨held, other⟩
    exact apart.email text supplied held other
  · rintro text supplied ⟨held, other⟩
    exact apart.mobile text supplied held other

end Access

end UserDirectory
