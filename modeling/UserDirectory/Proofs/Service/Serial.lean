import UserDirectory.Proofs.Service.Trace
import UserDirectory.Proofs.Service.WriteOnce

/-!
Interleaved operations that write once have a serial order: that of the writing calls of those that
succeed. Each succeeds as it would alone at its place in this order, and the others do nothing.
-/

namespace UserDirectory

open Service Program

/-- What a store becomes where the operation of a move is run in it alone, from start to finish. -/
def Move.redo (settings : Settings) (supplies : Supplies) (hasher : Hasher) (store : Store)
    (move : Move) : Store :=
  ((move.operation.program settings).run (Memory.platform supplies hasher)
    (move.alone store)).state.store

namespace Interleaving

def writesOf (state : Interleaving) (index : Nat) : List Move :=
  (state.movesOf index).filter fun move => move.call.writes

def succeeds (state : Interleaving) (index : Nat) : Bool :=
  state.threads[index]?.any fun thread => thread.rest.outcome?.any Except.toBool

def commits (state : Interleaving) : List Move :=
  state.moves.filter fun move => move.call.writes && state.succeeds move.thread

end Interleaving

section Order

variable {supplies : Supplies} {first last : Store} {moves : List Move} {commits : Move → Bool}
  {redo : Store → Move → Store}

/-- Where all moves but the commits leave the store alone, doing the commits again in the order in
which they came leads through the stores that they met. -/
theorem Linked.serial (linked : Linked supplies first moves last)
    (kept : ∀ move ∈ moves, commits move = false → move.after.store = move.before.store)
    (redone : ∀ move ∈ moves, commits move = true →
      redo move.before.store move = move.after.store) :
    (moves.filter commits).foldl redo first = last ∧
      ∀ earlier move later, moves.filter commits = earlier ++ move :: later →
        earlier.foldl redo first = move.before.store := by
  induction moves generalizing first with
  | nil => exact ⟨linked, fun earlier move later split => by simp at split⟩
  | cons here rest ih =>
    obtain ⟨rfl, -, linked⟩ := linked
    obtain ⟨ends, passes⟩ := ih linked (fun move member => kept move (.tail _ member))
      fun move member => redone move (.tail _ member)
    -- a commit moves both stores on together, any other move neither
    cases commit : commits here with
    | true =>
      rw [← redone here List.mem_cons_self commit] at ends passes
      rw [List.filter_cons_of_pos commit]
      refine ⟨ends, fun earlier move later split => ?_⟩
      cases earlier with
      | nil => rw [List.head_eq_of_cons_eq split]; rfl
      | cons known earlier =>
        obtain ⟨rfl, onward⟩ := List.cons_eq_cons.1 split
        exact passes earlier move later onward
    | false =>
      rw [kept here List.mem_cons_self commit] at ends passes
      rw [List.filter_cons_of_neg (Bool.eq_false_iff.1 commit)]
      exact ⟨ends, passes⟩

end Order

namespace Interleaving

variable (settings : Settings) (supplies : Supplies) (hasher : Hasher) {memory : Memory}
  {operations : List Operation}

/-- Every thread is sound, at every point of an interleaving. -/
theorem run_sound (reachable : memory.store.Reachable)
    (once : ∀ operation ∈ operations, operation.writesOnce = true) (schedule : List Nat) :
    let final := (start settings memory operations).run supplies hasher schedule
    ∀ index thread, final.threads[index]? = some thread →
      ∃ digest, Sound ⟨supplies, hasher, index, thread.operation⟩
        (thread.operation.program settings) ⟨final.movesOf index, digest⟩
        thread.rest.outcome? := by
  rintro final index ⟨operation, rest, digest⟩ here
  have placed := (run_traced reachable schedule).operation_eq here
  obtain ⟨rest, digest, found, always⟩ :=
    run_always (Operation.sound ⟨supplies, hasher, index, operation⟩ settings
      (once _ (List.mem_of_getElem? placed))) reachable placed schedule
  cases Option.some.inj (here.symm.trans found)
  exact ⟨digest, always.holds⟩

/-- A call keeps the store, unless it is the one that its operation succeeds with. -/
theorem run_settled (reachable : memory.store.Reachable)
    (once : ∀ operation ∈ operations, operation.writesOnce = true) (schedule : List Nat) :
    let final := (start settings memory operations).run supplies hasher schedule
    ∀ move ∈ final.moves,
      ((move.call.writes && final.succeeds move.thread) = false →
        move.after.store = move.before.store) ∧
      ((move.call.writes && final.succeeds move.thread) = true →
        move.redo settings supplies hasher move.before.store = move.after.store) := by
  intro final move member
  have traced : final.Traced supplies operations memory.store := run_traced reachable schedule
  obtain ⟨thread, here⟩ := traced.thread_of_move member
  obtain ⟨digest, sound⟩ :=
    run_sound settings supplies hasher reachable once schedule move.thread thread here
  have own : move ∈ final.movesOf move.thread := List.mem_filter.2 ⟨member, decide_eq_true rfl⟩
  have succeeds : final.succeeds move.thread = thread.rest.outcome?.any Except.toBool := by
    unfold Interleaving.succeeds
    rw [here]
    rfl
  rw [succeeds]
  cases outcome : thread.rest.outcome? with
  | none =>
    rw [outcome] at sound
    exact ⟨fun _ => (sound move own).2, fun commit => by simp at commit⟩
  | some result =>
    rw [outcome] at sound
    cases result with
    | error failure =>
      exact ⟨fun _ => sound move own, fun commit => by simp [Except.toBool] at commit⟩
    | ok value =>
      obtain ⟨only, written, same, -, left⟩ := sound
      cases writes : move.call.writes with
      | false =>
        have answered := traced.linked.answered move member
        rw [Memory.answer_reads supplies move.before writes] at answered
        exact ⟨fun _ => congrArg Memory.store answered, fun commit => by simp at commit⟩
      | true =>
        have single : move ∈ [only] := written ▸ List.mem_filter.2 ⟨own, writes⟩
        obtain rfl := List.mem_singleton.1 single
        refine ⟨fun kept => by simp [Except.toBool] at kept, fun _ => ?_⟩
        rw [Move.redo, same]
        exact left

/-- An interleaving of operations, begun with the store `first`, is as good as a serial order. -/
structure Serializable (settings : Settings) (supplies : Supplies) (hasher : Hasher)
    (first : Store) (operations : List Operation) (final : Interleaving) : Prop where
  operations : final.threads.map Thread.operation = operations
  /-- An operation that comes to a value has written once. Run alone, from start to finish, in the
  store that this write met, with the same clock reading and the same id, it comes to the same value
  and leaves the same store. -/
  succeeded : ∀ index thread, final.threads[index]? = some thread →
    ∀ value, thread.rest.outcome? = some (.ok value) →
      ∃ move, final.writesOf index = [move] ∧ move.operation = thread.operation ∧
        let alone := (thread.operation.program settings).run (Memory.platform supplies hasher)
          (move.alone move.before.store)
        alone.result = .ok value ∧ alone.state.store = move.after.store
  /-- An operation that fails has changed nothing. -/
  failed : ∀ index thread, final.threads[index]? = some thread →
    ∀ failure, thread.rest.outcome? = some (.error failure) →
      ∀ move ∈ final.movesOf index, move.after.store = move.before.store
  /-- The operations that succeed, run alone one after another in the order of their writes, make
  the same store. -/
  serial : final.commits.foldl (Move.redo settings supplies hasher) first = final.memory.store
  /-- Each of them finds the store that its write found. -/
  met : ∀ earlier move later, final.commits = earlier ++ move :: later →
    earlier.foldl (Move.redo settings supplies hasher) first = move.before.store

/-- However the steps of operations that write once are interleaved, there is a serial order. -/
theorem run_serializable (settings : Settings) (supplies : Supplies) (hasher : Hasher)
    (memory : Memory) (reachable : memory.store.Reachable) (operations : List Operation)
    (once : ∀ operation ∈ operations, operation.writesOnce = true) (schedule : List Nat) :
    Serializable settings supplies hasher memory.store operations
      ((start settings memory operations).run supplies hasher schedule) := by
  have traced : Traced supplies operations memory.store
      ((start settings memory operations).run supplies hasher schedule) :=
    run_traced reachable schedule
  have settled := run_settled settings supplies hasher reachable once schedule
  obtain ⟨serial, met⟩ := traced.linked.serial (fun move member => (settled move member).1)
    fun move member => (settled move member).2
  exact
    { operations := traced.threads
      succeeded := fun index thread here value outcome => by
        obtain ⟨digest, sound⟩ :=
          run_sound settings supplies hasher reachable once schedule index thread here
        rw [outcome] at sound
        exact sound
      failed := fun index thread here failure outcome => by
        obtain ⟨digest, sound⟩ :=
          run_sound settings supplies hasher reachable once schedule index thread here
        rw [outcome] at sound
        exact sound
      serial := serial
      met := met }

def rivals : List Operation :=
  [.createUser { account := "alice", password := "pw1" },
    .createUser { account := "alice", password := "pw2" }]

def rivalry : Interleaving :=
  (start .utc .empty rivals).run .still .plain [0, 1, 0, 1, 0, 1, 0, 0, 0, 1]

theorem rivalry_serializable :
    Serializable .utc .still .plain .empty rivals rivalry ∧
      rivalry.moves.map (fun move => (move.thread, move.call.name)) =
        [(0, "find_by_account"), (1, "find_by_account"), (0, "save"), (1, "save")] ∧
      rivalry.commits.map Move.thread = [0] :=
  ⟨run_serializable .utc .still .plain .empty .empty rivals (by decide) _, by decide, by decide⟩

end Interleaving

end UserDirectory
