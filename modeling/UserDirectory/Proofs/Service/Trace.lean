import UserDirectory.Proofs.Service.Interference

/-!
What an interleaving has come to. Its calls lead from the first store to the last, each in the store
that the one before it left; and what always holds of an operation by itself holds of its thread.
-/

namespace UserDirectory

/-- Only a call changes the store, and a step that makes a call does nothing else. -/
theorem Program.step_memory (supplies : Supplies) (hasher : Hasher) (program : Program α)
    (memory : Memory) :
    let after := (program.step (Memory.platform supplies hasher) memory).2
    (program.nextCall? = none ∧ after.store = memory.store) ∨
      ∃ wanted, program.nextCall? = some wanted ∧ after = (memory.answer supplies wanted).2 := by
  cases program with
  | done value => exact .inl ⟨rfl, rfl⟩
  | fail failure => exact .inl ⟨rfl, rfl⟩
  | log event rest => exact .inl ⟨rfl, rfl⟩
  | now rest =>
    refine .inl ⟨rfl, ?_⟩
    cases read : supplies.instant memory.usage.instants with
    | ok instant => simp only [step, Memory.platform, Memory.readInstant, Usage.readInstant, read]
    | error failure =>
      simp only [step, Memory.platform, Memory.readInstant, Usage.readInstant, read]
  | digest password rest => exact .inl ⟨rfl, rfl⟩
  | verify password stored rest => exact .inl ⟨rfl, rfl⟩
  | call wanted rest => exact .inr ⟨wanted, rfl, rfl⟩

theorem Thread.move?_thread {supplies : Supplies} {index : Nat} {memory : Memory} {thread : Thread}
    {move : Move} (member : move ∈ (thread.move? supplies index memory).toList) :
    move.thread = index := by
  rw [Option.mem_toList, Thread.move?, Option.map_eq_some_iff] at member
  obtain ⟨wanted, -, rfl⟩ := member
  rfl

/-- The moves lead from one store to the other: each is the answer to its call, in the store that
the one before it left. -/
def Linked (supplies : Supplies) : Store → List Move → Store → Prop
  | first, [], last => first = last
  | first, move :: rest, last =>
    move.before.store = first ∧ move.after = (move.before.answer supplies move.call).2 ∧
      Linked supplies move.after.store rest last

theorem Linked.append {supplies : Supplies} {first middle last : Store} {moves later : List Move}
    (linked : Linked supplies first moves middle) (onward : Linked supplies middle later last) :
    Linked supplies first (moves ++ later) last := by
  induction moves generalizing first with
  | nil =>
    obtain rfl := linked
    exact onward
  | cons move rest ih =>
    obtain ⟨here, answered, linked⟩ := linked
    exact ⟨here, answered, ih linked⟩

theorem Linked.split {supplies : Supplies} {first last : Store} {moves later : List Move}
    (linked : Linked supplies first (moves ++ later) last) :
    ∃ middle, Linked supplies first moves middle ∧ Linked supplies middle later last := by
  induction moves generalizing first with
  | nil => exact ⟨first, rfl, linked⟩
  | cons move rest ih =>
    obtain ⟨here, answered, onward⟩ := linked
    obtain ⟨middle, upto, linked⟩ := ih onward
    exact ⟨middle, ⟨here, answered, upto⟩, linked⟩

theorem Linked.answered {supplies : Supplies} {first last : Store} {moves : List Move}
    (linked : Linked supplies first moves last) :
    ∀ move ∈ moves, move.after = (move.before.answer supplies move.call).2 := by
  induction moves generalizing first with
  | nil => exact fun _ member => absurd member List.not_mem_nil
  | cons move rest ih =>
    obtain ⟨-, answered, linked⟩ := linked
    exact List.forall_mem_cons.2 ⟨answered, ih linked⟩

/-- Where no call changes the store, every call meets the same one. -/
theorem Linked.still {supplies : Supplies} {first last : Store} {moves : List Move}
    (linked : Linked supplies first moves last)
    (kept : ∀ move ∈ moves, move.after.store = move.before.store) :
    ∀ move ∈ moves, move.before.store = first := by
  induction moves generalizing first with
  | nil => exact fun _ member => absurd member List.not_mem_nil
  | cons move rest ih =>
    obtain ⟨rfl, -, onward⟩ := linked
    have same := ih onward fun other member => kept other (.tail _ member)
    rw [kept move List.mem_cons_self] at same
    exact List.forall_mem_cons.2 ⟨rfl, same⟩

namespace Interleaving

/-- What every interleaving of operations, begun with the store `first`, has come to. -/
structure Traced (supplies : Supplies) (operations : List Operation) (first : Store)
    (state : Interleaving) : Prop where
  reachable : state.memory.store.Reachable
  linked : Linked supplies first state.moves state.memory.store
  placed : ∀ move ∈ state.moves, operations[move.thread]? = some move.operation
  threads : state.threads.map Thread.operation = operations

variable {supplies : Supplies} {hasher : Hasher} {operations : List Operation} {first : Store}

theorem Traced.operation_eq {state : Interleaving}
    (traced : state.Traced supplies operations first) {index : Nat} {thread : Thread}
    (here : state.threads[index]? = some thread) : operations[index]? = some thread.operation := by
  rw [← traced.threads, List.getElem?_map, here, Option.map_some]

theorem Traced.thread_of_move {state : Interleaving}
    (traced : state.Traced supplies operations first) {move : Move} (member : move ∈ state.moves) :
    ∃ thread, state.threads[move.thread]? = some thread := by
  have placed := traced.placed move member
  rw [← traced.threads, List.getElem?_map] at placed
  obtain ⟨thread, here, -⟩ := Option.map_eq_some_iff.1 placed
  exact ⟨thread, here⟩

theorem start_traced (settings : Service.Settings) {memory : Memory}
    (reachable : memory.store.Reachable) (operations : List Operation) :
    (start settings memory operations).Traced supplies operations memory.store where
  reachable := reachable
  linked := rfl
  placed _ member := absurd member List.not_mem_nil
  threads := by
    rw [start, List.map_map]
    exact List.map_id operations

theorem step_operations (supplies : Supplies) (hasher : Hasher) (state : Interleaving)
    (index : Nat) :
    (state.step supplies hasher index).threads.map Thread.operation =
      state.threads.map Thread.operation := by
  unfold Interleaving.step
  split
  next => rfl
  next thread here =>
    obtain ⟨bound, rfl⟩ := List.getElem?_eq_some_iff.1 here
    rw [List.map_set]
    apply List.ext_getElem List.length_set
    intro other _ _
    rw [List.getElem_set]
    split
    next same => subst same; rw [List.getElem_map]; rfl
    next elsewhere => rfl

theorem Traced.step {state : Interleaving} (traced : state.Traced supplies operations first)
    (index : Nat) : (state.step supplies hasher index).Traced supplies operations first := by
  have threads := (step_operations supplies hasher state index).trans traced.threads
  cases here : state.threads[index]? with
  | none =>
    simp only [Interleaving.step, here]
    exact traced
  | some thread =>
    simp only [Interleaving.step, here] at threads ⊢
    -- the store moves on only where the log does
    rcases Program.step_memory supplies hasher thread.rest state.memory with
        ⟨silent, kept⟩ | ⟨wanted, calling, answered⟩
    · have none : (thread.move? supplies index state.memory).toList = [] := by
        rw [Thread.move?, silent, Option.map_none, Option.toList_none]
      simp only [none, List.append_nil]
      exact
        { reachable := kept ▸ traced.reachable
          linked := kept ▸ traced.linked
          placed := traced.placed
          threads := threads }
    · rw [Thread.move?, calling, Option.map_some, Option.toList_some]
      have answered : (thread.step supplies hasher state.memory).2 =
          (state.memory.answer supplies wanted).2 := answered
      exact
        { reachable := answered ▸ .answer supplies state.memory wanted traced.reachable
          linked := traced.linked.append ⟨rfl, rfl, congrArg Memory.store answered.symm⟩
          placed := fun move member => by
            rcases List.mem_append.1 member with before | added
            · exact traced.placed move before
            · rw [List.mem_singleton.1 added]
              exact traced.operation_eq here
          threads := threads }

/-- The thread in a role does its operation, and `holds` is true at every point of the rest. -/
def Follows (role : Role) (holds : Past → Option (Except Failure role.operation.Result) → Prop)
    (state : Interleaving) : Prop :=
  ∃ rest digest, state.threads[role.thread]? = some ⟨role.operation, rest, digest⟩ ∧
    rest.Always role holds ⟨state.movesOf role.thread, digest⟩

theorem Follows.step {role : Role}
    {holds : Past → Option (Except Failure role.operation.Result) → Prop} {state : Interleaving}
    (follows : state.Follows role holds) (reachable : state.memory.store.Reachable) (index : Nat) :
    (state.step role.supplies role.hasher index).Follows role holds := by
  obtain ⟨rest, digest, here, always⟩ := follows
  unfold Interleaving.step
  split
  next => exact ⟨rest, digest, here, always⟩
  next thread found =>
    by_cases same : role.thread = index
    · subst same
      obtain rfl := Option.some.inj (here.symm.trans found)
      refine ⟨_, _, List.getElem?_set_self (List.getElem?_eq_some_iff.1 here).1, ?_⟩
      rw [movesOf, List.filter_append, List.filter_eq_self.2 fun move member =>
        decide_eq_true (Thread.move?_thread member)]
      exact always.step reachable
    -- another thread's step is seen in the memory only, and there `Always` admits it
    · refine ⟨rest, digest, (List.getElem?_set_ne (Ne.symm same)).trans here, ?_⟩
      have unmoved : (thread.move? role.supplies index state.memory).toList.filter
          (fun move => move.thread = role.thread) = [] := by
        apply List.filter_eq_nil_iff.2
        intro move member
        rw [Thread.move?_thread member, decide_eq_true_iff]
        exact Ne.symm same
      rw [movesOf, List.filter_append, unmoved, List.append_nil]
      exact always

variable {settings : Service.Settings} {memory : Memory}

theorem run_traced (reachable : memory.store.Reachable) (schedule : List Nat) :
    ((start settings memory operations).run supplies hasher schedule).Traced supplies operations
      memory.store :=
  List.foldlRecOn schedule (step supplies hasher) (start_traced settings reachable operations)
    fun _ traced index _ => traced.step index

/-- What holds of an operation by itself holds of it in every interleaving. -/
theorem run_always {operation : Operation} {index : Nat}
    {holds : Past → Option (Except Failure operation.Result) → Prop}
    (sound : (operation.program settings).Always ⟨supplies, hasher, index, operation⟩ holds {})
    (reachable : memory.store.Reachable) (here : operations[index]? = some operation)
    (schedule : List Nat) :
    ((start settings memory operations).run supplies hasher schedule).Follows
      ⟨supplies, hasher, index, operation⟩ holds := by
  have begun : (start settings memory operations).Follows
      ⟨supplies, hasher, index, operation⟩ holds := by
    refine ⟨_, _, ?_, sound⟩
    rw [start, List.getElem?_map, here]
    rfl
  refine (List.foldlRecOn schedule (step supplies hasher)
    (motive := fun state => state.Traced supplies operations memory.store ∧
      state.Follows ⟨supplies, hasher, index, operation⟩ holds)
    ⟨start_traced settings reachable operations, begun⟩ ?_).2
  rintro state ⟨traced, follows⟩ next -
  exact ⟨traced.step next, follows.step traced.reachable next⟩

end Interleaving

end UserDirectory
