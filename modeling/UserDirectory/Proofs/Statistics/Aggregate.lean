import UserDirectory.Proofs.Service.Run
import UserDirectory.Proofs.Sql.Peer
import UserDirectory.Proofs.Statistics.Count

/-!
The six statistics, counted one by one in memory and all at once by the database. A single count
replaces the status or the first instant of the scope by its own, where the database adds its own
to the scope. So the two agree exactly where no count on its own leaves the scope.
-/

namespace UserDirectory

open Sql Service Database

def Store.countWithin (store : Store) (scope filter : Filter) : Nat :=
  ((store.selection filter).filter scope.selects).length

def Store.aggregate (store : Store) (scope : Filter) (windows : Windows) : Statistics where
  total := store.count scope
  active := store.countWithin scope (scope.withStatus .enabled)
  inactive := store.countWithin scope (scope.withStatus .disabled)
  today := store.countWithin scope (scope.createdSince windows.today)
  thisWeek := store.countWithin scope (scope.createdSince windows.thisWeek)
  thisMonth := store.countWithin scope (scope.createdSince windows.thisMonth)

theorem run_countEach (supplies : Supplies) (hasher : Hasher) (memory : Memory) (scope : Filter)
    (windows : Windows) :
    ((Counting.byCount.program scope windows).run (Memory.platform supplies hasher) memory).result =
      .ok (Memory.statistics memory.store scope windows) := rfl

/-- A count of the database over the scope, with a condition more, is a count within the scope. -/
theorem Store.countOf_within (store : Store) (scope narrowed : Filter)
    (conditions : List Condition) (wanted : User → Bool)
    (agree : ∀ user, Condition.selects conditions user.row = wanted user)
    (narrows : ∀ user, (scope.selects user && narrowed.selects user) =
      (scope.selects user && wanted user)) :
    Table.countOf ((store.selection scope).map User.row) conditions =
      .integer (store.countWithin scope narrowed) := by
  rw [Table.countOf_map _ _ wanted agree, Store.countWithin, Store.selection, Store.selection,
    List.filter_filter, List.filter_filter]
  congr 4
  funext user
  rw [narrows, Bool.and_comm]

theorem Store.statisticsRow_eq (store : Store) (scope : Filter) (windows : Windows) :
    store.table.statisticsRow windows scope.liveConditions =
      let counted := store.aggregate scope windows
      [("total_users", .integer counted.total), ("active_users", .integer counted.active),
        ("inactive_users", .integer counted.inactive),
        ("today_registered", .integer counted.today),
        ("this_week_registered", .integer counted.thisWeek),
        ("this_month_registered", .integer counted.thisMonth)] := by
  have total : Table.countOf ((store.selection scope).map User.row) [] =
      .integer (store.count scope) := by
    have all : Table.selected ((store.selection scope).map User.row) [] =
        (store.selection scope).map User.row := List.filter_eq_self.2 fun _ _ => rfl
    rw [Table.countOf, all, List.length_map]
    rfl
  -- the statuses stand in the text of the statement, the instants are bound to it
  have status (wanted : Status) :
      Table.countOf ((store.selection scope).map User.row)
        [.comparesWritten .status .equal (.inl wanted.code)] =
        .integer (store.countWithin scope (scope.withStatus wanted)) := by
    apply store.countOf_within scope _ _ (fun user => decide (user.status = wanted))
    · intro user
      rw [Condition.selects, List.all_cons, List.all_nil, Bool.and_true]
      exact decide_eq_decide.2 (iff_of_eq (equal_status_truth user.status wanted))
    · exact scope.withStatus_selects wanted
  have since (start : Instant) :
      Table.countOf ((store.selection scope).map User.row)
        [.compares .createdAt .notBefore (.instant start)] =
        .integer (store.countWithin scope (scope.createdSince start)) := by
    apply store.countOf_within scope _ _ (fun user => decide (start ≤ user.createdAt))
    · intro user
      rw [Condition.selects, List.all_cons, List.all_nil, Bool.and_true]
      exact decide_eq_decide.2 (iff_of_eq (notBefore_truth user.createdAt start))
    · exact scope.createdSince_selects start
  have enabled := status .enabled
  have disabled := status .disabled
  simp only [Status.code] at enabled disabled
  simp only [Table.statisticsRow, Store.selected_table, total, enabled, disabled, since,
    Store.aggregate]

/-- What the database answers is what its one statement counts. -/
theorem hold_statistics (store : Store) (scope : Filter) (windows : Windows) :
    ((UserStore.statistics scope windows).hold Table.peer store.table).result =
      .ok (store.aggregate scope windows) := by
  have row := store.statisticsRow_eq scope windows
  simp only [UserStore.statistics, Exchange.ask, bind, Exchange.bind, Exchange.hold, Table.peer,
    Table.run, Sql.Result.answer, row]
  rfl

theorem Store.countWithin_le (store : Store) (scope filter : Filter) :
    store.countWithin scope filter ≤ store.count scope := by
  have swapped : (store.selection filter).filter scope.selects =
      (store.selection scope).filter filter.selects := by
    rw [selection, selection, List.filter_filter, List.filter_filter]
    congr 1
    funext user
    exact Bool.and_comm _ _
  rw [countWithin, swapped]
  exact List.length_filter_le _ _

/-- A count leaves the scope exactly where it selects a live user out of scope. -/
theorem Store.count_eq_countWithin (store : Store) (scope filter : Filter) :
    store.count filter = store.countWithin scope filter ↔
      ∀ user ∈ store.live, filter.selects user = true → scope.selects user = true := by
  rw [eq_comm, countWithin, count, List.length_filter_eq_length_iff]
  constructor
  · intro within user member selected
    exact within user (List.mem_filter.2 ⟨member, selected⟩)
  · intro within user member
    exact within user (List.mem_filter.1 member).1 (List.mem_filter.1 member).2

/-- The six counts in memory and the six of the database's one statement always both come about.
The database counts within the scope only. The counts in memory are the same exactly if no count
selects a live user out of scope, as in every scope without a status and a first instant. -/
theorem counts_eq_aggregate_iff (supplies : Supplies) (hasher : Hasher) (memory : Memory)
    (scope : Filter) (windows : Windows) :
    ∃ counted aggregated : Statistics,
      ((Counting.byCount.program scope windows).run (Memory.platform supplies hasher)
        memory).result = .ok counted ∧
      ((UserStore.statistics scope windows).hold Table.peer memory.store.table).result =
        .ok aggregated ∧
      counted.total = aggregated.total ∧
      (aggregated.active ≤ aggregated.total ∧ aggregated.inactive ≤ aggregated.total ∧
        aggregated.today ≤ aggregated.total ∧ aggregated.thisWeek ≤ aggregated.total ∧
        aggregated.thisMonth ≤ aggregated.total) ∧
      (counted = aggregated ↔ ∀ narrowed ∈ scope.narrowings windows,
        ∀ user ∈ memory.store.live, narrowed.selects user = true → scope.selects user = true) ∧
      (scope.status = none → scope.createdFrom = none → counted = aggregated) := by
  have agree : Memory.statistics memory.store scope windows = memory.store.aggregate scope windows ↔
      ∀ narrowed ∈ scope.narrowings windows, ∀ user ∈ memory.store.live,
        narrowed.selects user = true → scope.selects user = true := by
    simp only [Filter.narrowings, List.forall_mem_cons, List.not_mem_nil, false_implies,
      implies_true, and_true, ← Store.count_eq_countWithin, Memory.statistics, Store.aggregate,
      Statistics.mk.injEq, true_and]
  refine ⟨_, _, run_countEach supplies hasher memory scope windows,
    hold_statistics memory.store scope windows, rfl, ?_, agree, ?_⟩
  · have within := memory.store.countWithin_le scope
    exact ⟨within _, within _, within _, within _, within _⟩
  · intro status start
    exact agree.2 fun narrowed member user _ => Filter.narrowing_selects status start member

def Store.single : Store :=
  Store.empty.put "u-1" (User.ofNew .first { account := "alice" } .epoch)

/-- Of the disabled users there are none, yet the count of the enabled ones finds the enabled user
out of scope. -/
theorem counts_leave_scope :
    ((Counting.byCount.program { status := some .disabled } ⟨.epoch, .epoch, .epoch⟩).run
      (Memory.platform .still .plain) { store := .single }).result = .ok ⟨0, 1, 0, 0, 0, 0⟩ ∧
    ((UserStore.statistics { status := some .disabled } ⟨.epoch, .epoch, .epoch⟩).hold Table.peer
      Store.single.table).result = .ok ⟨0, 0, 0, 0, 0, 0⟩ :=
  ⟨rfl, rfl⟩

end UserDirectory
