import UserDirectory.Proofs.Service.Run
import UserDirectory.Proofs.Service.Trace
import UserDirectory.Proofs.Statistics.Count

/-!
The statistics of a user directory that changes while they are counted. The six counts are six
calls, so each is taken of a store of its own.
-/

namespace UserDirectory

open Service Program

/-- Every user is active or inactive, and who registered in a period did so in each longer one. -/
structure Statistics.Consistent (counted : Statistics) : Prop where
  parts : counted.active + counted.inactive = counted.total
  week : counted.today ≤ counted.thisWeek
  month : counted.thisWeek ≤ counted.thisMonth
  all : counted.thisMonth ≤ counted.total

structure Met where
  total : Store
  active : Store
  inactive : Store
  today : Store
  thisWeek : Store
  thisMonth : Store

namespace Met

def stores (met : Met) : List Store :=
  [met.total, met.active, met.inactive, met.today, met.thisWeek, met.thisMonth]

def statistics (met : Met) (scope : Filter) (windows : Windows) : Statistics where
  total := met.total.count scope
  active := met.active.count (scope.withStatus .enabled)
  inactive := met.inactive.count (scope.withStatus .disabled)
  today := met.today.count (scope.createdSince windows.today)
  thisWeek := met.thisWeek.count (scope.createdSince windows.thisWeek)
  thisMonth := met.thisMonth.count (scope.createdSince windows.thisMonth)

end Met

def Counted (scope : Filter) (past : Past) : Option (Except Failure Statistics) → Prop
  | some (.ok counted) => ∃ windows met,
    windows.thisMonth ≤ windows.thisWeek ∧ windows.thisWeek ≤ windows.today ∧
    past.moves.map (fun move => (move.call, move.before.store)) =
      ((scope :: scope.narrowings windows).map Call.count).zip (Met.stores met) ∧
    counted = met.statistics scope windows
  | _ => True

theorem always_count {role : Role} {past : Past} {filter : Filter}
    {holds : Past → Option (Except Failure Nat) → Prop} :
    Always role holds past (ask (.count filter) : Program Nat) ↔
      holds past none ∧ ∀ before : Memory, before.store.Reachable →
        holds (past.after role (.count filter) before) (some (.ok (before.store.count filter))) :=
  Iff.rfl

theorem countEach_counted (role : Role) (scope : Filter) {windows : Windows}
    (nested : windows.thisMonth ≤ windows.thisWeek ∧ windows.thisWeek ≤ windows.today) :
    (countEach scope windows).Always role (Counted scope) {} := by
  refine always_bind.2 (always_count.2 ⟨trivial, fun total _ => ?_⟩)
  refine always_bind.2 (always_count.2 ⟨trivial, fun active _ => ?_⟩)
  refine always_bind.2 (always_count.2 ⟨trivial, fun inactive _ => ?_⟩)
  refine always_bind.2 (always_count.2 ⟨trivial, fun today _ => ?_⟩)
  refine always_bind.2 (always_count.2 ⟨trivial, fun thisWeek _ => ?_⟩)
  refine always_bind.2 (always_count.2 ⟨trivial, fun thisMonth _ => ?_⟩)
  exact ⟨windows, ⟨total.store, active.store, inactive.store, today.store, thisWeek.store,
    thisMonth.store⟩, nested.1, nested.2, rfl, rfl⟩

theorem getUserStatistics_counted (role : Role) (offset : Offset) (tenantId : Option String) :
    (getUserStatistics ⟨offset, .byCount⟩ tenantId).Always role
      (Counted (Filter.ofTenant (supplied tenantId))) {} := by
  refine always_bind.2 (always_event.2 ?_)
  refine always_bind.2 (always_clock.2 ⟨trivial, fun reading => ?_⟩)
  cases reading with
  | error failure => trivial
  | ok now =>
    refine always_bind.2 (always_inCalendar.2 ⟨fun windows found => ?_, fun _ => trivial⟩)
    refine always_bind.2 (always_event.2 ?_)
    exact countEach_counted role _ (Windows.at?_nested found)

/-- Counted in one store, the statistics of a scope without a status and a first instant are
consistent. -/
theorem Memory.statistics_consistent (store : Store) {scope : Filter} (status : scope.status = none)
    (start : scope.createdFrom = none) {windows : Windows}
    (month : windows.thisMonth ≤ windows.thisWeek) (week : windows.thisWeek ≤ windows.today) :
    (Memory.statistics store scope windows).Consistent where
  parts := Store.count_statuses status
  week := Store.count_createdSince_mono start week
  month := Store.count_createdSince_mono start month
  all := Store.count_createdSince_le start windows.thisMonth

/-- What came and went between the total and the counts of the two statuses evens out, and no period
held more users when it was counted than the next longer one did when that was counted. -/
structure Met.Balanced (met : Met) (scope : Filter) (windows : Windows) : Prop where
  parts : met.active.count (scope.withStatus .enabled) +
      met.inactive.count (scope.withStatus .disabled) =
    met.total.count (scope.withStatus .enabled) + met.total.count (scope.withStatus .disabled)
  week : met.today.count (scope.createdSince windows.today) ≤
    met.thisWeek.count (scope.createdSince windows.thisWeek)
  month : met.thisWeek.count (scope.createdSince windows.thisWeek) ≤
    met.thisMonth.count (scope.createdSince windows.thisMonth)
  all : met.thisMonth.count (scope.createdSince windows.thisMonth) ≤ met.total.count scope

theorem Met.consistent_iff (met : Met) {scope : Filter} (status : scope.status = none)
    (windows : Windows) :
    (met.statistics scope windows).Consistent ↔ met.Balanced scope windows := by
  have parts : met.total.count (scope.withStatus .enabled) +
      met.total.count (scope.withStatus .disabled) = met.total.count scope :=
    Store.count_statuses status
  constructor
  · intro consistent
    exact ⟨consistent.parts.trans parts.symm, consistent.week, consistent.month, consistent.all⟩
  · intro balanced
    exact ⟨balanced.parts.trans parts, balanced.week, balanced.month, balanced.all⟩

namespace Interleaving

def Undisturbed (state : Interleaving) (index : Nat) : Prop :=
  ∃ earlier middle later, state.moves = earlier ++ middle ++ later ∧
    (∀ move ∈ earlier ++ later, move.thread ≠ index) ∧
    ∀ move ∈ middle, move.after.store = move.before.store

theorem Undisturbed.met_one {supplies : Supplies} {operations : List Operation} {first : Store}
    {state : Interleaving} {index : Nat} (undisturbed : state.Undisturbed index)
    (traced : state.Traced supplies operations first) :
    ∃ store, ∀ move ∈ state.movesOf index, move.before.store = store := by
  obtain ⟨earlier, middle, later, parts, outside, kept⟩ := undisturbed
  have linked := traced.linked
  rw [parts] at linked
  -- all calls of the thread lie in the middle, where the store stands still
  obtain ⟨ended, linked, -⟩ := linked.split
  obtain ⟨store, -, linked⟩ := linked.split
  refine ⟨store, fun move member => linked.still kept move ?_⟩
  obtain ⟨member, own⟩ := List.mem_filter.1 member
  have own : move.thread = index := of_decide_eq_true own
  rw [parts] at member
  rcases List.mem_append.1 member with within | after
  · rcases List.mem_append.1 within with before | within
    · exact absurd own (outside move (List.mem_append_left _ before))
    · exact within
  · exact absurd own (outside move (List.mem_append_right _ after))

/-- Statistics are six counts of the stores that the calls of a thread met, one after the other.
They are consistent exactly if the six counts balance, and so where nobody writes between the first
of them and the last. -/
def Tallied (state : Interleaving) (index : Nat) (scope : Filter) (counted : Statistics) : Prop :=
  ∃ windows met,
    (state.movesOf index).map (fun move => (move.call, move.before.store)) =
      ((scope :: scope.narrowings windows).map Call.count).zip (Met.stores met) ∧
    counted = met.statistics scope windows ∧
    (counted.Consistent ↔ met.Balanced scope windows) ∧
    (state.Undisturbed index → counted.Consistent)

/-- Whatever other operations do meanwhile, the statistics that are returned are six counts of six
stores. -/
theorem run_tallied (offset : Offset) (supplies : Supplies) (hasher : Hasher) (memory : Memory)
    (reachable : memory.store.Reachable) (operations : List Operation) (index : Nat)
    (tenantId : Option String) (asked : operations[index]? = some (.getUserStatistics tenantId))
    (schedule : List Nat) :
    let final := (start ⟨offset, .byCount⟩ memory operations).run supplies hasher schedule
    ∃ rest digest, final.threads[index]? = some ⟨.getUserStatistics tenantId, rest, digest⟩ ∧
      ∀ counted : Statistics, rest.outcome? = some (.ok counted) →
        final.Tallied index (Filter.ofTenant (supplied tenantId)) counted := by
  intro final
  let scope := Filter.ofTenant (supplied tenantId)
  have sound : (Operation.program ⟨offset, .byCount⟩ (.getUserStatistics tenantId)).Always
      ⟨supplies, hasher, index, .getUserStatistics tenantId⟩ (Counted scope) {} :=
    getUserStatistics_counted _ offset tenantId
  obtain ⟨rest, digest, found, always⟩ := run_always sound reachable asked schedule
  refine ⟨rest, digest, found, fun counted outcome => ?_⟩
  have reached := always.holds
  rw [outcome] at reached
  obtain ⟨windows, met, month, week, calls, rfl⟩ := reached
  refine ⟨windows, met, calls, rfl, met.consistent_iff rfl windows, fun undisturbed => ?_⟩
  obtain ⟨store, one⟩ := undisturbed.met_one (run_traced reachable schedule)
  have stores : met.stores = (final.movesOf index).map fun move => move.before.store := by
    have sizes : met.stores.length ≤ ((scope :: scope.narrowings windows).map Call.count).length :=
      Nat.le_refl 6
    have zipped := congrArg (List.map Prod.snd) calls
    rw [List.map_map, List.map_snd_zip sizes] at zipped
    exact zipped.symm
  have all : ∀ other ∈ met.stores, other = store := by
    rw [stores]
    exact List.forall_mem_map.2 one
  obtain ⟨total, active, inactive, today, thisWeek, thisMonth⟩ := met
  simp only [Met.stores, List.forall_mem_cons] at all
  obtain ⟨rfl, rfl, rfl, rfl, rfl, rfl, -⟩ := all
  exact Memory.statistics_consistent _ rfl rfl month week

def overtaken : Interleaving :=
  let operations : List Operation :=
    [.getUserStatistics none, .createUser { account := "alice", password := "pw1" }]
  (start .utc .empty operations).run .still .plain
    ([0, 0, 0, 0] ++ List.replicate 5 1 ++ List.replicate 5 0)

theorem overtaken_tallied :
    Store.empty.Reachable ∧ overtaken.Tallied 0 (Filter.ofTenant none) ⟨0, 1, 0, 1, 1, 1⟩ := by
  obtain ⟨rest, digest, found, tallied⟩ := run_tallied .utc .still .plain .empty .empty
    [.getUserStatistics none, .createUser { account := "alice", password := "pw1" }] 0 none rfl
    ([0, 0, 0, 0] ++ List.replicate 5 1 ++ List.replicate 5 0)
  cases Option.some.inj found
  exact ⟨.empty, tallied _ rfl⟩

theorem overtaken_inconsistent :
    overtaken.threads[0]? = some ⟨.getUserStatistics none, .done ⟨0, 1, 0, 1, 1, 1⟩, none⟩ ∧
      ¬(Statistics.mk 0 1 0 1 1 1).Consistent :=
  ⟨rfl, fun consistent => absurd consistent.parts (by decide)⟩

end Interleaving

end UserDirectory
