import UserDirectory.Proofs.Database.Exchange
import UserDirectory.Proofs.Service.Run
import UserDirectory.Proofs.Sql.Peer
import UserDirectory.Proofs.Store.Order

/-!
The database selects the users that the store in memory selects. A selection is written as
conditions joined by `AND`; a row comes back if they are true of it together, and it is the row of a
live user whom the filter selects. So counts and listings over the same rows are the same.
-/

namespace UserDirectory

open Sql Database

namespace Sql

def conjunction : Option Bool → Option Bool → Option Bool
  | some true, other => other
  | some false, _ => some false
  | none, some false => some false
  | none, _ => none

theorem conjunction_eq_true {a b : Option Bool} :
    conjunction a b = some true ↔ a = some true ∧ b = some true := by
  rcases a with _ | _ | _ <;> rcases b with _ | _ | _ <;> simp [conjunction]

/-- The truth of conditions that are all joined by `AND`. -/
def Condition.joinedTruth (conditions : List Condition) (row : Row) : Option Bool :=
  (conditions.map (truth row)).foldr conjunction (some true)

/-- A row is selected if the conditions are true of it together; they may also be false, or
neither. -/
theorem Condition.joinedTruth_eq_true (conditions : List Condition) (row : Row) :
    joinedTruth conditions row = some true ↔ selects conditions row = true := by
  unfold joinedTruth selects
  induction conditions with
  | nil => exact iff_of_true rfl rfl
  | cons condition rest ih =>
    rw [List.map_cons, List.foldr_cons, conjunction_eq_true, List.all_cons, Bool.and_eq_true, ih,
      decide_eq_true_iff]

end Sql

theorem mapM_ofFetched (users : List User) :
    ((users.map User.row).map Row.fetched).mapM User.ofFetched = .ok users := by
  induction users with
  | nil => rfl
  | cons user rest ih =>
    rw [List.map_cons, List.map_cons, List.mapM_cons, User.ofFetched_eq_ok.2 rfl, ih]
    rfl

section Held

variable (users : List User)

theorem eval_count (filter : Filter) :
    (UserStore.count filter).eval Table.peer (users.map User.row) =
      (.ok (filter.liveOf users).length, users.map User.row) := by
  unfold UserStore.count
  rw [Exchange.eval_bind, Exchange.eval_ask]
  simp only [Table.peer, Table.run, Table.countOf, Table.selected_map, List.length_map]
  rfl

theorem newestFirst_row (a b : User) : Table.newestFirst a.row b.row = Store.precedes a b := rfl

def Query.cutFrom (query : Query) (selected : List User) : List User :=
  ((selected.mergeSort Store.precedes).drop (Statement.cut query.skip)).take
    (Statement.cut query.limit)

theorem run_list (query : Query) :
    Table.run (users.map User.row) (.list query) =
      (.rows (((query.cutFrom (query.filter.liveOf users)).map User.row).map Row.fetched),
        users.map User.row) := by
  have sorted : ((query.filter.liveOf users).map User.row).mergeSort Table.newestFirst =
      ((query.filter.liveOf users).mergeSort Store.precedes).map User.row :=
    (List.map_mergeSort fun a _ b _ => (newestFirst_row a b).symm).symm
  simp only [Statement.list, Table.run, Table.selected_map, sorted, ← List.map_drop,
    ← List.map_take, Query.cutFrom]

/-- A listing is the total, then the users of the page read off their rows. -/
theorem eval_list (query : Query) :
    (UserStore.list query).eval Table.peer (users.map User.row) =
      (.ok ⟨query.cutFrom (query.filter.liveOf users), (query.filter.liveOf users).length,
        query.page, query.pageSize⟩, users.map User.row) := by
  unfold UserStore.list
  simp only [Exchange.eval_bind, eval_count, Exchange.eval_ask, Table.peer, run_list,
    Sql.Result.answer, Except.mapError_ok, Exchange.eval_ofExcept, mapM_ofFetched]
  rfl

end Held

/-- Of lists that a signed word of 64 bits can count, no page is cut short. -/
theorem Query.cutFrom_eq (query : Query) {selected : List User}
    (few : selected.length ≤ 9223372036854775807) :
    query.cutFrom selected =
      ((selected.mergeSort Store.precedes).drop query.skip).take query.limit := by
  have sorted : (selected.mergeSort Store.precedes).length = selected.length :=
    List.length_mergeSort selected
  have skipped : (selected.mergeSort Store.precedes).drop (Statement.cut query.skip) =
      (selected.mergeSort Store.precedes).drop query.skip := by
    rw [List.drop_eq_drop_iff, sorted, Statement.cut]
    omega
  rw [cutFrom, skipped, List.take_eq_take_iff, List.length_drop, sorted, Statement.cut]
  omega

/-- Joined, the conditions of a filter are true of the row of a user exactly if the user is live and
the filter selects the user. Over the same rows the database counts what the store counts, and it
lists users that the store selects: the very page of the store, where users have ids of their own
and are no more than a signed word of 64 bits can count. -/
theorem Filter.database_agrees (filter : Filter) :
    (∀ row user, User.ofFetched row.fetched = .ok user →
      (Condition.joinedTruth filter.liveConditions row = some true ↔
        user.deletedAt = none ∧ filter.selects user = true)) ∧
    ∀ (store : Store) (table : Table), store.KeptIn table →
      (UserStore.count filter).eval Table.peer table = (.ok (store.count filter), table) ∧
      ∀ page pageSize : Nat, ∃ selected : List User, selected.Perm (store.selection filter) ∧
        let query : Query := ⟨filter, page, pageSize⟩
        let listed : Page := ⟨query.cutFrom selected, store.count filter, page, pageSize⟩
        (UserStore.list query).eval Table.peer table = (.ok listed, table) ∧
          ((store.rows.map User.id).Nodup → store.count filter ≤ 9223372036854775807 →
            listed = store.page query) := by
  refine ⟨fun row user read => ?_, fun store table kept => ?_⟩
  · obtain rfl := User.ofFetched_eq_ok.1 read
    rw [Condition.joinedTruth_eq_true, filter.liveConditions_select, Bool.and_eq_true,
      decide_eq_true_iff]
  · obtain ⟨users, rfl, perm⟩ := kept.users
    have selected : (filter.liveOf users).Perm (store.selection filter) := by
      rw [store.selection_eq]
      exact perm.filter _
    have counted : (filter.liveOf users).length = store.count filter := selected.length_eq
    refine ⟨counted ▸ eval_count users filter, fun page pageSize => ⟨_, selected, ?_, ?_⟩⟩
    · rw [eval_list, counted]
    · intro distinct few
      rw [Query.cutFrom_eq _ (counted ▸ few),
        Store.sorted_unique selected (store.selection_ids_nodup distinct filter)]
      rfl

def Store.couple : Store :=
  (Store.empty.put "u-1" (User.ofNew .first { account := "alice", email := some "a_b@x.org" }
    .epoch)).put "u-2" (User.ofNew .second { account := "bob" } .epoch)

/-- The underscore is looked for as such, and an email that is missing has none. -/
theorem couple_agrees :
    let filter : Filter := { email := some "_b@" }
    (UserStore.count filter).eval Table.peer Store.couple.table = (.ok 1, Store.couple.table) ∧
      (UserStore.list ⟨filter, 1, 15⟩).eval Table.peer Store.couple.table =
        (.ok (Store.couple.page ⟨filter, 1, 15⟩), Store.couple.table) ∧
      ∀ user ∈ Store.couple.rows,
        (Condition.joinedTruth filter.liveConditions user.row = some true ↔
          user.deletedAt = none ∧ filter.selects user = true) := by
  intro filter
  obtain ⟨rows, kept⟩ := Filter.database_agrees filter
  obtain ⟨counted, paged⟩ := kept .couple Store.couple.table Store.couple.table_keeps
  obtain ⟨selected, -, listed, same⟩ := paged 1 15
  have one : Store.couple.count filter = 1 := by decide +kernel
  have few : Store.couple.count filter ≤ 9223372036854775807 := by omega
  refine ⟨one ▸ counted, ?_, fun user _ => rows user.row user (User.ofFetched_eq_ok.2 rfl)⟩
  rw [listed, same (by decide) few]

end UserDirectory
