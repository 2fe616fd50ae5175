import Mathlib.Data.List.Basic
import UserDirectory.Database.Connection
import UserDirectory.Proofs.Sql.Decoding
import UserDirectory.Proofs.Sql.Selection
import UserDirectory.Sql.Table
import UserDirectory.Store.Basic

/-!
A database that holds the rows of a store. It answers each statement on users by what the statement
does to the table, and the rows it gives back for the conditions of a filter are those of the
users that the filter selects in memory.
-/

namespace UserDirectory

open Sql

def Sql.Result.answer : Result → Database.Answer
  | .rows found => { rows := found }
  | .changed count => { changed := count }

/-- The other side of a connection to a table of users. It knows nothing of migrations, scripts and
transactions. -/
def Sql.Table.peer : Database.Peer Table := fun request table =>
  match request with
  | .users statement => (.ok (table.run statement).1.answer, (table.run statement).2)
  | _ => (.ok {}, table)

def Store.table (store : Store) : Table := store.rows.map User.row

/-- Read back, the rows of a table are those of the store, in any order. -/
def Store.KeptIn (store : Store) (table : Table) : Prop :=
  (table.map fun row => User.ofFetched row.fetched).Perm (store.rows.map Except.ok)

theorem Store.KeptIn.of_perm {users : List User} {store : Store} (perm : users.Perm store.rows) :
    store.KeptIn (users.map User.row) := by
  rw [KeptIn, List.map_map]
  exact (List.Perm.of_eq (List.map_congr_left fun user _ => User.ofFetched_eq_ok.2 rfl)).trans
    (perm.map Except.ok)

theorem Store.table_keeps (store : Store) : store.KeptIn store.table := .of_perm (.refl _)

theorem Store.KeptIn.users {store : Store} {table : Table} (kept : store.KeptIn table) :
    ∃ users : List User, table = users.map User.row ∧ users.Perm store.rows := by
  let read (row : Row) : Option User := (User.ofFetched row.fetched).toOption
  have restored : ∀ row ∈ table, (read row).map User.row = some row := by
    intro row member
    obtain ⟨user, -, made⟩ := List.mem_map.1 (kept.mem_iff.1 (List.mem_map_of_mem member))
    obtain rfl := User.ofFetched_eq_ok.1 made.symm
    simp only [read, ← made]
    rfl
  refine ⟨table.filterMap read, ?_, ?_⟩
  · rw [List.map_filterMap, List.filterMap_congr restored, List.filterMap_some]
  · have perm := kept.filterMap Except.toOption
    rw [List.filterMap_map, List.filterMap_map] at perm
    have back : (store.rows.filterMap (Except.toOption ∘ @Except.ok Failure User)) = store.rows :=
      List.filterMap_some
    rwa [back] at perm

def Filter.liveOf (filter : Filter) (users : List User) : List User :=
  users.filter fun user => user.IsLive && filter.selects user

theorem Sql.Table.selected_map (users : List User) (filter : Filter) :
    Table.selected (users.map User.row) filter.liveConditions =
      (filter.liveOf users).map User.row := by
  rw [Table.selected, List.filter_map, Filter.liveOf]
  congr 2
  funext user
  rw [Function.comp_apply, Filter.liveConditions_select]

theorem Store.selection_eq (store : Store) (filter : Filter) :
    store.selection filter = filter.liveOf store.rows := by
  rw [selection, live, List.filter_filter, Filter.liveOf]
  congr 1
  funext user
  rw [Bool.and_comm]

theorem Store.selected_table (store : Store) (filter : Filter) :
    store.table.selected filter.liveConditions = (store.selection filter).map User.row := by
  rw [Store.table, Table.selected_map, Store.selection_eq]

theorem Sql.Table.countOf_map (users : List User) (conditions : List Condition)
    (wanted : User → Bool) (agree : ∀ user, Condition.selects conditions user.row = wanted user) :
    Table.countOf (users.map User.row) conditions = .integer (users.filter wanted).length := by
  rw [Table.countOf, Table.selected, List.filter_map, List.length_map]
  congr 4
  funext user
  exact agree user

end UserDirectory
