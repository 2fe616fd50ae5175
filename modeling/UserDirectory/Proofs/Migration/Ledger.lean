import Mathlib.Data.Finset.Lattice.Lemmas
import UserDirectory.Proofs.Database.Steps

/-!
What a database holds of migrations, and what it is to be transactional. Requests are taken for what
they do to the versions on record and to the scripts in effect; what is not committed leaves no
trace there, and of a commit without an answer nothing is known.
-/

namespace UserDirectory.Migration

open Database Sql

/-- The versions on record, and the scripts that have taken effect, in their order. -/
structure Ledger where
  versions : Finset Int
  scripts : List String

namespace Ledger

def run (script : String) (ledger : Ledger) : Ledger :=
  { ledger with scripts := ledger.scripts ++ [script] }

def record (version : Int) (ledger : Ledger) : Ledger :=
  { ledger with versions := insert version ledger.versions }

def takeAll (ledger : Ledger) (migrations : List Migration) : Ledger :=
  migrations.foldl (fun ledger migration => (ledger.run migration.up).record migration.version)
    ledger

variable (ledger : Ledger) (migrations more : List Migration)

theorem takeAll_append :
    ledger.takeAll (migrations ++ more) = (ledger.takeAll migrations).takeAll more :=
  List.foldl_append

theorem takeAll_versions : (ledger.takeAll migrations).versions =
    ledger.versions ∪ (migrations.map Migration.version).toFinset := by
  induction migrations generalizing ledger with
  | nil => simp [takeAll]
  | cons migration rest ih =>
    refine (ih ((ledger.run migration.up).record migration.version)).trans ?_
    simp [run, record]

theorem takeAll_scripts :
    (ledger.takeAll migrations).scripts = ledger.scripts ++ migrations.map Migration.up := by
  induction migrations generalizing ledger with
  | nil => simp [takeAll]
  | cons migration rest ih =>
    refine (ih ((ledger.run migration.up).record migration.version)).trans ?_
    simp [run, record]

end Ledger

def pending (migrations : List Migration) (versions : Finset Int) : List Migration :=
  (inOrder migrations).filter fun migration => migration.version ∉ versions

theorem mem_pending {migrations : List Migration} {versions : Finset Int} {migration : Migration} :
    migration ∈ pending migrations versions ↔
      migration ∈ migrations ∧ migration.version ∉ versions := by
  rw [pending, List.mem_filter, inOrder, List.mem_mergeSort, decide_eq_true_iff]

theorem inOrder_ascending {migrations : List Migration}
    (distinct : (migrations.map Migration.version).Nodup) :
    (inOrder migrations).Pairwise fun a b => a.version < b.version := by
  have sorted : (inOrder migrations).Pairwise fun a b => a.version ≤ b.version :=
    (List.pairwise_mergeSort (fun a b c first second => by simp at first second ⊢; omega)
      (fun a b => by simp; omega) migrations).imp of_decide_eq_true
  have different : (inOrder migrations).Pairwise fun a b => a.version ≠ b.version :=
    List.pairwise_map.1 (((List.mergeSort_perm migrations _).map _).nodup_iff.2 distinct)
  exact (sorted.and different).imp fun ⟨first, other⟩ => lt_of_le_of_ne first other

theorem pending_ascending {migrations : List Migration}
    (distinct : (migrations.map Migration.version).Nodup) (versions : Finset Int) :
    ((pending migrations versions).map Migration.version).Pairwise (· < ·) := by
  rw [List.pairwise_map]
  exact (inOrder_ascending distinct).filter _

/-- Once some of the steps that are due are taken, the others are due. -/
theorem pending_takeAll {migrations done later : List Migration}
    (distinct : (migrations.map Migration.version).Nodup) {ledger : Ledger}
    (split : pending migrations ledger.versions = done ++ later) :
    pending migrations (ledger.takeAll done).versions = later := by
  have apart : (done.map Migration.version).Disjoint (later.map Migration.version) := by
    have ascending := (pending_ascending distinct ledger.versions).imp ne_of_lt
    rw [split, List.map_append] at ascending
    exact List.disjoint_of_nodup_append ascending
  have fewer : pending migrations (ledger.takeAll done).versions =
      (pending migrations ledger.versions).filter fun migration =>
        migration.version ∉ done.map Migration.version := by
    rw [pending, pending, List.filter_filter, Ledger.takeAll_versions]
    refine List.filter_congr fun migration _ => Bool.eq_iff_iff.2 ?_
    simp only [decide_eq_true_iff, Bool.and_eq_true, Finset.mem_union, List.mem_toFinset, not_or,
      and_comm]
  rw [fewer, split, List.filter_append]
  have taken : (done.filter fun migration => migration.version ∉ done.map Migration.version) = [] :=
    List.filter_eq_nil_iff.2 fun migration member => by
      simpa using ⟨migration, member, rfl⟩
  have due : (later.filter fun migration => migration.version ∉ done.map Migration.version) =
      later :=
    List.filter_eq_self.2 fun migration member => decide_eq_true fun known =>
      apart known (List.mem_map_of_mem member)
  rw [taken, due, List.nil_append]

/-- What is stored, and what a commit would store where a transaction is open. -/
structure Contents where
  stored : Ledger
  pending : Option Ledger

def versionRow (version : Int) : Fetched := [("version", .integer version)]

theorem versions_read (versions : List Int) :
    (versions.map versionRow).mapM (Fetched.first Cell.integer?) = .ok versions := by
  induction versions with
  | nil => rfl
  | cons version rest ih =>
    rw [List.map_cons, List.mapM_cons, ih]
    rfl

/-- A database with a table of migrations and with transactions. The scripts at hand leave that
table and the transaction alone. -/
structure Transactional (peer : Peer σ) (view : σ → Contents) (migrations : List Migration) :
    Prop where
  /-- The table is there already. -/
  createTable : ∀ {state after answer ledger}, view state = ⟨ledger, none⟩ →
    peer (.migrations .createTable) state = (answer, after) → view after = ⟨ledger, none⟩
  versions : ∀ {state after answer ledger}, view state = ⟨ledger, none⟩ →
    peer (.migrations .versions) state = (answer, after) →
    view after = ⟨ledger, none⟩ ∧ ∀ given, answer = .ok given →
      ∃ versions : List Int, given.rows = versions.map versionRow ∧
        versions.toFinset = ledger.versions
  begun : ∀ {state after answer ledger}, view state = ⟨ledger, none⟩ →
    peer .begin state = (.ok answer, after) → view after = ⟨ledger, some ledger⟩
  notBegun : ∀ {state after error ledger}, view state = ⟨ledger, none⟩ →
    peer .begin state = (.error error, after) → view after = ⟨ledger, none⟩
  run : ∀ {state after answer ledger pending}, ∀ migration ∈ migrations,
    view state = ⟨ledger, some pending⟩ → peer (.script migration.up) state = (.ok answer, after) →
    view after = ⟨ledger, some (pending.run migration.up)⟩
  notRun : ∀ {state after error ledger pending}, ∀ migration ∈ migrations,
    view state = ⟨ledger, some pending⟩ →
    peer (.script migration.up) state = (.error error, after) → (view after).stored = ledger
  recorded : ∀ {state after answer ledger pending version description},
    view state = ⟨ledger, some pending⟩ →
    peer (.migrations (.record version description)) state = (.ok answer, after) →
    view after = ⟨ledger, some (pending.record version)⟩
  notRecorded : ∀ {state after error ledger pending version description},
    view state = ⟨ledger, some pending⟩ →
    peer (.migrations (.record version description)) state = (.error error, after) →
    (view after).stored = ledger
  committed : ∀ {state after answer ledger pending}, view state = ⟨ledger, some pending⟩ →
    peer .commit state = (.ok answer, after) → view after = ⟨pending, none⟩
  /-- The answer alone may be lost. -/
  notCommitted : ∀ {state after error ledger pending}, view state = ⟨ledger, some pending⟩ →
    peer .commit state = (.error error, after) →
    (view after).stored = ledger ∨ (view after).stored = pending
  /-- Where no answer comes, the connection is gone and the transaction with it. -/
  rolledBack : ∀ {state after answer}, peer .rollback state = (answer, after) →
    view after = ⟨(view state).stored, none⟩

end UserDirectory.Migration
