import Mathlib.Data.List.Nodup
import UserDirectory.Proofs.Database.Exchange
import UserDirectory.Proofs.Service.Run
import UserDirectory.Proofs.Sql.Assignments
import UserDirectory.Proofs.Sql.Peer
import UserDirectory.Proofs.Store.Order
import UserDirectory.Proofs.Store.Rows

/-!
Partial updates in the database and in memory. A patch assigns no column twice, and to the columns
of the fields that it supplies it assigns what it supplies. A row so changed is read as the user
patched, and a call that changes one user leaves the same users in both stores.
-/

namespace UserDirectory

open Sql Database

def Patch.supplied? (patch : Patch) : Column → Option Cell
  | .passwordHash => patch.passwordHash.map .text
  | .nickname => patch.nickname.map .text
  | .remark => patch.remark.map .text
  | .deptId => patch.deptId.map .text
  | .postIds => patch.postIds.map .text
  | .email => patch.email.map .text
  | .mobile => patch.mobile.map .text
  | .sex => patch.sex.map fun sex => .integer sex.code
  | .avatar => patch.avatar.map .text
  | .status => patch.status.map fun status => .integer status.code
  | .loginIp => patch.loginIp.map .text
  | .loginDate => patch.loginDate.map .instant
  | .updateBy => patch.updateBy.map .text
  | .id | .account | .tenantId | .createBy | .createdAt | .updatedAt | .deletedAt => none

namespace Patch

variable (patch : Patch) (now : Instant)

theorem mem_assignments {column : Column} {cell : Cell} :
    (column, cell) ∈ patch.assignments now ↔
      (column = .updatedAt ∧ cell = .instant now) ∨ patch.supplied? column = some cell := by
  have assigned (key : Column) (given : Option Cell) :
      (column, cell) ∈ given.toList.map (fun cell => (key, cell)) ↔
        column = key ∧ given = some cell := by
    simp [and_comm, eq_comm]
  simp only [assignments, List.mem_append, assigned, List.mem_singleton, Prod.mk.injEq]
  cases column <;> simp only [reduceCtorEq, false_and, true_and, or_false, false_or, supplied?]

theorem assigned_once : ((patch.assignments now).map Prod.fst).Nodup := by
  have counted (key column : Column) (given : Option Cell) :
      ((given.toList.map fun cell => (key, cell)).map Prod.fst).count column =
        if key = column then given.toList.length else 0 := by
    cases given with
    | none => simp
    | some cell => simp [List.count_singleton]
  have most (given : Option Cell) : given.toList.length ≤ 1 := by cases given <;> simp
  rw [List.nodup_iff_count_le_one]
  intro column
  simp only [assignments, List.map_append, List.count_append, counted, List.map_singleton,
    List.count_singleton]
  cases column <;> simp [most]

theorem eq_of_supplied? {patch other : Patch}
    (same : ∀ column, other.supplied? column = patch.supplied? column) :
    other = { patch with id := other.id } := by
  have text {a b : Option String} (same : a.map Cell.text = b.map Cell.text) : a = b :=
    Option.map_injective (fun _ _ => Cell.text.inj) same
  have sex : other.sex = patch.sex :=
    Option.map_injective (by intro a b; cases a <;> cases b <;> simp [Sex.code]) (same .sex)
  have status : other.status = patch.status :=
    Option.map_injective (by intro a b; cases a <;> cases b <;> simp [Status.code]) (same .status)
  have loginDate : other.loginDate = patch.loginDate :=
    Option.map_injective (fun _ _ => Cell.instant.inj) (same .loginDate)
  cases other
  cases patch
  simp only [Patch.mk.injEq, true_and]
  exact ⟨text (same .passwordHash), text (same .nickname), text (same .remark),
    text (same .deptId), text (same .postIds), text (same .email), text (same .mobile), sex,
    text (same .avatar), status, text (same .loginIp), loginDate, text (same .updateBy)⟩

/-- No field of a patch but its id is left out of the assignments. -/
theorem eq_of_assignments {patch other : Patch}
    (same : other.assignments now = patch.assignments now) :
    other = { patch with id := other.id } := by
  have supplied (patch : Patch) (column : Column) (cell : Cell) :
      patch.supplied? column = some cell ↔
        column ≠ .updatedAt ∧ (column, cell) ∈ patch.assignments now := by
    rw [mem_assignments]
    cases column <;> simp [supplied?]
  refine eq_of_supplied? fun column => Option.ext fun cell => ?_
  rw [supplied other, supplied patch, same]

end Patch

/-- Of the users of a store one at most is live and has an id: the one found under it. -/
theorem Store.liveIn_eq {store : Store}
    (keyed : ∀ entry ∈ store.entries, entry.1 = entry.2.id.text) {users : List User}
    (perm : users.Perm store.rows) (id : UserId) :
    id.liveIn users = (store.liveRow? id).toList := by
  have distinct : users.Nodup := perm.nodup_iff.2 (List.Nodup.of_map User.id (ids_nodup keyed))
  have named (user : User) : user ∈ id.liveIn users ↔ store.liveRow? id = some user := by
    rw [UserId.liveIn, List.mem_filter, perm.mem_iff, decide_eq_true_iff,
      liveRow?_eq_some_iff keyed]
  cases found : store.liveRow? id with
  | none =>
    refine List.eq_nil_iff_forall_not_mem.2 fun user member => ?_
    have here := (named user).1 member
    rw [found] at here
    cases here
  | some row =>
    refine List.perm_singleton.1 ((List.perm_ext_iff_of_nodup (distinct.filter _)
      (List.nodup_singleton row)).2 fun user => ?_)
    rw [← UserId.liveIn, named, found, List.mem_singleton, Option.some.injEq, eq_comm]

section Database

variable (users : List User) (now : Instant)

theorem eval_update (patch : Patch) :
    (UserStore.update patch now).eval Table.peer (users.map User.row) =
      (.ok ((patch.id.liveIn users).map (patch.apply · now)).head?,
        (patch.id.changeIn (patch.apply · now) users).map User.row) := by
  have ran := Table.run_update users patch.id (patch.row_assigned · now) true
  unfold UserStore.update
  rw [Exchange.eval_bind, Exchange.eval_ask]
  simp only [Table.peer, Statement.patch, ran, ↓reduceIte, Result.answer, Except.mapError_ok]
  cases patch.id.liveIn users with
  | nil => rfl
  | cons user rest =>
    simp only [List.map_cons, UserStore.firstUser, Exchange.eval_bind, Exchange.eval_ofExcept,
      User.ofFetched_eq_ok.2 rfl, List.head?_cons]
    rfl

theorem eval_changeStatus (id : UserId) (status : Status) (updateBy : Option String) :
    (UserStore.changeStatus id status updateBy now).eval Table.peer (users.map User.row) =
      (.ok (decide (0 < (id.liveIn users).length)),
        (id.changeIn (fun user =>
          { user with status, updateBy := updateBy <|> user.updateBy, updatedAt := now })
          users).map User.row) := by
  let changes : Patch := { id, status := some status, updateBy }
  have ran := Table.run_update users id (changes.row_assigned · now) false
  unfold UserStore.changeStatus
  rw [Exchange.eval_bind, Exchange.eval_ask]
  simp only [Table.peer, Statement.changeStatus]
  rw [ran]
  rfl

end Database

theorem Memory.alter_rows {supplies : Supplies} {memory : Memory} {now : Instant}
    (keyed : ∀ entry ∈ memory.store.entries, entry.1 = entry.2.id.text)
    (read : supplies.instant memory.usage.instants = .ok now) (id : UserId)
    (change : User → Instant → User) :
    (memory.alter supplies id change).1 = .ok ((memory.store.liveRow? id).map (change · now)) ∧
      (memory.alter supplies id change).2.store.rows =
        id.changeIn (change · now) memory.store.rows := by
  cases found : memory.store.liveRow? id with
  | none =>
    simp only [alter, found, Option.map_none, true_and]
    refine ((List.map_congr_left fun user member => if_neg ?_).trans (List.map_id' _)).symm
    rintro ⟨alive, own⟩
    have live := (Store.liveRow?_eq_some_iff keyed).2 ⟨member, alive, own⟩
    rw [found] at live
    cases live
  | some row =>
    obtain ⟨known, alive⟩ := Option.filter_eq_some_iff.1 found
    simp only [alter, found, readInstant, Usage.readInstant, read, Option.map_some, true_and]
    rw [Store.rows_put_known keyed known]
    refine List.map_congr_left fun user member => ?_
    by_cases own : user.id = id
    · have here := (Store.row?_eq_some_iff keyed).2 ⟨member, own⟩
      obtain rfl := Option.some.inj (known.symm.trans here)
      rw [if_pos own, if_pos ⟨decide_eq_true_iff.1 alive, own⟩]
    · rw [if_neg own, if_neg fun both => own both.2]

/-- A call comes to the same in the database and in memory, and leaves the same users in both. -/
structure AnswersAlike (inDatabase : Except Failure α × Table)
    (inMemory : Except Failure α × Memory) : Prop where
  reply : inDatabase.1 = inMemory.1
  kept : inMemory.2.store.KeptIn inDatabase.2

section Calls

variable {supplies : Supplies} {memory : Memory} {table : Table} {now : Instant}
  (kept : memory.store.KeptIn table)
  (keyed : ∀ entry ∈ memory.store.entries, entry.1 = entry.2.id.text)
  (read : supplies.instant memory.usage.instants = .ok now)
include kept keyed read

theorem update_alike (patch : Patch)
    (free : memory.store.conflict? (some patch.id) patch.claimed = none) :
    AnswersAlike ((UserStore.update patch now).eval Table.peer table)
      (memory.update supplies patch) := by
  obtain ⟨users, rfl, perm⟩ := kept.users
  obtain ⟨found, rows⟩ := Memory.alter_rows keyed read patch.id patch.apply
  have guarded : memory.update supplies patch = memory.alter supplies patch.id patch.apply := by
    cases live : memory.store.liveRow? patch.id <;>
      simp only [Memory.update, Memory.alter, live, free]
  rw [guarded, eval_update, Store.liveIn_eq keyed perm]
  refine ⟨?_, .of_perm (rows ▸ perm.map _)⟩
  rw [found]
  cases memory.store.liveRow? patch.id <;> rfl

theorem changeStatus_alike (id : UserId) (status : Status) (updateBy : Option String) :
    AnswersAlike ((UserStore.changeStatus id status updateBy now).eval Table.peer table)
      (memory.changeStatus supplies id status updateBy) := by
  obtain ⟨users, rfl, perm⟩ := kept.users
  obtain ⟨found, rows⟩ := Memory.alter_rows keyed read id fun row now =>
    { row with status, updateBy := updateBy <|> row.updateBy, updatedAt := now }
  rw [eval_changeStatus, Store.liveIn_eq keyed perm]
  refine ⟨Eq.trans ?_ (congrArg (Except.map Option.isSome) found).symm,
    .of_perm (rows ▸ perm.map _)⟩
  cases memory.store.liveRow? id <;> rfl

end Calls

/-- A patch assigns no column twice, leaves out no field but its id, and assigns to each column what
it supplies for it. Read back, a row so changed is the user patched. And over the same users, with
the same time on the clock, an update that the guard lets pass and every change of a status come to
the same in the database and in memory. -/
theorem Patch.update_agrees (patch : Patch) (now : Instant) :
    ((patch.assignments now).map Prod.fst).Nodup ∧
    (∀ other : Patch, other.assignments now = patch.assignments now →
      other = { patch with id := other.id }) ∧
    (∀ column cell, (column, cell) ∈ patch.assignments now ↔
      (column = .updatedAt ∧ cell = .instant now) ∨ patch.supplied? column = some cell) ∧
    (∀ (row : Row) (user : User), User.ofFetched row.fetched = .ok user →
      User.ofFetched (row.set (patch.assignments now)).fetched = .ok (patch.apply user now)) ∧
    ∀ (supplies : Supplies) (memory : Memory) (table : Table), memory.store.KeptIn table →
      (∀ entry ∈ memory.store.entries, entry.1 = entry.2.id.text) →
      supplies.instant memory.usage.instants = .ok now →
      (memory.store.conflict? (some patch.id) patch.claimed = none →
        AnswersAlike ((UserStore.update patch now).eval Table.peer table)
          (memory.update supplies patch)) ∧
      ∀ id status updateBy,
        AnswersAlike ((UserStore.changeStatus id status updateBy now).eval Table.peer table)
          (memory.changeStatus supplies id status updateBy) := by
  refine ⟨patch.assigned_once now, fun other => eq_of_assignments now,
    fun column cell => patch.mem_assignments now, fun row user read => ?_,
    fun supplies memory table kept keyed read => ⟨?_, ?_⟩⟩
  · obtain rfl := User.ofFetched_eq_ok.1 read
    exact User.ofFetched_eq_ok.2 (patch.row_assigned user now)
  · exact update_alike kept keyed read patch
  · exact changeStatus_alike kept keyed read

def Store.roster : Store :=
  (Store.empty.put "u-1" (User.ofNew .first { account := "alice", mobile := some "13800138000" }
    .epoch)).put "u-2"
      { User.ofNew .second { account := "bob" } .epoch with deletedAt := some .epoch }

/-- The number is cleared and the sex is supplied; nothing is done to a user who is deleted. -/
theorem roster_update_agrees :
    let patch : Patch := { id := .first, mobile := some "", sex := some .male }
    (∀ user ∈ Store.roster.rows, User.ofFetched (user.row.set (patch.assignments .epoch)).fetched =
      .ok (patch.apply user .epoch)) ∧
    AnswersAlike ((UserStore.update patch .epoch).eval Table.peer Store.roster.table)
      (Memory.update .still patch ⟨.roster, {}⟩) ∧
    AnswersAlike
      ((UserStore.changeStatus .second .disabled none .epoch).eval Table.peer Store.roster.table)
      (Memory.changeStatus .still .second .disabled none ⟨.roster, {}⟩) := by
  intro patch
  obtain ⟨-, -, -, rows, stores⟩ := Patch.update_agrees patch .epoch
  obtain ⟨updated, switched⟩ := stores .still ⟨.roster, {}⟩ Store.roster.table
    Store.roster.table_keeps (by decide) rfl
  exact ⟨fun user _ => rows user.row user (User.ofFetched_eq_ok.2 rfl), updated (by decide),
    switched .second .disabled none⟩

end UserDirectory
