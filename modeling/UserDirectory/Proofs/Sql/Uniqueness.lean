import Mathlib.Data.List.Nodup
import Mathlib.Data.List.Pairwise
import UserDirectory.Proofs.Database.Exchange
import UserDirectory.Proofs.Service.Run
import UserDirectory.Proofs.Sql.Assignments
import UserDirectory.Proofs.Sql.Peer
import UserDirectory.Proofs.Store.Conflict
import UserDirectory.Proofs.Store.Order
import UserDirectory.Sql.Schema

/-!
The two guards of unique values. The database guards them by unique indexes on the live rows, the
store in memory by a look at the live rows of others before a write. Over the same rows the one
refuses a write exactly if the other does, and both name a field whose value is taken.
-/

namespace UserDirectory

open Sql Database

namespace Sql

def Schema.indexOf : UniqueField → UniqueIndex
  | .account => accountIndex
  | .email => emailIndex
  | .mobile => mobileIndex

theorem Schema.mem_uniqueIndexes {index : UniqueIndex} :
    index ∈ uniqueIndexes ↔ ∃ field, index = indexOf field := by
  simp only [uniqueIndexes, List.mem_cons, List.not_mem_nil, or_false]
  constructor
  · rintro (rfl | rfl | rfl)
    · exact ⟨.account, rfl⟩
    · exact ⟨.email, rfl⟩
    · exact ⟨.mobile, rfl⟩
  · rintro ⟨field, rfl⟩
    cases field <;> simp [indexOf]

theorem Schema.uniqueField?_indexOf (field : UniqueField) :
    uniqueField? (indexOf field).name = some field := by
  cases field <;> decide

theorem filled_truth {column : Column} {user : User} {value : Option String}
    (stands : user.row column = Cell.ofText value) :
    ((Schema.filled column).truth user.row = some true) ↔
      ∃ text, value = some text ∧ text ≠ "" := by
  simp only [Schema.filled, Condition.truth, stands]
  cases value <;> simp [Cell.ofText, Comparison.truth]

namespace UniqueIndex

variable {field : UniqueField} {a b user : User}

theorem column_row :
    user.row (Schema.indexOf field).column = Cell.ofText (user.unique field) := by
  cases field <;> rfl

theorem covers_row :
    (Schema.indexOf field).covers user.row = true ↔
      user.IsLive ∧ ∃ text, user.unique field = some text ∧ field.Guards text := by
  have live := iff_of_eq (live_truth user)
  cases field with
  | account =>
    have any : ∃ text, user.unique .account = some text ∧ UniqueField.account.Guards text :=
      ⟨user.account, rfl, .inl rfl⟩
    simp only [covers, Schema.indexOf, Schema.accountIndex, Condition.selects, List.all_cons,
      List.all_nil, Bool.and_true, decide_eq_true_iff, live, any, and_true]
  | email =>
    have filled := @filled_truth .email user user.email rfl
    simp only [covers, Schema.indexOf, Schema.emailIndex, Condition.selects, List.all_cons,
      List.all_nil, Bool.and_true, Bool.and_eq_true, decide_eq_true_iff, live, filled,
      User.unique, UniqueField.Guards, reduceCtorEq, false_or]
  | mobile =>
    have filled := @filled_truth .mobile user user.mobile rfl
    simp only [covers, Schema.indexOf, Schema.mobileIndex, Condition.selects, List.all_cons,
      List.all_nil, Bool.and_true, Bool.and_eq_true, decide_eq_true_iff, live, filled,
      User.unique, UniqueField.Guards, reduceCtorEq, false_or]

/-- The rows of two users clash exactly if both are live and have one text that the field guards. -/
theorem clash_row :
    (Schema.indexOf field).clash a.row b.row = true ↔ a.IsLive ∧ b.IsLive ∧
      ∃ text, a.unique field = some text ∧ b.unique field = some text ∧ field.Guards text := by
  have same (text : String) (stands : a.unique field = some text) :
      Cell.ofText (a.unique field) = Cell.ofText (b.unique field) ↔ b.unique field = some text := by
    rw [stands]
    cases b.unique field <;> simp [Cell.ofText, eq_comm]
  simp only [clash, Bool.and_eq_true, decide_eq_true_iff, column_row, covers_row]
  constructor
  · rintro ⟨⟨⟨⟨aliveA, text, stands, guarded⟩, aliveB, -⟩, -⟩, equal⟩
    exact ⟨aliveA, aliveB, text, stands, (same text stands).1 equal, guarded⟩
  · rintro ⟨aliveA, aliveB, text, stands, stands', guarded⟩
    refine ⟨⟨⟨⟨aliveA, text, stands, guarded⟩, aliveB, text, stands', guarded⟩, ?_⟩,
      (same text stands).2 stands'⟩
    rw [stands]
    exact fun null => by cases null

theorem clash_comm (index : UniqueIndex) (x y : Row) : index.clash x y = index.clash y x := by
  have turn (x y : Row) (clashes : index.clash x y = true) : index.clash y x = true := by
    simp only [clash, Bool.and_eq_true, decide_eq_true_iff] at clashes ⊢
    obtain ⟨⟨⟨first, second⟩, present⟩, equal⟩ := clashes
    exact ⟨⟨⟨second, first⟩, equal ▸ present⟩, equal.symm⟩
  exact Bool.eq_iff_iff.2 ⟨turn x y, turn y x⟩

theorem holds_append {index : UniqueIndex} {table : Table} {row : Row} :
    index.Holds (table ++ [row]) ↔
      index.Holds table ∧ ∀ other ∈ table, index.clash row other = false := by
  simp only [Holds, List.pairwise_append, List.pairwise_singleton, List.mem_singleton, true_and,
    forall_eq, index.clash_comm row]

theorem holds_map {index : UniqueIndex} {users : List User} (distinct : users.Nodup)
    {write : User → Row} : index.Holds (users.map write) ↔
      ∀ a ∈ users, ∀ b ∈ users, a ≠ b → index.clash (write a) (write b) = false := by
  have symmetric : Std.Symm fun a b => index.clash (write a) (write b) = false :=
    ⟨fun a b apart => (index.clash_comm _ _).trans apart⟩
  rw [Holds, List.pairwise_map]
  exact ⟨fun apart a memberA b memberB => apart.forall memberA memberB,
    distinct.pairwise_of_forall_ne⟩

end UniqueIndex

end Sql

namespace Store

theorem named_row {store : Store} (keyed : ∀ entry ∈ store.entries, entry.1 = entry.2.id.text)
    {id : UserId} {row : User} (named : store.liveRow? id = some row) :
    row ∈ store.rows ∧ row.IsLive ∧ row.id = id := by
  obtain ⟨member, alive⟩ := liveRow?_eq_some.1 named
  exact ⟨mem_rows.2 ⟨_, member⟩, alive, UserId.text_injective (keyed _ member).symm⟩

variable {store : Store} {users : List User} (perm : users.Perm store.rows) {field : UniqueField}
include perm

/-- An index admits a new row exactly if it clashes with the row of no live user. -/
theorem save_holds (held : (Schema.indexOf field).Holds (users.map User.row)) (new : NewUser)
    (id : UserId) (now : Instant) :
    (Schema.indexOf field).Holds (Table.run (users.map User.row) (.save new id now)).2 ↔
      ∀ other ∈ store.others none,
        (Schema.indexOf field).clash (User.ofNew id new now).row other.row = false := by
  rw [run_save, UniqueIndex.holds_append, List.forall_mem_map]
  constructor
  · rintro ⟨-, apart⟩ other member
    exact apart other (perm.mem_iff.2 (mem_others_iff.1 member).1)
  · intro apart
    refine ⟨held, fun user member => Bool.eq_false_iff.2 fun clashes => ?_⟩
    have alive := (UniqueIndex.clash_row.1 clashes).2.1
    have free := apart user (mem_others_iff.2 ⟨perm.mem_iff.1 member, alive, nofun⟩)
    exact absurd clashes (Bool.eq_false_iff.1 free)

section Patched

variable (keyed : ∀ entry ∈ store.entries, entry.1 = entry.2.id.text)
  (held : (Schema.indexOf field).Holds (users.map User.row)) {patch : Patch} {row : User}
  (named : store.liveRow? patch.id = some row)
include keyed held named

theorem row_apart {other : User} (member : other ∈ store.others (some patch.id)) :
    (Schema.indexOf field).clash row.row other.row = false := by
  obtain ⟨before, -, elsewhere⟩ := mem_others_iff.1 member
  obtain ⟨here, -, own⟩ := named_row keyed named
  have distinct : users.Nodup := perm.nodup_iff.2 (List.Nodup.of_map User.id (ids_nodup keyed))
  refine (UniqueIndex.holds_map distinct).1 held row (perm.mem_iff.2 here) other
    (perm.mem_iff.2 before) ?_
  rintro rfl
  exact elsewhere (congrArg some own)

/-- An index admits a patch exactly if the row patched clashes with the row of no other live
user. -/
theorem patch_holds (now : Instant) :
    (Schema.indexOf field).Holds (Table.run (users.map User.row) (.patch patch now)).2 ↔
      ∀ other ∈ store.others (some patch.id),
        (Schema.indexOf field).clash (patch.apply row now).row other.row = false := by
  obtain ⟨here, alive, own⟩ := named_row keyed named
  have ids := ids_nodup keyed
  have distinct : users.Nodup := perm.nodup_iff.2 (List.Nodup.of_map User.id ids)
  have isNamed {user : User} (member : user ∈ users) (same : user.id = patch.id) : user = row :=
    List.inj_on_of_nodup_map ids (perm.mem_iff.1 member) here (same.trans own.symm)
  rw [run_patch, UniqueIndex.holds_map distinct]
  constructor
  · intro apart other member
    obtain ⟨before, -, elsewhere⟩ := mem_others_iff.1 member
    have different : row ≠ other := by
      rintro rfl
      exact elsewhere (congrArg some own)
    have written := apart row (perm.mem_iff.2 here) other (perm.mem_iff.2 before) different
    rw [if_pos ⟨alive, own⟩, if_neg fun same => elsewhere (congrArg some same.2)] at written
    exact written
  · intro apart
    -- the row patched against the row of another user, which stays as it is
    have against {user : User} (member : user ∈ users)
        (other : ¬(user.IsLive ∧ user.id = patch.id)) :
        (Schema.indexOf field).clash (patch.apply row now).row user.row = false := by
      refine Bool.eq_false_iff.2 fun clashes => ?_
      have live := (UniqueIndex.clash_row.1 clashes).2.1
      have elsewhere : some user.id ≠ some patch.id :=
        fun same => other ⟨live, Option.some.inj same⟩
      have free := apart user (mem_others_iff.2 ⟨perm.mem_iff.1 member, live, elsewhere⟩)
      exact absurd clashes (Bool.eq_false_iff.1 free)
    intro a memberA b memberB different
    by_cases patchedA : a.IsLive ∧ a.id = patch.id
    · obtain rfl := isNamed memberA patchedA.2
      have otherB : ¬(b.IsLive ∧ b.id = patch.id) := fun same =>
        different (isNamed memberB same.2).symm
      rw [if_pos patchedA, if_neg otherB]
      exact against memberB otherB
    · rw [if_neg patchedA]
      by_cases patchedB : b.IsLive ∧ b.id = patch.id
      · obtain rfl := isNamed memberB patchedB.2
        rw [if_pos patchedB, UniqueIndex.clash_comm]
        exact against memberA patchedA
      · rw [if_neg patchedB]
        exact (UniqueIndex.holds_map distinct).1 held a memberA b memberB different

end Patched

end Store

/-- A write that brings values to unique fields, as the database makes it and as it is made in
memory. -/
structure UniqueWrite (α : Type) where
  /-- The user whose own values may be brought again. -/
  owner : Option UserId
  brought : UniqueField → Option String
  claimed : Claimed
  statement : Statement
  exchange : Exchange α
  inMemory : Supplies → Memory → Except Failure α

namespace UniqueWrite

def save (new : NewUser) (id : UserId) (now : Instant) : UniqueWrite User where
  owner := none
  brought := new.brings
  claimed := new.claimed
  statement := .save new id now
  exchange := UserStore.save new id now
  inMemory supplies memory := (memory.save supplies new).1

def update (patch : Patch) (now : Instant) : UniqueWrite (Option User) where
  owner := some patch.id
  brought := patch.brings
  claimed := patch.claimed
  statement := .patch patch now
  exchange := UserStore.update patch now
  inMemory supplies memory := (memory.update supplies patch).1

variable (write : UniqueWrite α)

def Violates (table : Table) (index : UniqueIndex) : Prop :=
  ¬index.Holds (table.run write.statement).2

/-- What the write comes to with any database that does not make it and names an index. -/
def Reports (index : UniqueIndex) (failure : Failure) : Prop :=
  ∀ (σ : Type) (peer : Peer σ) (state : σ) (message : String),
    (peer (.users write.statement) state).1 =
      .error (.server ⟨UserStore.uniqueViolation, message, some index.name⟩) →
    (write.exchange.eval peer state).1 = .error failure

/-- The write violates an index of the table exactly if the store finds a conflict, and an index
that is named is that of a field whose value is taken. Where no other value is taken, the write in
memory fails alike. -/
structure Agrees (store : Store) (table : Table) : Prop where
  violates_iff : (∃ index ∈ Schema.uniqueIndexes, write.Violates table index) ↔
    (store.conflict? write.owner write.claimed).isSome = true
  reported : ∀ index ∈ Schema.uniqueIndexes, write.Violates table index →
    ∃ field value, store.Conflicts write.owner write.brought field value ∧
      write.Reports index (.alreadyExists field value) ∧
      ((∀ other taken, store.Conflicts write.owner write.brought other taken → other = field) →
        ∀ supplies usage,
          write.inMemory supplies ⟨store, usage⟩ = .error (.alreadyExists field value))

variable {write}

theorem agrees_of {store : Store} {table : Table} (claims : write.claimed.Of write.brought)
    (violates : ∀ field, write.Violates table (Schema.indexOf field) ↔
      ∃ value, store.Conflicts write.owner write.brought field value)
    (reports : ∀ field value, write.brought field = some value →
      write.Reports (Schema.indexOf field) (.alreadyExists field value))
    (refuses : ∀ field value, store.conflict? write.owner write.claimed = some (field, value) →
      ∀ supplies usage,
        write.inMemory supplies ⟨store, usage⟩ = .error (.alreadyExists field value)) :
    write.Agrees store table where
  violates_iff := by
    rw [Store.conflict?_isSome claims]
    constructor
    · rintro ⟨index, member, violated⟩
      obtain ⟨field, rfl⟩ := Schema.mem_uniqueIndexes.1 member
      exact ⟨field, (violates field).1 violated⟩
    · rintro ⟨field, conflicts⟩
      exact ⟨_, Schema.mem_uniqueIndexes.2 ⟨field, rfl⟩, (violates field).2 conflicts⟩
  reported index member violated := by
    obtain ⟨field, rfl⟩ := Schema.mem_uniqueIndexes.1 member
    obtain ⟨value, conflicts⟩ := (violates field).1 violated
    exact ⟨field, value, conflicts, reports field value conflicts.brought, fun only =>
      refuses field value (Store.conflict?_eq_only claims conflicts only)⟩

end UniqueWrite

/-- The row written clashes with the row of another live user exactly where the write brings a value
that is taken: what it does not bring was there before and did not clash. -/
theorem Store.clash_iff_conflicts {store : Store} {owner : Option UserId}
    {brought : UniqueField → Option String} {field : UniqueField} {written : User}
    (alive : written.IsLive)
    (brings : ∀ text, brought field = some text → written.unique field = some text)
    (kept : ∀ other ∈ store.others owner, ∀ text, field.Guards text →
      other.unique field = some text → written.unique field = some text →
      brought field = some text) :
    (¬∀ other ∈ store.others owner,
      (Schema.indexOf field).clash written.row other.row = false) ↔
      ∃ value, store.Conflicts owner brought field value := by
  constructor
  · intro broken
    obtain ⟨other, member, clashes⟩ : ∃ other ∈ store.others owner,
        (Schema.indexOf field).clash written.row other.row = true := by simpa using broken
    obtain ⟨-, -, text, stands, taken, guarded⟩ := UniqueIndex.clash_row.1 clashes
    exact ⟨text, kept other member text guarded taken stands, guarded, other, member, taken⟩
  · rintro ⟨value, own, guarded, other, member, taken⟩ apart
    have live := (mem_others_iff.1 member).2.1
    have clashes := UniqueIndex.clash_row.2 ⟨alive, live, value, brings value own, taken, guarded⟩
    exact absurd clashes (Bool.eq_false_iff.1 (apart other member))

theorem writeFailure_indexOf (doing : String) (brought : UserStore.Brought) (message : String)
    (field : UniqueField) :
    UserStore.writeFailure doing brought
        (.server ⟨UserStore.uniqueViolation, message, some (Schema.indexOf field).name⟩) =
      .alreadyExists field (brought.value field) := by
  simp only [UserStore.writeFailure, ↓reduceIte, Option.bind_some, Schema.uniqueField?_indexOf]

namespace UniqueWrite

variable {field : UniqueField} {value : String} {now : Instant}

theorem save_reports {new : NewUser} {id : UserId} (own : new.brings field = some value) :
    (save new id now).Reports (Schema.indexOf field) (.alreadyExists field value) := by
  intro σ peer state message refused
  have brought :
      UserStore.Brought.value ⟨some new.account, new.email, new.mobile⟩ field = value := by
    cases field <;> exact congrArg (Option.getD · "") own
  simp only [save, UserStore.save, Exchange.eval_bind, Exchange.eval_ask] at refused ⊢
  rw [refused, Except.mapError_error, writeFailure_indexOf, brought]

theorem update_reports {patch : Patch} (own : patch.brings field = some value) :
    (update patch now).Reports (Schema.indexOf field) (.alreadyExists field value) := by
  intro σ peer state message refused
  have brought : UserStore.Brought.value ⟨none, patch.email, patch.mobile⟩ field = value := by
    cases field <;> exact congrArg (Option.getD · "") own
  simp only [update, UserStore.update, Exchange.eval_bind, Exchange.eval_ask] at refused ⊢
  rw [refused, Except.mapError_error, writeFailure_indexOf, brought]

end UniqueWrite

/-- Over the same rows, of which the unique indexes hold, the two guards agree on every new user and
on every patch of a live user. -/
theorem Store.guards_agree {store : Store} {table : Table} (kept : store.KeptIn table)
    (keyed : ∀ entry ∈ store.entries, entry.1 = entry.2.id.text)
    (held : ∀ index ∈ Schema.uniqueIndexes, index.Holds table) (now : Instant) :
    (∀ new id, (UniqueWrite.save new id now).Agrees store table) ∧
    ∀ patch row, store.liveRow? patch.id = some row →
      (UniqueWrite.update patch now).Agrees store table := by
  obtain ⟨users, rfl, perm⟩ := kept.users
  have holds (field : UniqueField) : (Schema.indexOf field).Holds (users.map User.row) :=
    held _ (Schema.mem_uniqueIndexes.2 ⟨field, rfl⟩)
  constructor
  · intro new id
    refine UniqueWrite.agrees_of new.claimed_of (fun field => ?_) (fun field value own => ?_)
      fun field value found supplies usage => ?_
    · have same : (User.ofNew id new now).unique field = new.brings field := by cases field <;> rfl
      refine (not_congr (save_holds perm (holds field) new id now)).trans
        (clash_iff_conflicts rfl (fun text own => same.trans own) ?_)
      exact fun other _ text _ _ stands => same.symm.trans stands
    · exact UniqueWrite.save_reports own
    · simp only [UniqueWrite.save, Memory.save] at found ⊢
      rw [found]
  · intro patch row named
    refine UniqueWrite.agrees_of patch.claimed_of (fun field => ?_) (fun field value own => ?_)
      fun field value found supplies usage => ?_
    · have alive : (patch.apply row now).IsLive := (liveRow?_eq_some.1 named).2
      have stands : (patch.apply row now).unique field =
          (patch.brings field).or (row.unique field) := by
        cases field
        · rfl
        · exact Option.orElse_eq_or
        · exact Option.orElse_eq_or
      refine (not_congr (patch_holds perm keyed (holds field) named now)).trans
        (clash_iff_conflicts alive (fun text own => ?_)
          fun other member text guarded taken found => ?_)
      · have brought : patch.brings field = some text := own
        rw [stands, brought]
        rfl
      · rw [stands, Option.or_eq_some_iff] at found
        rcases found with brought | ⟨-, before⟩
        · exact brought
        · have apart := row_apart perm keyed (holds field) named member
          have clashes := UniqueIndex.clash_row.2 ⟨(liveRow?_eq_some.1 named).2,
            (mem_others_iff.1 member).2.1, text, before, taken, guarded⟩
          exact absurd clashes (Bool.eq_false_iff.1 apart)
    · exact UniqueWrite.update_reports own
    · simp only [UniqueWrite.update, Memory.update] at found ⊢
      rw [named, found]

def Store.heirs : Store :=
  let email := some "a@x.org"
  let alice := User.ofNew .first { account := "alice", email } .epoch
  (Store.empty.put "u-1" { alice with deletedAt := some .epoch }).put "u-2"
    (User.ofNew .second { account := "bob", email } .epoch)

/-- A third user may have the account of the deleted one, not the email of the other; who may keep
it. -/
theorem heirs_guards_agree :
    let write (new : NewUser) := UniqueWrite.save new ⟨"u-3", rfl⟩ .epoch
    (¬∃ index ∈ Schema.uniqueIndexes,
      (write { account := "alice" }).Violates Store.heirs.table index) ∧
    (∃ index ∈ Schema.uniqueIndexes,
      (write { account := "carol", email := some "a@x.org" }).Violates Store.heirs.table index) ∧
    ¬∃ index ∈ Schema.uniqueIndexes, (UniqueWrite.update { id := .second, email := some "a@x.org" }
      .epoch).Violates Store.heirs.table index := by
  intro write
  have held : ∀ index ∈ Schema.uniqueIndexes,
      Store.heirs.table.Pairwise fun a b => index.clash a b = false := by decide +kernel
  obtain ⟨saved, updated⟩ :=
    Store.guards_agree Store.heirs.table_keeps (by decide) held .epoch
  refine ⟨?_, ?_, ?_⟩
  · rw [(saved { account := "alice" } ⟨"u-3", rfl⟩).violates_iff]
    decide
  · rw [(saved { account := "carol", email := some "a@x.org" } ⟨"u-3", rfl⟩).violates_iff]
    decide
  · rw [(updated { id := .second, email := some "a@x.org" } _ rfl).violates_iff]
    decide

end UserDirectory
