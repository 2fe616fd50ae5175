import Mathlib.Tactic.Choose
import UserDirectory.Database.UserStore
import UserDirectory.Proofs.Database.Exchange
import UserDirectory.Proofs.Service.Run
import UserDirectory.Proofs.Sql.Assignments
import UserDirectory.Proofs.Sql.Decoding
import UserDirectory.Proofs.Sql.Template
import UserDirectory.Sql.Schema

/-!
Users on their way into the table and out of it. A new user is written as a list of columns and a
list of values, and the row that the two make is read as the user. Of the rows whose columns are of
the types of the schema, those are read whose id is one and whose codes stand for something.
-/

namespace UserDirectory

open Sql Database

def NewUser.columns : List Column :=
  Column.all.filter fun column => column ∉ [Column.updateBy, Column.deletedAt]

/-- The row that the statement makes, its columns and its values taken one by one. -/
def NewUser.stored (new : NewUser) (id : UserId) (now : Instant) : Row :=
  Row.ofAssignments (NewUser.columns.zip (Statement.save new id now).template.values)

section Writing

variable (new : NewUser) (id : UserId) (now : Instant)

theorem NewUser.assigned_columns : (new.assignments id now).map Prod.fst = NewUser.columns := rfl

theorem Sql.Statement.save_template :
    (Statement.save new id now).template =
      .words ("INSERT INTO system_users (" ++ Column.list NewUser.columns ++ ") VALUES (") ::
        (Template.joined ", " (((new.assignments id now).map Prod.snd).map fun cell =>
          [.value cell]) ++ [.words (") RETURNING " ++ Column.list Column.all)]) := by
  rw [List.map_map]
  rfl

theorem Sql.Statement.save_values :
    (Statement.save new id now).template.values = (new.assignments id now).map Prod.snd := by
  rw [Statement.save_template, Template.values_words, Template.values_append,
    Template.values_joined, Template.values_words, Template.values_nil, List.append_nil]

theorem Sql.Statement.save_text :
    (Statement.save new id now).template.text =
      "INSERT INTO system_users (" ++ Column.list NewUser.columns ++ ") VALUES (" ++
        Template.places ", " 1 NewUser.columns.length ++ ") RETURNING " ++
          Column.list Column.all := by
  rw [Statement.save_template, Template.text, Template.textFrom, Template.textFrom_append,
    Template.textFrom_joined, List.length_map, ← List.length_map (f := Prod.fst),
    NewUser.assigned_columns, Template.textFrom, Template.textFrom]
  simp only [String.append_assoc, String.append_empty]

theorem NewUser.stored_eq : new.stored id now = (User.ofNew id new now).row := by
  have paired : NewUser.columns.zip ((new.assignments id now).map Prod.snd) =
      new.assignments id now := (List.zip_of_prod (new.assigned_columns id now) rfl).symm
  rw [NewUser.stored, Statement.save_values, paired, NewUser.row_assigned]

theorem hold_save {peer : Peer σ} {state after : σ} {row : Fetched} {rest : List Fetched}
    {changed : Nat} {user : User}
    (answered : peer (.users (.save new id now)) state = (.ok ⟨row :: rest, changed⟩, after))
    (read : User.ofFetched row = .ok user) :
    (UserStore.save new id now).hold peer state =
      ⟨.ok user, after, [.users (.save new id now)], []⟩ := by
  have made : (Exchange.ofExcept (User.ofFetched row)) = .done user := by rw [read]; rfl
  exact Exchange.hold_send answered made

end Writing

section Reading

namespace Sql

def ColumnType.holds : ColumnType → Cell → Bool
  | .bounded _, .text _ => true
  | .unbounded, .text _ => true
  | .smallInteger, .integer _ => true
  | .instant, .instant _ => true
  | _, _ => false

def Definition.types (definition : Definition) (cell : Cell) : Bool :=
  if cell = .null then !(definition.required || definition.key) else definition.type.holds cell

def Column.ruled : List Column := [.id, .sex, .status]

/-- Whether the columns without rules of their own are of the types of the schema. -/
def Row.Typed (row : Row) : Prop :=
  ∀ definition ∈ Schema.definitions, definition.column ∉ Column.ruled →
    definition.types (row definition.column) = true

instance (row : Row) : Decidable row.Typed :=
  inferInstanceAs (Decidable (∀ definition ∈ Schema.definitions, definition.column ∉ Column.ruled →
    definition.types (row definition.column) = true))

def ColumnType.isText : ColumnType → Bool
  | .bounded _ => true
  | .unbounded => true
  | _ => false

def ColumnType.isInstant (type : ColumnType) : Bool := type = .instant

/-- Whether a column without rules of its own is of a kind, with a value required or not. -/
def Column.declared (kind : ColumnType → Bool) (needed : Bool) (column : Column) : Bool :=
  column ∉ Column.ruled && Schema.definitions.any fun definition =>
    definition.column = column && (definition.required || definition.key) = needed &&
      kind definition.type

def Keeps (kind : ColumnType → Bool) (keep : α → Cell) : Prop :=
  ∀ type cell, kind type = true → type.holds cell = true → ∃ value, cell = keep value

theorem keeps_text : Keeps ColumnType.isText Cell.text := fun type cell => by
  cases type <;> cases cell <;> simp [ColumnType.isText, ColumnType.holds]

theorem keeps_instant : Keeps ColumnType.isInstant Cell.instant := fun type cell => by
  cases type <;> cases cell <;> simp [ColumnType.isInstant, ColumnType.holds]

variable {row : Row} {kind : ColumnType → Bool} {needed : Bool} {keep : α → Cell}

theorem Row.Typed.cell (typed : row.Typed) (column : Column) (keeps : Keeps kind keep)
    (declared : column.declared kind needed = true) :
    (row column = .null ∧ needed = false) ∨ ∃ value, row column = keep value := by
  rw [Column.declared, Bool.and_eq_true, decide_eq_true_iff, List.any_eq_true] at declared
  obtain ⟨unruled, definition, member, declared⟩ := declared
  simp only [Bool.and_eq_true, decide_eq_true_iff] at declared
  obtain ⟨⟨rfl, rfl⟩, ofKind⟩ := declared
  have held := typed definition member unruled
  rw [Definition.types] at held
  split at held
  next missing => exact .inl ⟨missing, by simpa only [Bool.not_eq_true'] using held⟩
  next => exact .inr (keeps _ _ ofKind held)

theorem Row.Typed.optional (typed : row.Typed) (keeps : Keeps kind keep) (column : Column)
    (declared : column.declared kind false = true) :
    ∃ value : Option α, row column = (value.map keep).getD .null := by
  obtain ⟨missing, -⟩ | ⟨value, given⟩ := typed.cell column keeps declared
  · exact ⟨none, missing⟩
  · exact ⟨some value, given⟩

theorem Row.Typed.required (typed : row.Typed) (keeps : Keeps kind keep) (column : Column)
    (declared : column.declared kind true = true) : ∃ value : α, row column = keep value := by
  obtain ⟨-, needless⟩ | given := typed.cell column keeps declared
  · cases needless
  · exact given

/-- A row of the types of the schema is that of a user if the ruled columns are. -/
theorem Row.Typed.user (typed : row.Typed) {id : UserId} {sex : Option Sex} {status : Status}
    (atId : row .id = .text id.text) (atSex : row .sex = .ofInteger (sex.map Sex.code))
    (atStatus : row .status = .integer status.code) : ∃ user : User, row = user.row := by
  choose! text atText using typed.optional keeps_text
  choose! time atTime using typed.optional keeps_instant
  obtain ⟨account, atAccount⟩ := typed.required keeps_text .account (by decide)
  obtain ⟨createdAt, atCreatedAt⟩ := typed.required keeps_instant .createdAt (by decide)
  obtain ⟨updatedAt, atUpdatedAt⟩ := typed.required keeps_instant .updatedAt (by decide)
  refine ⟨{
    id, account, sex, status, createdAt, updatedAt
    passwordHash := text .passwordHash
    nickname := text .nickname
    remark := text .remark
    deptId := text .deptId
    postIds := text .postIds
    email := text .email
    mobile := text .mobile
    avatar := text .avatar
    loginIp := text .loginIp
    loginDate := time .loginDate
    tenantId := text .tenantId
    createBy := text .createBy
    updateBy := text .updateBy
    deletedAt := time .deletedAt }, ?_⟩
  funext column
  cases column <;>
    first
    | assumption
    | exact atText _ (by decide)
    | exact atTime _ (by decide)

end Sql

end Reading

def Failure.OfStorage (failure : Failure) : Prop := ∃ message, failure = .storage message

theorem User.ofFetched_fails (row : Fetched) :
    Except.Fails Failure.OfStorage (User.ofFetched row) := by
  unfold User.ofFetched
  have told {ε α : Type} {result : Except ε α} {tell : ε → String} :
      Except.Fails Failure.OfStorage (result.mapError fun error => .storage (tell error)) :=
    .mapError fun _ => ⟨_, rfl⟩
  refine told.bind fun _ => told.bind fun _ => told.bind fun code => ?_
  cases code with
  | none =>
    refine Except.Fails.bind (.ok _) fun _ => ?_
    iterate 19 refine told.bind fun _ => ?_
    exact .ok _
  | some code =>
    refine (told.map _).bind fun _ => ?_
    iterate 19 refine told.bind fun _ => ?_
    exact .ok _

def Sql.Row.Ruled (row : Row) : Prop :=
  (∃ text, row .id = .text text ∧ Rule.id text = .ok ()) ∧
  row .sex ∈ [.null, .integer 0, .integer 1] ∧
  row .status ∈ [.integer 0, .integer 1]

theorem User.row_ruled (user : User) : user.row.Ruled := by
  refine ⟨⟨user.id.text, rfl, user.id.valid⟩, ?_, ?_⟩
  · change Cell.ofInteger (user.sex.map Sex.code) ∈ _
    cases user.sex with
    | none => decide
    | some sex => cases sex <;> decide
  · change Cell.integer user.status.code ∈ _
    cases user.status <;> decide

theorem Sql.Row.Ruled.user {row : Row} (ruled : row.Ruled) (typed : row.Typed) :
    ∃ user : User, row = user.row := by
  obtain ⟨⟨text, atId, valid⟩, atSex, atStatus⟩ := ruled
  have sexed : ∃ sex : Option Sex, row .sex = .ofInteger (sex.map Sex.code) := by
    simp only [List.mem_cons, List.not_mem_nil, or_false] at atSex
    obtain absent | female | male := atSex
    · exact ⟨none, absent⟩
    · exact ⟨some .female, female⟩
    · exact ⟨some .male, male⟩
  have stated : ∃ status : Status, row .status = .integer status.code := by
    simp only [List.mem_cons, List.not_mem_nil, or_false] at atStatus
    obtain disabled | enabled := atStatus
    · exact ⟨.disabled, disabled⟩
    · exact ⟨.enabled, enabled⟩
  obtain ⟨sex, atSex⟩ := sexed
  obtain ⟨status, atStatus⟩ := stated
  have named : row .id = .text (UserId.mk text valid).text := atId
  exact typed.user named atSex atStatus

/-- A row of the types of the schema is read exactly if its id is one and its codes stand for
something. -/
theorem User.read_iff {row : Row} (typed : row.Typed) :
    (∃ user, User.ofFetched row.fetched = .ok user) ↔ row.Ruled := by
  simp only [User.ofFetched_eq_ok]
  constructor
  · rintro ⟨user, rfl⟩
    exact user.row_ruled
  · intro ruled
    exact ruled.user typed

/-- A new user is written as so many values as columns, with a place for each, and the row that they
make is read as the new user with its id and the time on the clock; so saving comes to that user,
whatever else the other side does. And a row whose columns are of the types of the schema is read
exactly if its id is one, its sex is missing or has a code, and its status has a code; any other is
told as a failure of the storage. -/
theorem User.rows_survive :
    (∀ (new : NewUser) (id : UserId) (now : Instant),
      NewUser.columns.Nodup ∧
      (Statement.save new id now).template.text =
        "INSERT INTO system_users (" ++ Column.list NewUser.columns ++ ") VALUES (" ++
          Template.places ", " 1 NewUser.columns.length ++ ") RETURNING " ++
            Column.list Column.all ∧
      (Statement.save new id now).template.values.length = NewUser.columns.length ∧
      User.ofFetched (new.stored id now).fetched = .ok (User.ofNew id new now) ∧
      ∀ {σ : Type} (peer : Peer σ) (state after : σ) (rest : List Fetched) (changed : Nat),
        peer (.users (.save new id now)) state =
          (.ok ⟨(new.stored id now).fetched :: rest, changed⟩, after) →
        (UserStore.save new id now).hold peer state =
          ⟨.ok (User.ofNew id new now), after, [.users (.save new id now)], []⟩) ∧
    ∀ row : Row, row.Typed →
      ((∃ user, User.ofFetched row.fetched = .ok user) ↔ row.Ruled) ∧
      (¬row.Ruled → ∃ message, User.ofFetched row.fetched = .error (.storage message)) := by
  refine ⟨fun new id now => ?_, fun row typed => ⟨User.read_iff typed, fun unruled => ?_⟩⟩
  · have read : User.ofFetched (new.stored id now).fetched = .ok (User.ofNew id new now) :=
      User.ofFetched_eq_ok.2 (new.stored_eq id now)
    exact ⟨by decide, Statement.save_text new id now, by rw [Statement.save_values]; rfl, read,
      fun peer state after rest changed answered => hold_save new id now answered read⟩
  · cases told : User.ofFetched row.fetched with
    | ok user => exact absurd ((User.read_iff typed).1 ⟨user, told⟩) unruled
    | error failure =>
      obtain ⟨message, rfl⟩ := User.ofFetched_fails row.fetched failure told
      exact ⟨message, rfl⟩

/-- A user is saved by a side that gives its row back; with a status of 300 the row is not read. -/
theorem User.first_survives :
    let new : NewUser := { account := "alice", sex := some .female }
    let row := Row.set (new.stored .first .epoch) [(.status, .integer 300)]
    let peer : Peer Nat := fun _ asked => (.ok ⟨[(new.stored .first .epoch).fetched], 0⟩, asked + 1)
    ((UserStore.save new .first .epoch).hold peer 0).result =
      .ok (User.ofNew .first new .epoch) ∧
    row.Typed ∧ ¬row.Ruled ∧
    ∃ message, User.ofFetched row.fetched = .error (.storage message) := by
  intro new row peer
  have typed : row.Typed := by decide
  have unruled : ¬row.Ruled := fun ruled => absurd ruled.2.2 (by decide)
  obtain ⟨written, read⟩ := User.rows_survive
  obtain ⟨-, -, -, -, saved⟩ := written new .first .epoch
  exact ⟨congrArg Held.result (saved peer 0 1 [] 0 rfl), typed, unruled, (read row typed).2 unruled⟩

end UserDirectory
