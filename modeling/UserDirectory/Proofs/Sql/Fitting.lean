import UserDirectory.Proofs.Database.Sending
import UserDirectory.Proofs.Sql.PartialUpdate
import UserDirectory.Proofs.User.Length
import UserDirectory.Sql.Schema

/-!
What the schema of the table admits: rows in which every column admits its value. Where all rows are
admitted, so are those that the statements of a call write, if the values of the call keep within the
lengths and the codes of the columns.
-/

namespace UserDirectory

open Sql

namespace Sql

def Row.Admitted (row : Row) : Prop :=
  ∀ definition ∈ Schema.definitions, definition.admits (row definition.column) = true

instance (row : Row) : Decidable row.Admitted :=
  inferInstanceAs (Decidable (∀ definition ∈ Schema.definitions,
    definition.admits (row definition.column) = true))

def Table.written (table : Table) : Statement → List Row
  | .insert assignments => [Row.ofAssignments assignments]
  | .update assignments conditions _ =>
    (table.selected conditions).map fun row => row.set assignments
  | _ => []

def Column.Admits (column : Column) (cell : Cell) : Prop :=
  ∀ definition ∈ Schema.definitions, definition.column = column → definition.admits cell = true

theorem Row.admitted_iff {row : Row} :
    row.Admitted ↔ ∀ column : Column, column.Admits (row column) := by
  constructor
  · rintro admitted column definition member rfl
    exact admitted definition member
  · exact fun admits definition member => admits definition.column definition member rfl

theorem Column.admits_iff {definition : Definition} (defined : definition ∈ Schema.definitions)
    {cell : Cell} : definition.column.Admits cell ↔ definition.admits cell = true := by
  constructor
  · exact fun admits => admits definition defined rfl
  · intro admitted other member same
    have once : (Schema.definitions.map Definition.column).Nodup := by decide
    obtain rfl := List.inj_on_of_nodup_map once member defined same
    exact admitted

section Columns

variable {column : Column}

theorem Column.admits_text {most : Nat} {key required : Bool}
    (defined : { column, type := .bounded most, key, required } ∈ Schema.definitions)
    {text : String} (short : text.length ≤ most) : column.Admits (.text text) :=
  (admits_iff defined).2 (decide_eq_true short)

theorem Column.admits_bounded {most : Nat}
    (defined : { column, type := .bounded most } ∈ Schema.definitions) {value : Option String}
    (short : ∀ text, value = some text → text.length ≤ most) : column.Admits (.ofText value) := by
  cases value with
  | none => exact (admits_iff defined).2 rfl
  | some text => exact admits_text defined (short text rfl)

theorem Column.admits_unbounded (defined : { column, type := .unbounded } ∈ Schema.definitions)
    (value : Option String) : column.Admits (.ofText value) := by
  cases value with
  | none => exact (admits_iff defined).2 rfl
  | some text => exact (admits_iff defined).2 rfl

theorem Column.admits_moment (defined : { column, type := .instant } ∈ Schema.definitions)
    (value : Option Instant) : column.Admits (.ofInstant value) := by
  cases value with
  | none => exact (admits_iff defined).2 rfl
  | some instant => exact (admits_iff defined).2 rfl

theorem Column.admits_stamp
    (defined : { column, type := .instant, required := true } ∈ Schema.definitions)
    (instant : Instant) : column.Admits (.instant instant) :=
  (admits_iff defined).2 rfl

theorem Column.admits_sex {value : Option Sex}
    (known : ∀ sex, value = some sex → sex.code = 0 ∨ sex.code = 1) :
    Column.sex.Admits (.ofInteger (value.map Sex.code)) := by
  have defined : Definition.mk .sex .smallInteger false false none [0, 1] ∈
      Schema.definitions := by decide
  refine (admits_iff defined).2 ?_
  cases value with
  | none => rfl
  | some sex => rcases known sex rfl with code | code <;> rw [Option.map_some, code] <;> rfl

theorem Column.admits_status {code : Int} (known : code = 0 ∨ code = 1) :
    Column.status.Admits (.integer code) := by
  have defined : Definition.mk .status .smallInteger false true (some 1) [0, 1] ∈
      Schema.definitions := by decide
  refine (admits_iff defined).2 ?_
  rcases known with rfl | rfl <;> rfl

theorem Row.Admitted.set {row : Row} (admitted : row.Admitted)
    {assignments : List (Column × Cell)}
    (admits : ∀ column cell, (column, cell) ∈ assignments → column.Admits cell) :
    (row.set assignments).Admitted := by
  rw [Row.admitted_iff] at admitted ⊢
  intro column
  rw [Row.set]
  cases found : assignments.lookup column with
  | none => exact admitted column
  | some cell =>
    obtain ⟨front, back, rfl, -⟩ := List.lookup_eq_some_iff.1 found
    exact admits column cell (List.mem_append_right front List.mem_cons_self)

end Columns

end Sql

theorem Sql.Column.admits_id (id : UserId) : Column.id.Admits (.text id.text) := by
  have defined : ({ column := .id, type := .bounded 64, key := true } : Definition) ∈
      Schema.definitions := by decide
  exact Column.admits_text defined id.length_le

structure FittingProfile (nickname remark email mobile : Option String) (sex : Option Sex)
    (status : Option Status) : Prop where
  nickname : ∀ text, nickname = some text → text.length ≤ 30
  remark : ∀ text, remark = some text → text.length ≤ 500
  email : ∀ text, email = some text → text.length ≤ 254
  mobile : ∀ text, mobile = some text → text.length ≤ 20
  sex : ∀ value, sex = some value → value.code = 0 ∨ value.code = 1
  status : ∀ value, status = some value → value.code = 0 ∨ value.code = 1

/-- What a call would write fits the columns. -/
def Call.Fits : Call → Prop
  | save new => new.account.length ≤ 50 ∧
    FittingProfile new.nickname new.remark new.email new.mobile new.sex (some new.status)
  | update patch => patch.id.text.length ≤ 64 ∧
    FittingProfile patch.nickname patch.remark patch.email patch.mobile patch.sex patch.status
  | delete id => id.text.length ≤ 64
  | changeStatus id status _ => id.text.length ≤ 64 ∧ (status.code = 0 ∨ status.code = 1)
  | _ => True

theorem NewUser.row_admitted {new : NewUser} (account : new.account.length ≤ 50)
    (profile : FittingProfile new.nickname new.remark new.email new.mobile new.sex new.status)
    (id : UserId) (now : Instant) : (User.ofNew id new now).row.Admitted := by
  rw [Row.admitted_iff]
  intro column
  cases column with
  | id => exact Column.admits_id id
  | account =>
    have defined : ({ column := .account, type := .bounded 50, required := true } : Definition) ∈
        Schema.definitions := by decide
    exact Column.admits_text defined account
  | nickname => exact Column.admits_bounded (by decide) profile.nickname
  | remark => exact Column.admits_bounded (by decide) profile.remark
  | email => exact Column.admits_bounded (by decide) profile.email
  | mobile => exact Column.admits_bounded (by decide) profile.mobile
  | sex => exact Column.admits_sex profile.sex
  | status => exact Column.admits_status (profile.status new.status rfl)
  | loginDate => exact Column.admits_moment (by decide) new.loginDate
  | createdAt => exact Column.admits_stamp (by decide) now
  | updatedAt => exact Column.admits_stamp (by decide) now
  | deletedAt => exact Column.admits_moment (by decide) none
  | _ => exact Column.admits_unbounded (by decide) _

theorem Patch.assignments_admitted {patch : Patch}
    (profile : FittingProfile patch.nickname patch.remark patch.email patch.mobile patch.sex
      patch.status) (now : Instant) :
    ∀ column cell, (column, cell) ∈ patch.assignments now → column.Admits cell := by
  have text {column : Column} {value : Option String} (admits : column.Admits (.ofText value))
      {cell : Cell} (given : value.map Cell.text = some cell) : column.Admits cell := by
    obtain ⟨text, rfl, rfl⟩ := Option.map_eq_some_iff.1 given
    exact admits
  intro column cell assigned
  rcases (patch.mem_assignments now).1 assigned with ⟨rfl, rfl⟩ | given
  · exact Column.admits_stamp (by decide) now
  · cases column with
    | nickname => exact text (Column.admits_bounded (by decide) profile.nickname) given
    | remark => exact text (Column.admits_bounded (by decide) profile.remark) given
    | email => exact text (Column.admits_bounded (by decide) profile.email) given
    | mobile => exact text (Column.admits_bounded (by decide) profile.mobile) given
    | passwordHash | deptId | postIds | avatar | loginIp | updateBy =>
      exact text (Column.admits_unbounded (by decide) _) given
    | sex =>
      obtain ⟨sex, supplied, rfl⟩ := Option.map_eq_some_iff.1 given
      have admits := Column.admits_sex profile.sex
      rwa [supplied] at admits
    | status =>
      obtain ⟨status, supplied, rfl⟩ := Option.map_eq_some_iff.1 given
      exact Column.admits_status (profile.status status supplied)
    | loginDate =>
      obtain ⟨instant, -, rfl⟩ := Option.map_eq_some_iff.1 given
      exact Column.admits_moment (by decide) (some instant)
    | _ => cases given

/-- Where all rows are admitted, those that a statement would write are too. -/
def Sql.Statement.Fits (statement : Statement) : Prop :=
  ∀ table : Table, (∀ row ∈ table, row.Admitted) → ∀ row ∈ table.written statement, row.Admitted

section Statements

variable {table : Table}

theorem Sql.Statement.update_fits {assignments : List (Column × Cell)}
    (admits : ∀ column cell, (column, cell) ∈ assignments → column.Admits cell)
    (conditions : List Condition) (returning : Bool) :
    (Statement.update assignments conditions returning).Fits := by
  intro table admitted row member
  obtain ⟨old, found, rfl⟩ := List.mem_map.1 member
  exact (admitted old (List.mem_filter.1 found).1).set admits

/-- The statements of a call that fits write admitted rows only, whichever id and time it is
given. -/
theorem Call.Fits.statements {call : Call} (fits : call.Fits) (id : UserId) (now : Instant) :
    ∀ statement ∈ call.statements id now, statement.Fits := by
  have reads {statement : Statement} (none : ∀ table, Table.written table statement = []) :
      statement.Fits := fun table _ row member => absurd (none table ▸ member) List.not_mem_nil
  cases call with
  | save new =>
    refine List.forall_mem_singleton.2 fun table _ => List.forall_mem_singleton.2 ?_
    rw [new.row_assigned]
    exact new.row_admitted fits.1 fits.2 id now
  | update patch =>
    refine List.forall_mem_singleton.2 (Statement.update_fits ?_ _ _)
    exact Patch.assignments_admitted fits.2 now
  | delete id =>
    refine List.forall_mem_singleton.2 (Statement.update_fits ?_ _ _)
    intro column cell assigned
    obtain ⟨rfl, rfl⟩ := Prod.mk.inj (List.mem_singleton.1 assigned)
    exact Column.admits_moment (by decide) (some now)
  | changeStatus id status updateBy =>
    refine List.forall_mem_singleton.2 (Statement.update_fits ?_ _ _)
    have blank {α : Type} {keeps : α → Prop} : ∀ value, none = some value → keeps value := nofun
    refine Patch.assignments_admitted ⟨blank, blank, blank, blank, blank, ?_⟩ now
    rintro value ⟨⟩
    exact fits.2
  | list query =>
    exact List.forall_mem_cons.2 ⟨reads fun _ => rfl,
      List.forall_mem_singleton.2 (reads fun _ => rfl)⟩
  | _ => exact List.forall_mem_singleton.2 (reads fun _ => rfl)

/-- What a table holds after a statement was there before or is written by it. -/
theorem Sql.Table.mem_run {statement : Statement} {row : Row}
    (member : row ∈ (table.run statement).2) : row ∈ table ∨ row ∈ table.written statement := by
  cases statement with
  | insert assignments => exact List.mem_append.1 member
  | update assignments conditions returning =>
    obtain ⟨old, there, rfl⟩ := List.mem_map.1 member
    by_cases chosen : Condition.selects conditions old = true
    · rw [if_pos chosen]
      exact .inr (List.mem_map_of_mem (List.mem_filter.2 ⟨there, chosen⟩))
    · rw [if_neg chosen]
      exact .inl there
  | _ => exact .inl member

end Statements

end UserDirectory
