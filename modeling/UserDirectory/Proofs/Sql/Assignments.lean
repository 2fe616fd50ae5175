import UserDirectory.Proofs.Sql.Selection
import UserDirectory.Sql.Table

/-!
What is written to the table of users is what is made of the users: the columns of a new row are the
row of the new user, and the columns that a patch assigns turn the row of a user into the row of the
user patched.
-/

namespace UserDirectory

open Sql

namespace Sql

theorem lookup_assigned (column key : Column) (cell : Option Cell) :
    (cell.toList.map fun cell => (column, cell)).lookup key =
      if key = column then cell else none := by
  cases cell with
  | none => simp
  | some value =>
    by_cases same : key = column
    · simp [same]
    · simp [same]

/-- A cell assigned in the place of the one that is there, where there is one to assign. -/
theorem assigned_over (keep : α → Cell) (value old : Option α) :
    (value.map keep).getD ((old.map keep).getD .null) = ((value <|> old).map keep).getD .null := by
  cases value <;> rfl

end Sql

theorem NewUser.row_assigned (new : NewUser) (id : UserId) (now : Instant) :
    Row.ofAssignments (new.assignments id now) = (User.ofNew id new now).row := by
  funext column
  cases column <;> rfl

theorem Patch.row_assigned (patch : Patch) (user : User) (now : Instant) :
    user.row.set (patch.assignments now) = (patch.apply user now).row := by
  funext column
  simp only [Row.set, Patch.assignments, List.lookup_append, lookup_assigned]
  cases column
  all_goals simp only [reduceCtorEq, ↓reduceIte, Option.or_none]
  case sex =>
    change (patch.sex.map _).getD ((user.sex.map Sex.code).map Cell.integer |>.getD .null) =
      ((patch.sex <|> user.sex).map Sex.code |>.map Cell.integer).getD .null
    rw [Option.map_map, Option.map_map]
    exact assigned_over _ patch.sex user.sex
  case status =>
    change (patch.status.map fun status => Cell.integer status.code).getD
      (.integer user.status.code) = .integer (patch.status.getD user.status).code
    cases patch.status <;> rfl
  case loginDate => exact assigned_over Cell.instant patch.loginDate user.loginDate
  all_goals first | rfl | exact assigned_over Cell.text _ _

theorem Sql.Statement.ofId_selects (id : UserId) (user : User) :
    Condition.selects (Statement.ofId id) user.row = true ↔ user.IsLive ∧ user.id = id := by
  have named : (Comparison.equal.truth (.text user.id.text) (.text id.text) = some true) =
      (some user.id.text = some id.text) := equal_text_truth (some user.id.text) id.text
  have own : some user.id.text = some id.text ↔ user.id = id :=
    ⟨fun same => UserId.text_injective (Option.some.inj same), fun same => same ▸ rfl⟩
  simp only [Statement.ofId, Condition.selects, List.all_cons, List.all_nil, Bool.and_true,
    live_truth, Bool.and_eq_true, decide_eq_true_iff]
  rw [and_comm, ← own, ← named]
  rfl

def UserId.liveIn (id : UserId) (users : List User) : List User :=
  users.filter fun user => user.IsLive ∧ user.id = id

def UserId.changeIn (id : UserId) (change : User → User) (users : List User) : List User :=
  users.map fun user => if user.IsLive ∧ user.id = id then change user else user

section Tables

variable (users : List User) (now : Instant)

theorem run_save (new : NewUser) (id : UserId) :
    (Table.run (users.map User.row) (.save new id now)).2 =
      users.map User.row ++ [(User.ofNew id new now).row] := by
  rw [← new.row_assigned]
  rfl

/-- An update by id writes what `change` makes of the user named. -/
theorem Sql.Table.run_update (id : UserId) {change : User → User}
    {assignments : List (Column × Cell)}
    (written : ∀ user, user.row.set assignments = (change user).row) (returning : Bool) :
    Table.run (users.map User.row) (.update assignments (Statement.ofId id) returning) =
      (if returning then .rows (((id.liveIn users).map change).map fun user => user.row.fetched)
        else .changed (id.liveIn users).length, (id.changeIn change users).map User.row) := by
  have selected : Table.selected (users.map User.row) (Statement.ofId id) =
      (id.liveIn users).map User.row := by
    rw [Table.selected, List.filter_map, UserId.liveIn]
    congr 2
    funext user
    rw [Function.comp_apply, Bool.eq_iff_iff, Statement.ofId_selects, decide_eq_true_iff]
  simp only [Table.run, selected, List.map_map, List.length_map, Prod.mk.injEq, UserId.changeIn]
  refine ⟨?_, List.map_congr_left fun user _ => ?_⟩
  · congr 2
    exact List.map_congr_left fun user _ => congrArg Row.fetched (written user)
  · simp only [Function.comp_apply, Statement.ofId_selects, written]
    split <;> rfl

theorem run_patch (patch : Patch) :
    (Table.run (users.map User.row) (.patch patch now)).2 =
      users.map fun user =>
        (if user.IsLive ∧ user.id = patch.id then patch.apply user now else user).row := by
  have ran := Table.run_update users patch.id (patch.row_assigned · now) true
  exact (congrArg Prod.snd ran).trans List.map_map

end Tables

end UserDirectory
