import UserDirectory.Proofs.Sql.Like
import UserDirectory.Sql.Condition

namespace UserDirectory.Sql

theorem all_compares (row : Row) (column : Column) (comparison : Comparison)
    (cell : Option Cell) :
    (cell.toList.map fun value => Condition.compares column comparison value).all
        (fun condition => condition.truth row = some true) =
      cell.all fun value => comparison.truth (row column) value = some true := by
  cases cell with
  | none => rfl
  | some value =>
    rw [Option.toList_some, List.map_singleton, List.all_cons, List.all_nil, Bool.and_true]
    rfl

theorem like_truth (value : Option String) (part : String) :
    (Comparison.like.truth (Cell.ofText value) (.text (Like.containing part)) = some true) =
      (value.any fun text => Text.contains text.toList part.toList) := by
  cases value with
  | none => simp [Cell.ofText, Comparison.truth]
  | some text => simp [Cell.ofText, Comparison.truth, Like.fits_containing]

theorem like_text_truth (text part : String) :
    (Comparison.like.truth (.text text) (.text (Like.containing part)) = some true) =
      (Text.contains text.toList part.toList = true) :=
  like_truth (some text) part

theorem equal_text_truth (value : Option String) (wanted : String) :
    (Comparison.equal.truth (Cell.ofText value) (.text wanted) = some true) =
      (value = some wanted) := by
  cases value <;> simp [Cell.ofText, Comparison.truth]

theorem equal_status_truth (status wanted : Status) :
    (Comparison.equal.truth (.integer status.code) (.integer wanted.code) = some true) =
      (status = wanted) := by
  cases status <;> cases wanted <;> simp [Comparison.truth, Status.code]

theorem notBefore_truth (instant start : Instant) :
    (Comparison.notBefore.truth (.instant instant) (.instant start) = some true) =
      (start ≤ instant) := by
  simp [Comparison.truth]

theorem before_truth (instant stop : Instant) :
    (Comparison.before.truth (.instant instant) (.instant stop) = some true) =
      (instant < stop) := by
  simp [Comparison.truth]

end UserDirectory.Sql

namespace UserDirectory

open Sql

theorem Filter.conditions_select (filter : Filter) (user : User) :
    Condition.selects filter.conditions user.row = filter.selects user := by
  simp only [Condition.selects, Filter.conditions, List.all_append, all_compares,
    Option.all_map]
  simp only [User.row, like_truth, like_text_truth, equal_text_truth, equal_status_truth,
    notBefore_truth, before_truth]
  simp only [Filter.selects, Filter.holdsPart, Filter.holdsValue, Bool.decide_eq_true,
    Option.any_some]
  ac_rfl

theorem live_truth (user : User) :
    (Scope.live.condition.truth user.row = some true) = user.IsLive := by
  have deleted : user.row .deletedAt = Cell.ofInstant user.deletedAt := rfl
  cases state : user.deletedAt <;>
    simp [Scope.condition, Condition.truth, deleted, state, Cell.ofInstant, User.IsLive]

/-- A filter selects the same live users by its conditions as by itself. -/
theorem Filter.liveConditions_select (filter : Filter) (user : User) :
    Condition.selects filter.liveConditions user.row =
      (decide user.IsLive && filter.selects user) := by
  rw [← Filter.conditions_select]
  simp only [Filter.liveConditions, Condition.selects, List.all_cons, live_truth]

end UserDirectory
