import UserDirectory.Sql.Column
import UserDirectory.Sql.Like
import UserDirectory.User.Filter

/-!
Conditions on rows: how they are written, and when they hold. A comparison with a missing value is
neither true nor false, and only what is true selects a row.
-/

namespace UserDirectory.Sql

inductive Comparison
  | equal
  | unequal
  | like
  | notBefore
  | before
deriving DecidableEq

def Comparison.sign : Comparison → String
  | equal => "="
  | unequal => "<>"
  | like => "LIKE"
  | notBefore => ">="
  | before => "<"

/-- The truth of a comparison; none where a value is missing. -/
def Comparison.truth (comparison : Comparison) (left right : Cell) : Option Bool :=
  if left = .null ∨ right = .null then none
  else
    some (match comparison, left, right with
      | equal, left, right => left = right
      | unequal, left, right => left ≠ right
      | like, .text text, .text pattern => Like.fits pattern.toList text.toList
      | notBefore, .instant a, .instant b => b ≤ a
      | before, .instant a, .instant b => a < b
      | _, _, _ => false)

inductive Condition
  | always
  | missing (column : Column)
  /-- A comparison with a value that travels beside the text. -/
  | compares (column : Column) (comparison : Comparison) (value : Cell)
  /-- A comparison with a number or a text written into the statement itself. -/
  | comparesWritten (column : Column) (comparison : Comparison) (value : Int ⊕ String)
deriving DecidableEq

namespace Condition

def written (value : Int ⊕ String) : String :=
  match value with
  | .inl number => String.ofList (Text.signedDigits number)
  | .inr text => "'" ++ text ++ "'"

def template : Condition → Template
  | always => [.words "TRUE"]
  | missing column => [.words (column.name ++ " IS NULL")]
  | compares column comparison value =>
    [.words (column.name ++ " " ++ comparison.sign ++ " "), .value value]
  | comparesWritten column comparison value =>
    [.words (column.name ++ " " ++ comparison.sign ++ " " ++ written value)]

def truth (row : Row) : Condition → Option Bool
  | always => some true
  | missing column => some (row column = .null)
  | compares column comparison value => comparison.truth (row column) value
  | comparesWritten column comparison value =>
    comparison.truth (row column) (match value with
      | .inl number => .integer number
      | .inr text => .text text)

/-- All conditions together; none of them may be missing its truth. -/
def selects (conditions : List Condition) (row : Row) : Bool :=
  conditions.all fun condition => condition.truth row = some true

def allTemplate (conditions : List Condition) : Template :=
  Template.joined " AND " (conditions.map template)

end Condition

end UserDirectory.Sql

namespace UserDirectory

open Sql

/-- The one place that decides which rows are seen. -/
def Scope.condition : Scope → Condition
  | live => .missing .deletedAt
  | all => .always

def Filter.conditions (filter : Filter) : List Condition :=
  let holds (column : Column) (comparison : Comparison) (cell : Option Cell) :=
    cell.toList.map fun value => Condition.compares column comparison value
  let part (value : Option String) := value.map fun part => Cell.text (Like.containing part)
  holds .account .like (part filter.account) ++
  holds .email .like (part filter.email) ++
  holds .mobile .like (part filter.mobile) ++
  holds .status .equal (filter.status.map fun status => .integer status.code) ++
  holds .deptId .equal (filter.deptId.map Cell.text) ++
  holds .tenantId .equal (filter.tenantId.map Cell.text) ++
  holds .createdAt .notBefore (filter.createdFrom.map Cell.instant) ++
  holds .createdAt .before (filter.createdBefore.map Cell.instant)

def Filter.liveConditions (filter : Filter) : List Condition :=
  Scope.live.condition :: filter.conditions

end UserDirectory
