import UserDirectory.Sql.Condition
import UserDirectory.User.Page
import UserDirectory.User.Patch
import UserDirectory.User.Statistics

namespace UserDirectory

open Sql

/-- The columns of a new row; the others stay empty. -/
def NewUser.assignments (new : NewUser) (id : UserId) (now : Instant) : List (Column × Cell) := [
  (.id, .text id.text),
  (.account, .text new.account),
  (.passwordHash, .ofText new.passwordHash),
  (.nickname, .ofText new.nickname),
  (.remark, .ofText new.remark),
  (.deptId, .ofText new.deptId),
  (.postIds, .ofText new.postIds),
  (.email, .ofText new.email),
  (.mobile, .ofText new.mobile),
  (.sex, .ofInteger (new.sex.map Sex.code)),
  (.avatar, .ofText new.avatar),
  (.status, .integer new.status.code),
  (.loginIp, .ofText new.loginIp),
  (.loginDate, .ofInstant new.loginDate),
  (.tenantId, .ofText new.tenantId),
  (.createBy, .ofText new.createBy),
  (.createdAt, .instant now),
  (.updatedAt, .instant now)]

def Patch.assignments (patch : Patch) (now : Instant) : List (Column × Cell) :=
  let assigned (column : Column) (cell : Option Cell) := cell.toList.map fun cell => (column, cell)
  [(.updatedAt, .instant now)] ++
  assigned .passwordHash (patch.passwordHash.map Cell.text) ++
  assigned .nickname (patch.nickname.map Cell.text) ++
  assigned .remark (patch.remark.map Cell.text) ++
  assigned .deptId (patch.deptId.map Cell.text) ++
  assigned .postIds (patch.postIds.map Cell.text) ++
  assigned .email (patch.email.map Cell.text) ++
  assigned .mobile (patch.mobile.map Cell.text) ++
  assigned .avatar (patch.avatar.map Cell.text) ++
  assigned .loginIp (patch.loginIp.map Cell.text) ++
  assigned .updateBy (patch.updateBy.map Cell.text) ++
  assigned .sex (patch.sex.map fun sex => .integer sex.code) ++
  assigned .status (patch.status.map fun status => .integer status.code) ++
  assigned .loginDate (patch.loginDate.map Cell.instant)

namespace Sql

inductive Statement
  /-- Adds a row and gives it back. -/
  | insert (assignments : List (Column × Cell))
  /-- Changes the rows selected, and gives them back where that is asked for. -/
  | update (assignments : List (Column × Cell)) (conditions : List Condition) (returning : Bool)
  /-- One of the rows selected. -/
  | first (conditions : List Condition)
  /-- A part of the rows selected, the newest first and of one instant the greater id first. -/
  | part (conditions : List Condition) (limit skip : Nat)
  | count (conditions : List Condition)
  /-- Six counts of the rows selected, in one go. -/
  | statistics (windows : Windows) (conditions : List Condition)
deriving DecidableEq

namespace Statement

def table : String := "system_users"

def assignment (assigned : Column × Cell) : Template :=
  [.words (assigned.1.name ++ " = "), .value assigned.2]

def selection (conditions : List Condition) : Template :=
  .words ("SELECT " ++ Column.list Column.all ++ " FROM " ++ table ++ " WHERE ") ::
    Condition.allTemplate conditions

/-- Limits travel as signed words of 64 bits; greater ones are cut to the greatest. -/
def cut (n : Nat) : Nat := min n 9223372036854775807

def since (start : Instant) (name : String) : Template :=
  [.words "COUNT(*) FILTER (WHERE created_at >= ", .value (.instant start),
    .words (") AS " ++ name)]

def template : Statement → Template
  | insert assignments =>
    .words ("INSERT INTO " ++ table ++ " (" ++ Column.list (assignments.map (·.1)) ++
      ") VALUES (") ::
    Template.joined ", " (assignments.map fun assigned => [.value assigned.2]) ++
    [.words (") RETURNING " ++ Column.list Column.all)]
  | update assignments conditions returning =>
    .words ("UPDATE " ++ table ++ " SET ") :: Template.joined ", " (assignments.map assignment) ++
    .words " WHERE " :: Condition.allTemplate conditions ++
    (if returning then [.words (" RETURNING " ++ Column.list Column.all)] else [])
  | first conditions => selection conditions ++ [.words " LIMIT 1"]
  | part conditions limit skip =>
    selection conditions ++
    [.words " ORDER BY created_at DESC, id DESC LIMIT ", .value (.integer (cut limit)),
      .words " OFFSET ", .value (.integer (cut skip))]
  | count conditions =>
    .words ("SELECT COUNT(*) FROM " ++ table ++ " WHERE ") :: Condition.allTemplate conditions
  | statistics windows conditions =>
    .words ("SELECT COUNT(*) AS total_users, " ++
      "COUNT(*) FILTER (WHERE status = 1) AS active_users, " ++
      "COUNT(*) FILTER (WHERE status = 0) AS inactive_users, ") ::
    since windows.today "today_registered" ++ .words ", " ::
    since windows.thisWeek "this_week_registered" ++ .words ", " ::
    since windows.thisMonth "this_month_registered" ++
    .words (" FROM " ++ table ++ " WHERE ") :: Condition.allTemplate conditions

def resultColumns : Statement → List String
  | insert _ => Column.all.map Column.name
  | update _ _ returning => if returning then Column.all.map Column.name else []
  | first _ => Column.all.map Column.name
  | part _ _ _ => Column.all.map Column.name
  | count _ => ["count"]
  | statistics _ _ =>
    ["total_users", "active_users", "inactive_users", "today_registered", "this_week_registered",
      "this_month_registered"]

def ofId (id : UserId) : List Condition :=
  [.compares .id .equal (.text id.text), Scope.live.condition]

/-- Look-ups by a column that holds one value at most among the rows in scope. -/
def find (scope : Scope) (column : Column) (value : String) : Statement :=
  first [scope.condition, .compares column .equal (.text value)]

def save (new : NewUser) (id : UserId) (now : Instant) : Statement :=
  insert (new.assignments id now)

def patch (changes : Patch) (now : Instant) : Statement :=
  update (changes.assignments now) (ofId changes.id) true

def changeStatus (id : UserId) (status : Status) (updateBy : Option String) (now : Instant) :
    Statement :=
  let changes : Patch := { id, status := some status, updateBy }
  update (changes.assignments now) (ofId id) false

def delete (id : UserId) (now : Instant) : Statement :=
  update [(.deletedAt, .instant now)] (ofId id) false

def list (query : Query) : Statement :=
  part query.filter.liveConditions query.limit query.skip

end Statement

end Sql

end UserDirectory
