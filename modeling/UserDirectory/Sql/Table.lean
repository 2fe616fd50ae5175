import UserDirectory.Sql.Fetched
import UserDirectory.Sql.Statement

namespace UserDirectory.Sql

inductive Result
  | rows (rows : List Fetched)
  | changed (count : Nat)
deriving DecidableEq

abbrev Table := List Row

namespace Table

def selected (table : Table) (conditions : List Condition) : Table :=
  table.filter (Condition.selects conditions)

/-- Instants from the latest to the earliest, and ids from the greatest to the least. Ids are compared
by their code points: the database is assumed to have a collation that compares bytes, such as `C`. -/
def newestFirst (a b : Row) : Bool :=
  match a .createdAt, b .createdAt, a .id, b .id with
  | .instant s, .instant t, .text x, .text y => t < s || (s = t && y ≤ x)
  | _, _, _, _ => true

def countOf (table : Table) (conditions : List Condition) : Cell :=
  .integer (table.selected conditions).length

def statisticsRow (table : Table) (windows : Windows) (conditions : List Condition) : Fetched :=
  let found := table.selected conditions
  let since (start : Instant) := found.countOf [.compares .createdAt .notBefore (.instant start)]
  [("total_users", found.countOf []),
    ("active_users", found.countOf [.comparesWritten .status .equal (.inl 1)]),
    ("inactive_users", found.countOf [.comparesWritten .status .equal (.inl 0)]),
    ("today_registered", since windows.today),
    ("this_week_registered", since windows.thisWeek),
    ("this_month_registered", since windows.thisMonth)]

def run (table : Table) : Statement → Result × Table
  | .insert assignments =>
    let row := Row.ofAssignments assignments
    (.rows [row.fetched], table ++ [row])
  | .update assignments conditions returning =>
    let changed (row : Row) := row.set assignments
    let found := table.selected conditions
    (if returning then .rows (found.map fun row => (changed row).fetched)
      else .changed found.length,
      table.map fun row => if Condition.selects conditions row then changed row else row)
  | .first conditions => (.rows (((table.selected conditions).take 1).map Row.fetched), table)
  | .part conditions limit skip =>
    let sorted := (table.selected conditions).mergeSort newestFirst
    (.rows (((sorted.drop (Statement.cut skip)).take (Statement.cut limit)).map Row.fetched), table)
  | .count conditions => (.rows [[("count", table.countOf conditions)]], table)
  | .statistics windows conditions => (.rows [table.statisticsRow windows conditions], table)

end Table

end UserDirectory.Sql
