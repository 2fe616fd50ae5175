import UserDirectory.Database.Exchange
import UserDirectory.Store.Call

namespace UserDirectory.Database.UserStore

open Sql

def firstRow (answer : Answer) : Except DatabaseError Fetched :=
  match answer.rows with
  | row :: _ => .ok row
  | [] => .error .noRows

structure Brought where
  account : Option String := none
  email : Option String := none
  mobile : Option String := none

def Brought.value (brought : Brought) : UniqueField → String
  | .account => brought.account.getD ""
  | .email => brought.email.getD ""
  | .mobile => brought.mobile.getD ""

/-- The code by which a database tells that a unique index does not admit a row. -/
def uniqueViolation : String := "23505"

/-- A write that a unique index does not admit brings a value that is taken. -/
def writeFailure (doing : String) (brought : Brought) (error : DatabaseError) : Failure :=
  let taken := match error with
    | .server error =>
      if error.code = uniqueViolation then error.constraint.bind Schema.uniqueField? else none
    | _ => none
  match taken with
  | some field => .alreadyExists field (brought.value field)
  | none => error.failure doing

def save (new : NewUser) (id : UserId) (now : Instant) : Exchange User := do
  let failure := writeFailure "create user" ⟨some new.account, new.email, new.mobile⟩
  let answer ← Exchange.ask (.users (.save new id now)) failure
  let row ← Exchange.ofExcept ((firstRow answer).mapError failure)
  Exchange.ofExcept (User.ofFetched row)

def firstUser (answer : Answer) : Exchange (Option User) :=
  match answer.rows with
  | [] => pure none
  | row :: _ => do return some (← Exchange.ofExcept (User.ofFetched row))

def update (changes : Patch) (now : Instant) : Exchange (Option User) := do
  let failure := writeFailure "update user" ⟨none, changes.email, changes.mobile⟩
  firstUser (← Exchange.ask (.users (.patch changes now)) failure)

def delete (id : UserId) (now : Instant) : Exchange Bool := do
  let answer ← Exchange.ask (.users (.delete id now)) (DatabaseError.failure "delete user")
  return 0 < answer.changed

def changeStatus (id : UserId) (status : Status) (updateBy : Option String) (now : Instant) :
    Exchange Bool := do
  let answer ← Exchange.ask (.users (.changeStatus id status updateBy now))
    (DatabaseError.failure "change user status")
  return 0 < answer.changed

def find (scope : Scope) (column : Column) (value : String) : Exchange (Option User) := do
  firstUser (← Exchange.ask (.users (.find scope column value))
    (DatabaseError.failure ("get user by " ++ column.name)))

/-- A negative count counts as zero. -/
def countIn (row : Fetched) (name : String) : Except ReadError Nat :=
  (Fetched.required Cell.integer? row name).map Int.toNat

def count (filter : Filter) : Exchange Nat := do
  let failure := DatabaseError.failure "count users"
  let answer ← Exchange.ask (.users (.count filter.liveConditions)) failure
  let row ← Exchange.ofExcept ((firstRow answer).mapError failure)
  let counted := (Fetched.first Cell.integer? row).mapError DatabaseError.read
  return (← Exchange.ofExcept (counted.mapError failure)).toNat

def list (query : Query) : Exchange Page := do
  let total ← count query.filter
  let answer ← Exchange.ask (.users (.list query)) (DatabaseError.failure "list users")
  let users ← Exchange.ofExcept (answer.rows.mapM User.ofFetched)
  return ⟨users, total, query.page, query.pageSize⟩

def statistics (scope : Filter) (windows : Windows) : Exchange Statistics := do
  let failure := DatabaseError.failure "compute user statistics"
  let answer ← Exchange.ask (.users (.statistics windows scope.liveConditions)) failure
  let row ← Exchange.ofExcept ((firstRow answer).mapError failure)
  let read (name : String) : Exchange Nat :=
    Exchange.ofExcept ((countIn row name).mapError fun error =>
      .storage ("Failed to read " ++ name ++ ": " ++ error.message))
  return {
    total := ← read "total_users"
    active := ← read "active_users"
    inactive := ← read "inactive_users"
    today := ← read "today_registered"
    thisWeek := ← read "this_week_registered"
    thisMonth := ← read "this_month_registered" }

end UserDirectory.Database.UserStore
