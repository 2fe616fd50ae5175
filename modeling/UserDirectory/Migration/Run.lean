import UserDirectory.Database.Exchange

/-!
Taking migrations and taking them back. A step and its record are one transaction, so a run that
stops anywhere leaves no step half taken.
-/

namespace UserDirectory.Migration

open Database Sql

def numbered (version : Int) : String := String.ofList (Text.signedDigits version)

/-- What a transaction does between its beginning and its end. What fails is rolled back. -/
def inTransaction (request : Request) (doing : String) : Exchange Unit :=
  .send request fun answer =>
    match answer with
    | .ok _ => .done ()
    | .error error => .send .rollback fun _ => .fail (error.failure doing)

def begin : Exchange Unit := do
  let _ ← Exchange.ask .begin (DatabaseError.failure "start migration transaction")

def taken : Exchange (List Int) := do
  let _ ← Exchange.ask (.migrations .createTable) (DatabaseError.failure "create migrations table")
  let failure := DatabaseError.failure "get applied migrations"
  let answer ← Exchange.ask (.migrations .versions) failure
  let versions := answer.rows.mapM (Fetched.first Cell.integer?)
  Exchange.ofExcept ((versions.mapError DatabaseError.read).mapError failure)

def current : Exchange (Option Int) := do return (← taken).getLast?

def take (migration : Migration) : Exchange Unit := do
  let version := numbered migration.version
  begin
  inTransaction (.script migration.up) ("run migration " ++ version)
  inTransaction (.migrations (.record migration.version migration.description))
    ("record migration " ++ version)
  inTransaction .commit ("commit migration " ++ version)
  Exchange.info "Applied migration"
    [("version", .number migration.version), ("description", .text migration.description)]

def takeAll : List Migration → Exchange (List Int)
  | [] => .done []
  | migration :: rest => do
    take migration
    return migration.version :: (← takeAll rest)

def takePending (migrations : List Migration) : Exchange (List Int) := do
  let taken ← taken
  takeAll ((inOrder migrations).filter fun migration => !taken.contains migration.version)

def takeBack (migration : Migration) : Exchange Unit := do
  let version := numbered migration.version
  begin
  inTransaction (.script migration.down) ("revert migration " ++ version)
  inTransaction (.migrations (.forget migration.version))
    ("remove migration record " ++ version)
  inTransaction .commit ("commit migration " ++ version)
  Exchange.info "Reverted migration"
    [("version", .number migration.version), ("description", .text migration.description)]

def takeBackLast (migrations : List Migration) : Exchange (Option Int) := do
  match ← current with
  | none => return none
  | some version =>
    match (inOrder migrations).find? fun migration => migration.version = version with
    | none =>
      Exchange.fail (.storage ("Applied migration " ++ numbered version ++ " is unknown"))
    | some migration =>
      takeBack migration
      return some version

end UserDirectory.Migration
