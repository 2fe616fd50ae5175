import UserDirectory.Failure
import UserDirectory.Text.Decimal
import UserDirectory.Time.Offset

namespace UserDirectory

namespace Configuration

inductive LogFormat
  | pretty
  | json
deriving DecidableEq, Repr

def LogFormat.name : LogFormat → String
  | pretty => "pretty"
  | json => "json"

structure Logging where
  level : String := "info"
  format : LogFormat := .pretty
deriving DecidableEq

structure Database where
  url : String := "postgres://localhost/account_admin"
  maxConnections : Nat := 10
  minConnections : Nat := 1
  connectTimeout : Nat := 30
  idleTimeout : Nat := 600
  /-- How many seconds a statement may take; zero for any time at all. -/
  statementTimeout : Nat := 15
deriving DecidableEq

structure Users where
  /-- Minutes east of UTC of the local time in which days begin. -/
  utcOffsetMinutes : Option Int := none
deriving DecidableEq

def Users.offset (users : Users) (host : Offset) : Except Failure Offset :=
  match users.utcOffsetMinutes with
  | none => .ok host
  | some minutes =>
    match Offset.ofMinutes? minutes with
    | some offset => .ok offset
    | none =>
      .error (.configuration ("users.utc_offset_minutes " ++
        String.ofList (Text.signedDigits minutes) ++ " is out of range"))

end Configuration

structure Configuration where
  logging : Configuration.Logging := {}
  database : Configuration.Database := {}
  users : Configuration.Users := {}
deriving DecidableEq

end UserDirectory
