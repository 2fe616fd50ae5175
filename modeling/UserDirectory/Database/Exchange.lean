import UserDirectory.Migration.Basic
import UserDirectory.Service.Event

/-!
Exchanges with a database: requests one after the other, each depending on the answers so far. An
exchange is data, so it can be held with a database, with a script of answers, or broken off
between two requests.
-/

namespace UserDirectory.Database

open Sql

inductive Request
  | users (statement : Statement)
  | migrations (statement : Migration.Bookkeeping)
  /-- Statements in one text, without values. -/
  | script (text : String)
  | begin
  | commit
  | rollback
deriving DecidableEq

namespace Request

def template : Request → Template
  | users statement => statement.template
  | migrations statement => statement.template
  | script text => [.words text]
  | begin => [.words "BEGIN"]
  | commit => [.words "COMMIT"]
  | rollback => [.words "ROLLBACK"]

def resultColumns : Request → List String
  | users statement => statement.resultColumns
  | migrations statement => statement.resultColumns
  | _ => []

def takesValues : Request → Bool
  | users _ => true
  | migrations _ => true
  | _ => false

end Request

structure ServerError where
  code : String
  message : String
  constraint : Option String
deriving DecidableEq

inductive DatabaseError
  | server (error : ServerError)
  | connection (message : String)
  /-- No connection was to be had in time. -/
  | noConnection
  | noRows
  | read (error : ReadError)
deriving DecidableEq

def DatabaseError.message : DatabaseError → String
  | server error => "error returned from database: " ++ error.message
  | connection message => "error communicating with database: " ++ message
  | noConnection => "pool timed out while waiting for an open connection"
  | noRows => "no rows returned by a query that expected to return at least one row"
  | read error => error.message

def DatabaseError.failure (doing : String) (error : DatabaseError) : Failure :=
  .storage ("Failed to " ++ doing ++ ": " ++ error.message)

structure Answer where
  rows : List Fetched := []
  changed : Nat := 0

inductive Exchange (α : Type)
  | done (value : α)
  | fail (failure : Failure)
  | log (event : Event) (next : Exchange α)
  | send (request : Request) (next : Except DatabaseError Answer → Exchange α)

namespace Exchange

def bind : Exchange α → (α → Exchange β) → Exchange β
  | done value, next => next value
  | fail failure, _ => fail failure
  | log event rest, next => log event (rest.bind next)
  | send request rest, next => send request fun answer => (rest answer).bind next

instance : Monad Exchange where
  pure := done
  bind := bind

def ofExcept : Except Failure α → Exchange α
  | .ok value => done value
  | .error failure => fail failure

def ask (request : Request) (failure : DatabaseError → Failure) : Exchange Answer :=
  send request fun answer => ofExcept (answer.mapError failure)

def info (message : String) (fields : List (String × EventValue)) : Exchange Unit :=
  log ⟨.info, message, fields⟩ (done ())

end Exchange

end UserDirectory.Database
