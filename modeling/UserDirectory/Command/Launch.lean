import UserDirectory.Command.Report
import UserDirectory.Configuration.Dotenv
import UserDirectory.Configuration.Load
import UserDirectory.Configuration.LogFilter
import UserDirectory.Database.Connection

/-!
A run of the whole program: it reads its command line, then its configuration, connects to the
database, and does what the command says.
-/

namespace UserDirectory

open Database

structure Surroundings where
  arguments : List String
  environment : Configuration.Environment
  files : Configuration.Files := {}
  /-- The text of the file that supplies variables, if there is one. -/
  dotenv : Option String := none
  offset : Offset := Offset.utc

inductive Stop
  | line (error : Line.LineError)
  | configuration (error : Configuration.LoadError)
  | failure (failure : Failure)
deriving DecidableEq

def Stop.message : Stop → String
  | line error => "error: " ++ error.name
  | configuration error => "Error: " ++ error.message
  | failure cause => "Error: " ++ cause.message

def Stop.exitCode : Stop → UInt32
  | line .displayHelp => 0
  | line .displayVersion => 0
  | line _ => 2
  | configuration _ => 1
  | failure _ => 1

/-- The log filter is looked at once the configuration is complete. -/
def Surroundings.configure (surroundings : Surroundings) : Except Stop Configuration := do
  let environment := match surroundings.dotenv with
    | some text => Configuration.Dotenv.extend text surroundings.environment
    | none => surroundings.environment
  let loaded ← (Configuration.load surroundings.files environment).mapError Stop.configuration
  (Configuration.LogFilter.check loaded.logging environment).mapError Stop.failure
  return loaded

namespace Migration

def versionJson (version : Option Int) : Json := .ofOption (version.map Json.ofInt)

def report (migrations : List Migration) (revertLast : Bool) : Exchange Json := do
  if revertLast then
    let version ← takeBackLast migrations
    let shown := match version with
      | some version => "Some(" ++ numbered version ++ ")"
      | none => "None"
    Exchange.info "Revert finished" [("version", .text shown)]
    return .object [("reverted", versionJson version)]
  else
    let taken ← takePending migrations
    Exchange.info "Migrations applied" [("count", .number taken.length)]
    return .object [("applied", .array (taken.map Json.ofInt)),
      ("current_version", versionJson (← current))]

end Migration

structure Equipment (σ : Type) where
  network : Network σ
  peer : Peer σ
  supplies : Supplies
  hasher : Hasher

structure Launched (σ : Type) where
  result : Except Stop Json
  /-- The connection as it was left, if one was made. -/
  connection : Option (Connection σ)

def Command.carryOut (equipment : Equipment σ) (users : Configuration.Users) (host : Offset)
    (command : Command) (connection : Connection σ) : Except Failure Json × Connection σ :=
  match command with
  | .migrate revertLast =>
    connection.hold equipment.peer (Migration.report Migration.schema revertLast)
  | .user command =>
    match users.offset host with
    | .error failure => (.error failure, connection)
    | .ok offset =>
      let outcome := (command.program { offset, counting := .byAggregate }).run
        (Connection.platform equipment.supplies equipment.hasher equipment.peer) connection
      (outcome.result, outcome.state)

def launch (equipment : Equipment σ) (surroundings : Surroundings) : Launched σ :=
  let ready : Except Stop (Command × Configuration × σ) := do
    let command ← (Command.ofArguments surroundings.arguments).mapError Stop.line
    let configuration ← surroundings.configure
    let peer ← (connect equipment.network configuration.database).mapError Stop.failure
    return (command, configuration, peer)
  match ready with
  | .error stop => ⟨.error stop, none⟩
  | .ok (command, configuration, peer) =>
    let (result, connection) :=
      command.carryOut equipment configuration.users surroundings.offset { peer }
    ⟨result.mapError Stop.failure, some connection⟩

end UserDirectory
