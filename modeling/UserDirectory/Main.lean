import Std.Time.DateTime.Timestamp
import UserDirectory.Command.Launch
import UserDirectory.Json.Printer
import UserDirectory.Text.Utf8
import UserDirectory.User.RandomId

/-!
The program: what it finds where it is started, and what it prints. It knows no way to a database
but the network, and brings none of its own, so a run that gets as far ends there.
-/

namespace UserDirectory

def textOf? (path : String) : IO (Option String) := do
  try
    return some (← IO.FS.readFile path)
  catch _ =>
    return none

/-- Each variable ends in a NUL, and its name ends before the first equals sign. -/
def environmentOf (text : List Char) : Configuration.Environment :=
  (Text.fields '\x00' text).filterMap fun line =>
    (Text.cut? '=' line).map fun (name, value) => (String.ofList name, String.ofList value)

def environment : IO Configuration.Environment := do
  try
    let bytes ← IO.FS.readBinFile "/proc/self/environ"
    return environmentOf (Text.Utf8.decodeLossy bytes.toList)
  catch _ =>
    return []

def observe (arguments : List String) : IO Surroundings := do
  return {
    arguments
    environment := ← environment
    files := {
      defaults := ← textOf? "config/default.toml"
      overrides := ← textOf? "config/local.toml" }
    dotenv := ← textOf? ".env" }

/-- One reading of the clock serves a whole run. -/
def equip : IO (Equipment Empty) := do
  let now := (← Std.Time.Timestamp.now).toNanosecondsSinceUnixEpoch.val
  let bytes ← IO.getRandomBytes 32
  let word (place : Nat) := Password.wordOfBytes ((bytes.toList.drop (8 * place)).take 8)
  let instant : Except Failure Instant :=
    match Instant.make? (now / 1000000000) (now % 1000000000).toNat with
    | some instant => .ok instant
    | none => .error .outOfCalendar
  return {
    network := Database.Network.unreachable
    peer := fun _ state => nomatch state
    supplies := {
      instant := fun _ => instant
      identifier := fun n => UserId.random (word 0) (word 1 + UInt64.ofNat n) }
    hasher := Password.hasher Password.Cost.usual fun n =>
      Password.Salt.ofWords (word 2) (word 3 + UInt64.ofNat n) }

end UserDirectory

def main (arguments : List String) : IO UInt32 := do
  let launched := UserDirectory.launch (← UserDirectory.equip) (← UserDirectory.observe arguments)
  match launched.result with
  | .ok printed =>
    IO.println printed.pretty
    return 0
  | .error stop =>
    IO.eprintln stop.message
    return stop.exitCode
