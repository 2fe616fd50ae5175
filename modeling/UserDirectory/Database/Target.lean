import UserDirectory.Configuration.Basic
import UserDirectory.Database.Url

/-!
Where to connect to and as whom: what an address and its parameters say, over the defaults.
-/

namespace UserDirectory.Database

open Text

structure Target where
  host : String := "localhost"
  port : Nat := 5432
  user : Option String := none
  password : Option String := none
  database : Option String := none
  /-- Session options as the server reads them on its command line. -/
  options : Option String := none
deriving DecidableEq

inductive TargetError
  | url (error : UrlError)
  | undecodable
  | sslMode (value : String)
  | number
  | hostAddress
deriving DecidableEq

def TargetError.message : TargetError → String
  | url error => error.message
  | undecodable => "invalid utf-8 sequence"
  | sslMode value => "unknown value \"" ++ value ++ "\" for ssl_mode"
  | number => "invalid digit found in string"
  | hostAddress => "invalid IP address syntax"

def TargetError.failure (error : TargetError) : Failure :=
  .configuration ("Invalid database URL: error with configuration: " ++ error.message)

namespace Target

def escapeOption (text : List Char) : List Char :=
  text.flatMap fun c => if c = ' ' ∨ c = '\\' then ['\\', c] else [c]

def addOptions (more : String) (target : Target) : Target :=
  { target with options := some (match target.options with
    | some options => options ++ " " ++ more
    | none => more) }

def setOption (name value : String) (target : Target) : Target :=
  let written := "-c " ++ String.ofList (escapeOption (name ++ "=" ++ value).toList)
  match target.options with
  | some "" => { target with options := some written }
  | _ => target.addOptions written

/-- A whole number below a bound; a plus sign may stand before it. -/
def readBelow (bound : Nat) (text : String) : Except TargetError Nat :=
  match readInt? text.toList with
  | some (.ofNat n) =>
    if n < bound ∧ text.toList.head? ≠ some '-' then .ok n else .error .number
  | _ => .error .number

def sslModes : List String := ["disable", "allow", "prefer", "require", "verify-ca", "verify-full"]

def bracketed? (name : List Char) : Option (List Char) :=
  if "options[".toList.isPrefixOf name && name.getLast? = some ']' then
    some ((name.drop 8).dropLast)
  else none

/-- A host that begins with a slash is a socket, which leaves the host of the target as it is. -/
def setHost (host : String) (target : Target) : Target :=
  if host.toList.head? = some '/' then target else { target with host }

/-- Parameters that mean nothing here are passed over. -/
def setParameter (target : Target) (parameter : String × String) : Except TargetError Target :=
  let (name, value) := parameter
  match name with
  | "sslmode" | "ssl-mode" =>
    if sslModes.contains (String.ofList (value.toList.map Char.toLower)) then .ok target
    else .error (.sslMode value)
  | "statement-cache-capacity" => (readBelow 0x10000000000000000 value).map fun _ => target
  | "host" => .ok (target.setHost value)
  | "hostaddr" =>
    if Address.isAddress value.toList then .ok { target with host := value }
    else .error .hostAddress
  | "port" => (readBelow 65536 value).map fun port => { target with port }
  | "dbname" => .ok { target with database := some value }
  | "user" => .ok { target with user := some value }
  | "password" => .ok { target with password := some value }
  | "options" => .ok (target.addOptions value)
  | name =>
    match bracketed? name.toList with
    | some option => .ok (target.setOption (String.ofList option) value)
    | none => .ok target

def decoded (text : List Char) : Except TargetError (Option String) :=
  if text.isEmpty then .ok none
  else
    match Percent.decode? text with
    | some text => .ok (some (String.ofList text))
    | none => .error .undecodable

def ofUrl (url : Url) : Except TargetError Target := do
  let target : Target := {
    port := url.port.getD 5432
    user := ← decoded url.user
    password := ← decoded url.password
    database := ← decoded (url.path.dropWhile (· = '/')) }
  let target := match ← decoded url.host with
    | some host => target.setHost host
    | none => target
  url.parameters.foldlM setParameter target

def ofText (text : String) : Except TargetError Target := do
  ofUrl (← (Url.read text).mapError TargetError.url)

def ofDatabase (database : Configuration.Database) : Except TargetError Target := do
  let target ← ofText database.url
  if database.statementTimeout = 0 then return target
  else
    return target.setOption "statement_timeout"
      (String.ofList (digits database.statementTimeout) ++ "s")

end Target

end UserDirectory.Database
