import UserDirectory.Configuration.Basic
import UserDirectory.Configuration.Tree
import UserDirectory.Text.Floating

/-!
The configuration that a tree describes. Scalars are converted where their text allows it, settings
that a tree does not mention keep their defaults, and members that are no settings are passed over.
-/

namespace UserDirectory.Configuration

inductive LoadError
  /-- A value that cannot be converted, or is out of range. -/
  | wrongType
  /-- A scalar in the place of a section, or no such alternative. -/
  | unreadable
  /-- A file that is no TOML document. -/
  | badFile
deriving DecidableEq, Repr

def LoadError.message : LoadError → String
  | wrongType => "a setting has a value of the wrong type"
  | unreadable => "a setting cannot be read"
  | badFile => "a configuration file is not well formed"

open Text

def lowered (text : String) : String := String.ofList (text.toList.map Char.toLower)

/-- The words for yes and no count as one and zero. -/
def integerOfText? (text : String) : Option Int :=
  match lowered text with
  | "true" | "on" | "yes" => some 1
  | "false" | "off" | "no" => some 0
  | word => readInt? word.toList

def inRange? (low high : Int) (value : Int) : Option Int :=
  if low ≤ value ∧ value ≤ high then some value else none

/-- A number of 64 bits with a sign. A decimal number is rounded, a half away from zero, and kept
within the range. -/
def signed? (tree : Tree) : Option Int :=
  let value := match tree with
    | .whole value => some value
    | .flag value => some (if value then 1 else 0)
    | .decimal value => some value.round.toInt64.toInt
    | .text value => integerOfText? value
    | _ => none
  value.bind (inRange? (-9223372036854775808) 9223372036854775807)

def unsigned? (tree : Tree) : Option Int :=
  let value := match tree with
    | .whole value => some value
    | .flag value => some (if value then 1 else 0)
    | .decimal value => some (value.round.toUInt64.toNat : Int)
    | .text value =>
      if value.toList.head? = some '-' then none else integerOfText? value
    | _ => none
  value.bind (inRange? 0 18446744073709551615)

def text? (tree : Tree) : Option String :=
  match tree with
  | .text value => some value
  | .flag value => some (if value then "true" else "false")
  | .whole value => some (String.ofList (signedDigits value))
  | .decimal value => some (String.ofList (Floating.text value))
  | _ => none

def required (value : Option α) : Except LoadError α :=
  match value with
  | some value => .ok value
  | none => .error .wrongType

def readText (tree : Tree) : Except LoadError String := required (text? tree)

def readSeconds (tree : Tree) : Except LoadError Nat :=
  (required (unsigned? tree)).map Int.toNat

def readCount (tree : Tree) : Except LoadError Nat :=
  (required ((unsigned? tree).bind (inRange? 0 4294967295))).map Int.toNat

def readMinutes (tree : Tree) : Except LoadError (Option Int) :=
  match tree with
  | .nothing => .ok none
  | tree => (required ((signed? tree).bind (inRange? (-2147483648) 2147483647))).map some

def formatNamed (name : String) : Except LoadError LogFormat :=
  match lowered name with
  | "pretty" => .ok .pretty
  | "json" => .ok .json
  | _ => .error .unreadable

def readFormat (tree : Tree) : Except LoadError LogFormat :=
  match tree with
  | .text name => formatNamed name
  | .table [(name, _)] => formatNamed name
  | _ => .error .unreadable

/-- The member of a section. A section is a table, or a list of its settings in order. -/
def setting (names : List String) (group : Tree) (name : String) :
    Except LoadError (Option Tree) :=
  match group with
  | .table members => .ok (members.lookup name)
  | .list items => .ok (items[names.idxOf name]?)
  | _ => .error .unreadable

def settingOr (names : List String) (group : Tree) (name : String)
    (read : Tree → Except LoadError α) (absent : α) : Except LoadError α := do
  match ← setting names group name with
  | some tree => read tree
  | none => .ok absent

def Logging.ofTree (tree : Tree) : Except LoadError Logging := do
  let names := ["level", "format"]
  let usual : Logging := {}
  return {
    level := ← settingOr names tree "level" readText usual.level
    format := ← settingOr names tree "format" readFormat usual.format }

def Database.ofTree (tree : Tree) : Except LoadError Database := do
  let names := ["url", "max_connections", "min_connections", "connect_timeout_secs",
    "idle_timeout_secs", "statement_timeout_secs"]
  let usual : Database := {}
  return {
    url := ← settingOr names tree "url" readText usual.url
    maxConnections := ← settingOr names tree "max_connections" readCount usual.maxConnections
    minConnections := ← settingOr names tree "min_connections" readCount usual.minConnections
    connectTimeout := ← settingOr names tree "connect_timeout_secs" readSeconds usual.connectTimeout
    idleTimeout := ← settingOr names tree "idle_timeout_secs" readSeconds usual.idleTimeout
    statementTimeout :=
      ← settingOr names tree "statement_timeout_secs" readSeconds usual.statementTimeout }

def Users.ofTree (tree : Tree) : Except LoadError Users := do
  let usual : Users := {}
  return {
    utcOffsetMinutes :=
      ← settingOr ["utc_offset_minutes"] tree "utc_offset_minutes" readMinutes
        usual.utcOffsetMinutes }

def ofTree (tree : Tree) : Except LoadError Configuration := do
  let names := ["logging", "database", "users"]
  return {
    logging := ← settingOr names tree "logging" Logging.ofTree {}
    database := ← settingOr names tree "database" Database.ofTree {}
    users := ← settingOr names tree "users" Users.ofTree {} }

end UserDirectory.Configuration
