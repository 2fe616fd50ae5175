import UserDirectory.Configuration.Load

namespace UserDirectory.Configuration

inductive Setting
  | level
  | format
  | url
  | maxConnections
  | minConnections
  | connectTimeout
  | idleTimeout
  | statementTimeout
  | utcOffsetMinutes
deriving DecidableEq, Repr

namespace Setting

def group : Setting → String
  | level | format => "logging"
  | url | maxConnections | minConnections | connectTimeout | idleTimeout | statementTimeout =>
    "database"
  | utcOffsetMinutes => "users"

def key : Setting → String
  | level => "level"
  | format => "format"
  | url => "url"
  | maxConnections => "max_connections"
  | minConnections => "min_connections"
  | connectTimeout => "connect_timeout_secs"
  | idleTimeout => "idle_timeout_secs"
  | statementTimeout => "statement_timeout_secs"
  | utcOffsetMinutes => "utc_offset_minutes"

def path (setting : Setting) : String := setting.group ++ "." ++ setting.key

def variableName (setting : Setting) : String := "app__" ++ setting.group ++ "__" ++ setting.key

def Value : Setting → Type
  | level | url => String
  | format => LogFormat
  | maxConnections | minConnections | connectTimeout | idleTimeout | statementTimeout => Nat
  | utcOffsetMinutes => Option Int

def value : (setting : Setting) → Configuration → setting.Value
  | level, configuration => configuration.logging.level
  | format, configuration => configuration.logging.format
  | url, configuration => configuration.database.url
  | maxConnections, configuration => configuration.database.maxConnections
  | minConnections, configuration => configuration.database.minConnections
  | connectTimeout, configuration => configuration.database.connectTimeout
  | idleTimeout, configuration => configuration.database.idleTimeout
  | statementTimeout, configuration => configuration.database.statementTimeout
  | utcOffsetMinutes, configuration => configuration.users.utcOffsetMinutes

def read : (setting : Setting) → Tree → Except LoadError setting.Value
  | level | url => readText
  | format => readFormat
  | maxConnections | minConnections => readCount
  | connectTimeout | idleTimeout | statementTimeout => readSeconds
  | utcOffsetMinutes => readMinutes

/-- What is said about a setting, converted, or else what holds where nothing is said. -/
def readOr (setting : Setting) : Option Tree → Except LoadError setting.Value
  | some tree => setting.read tree
  | none => .ok (setting.value {})

end Setting

namespace Tree

def at? (tree : Tree) (setting : Setting) : Option Tree :=
  (tree.member? setting.group).bind (member? setting.key)

def isEmpty : Tree → Bool
  | table [] => true
  | _ => false

/-- What a tree says about a setting. An empty table in its place says nothing. -/
def says? (tree : Tree) (setting : Setting) : Option Tree :=
  (tree.at? setting).filter fun value => !value.isEmpty

end Tree

def fileTree? (file : Option String) : Option Tree := file.bind fun text => Toml.read? text.toList

def variableSays? (environment : Environment) (setting : Setting) : Option Tree :=
  (environment.find? fun entry => lowered entry.1 = setting.variableName).map
    fun entry => valueOf entry.2

def urlSays? (environment : Environment) (setting : Setting) : Option Tree :=
  if setting = .url then (environment.lookup "DATABASE_URL").map .text else none

inductive Source
  | databaseUrl
  | settingVariable
  | localFile
  | defaultFile
deriving DecidableEq, Repr

def Source.says? (files : Files) (environment : Environment) (setting : Setting) :
    Source → Option Tree
  | databaseUrl => urlSays? environment setting
  | settingVariable => variableSays? environment setting
  | localFile => (fileTree? files.overrides).bind (·.says? setting)
  | defaultFile => (fileTree? files.defaults).bind (·.says? setting)

/-- The sources in their order, the highest first. -/
def Source.ranked : List Source := [databaseUrl, settingVariable, localFile, defaultFile]

def supplied? (files : Files) (environment : Environment) (setting : Setting) : Option Tree :=
  Source.ranked.findSome? (Source.says? files environment setting)

end UserDirectory.Configuration
