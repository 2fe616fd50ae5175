import UserDirectory.Command.Line
import UserDirectory.Service.Request

namespace UserDirectory

inductive UserCommand
  | createUser (request : CreateRequest)
  | getUser (id : String)
  | updateUser (request : UpdateRequest)
  | deleteUser (id : String)
  | batchDelete (ids : List String)
  | setStatus (id : String) (status : Int) (updateBy : Option String)
  | resetPassword (id password : String) (updateBy : Option String)
  | checkAccount (account : String)
  | stats (tenantId : Option String)
  | listUsers (request : ListRequest)
deriving DecidableEq

inductive Command
  /-- Applies the migrations still to come, or takes back the last one. -/
  | migrate (revertLast : Bool)
  | user (command : UserCommand)
deriving DecidableEq

namespace Command

open Line

def small : ValueKind := .integer (-128) 127

def wide : ValueKind := .integer (-9223372036854775808) 9223372036854775807

def texts (names : List String) : List Parameter := names.map fun name => { name, role := .option }

def forms : List Form := [
  { command := "migrate"
    parameters := [{ name := "revert-last", role := .flag }] },
  { command := "create-user"
    parameters :=
      { name := "account", role := .option, required := true } ::
      { name := "password", role := .option, required := true } ::
      { name := "sex", role := .option, kind := small } ::
      { name := "status", role := .option, kind := small } ::
      texts ["nickname", "remark", "dept-id", "post-ids", "email", "mobile", "avatar",
        "tenant-id", "create-by"] },
  { command := "get-user"
    parameters := [{ name := "id", role := .positional, required := true }] },
  { command := "update-user"
    parameters :=
      { name := "id", role := .positional, required := true } ::
      { name := "sex", role := .option, kind := small } ::
      { name := "status", role := .option, kind := small } ::
      texts ["nickname", "remark", "dept-id", "post-ids", "email", "mobile", "avatar",
        "update-by"] },
  { command := "delete-user"
    parameters := [{ name := "id", role := .positional, required := true }] },
  { command := "batch-delete"
    parameters := [{ name := "ids", role := .positionals, required := true }] },
  { command := "set-status"
    parameters :=
      { name := "id", role := .positional, required := true } ::
      { name := "status", role := .positional, kind := small, required := true } ::
      texts ["update-by"] },
  { command := "reset-password"
    parameters :=
      { name := "id", role := .positional, required := true } ::
      { name := "password", role := .option, required := true } ::
      texts ["update-by"] },
  { command := "check-account"
    parameters := [{ name := "account", role := .positional, required := true }] },
  { command := "stats"
    parameters := texts ["tenant-id"] },
  { command := "list-users"
    parameters :=
      { name := "page", role := .option, kind := wide } ::
      { name := "page-size", role := .option, kind := wide } ::
      { name := "status", role := .option, kind := small } ::
      texts ["account", "email", "mobile", "dept-id", "tenant-id", "start-date", "end-date"] }]

def text? (given : Given) (name : String) : Option String :=
  (given.values? name).bind List.head?

def text (given : Given) (name : String) : String := (text? given name).getD ""

def integer? (given : Given) (name : String) : Option Int :=
  (text? given name).bind fun value => Text.readInt? value.toList

def createRequest (given : Given) : CreateRequest where
  account := text given "account"
  password := text given "password"
  nickname := text? given "nickname"
  remark := text? given "remark"
  deptId := text? given "dept-id"
  postIds := text? given "post-ids"
  email := text? given "email"
  mobile := text? given "mobile"
  sex := integer? given "sex"
  avatar := text? given "avatar"
  status := integer? given "status"
  tenantId := text? given "tenant-id"
  createBy := text? given "create-by"

def updateRequest (given : Given) : UpdateRequest where
  id := text given "id"
  nickname := text? given "nickname"
  remark := text? given "remark"
  deptId := text? given "dept-id"
  postIds := text? given "post-ids"
  email := text? given "email"
  mobile := text? given "mobile"
  sex := integer? given "sex"
  avatar := text? given "avatar"
  status := integer? given "status"
  updateBy := text? given "update-by"

def listRequest (given : Given) : ListRequest where
  page := (integer? given "page").getD 1
  pageSize := (integer? given "page-size").getD 15
  account := text? given "account"
  email := text? given "email"
  mobile := text? given "mobile"
  status := integer? given "status"
  deptId := text? given "dept-id"
  tenantId := text? given "tenant-id"
  startDate := text? given "start-date"
  endDate := text? given "end-date"

def ofGiven? (name : String) (given : Given) : Option Command :=
  match name with
  | "migrate" => some (migrate (given.values? "revert-last").isSome)
  | "create-user" => some (user (.createUser (createRequest given)))
  | "get-user" => some (user (.getUser (text given "id")))
  | "update-user" => some (user (.updateUser (updateRequest given)))
  | "delete-user" => some (user (.deleteUser (text given "id")))
  | "batch-delete" => some (user (.batchDelete ((given.values? "ids").getD [])))
  | "set-status" =>
    some (user (.setStatus (text given "id") ((integer? given "status").getD 0)
      (text? given "update-by")))
  | "reset-password" =>
    some (user (.resetPassword (text given "id") (text given "password")
      (text? given "update-by")))
  | "check-account" => some (user (.checkAccount (text given "account")))
  | "stats" => some (user (.stats (text? given "tenant-id")))
  | "list-users" => some (user (.listUsers (listRequest given)))
  | _ => none

/-- Reads a command line, without the program's own name. -/
def ofArguments (arguments : List String) : Except LineError Command := do
  let (name, given) ← read forms arguments
  match ofGiven? name given with
  | some command => .ok command
  | none => .error .invalidSubcommand

end Command

end UserDirectory
