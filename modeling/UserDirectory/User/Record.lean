import UserDirectory.Json.Basic
import UserDirectory.Time.InstantText
import UserDirectory.User.Basic

/-!
Users as JSON records. A record never shows the password hash, and shows the time of deletion only
where there is one. Reading accepts a record with fields in any order, or the bare list of all
field values in order.
-/

namespace UserDirectory.User

def timeJson (time : Instant) : Json := .text (String.ofList time.text)

def record (user : User) : Json :=
  .object ([
    ("id", .text user.id.text),
    ("account", .text user.account),
    ("nickname", .optionalText user.nickname),
    ("remark", .optionalText user.remark),
    ("dept_id", .optionalText user.deptId),
    ("post_ids", .optionalText user.postIds),
    ("email", .optionalText user.email),
    ("mobile", .optionalText user.mobile),
    ("sex", .optionalText (user.sex.map Sex.name)),
    ("avatar", .optionalText user.avatar),
    ("status", .text user.status.name),
    ("login_ip", .optionalText user.loginIp),
    ("login_date", .ofOption (user.loginDate.map timeJson)),
    ("tenant_id", .optionalText user.tenantId),
    ("create_by", .optionalText user.createBy),
    ("created_at", timeJson user.createdAt),
    ("update_by", .optionalText user.updateBy),
    ("updated_at", timeJson user.updatedAt)] ++
    match user.deletedAt with
    | some time => [("deleted_at", timeJson time)]
    | none => [])

def fieldNames : List String :=
  ["id", "account", "password_hash", "nickname", "remark", "dept_id", "post_ids", "email",
    "mobile", "sex", "avatar", "status", "login_ip", "login_date", "tenant_id", "create_by",
    "created_at", "update_by", "updated_at", "deleted_at"]

def readText? : Json → Option String
  | .text value => some value
  | _ => none

def readTime? : Json → Option Instant
  | .text value => Instant.ofText? value.toList
  | _ => none

def readId? : Json → Option UserId
  | .text value => (UserId.ofText value).toOption
  | _ => none

/-- A value out of a list of names: the name, or an object with the name as its only member and
nothing as its value. -/
def readName? (choose : String → Option α) : Json → Option α
  | .text name => choose name
  | .object [(name, .null)] => choose name
  | _ => none

def readOptional? (read : Json → Option α) (members : List (String × Json)) (name : String) :
    Option (Option α) :=
  match Json.member? name members with
  | none | some .null => some none
  | some value => (read value).map some

def readRequired? (read : Json → Option α) (members : List (String × Json)) (name : String) :
    Option α :=
  (Json.member? name members).bind read

def ofMembers? (members : List (String × Json)) : Option User := do
  let optionalText := readOptional? readText? members
  some {
    id := ← readRequired? readId? members "id"
    account := ← readRequired? readText? members "account"
    passwordHash := ← optionalText "password_hash"
    nickname := ← optionalText "nickname"
    remark := ← optionalText "remark"
    deptId := ← optionalText "dept_id"
    postIds := ← optionalText "post_ids"
    email := ← optionalText "email"
    mobile := ← optionalText "mobile"
    sex := ← readOptional? (readName? Sex.ofName?) members "sex"
    avatar := ← optionalText "avatar"
    status := ← readRequired? (readName? Status.ofName?) members "status"
    loginIp := ← optionalText "login_ip"
    loginDate := ← readOptional? readTime? members "login_date"
    tenantId := ← optionalText "tenant_id"
    createBy := ← optionalText "create_by"
    createdAt := ← readRequired? readTime? members "created_at"
    updateBy := ← optionalText "update_by"
    updatedAt := ← readRequired? readTime? members "updated_at"
    deletedAt := ← readOptional? readTime? members "deleted_at" }

def ofJson? : Json → Option User
  | .object members => ofMembers? members
  | .array values =>
    if values.length = fieldNames.length then ofMembers? (fieldNames.zip values) else none
  | _ => none

end UserDirectory.User
