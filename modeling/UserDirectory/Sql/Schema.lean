import UserDirectory.Sql.Table

/-!
The schema of the table of users: the types of its columns, its checks and its unique indexes. The
statements that make the table are written from it.
-/

namespace UserDirectory.Sql

inductive ColumnType
  | bounded (length : Nat)
  | unbounded
  | smallInteger
  | instant
deriving DecidableEq

def ColumnType.text : ColumnType → String
  | bounded length => "VARCHAR(" ++ String.ofList (Text.digits length) ++ ")"
  | unbounded => "TEXT"
  | smallInteger => "SMALLINT"
  | instant => "TIMESTAMPTZ"

structure Definition where
  column : Column
  type : ColumnType
  key : Bool := false
  required : Bool := false
  default : Option Int := none
  /-- The only values the column may have, besides none at all. -/
  among : List Int := []
deriving DecidableEq

namespace Definition

def text (definition : Definition) : String :=
  let name := definition.column.name
  let number (n : Int) := String.ofList (Text.signedDigits n)
  name ++ " " ++ definition.type.text ++
  (if definition.key then " PRIMARY KEY" else "") ++
  (if definition.required then " NOT NULL" else "") ++
  (match definition.default with
    | some value => " DEFAULT " ++ number value
    | none => "") ++
  (if definition.among.isEmpty then ""
    else " CHECK (" ++ name ++ " IN (" ++ ", ".intercalate (definition.among.map number) ++ "))")

/-- Whether a value may stand in the column. Texts are measured in characters. -/
def admits (definition : Definition) (cell : Cell) : Bool :=
  match cell with
  | .null => !definition.required && !definition.key
  | .integer value =>
    definition.type = .smallInteger && -32768 ≤ value && value ≤ 32767 &&
      (definition.among.isEmpty || definition.among.contains value)
  | .text value =>
    match definition.type with
    | .bounded length => value.length ≤ length
    | .unbounded => true
    | _ => false
  | .instant _ => definition.type = .instant

end Definition

/-- No two rows that meet the condition have the same value in the column. -/
structure UniqueIndex where
  name : String
  column : Column
  conditions : List Condition
deriving DecidableEq

namespace Schema

def definitions : List Definition := [
  { column := .id, type := .bounded 64, key := true },
  { column := .account, type := .bounded 50, required := true },
  { column := .passwordHash, type := .unbounded },
  { column := .nickname, type := .bounded 30 },
  { column := .remark, type := .bounded 500 },
  { column := .deptId, type := .unbounded },
  { column := .postIds, type := .unbounded },
  { column := .email, type := .bounded 254 },
  { column := .mobile, type := .bounded 20 },
  { column := .sex, type := .smallInteger, among := [0, 1] },
  { column := .avatar, type := .unbounded },
  { column := .status, type := .smallInteger, required := true, default := some 1,
    among := [0, 1] },
  { column := .loginIp, type := .unbounded },
  { column := .loginDate, type := .instant },
  { column := .tenantId, type := .unbounded },
  { column := .createBy, type := .unbounded },
  { column := .createdAt, type := .instant, required := true },
  { column := .updateBy, type := .unbounded },
  { column := .updatedAt, type := .instant, required := true },
  { column := .deletedAt, type := .instant }]

def filled (column : Column) : Condition := .comparesWritten column .unequal (.inr "")

def accountIndex : UniqueIndex :=
  ⟨"uq_system_users_account_live", .account, [Scope.live.condition]⟩

def emailIndex : UniqueIndex :=
  ⟨"uq_system_users_email_live", .email, [Scope.live.condition, filled .email]⟩

def mobileIndex : UniqueIndex :=
  ⟨"uq_system_users_mobile_live", .mobile, [Scope.live.condition, filled .mobile]⟩

def uniqueIndexes : List UniqueIndex := [accountIndex, emailIndex, mobileIndex]

def uniqueField? (index : String) : Option UniqueField :=
  if index = accountIndex.name then some .account
  else if index = emailIndex.name then some .email
  else if index = mobileIndex.name then some .mobile
  else none

def script (statements : List String) : String :=
  " ".intercalate (statements.map fun statement => statement ++ ";")

def createTable : String :=
  "CREATE TABLE IF NOT EXISTS " ++ Statement.table ++ " ( " ++
    ", ".intercalate (definitions.map Definition.text) ++ " )"

def createSearchIndex (name columns : String) : String :=
  "CREATE INDEX IF NOT EXISTS " ++ name ++ " ON " ++ Statement.table ++ " (" ++ columns ++
    ") WHERE " ++ (Condition.allTemplate [Scope.live.condition]).text

def createUniqueIndex (index : UniqueIndex) : String :=
  "CREATE UNIQUE INDEX IF NOT EXISTS " ++ index.name ++ " ON " ++ Statement.table ++ " (" ++
    index.column.name ++ ") WHERE " ++ (Condition.allTemplate index.conditions).text

def createAll : String :=
  script [createTable,
    createSearchIndex "idx_system_users_created_at" "created_at DESC",
    createSearchIndex "idx_system_users_tenant" "tenant_id"]

def dropAll : String := script ["DROP TABLE IF EXISTS " ++ Statement.table]

def createUniqueIndexes : String := script (uniqueIndexes.map createUniqueIndex)

def dropUniqueIndexes : String :=
  script (uniqueIndexes.map fun index => "DROP INDEX IF EXISTS " ++ index.name)

end Schema

namespace UniqueIndex

def covers (index : UniqueIndex) (row : Row) : Bool := Condition.selects index.conditions row

/-- Whether two rows may not both be there. Missing values are never the same. -/
def clash (index : UniqueIndex) (a b : Row) : Bool :=
  index.covers a && index.covers b && a index.column ≠ .null && a index.column = b index.column

def Holds (index : UniqueIndex) (table : Table) : Prop :=
  table.Pairwise fun a b => index.clash a b = false

end UniqueIndex

end UserDirectory.Sql
