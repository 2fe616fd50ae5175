import UserDirectory.Failure
import UserDirectory.Sql.Column

namespace UserDirectory

namespace Sql

abbrev Fetched := List (String × Cell)

def Row.fetched (row : Row) : Fetched := Column.all.map fun column => (column.name, row column)

/-- Why a column cannot be read. A column is shown by its quoted name or by its number. -/
inductive ReadError
  | absent (name : String)
  | noColumns
  | missing (shown : String)
  /-- The value is of a kind that the column cannot have. -/
  | unexpected (shown : String)
deriving DecidableEq

def ReadError.message : ReadError → String
  | absent name => "no column found for name: " ++ name
  | noColumns => "column index out of bounds: the len is 0, but the index is 0"
  | missing shown =>
    "error occurred while decoding column " ++ shown ++
      ": unexpected null; try decoding as an \x60Option\x60"
  | unexpected shown => "error occurred while decoding column " ++ shown ++ ": mismatched types"

namespace Fetched

def quoted (name : String) : String := "\"" ++ name ++ "\""

def cell (row : Fetched) (name : String) : Except ReadError Cell :=
  match row.lookup name with
  | some cell => .ok cell
  | none => .error (.absent name)

def valueOf (read : Cell → Option α) (shown : String) (cell : Cell) :
    Except ReadError (Option α) :=
  if cell = .null then .ok none
  else
    match read cell with
    | some value => .ok (some value)
    | none => .error (.unexpected shown)

def present (shown : String) (value : Option α) : Except ReadError α :=
  match value with
  | some value => .ok value
  | none => .error (.missing shown)

def optional (read : Cell → Option α) (row : Fetched) (name : String) :
    Except ReadError (Option α) := do
  valueOf read (quoted name) (← row.cell name)

def required (read : Cell → Option α) (row : Fetched) (name : String) : Except ReadError α := do
  present (quoted name) (← optional read row name)

def first (read : Cell → Option α) (row : Fetched) : Except ReadError α :=
  match row with
  | [] => .error .noColumns
  | (_, cell) :: _ => do present "0" (← valueOf read "0" cell)

end Fetched

def Cell.text? : Cell → Option String
  | .text value => some value
  | _ => none

def Cell.integer? : Cell → Option Int
  | .integer value => some value
  | _ => none

def Cell.instant? : Cell → Option Instant
  | .instant value => some value
  | _ => none

end Sql

open Sql

namespace User

/-- Codes are kept in 16 bits; only those of eight bits can be meant. -/
def smallCode (code : Int) : Except Failure Int :=
  if -128 ≤ code ∧ code ≤ 127 then .ok code
  else
    .error (.storage ("Out of range code in database: " ++
      String.ofList (Text.signedDigits code)))

def codeOf (name : String) (meaning : Int → Except FieldError α) (code : Int) :
    Except Failure α :=
  let read := (smallCode code).bind fun code => (meaning code).mapError FieldError.failure
  read.mapError fun failure =>
    .storage ("Invalid " ++ name ++ " in database: " ++ failure.message)

/-- Reads a user off a row. The columns with rules of their own come first. -/
def ofFetched (row : Fetched) : Except Failure User := do
  let unreadable {α : Type} (column : Column) (read : Except ReadError α) : Except Failure α :=
    read.mapError fun error =>
      .storage ("Failed to read column " ++ column.name ++ ": " ++ error.message)
  let text (column : Column) :=
    unreadable column (Fetched.optional Cell.text? row column.name)
  let instant (column : Column) :=
    unreadable column (Fetched.optional Cell.instant? row column.name)
  let id ← unreadable .id (Fetched.required Cell.text? row Column.id.name)
  let id ← (UserId.ofText id).mapError fun error =>
    .storage ("Invalid user ID in database: " ++ error.message)
  let sex ← unreadable .sex (Fetched.optional Cell.integer? row Column.sex.name)
  let sex ← match sex with
    | none => pure none
    | some code => (codeOf "sex" Sex.ofCode code).map some
  let status ← unreadable .status (Fetched.required Cell.integer? row Column.status.name)
  let status ← codeOf "status" Status.ofCode status
  return {
    id
    account := ← unreadable .account (Fetched.required Cell.text? row Column.account.name)
    passwordHash := ← text .passwordHash
    nickname := ← text .nickname
    remark := ← text .remark
    deptId := ← text .deptId
    postIds := ← text .postIds
    email := ← text .email
    mobile := ← text .mobile
    sex
    avatar := ← text .avatar
    status
    loginIp := ← text .loginIp
    loginDate := ← instant .loginDate
    tenantId := ← text .tenantId
    createBy := ← text .createBy
    createdAt := ← unreadable .createdAt (Fetched.required Cell.instant? row Column.createdAt.name)
    updateBy := ← text .updateBy
    updatedAt := ← unreadable .updatedAt (Fetched.required Cell.instant? row Column.updatedAt.name)
    deletedAt := ← instant .deletedAt }

end User

end UserDirectory
