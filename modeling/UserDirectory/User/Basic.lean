import UserDirectory.Time.Instant
import UserDirectory.User.Id

namespace UserDirectory

inductive Status
  | disabled
  | enabled
deriving DecidableEq, Repr

namespace Status

def name : Status → String
  | disabled => "disabled"
  | enabled => "enabled"

def code : Status → Int
  | disabled => 0
  | enabled => 1

def ofCode (code : Int) : Except FieldError Status :=
  if code = 0 then .ok disabled
  else if code = 1 then .ok enabled
  else .error (.invalidStatus code)

theorem ofCode_eq_ok {code : Int} {status : Status} :
    ofCode code = .ok status ↔ code = status.code := by
  unfold ofCode
  cases status <;> grind [Status.code]

def ofName? (name : String) : Option Status :=
  if name = "disabled" then some disabled
  else if name = "enabled" then some enabled
  else none

end Status

inductive Sex
  | female
  | male
deriving DecidableEq, Repr

namespace Sex

def name : Sex → String
  | female => "female"
  | male => "male"

def code : Sex → Int
  | female => 0
  | male => 1

def ofCode (code : Int) : Except FieldError Sex :=
  if code = 0 then .ok female
  else if code = 1 then .ok male
  else .error (.invalidSex code)

theorem ofCode_eq_ok {code : Int} {sex : Sex} : ofCode code = .ok sex ↔ code = sex.code := by
  unfold ofCode
  cases sex <;> grind [Sex.code]

def ofName? (name : String) : Option Sex :=
  if name = "female" then some female
  else if name = "male" then some male
  else none

end Sex

structure NewUser where
  account : String
  passwordHash : Option String := none
  nickname : Option String := none
  remark : Option String := none
  deptId : Option String := none
  postIds : Option String := none
  email : Option String := none
  mobile : Option String := none
  sex : Option Sex := none
  avatar : Option String := none
  status : Status := .enabled
  loginIp : Option String := none
  loginDate : Option Instant := none
  tenantId : Option String := none
  createBy : Option String := none
deriving DecidableEq

structure User where
  id : UserId
  account : String
  passwordHash : Option String
  nickname : Option String
  remark : Option String
  deptId : Option String
  postIds : Option String
  email : Option String
  mobile : Option String
  sex : Option Sex
  avatar : Option String
  status : Status
  loginIp : Option String
  loginDate : Option Instant
  tenantId : Option String
  createBy : Option String
  createdAt : Instant
  updateBy : Option String
  updatedAt : Instant
  /-- Set once the user is deleted; the row stays. -/
  deletedAt : Option Instant
deriving DecidableEq

namespace User

def ofNew (id : UserId) (new : NewUser) (now : Instant) : User where
  id := id
  account := new.account
  passwordHash := new.passwordHash
  nickname := new.nickname
  remark := new.remark
  deptId := new.deptId
  postIds := new.postIds
  email := new.email
  mobile := new.mobile
  sex := new.sex
  avatar := new.avatar
  status := new.status
  loginIp := new.loginIp
  loginDate := new.loginDate
  tenantId := new.tenantId
  createBy := new.createBy
  createdAt := now
  updateBy := none
  updatedAt := now
  deletedAt := none

abbrev IsLive (user : User) : Prop := user.deletedAt = none

abbrev IsEnabled (user : User) : Prop := user.status = .enabled

end User

end UserDirectory
