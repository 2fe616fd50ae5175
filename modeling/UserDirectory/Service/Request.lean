import UserDirectory.User.Basic

/-!
What callers ask for. Sex and status arrive as codes, dates as text.
-/

namespace UserDirectory

structure CreateRequest where
  account : String
  password : String
  nickname : Option String := none
  remark : Option String := none
  deptId : Option String := none
  postIds : Option String := none
  email : Option String := none
  mobile : Option String := none
  sex : Option Int := none
  avatar : Option String := none
  /-- Enabled when absent. -/
  status : Option Int := none
  tenantId : Option String := none
  createBy : Option String := none
deriving DecidableEq

/-- Fields not supplied stay as they are. -/
structure UpdateRequest where
  id : String
  nickname : Option String := none
  remark : Option String := none
  deptId : Option String := none
  postIds : Option String := none
  email : Option String := none
  mobile : Option String := none
  sex : Option Int := none
  avatar : Option String := none
  status : Option Int := none
  updateBy : Option String := none
deriving DecidableEq

structure ListRequest where
  page : Int := 0
  pageSize : Int := 0
  account : Option String := none
  email : Option String := none
  mobile : Option String := none
  status : Option Int := none
  deptId : Option String := none
  tenantId : Option String := none
  /-- The first local date of creation that is listed. -/
  startDate : Option String := none
  /-- The last local date of creation that is listed. -/
  endDate : Option String := none
deriving DecidableEq

end UserDirectory
