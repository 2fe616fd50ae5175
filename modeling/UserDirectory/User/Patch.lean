import UserDirectory.User.Basic

/-!
Partial updates. A supplied field overwrites the stored one, also with the empty text; a field not
supplied leaves it alone.
-/

namespace UserDirectory

structure Patch where
  id : UserId
  passwordHash : Option String := none
  nickname : Option String := none
  remark : Option String := none
  deptId : Option String := none
  postIds : Option String := none
  email : Option String := none
  mobile : Option String := none
  sex : Option Sex := none
  avatar : Option String := none
  status : Option Status := none
  loginIp : Option String := none
  loginDate : Option Instant := none
  updateBy : Option String := none
deriving DecidableEq

def Patch.apply (patch : Patch) (user : User) (now : Instant) : User where
  id := user.id
  account := user.account
  passwordHash := patch.passwordHash <|> user.passwordHash
  nickname := patch.nickname <|> user.nickname
  remark := patch.remark <|> user.remark
  deptId := patch.deptId <|> user.deptId
  postIds := patch.postIds <|> user.postIds
  email := patch.email <|> user.email
  mobile := patch.mobile <|> user.mobile
  sex := patch.sex <|> user.sex
  avatar := patch.avatar <|> user.avatar
  status := patch.status.getD user.status
  loginIp := patch.loginIp <|> user.loginIp
  loginDate := patch.loginDate <|> user.loginDate
  tenantId := user.tenantId
  createBy := user.createBy
  createdAt := user.createdAt
  updateBy := patch.updateBy <|> user.updateBy
  updatedAt := now
  deletedAt := user.deletedAt

end UserDirectory
