import UserDirectory.Sql.Template
import UserDirectory.User.Basic

namespace UserDirectory.Sql

inductive Column
  | id
  | account
  | passwordHash
  | nickname
  | remark
  | deptId
  | postIds
  | email
  | mobile
  | sex
  | avatar
  | status
  | loginIp
  | loginDate
  | tenantId
  | createBy
  | createdAt
  | updateBy
  | updatedAt
  | deletedAt
deriving DecidableEq, Repr

namespace Column

def name : Column → String
  | id => "id"
  | account => "account"
  | passwordHash => "password_hash"
  | nickname => "nickname"
  | remark => "remark"
  | deptId => "dept_id"
  | postIds => "post_ids"
  | email => "email"
  | mobile => "mobile"
  | sex => "sex"
  | avatar => "avatar"
  | status => "status"
  | loginIp => "login_ip"
  | loginDate => "login_date"
  | tenantId => "tenant_id"
  | createBy => "create_by"
  | createdAt => "created_at"
  | updateBy => "update_by"
  | updatedAt => "updated_at"
  | deletedAt => "deleted_at"

def all : List Column :=
  [id, account, passwordHash, nickname, remark, deptId, postIds, email, mobile, sex, avatar, status,
    loginIp, loginDate, tenantId, createBy, createdAt, updateBy, updatedAt, deletedAt]

def list (columns : List Column) : String := ", ".intercalate (columns.map name)

end Column

abbrev Row := Column → Cell

def Row.set (row : Row) (assignments : List (Column × Cell)) : Row :=
  fun column => (assignments.lookup column).getD (row column)

def Row.ofAssignments (assignments : List (Column × Cell)) : Row :=
  Row.set (fun _ => .null) assignments

end UserDirectory.Sql

namespace UserDirectory

open Sql

def User.row (user : User) : Row
  | .id => .text user.id.text
  | .account => .text user.account
  | .passwordHash => .ofText user.passwordHash
  | .nickname => .ofText user.nickname
  | .remark => .ofText user.remark
  | .deptId => .ofText user.deptId
  | .postIds => .ofText user.postIds
  | .email => .ofText user.email
  | .mobile => .ofText user.mobile
  | .sex => .ofInteger (user.sex.map Sex.code)
  | .avatar => .ofText user.avatar
  | .status => .integer user.status.code
  | .loginIp => .ofText user.loginIp
  | .loginDate => .ofInstant user.loginDate
  | .tenantId => .ofText user.tenantId
  | .createBy => .ofText user.createBy
  | .createdAt => .instant user.createdAt
  | .updateBy => .ofText user.updateBy
  | .updatedAt => .instant user.updatedAt
  | .deletedAt => .ofInstant user.deletedAt

end UserDirectory
