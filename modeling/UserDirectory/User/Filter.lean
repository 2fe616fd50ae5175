import UserDirectory.Text.Substring
import UserDirectory.User.Basic

/-!
Selections of users by their fields. A condition that is not given selects every user.
-/

namespace UserDirectory

inductive Scope
  | live
  | all
deriving DecidableEq

def Scope.admits (scope : Scope) (deletedAt : Option Instant) : Bool :=
  match scope with
  | live => deletedAt.isNone
  | all => true

structure Filter where
  /-- Part of the account. -/
  account : Option String := none
  /-- Part of the email. -/
  email : Option String := none
  /-- Part of the mobile number. -/
  mobile : Option String := none
  status : Option Status := none
  deptId : Option String := none
  tenantId : Option String := none
  /-- Inclusive. -/
  createdFrom : Option Instant := none
  /-- Exclusive. -/
  createdBefore : Option Instant := none
deriving DecidableEq

namespace Filter

def ofTenant (tenantId : Option String) : Filter := { tenantId }

def withStatus (filter : Filter) (status : Status) : Filter := { filter with status := some status }

def createdSince (filter : Filter) (start : Instant) : Filter :=
  { filter with createdFrom := some start }

def holdsPart (wanted value : Option String) : Bool :=
  wanted.all fun part => value.any fun text => Text.contains text.toList part.toList

def holdsValue (wanted value : Option String) : Bool := wanted.all fun text => value = some text

/-- Whether a user meets every condition given, deleted or not. -/
def selects (filter : Filter) (user : User) : Bool :=
  holdsPart filter.account (some user.account) &&
  (filter.status.all fun status => user.status = status) &&
  (filter.createdFrom.all fun start => start ≤ user.createdAt) &&
  (filter.createdBefore.all fun stop => user.createdAt < stop) &&
  holdsPart filter.email user.email &&
  holdsPart filter.mobile user.mobile &&
  holdsValue filter.deptId user.deptId &&
  holdsValue filter.tenantId user.tenantId

end Filter

end UserDirectory
