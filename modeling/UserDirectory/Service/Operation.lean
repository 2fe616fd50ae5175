import UserDirectory.Service.CreationRange
import UserDirectory.Service.Program
import UserDirectory.Service.Request
import UserDirectory.Time.InstantText
import UserDirectory.User.Tally

/-!
The user operations. Each checks its request before it touches the store; the early look-ups for
values in use give a specific answer, and the store's own guard stays the last word.
-/

namespace UserDirectory.Service

open Program

inductive Counting
  /-- Six counts, one call each. -/
  | byCount
  /-- One call that counts all six. -/
  | byAggregate
deriving DecidableEq

structure Settings where
  /-- The offset at which dates are local dates. -/
  offset : Offset
  counting : Counting

def notFound (id : UserId) : Failure := .notFound ("User '" ++ id.text ++ "' not found")

def checkField (check : String → Except FieldError Unit) (value : Option String) :
    Except FieldError Unit :=
  match value with
  | none => .ok ()
  | some text => check text

def checkProfile (nickname remark email mobile : Option String) : Except FieldError Unit := do
  checkField Rule.nickname nickname
  checkField Rule.remark remark
  checkField Rule.email email
  checkField Rule.mobile mobile

def readCode (read : Int → Except FieldError α) (code : Option Int) :
    Except FieldError (Option α) :=
  match code with
  | none => .ok none
  | some code => (read code).map some

def readCreate (request : CreateRequest) : Except FieldError (Option Sex × Option Status) := do
  Rule.account request.account
  Rule.password request.password
  checkProfile request.nickname request.remark request.email request.mobile
  let sex ← readCode Sex.ofCode request.sex
  let status ← readCode Status.ofCode request.status
  return (sex, status)

def readUpdate (request : UpdateRequest) :
    Except FieldError (UserId × Option Sex × Option Status) := do
  let id ← UserId.ofText request.id
  checkProfile request.nickname request.remark request.email request.mobile
  let sex ← readCode Sex.ofCode request.sex
  let status ← readCode Status.ofCode request.status
  return (id, sex, status)

def requireFree (field : UniqueField) (value : String) (owner : Option UserId)
    (found : Option User) : Program Unit :=
  match found with
  | none => done ()
  | some user => if some user.id = owner then done () else fail (.alreadyExists field value)

def requireAccountFree (account : String) : Program Unit := do
  requireFree .account account none (← ask (.findByAccount account))

def requireEmailFree (email : String) (owner : Option UserId) : Program Unit := do
  requireFree .email email owner (← ask (.findByEmail email))

def requireMobileFree (mobile : String) (owner : Option UserId) : Program Unit := do
  requireFree .mobile mobile owner (← ask (.findByMobile mobile))

def whenGiven (value : Option String) (check : String → Program Unit) : Program Unit :=
  match value with
  | none => done ()
  | some text => check text

def requireFound (id : UserId) (found : Option User) : Program User :=
  match found with
  | some user => done user
  | none => fail (notFound id)

def requireLive (id : UserId) : Program User := do
  requireFound id (← ask (.findById id))

def requireDone (id : UserId) (found : Bool) : Program Unit :=
  if found then done () else fail (notFound id)

def supplied (value : Option String) : Option String := nonEmptyText value

/-- The text supplied, where it is neither empty nor the one that is there. -/
def changed (value current : Option String) : Option String :=
  (supplied value).filter fun text => current ≠ some text

def newUser (request : CreateRequest) (sex : Option Sex) (status : Option Status)
    (passwordHash : String) : NewUser where
  account := request.account
  passwordHash := some passwordHash
  nickname := request.nickname
  remark := request.remark
  deptId := request.deptId
  postIds := request.postIds
  email := supplied request.email
  mobile := supplied request.mobile
  sex := sex
  avatar := request.avatar
  status := status.getD .enabled
  tenantId := request.tenantId
  createBy := request.createBy

def add (new : NewUser) : Program User := do
  let user : User ← ask (.save new)
  info "User created" [("id", .text user.id.text), ("account", .text user.account)]
  return user

def enroll (request : CreateRequest) (sex : Option Sex) (status : Option Status) :
    Program User := do
  requireAccountFree request.account
  whenGiven (supplied request.email) fun email => requireEmailFree email none
  whenGiven (supplied request.mobile) fun mobile => requireMobileFree mobile none
  let hash ← digestOf request.password
  add (newUser request sex status hash)

def createUser (request : CreateRequest) : Program User := do
  info "Creating user" [("account", .text request.account)]
  let (sex, status) ← require (readCreate request)
  enroll request sex status

def getUser (id : String) : Program User := do
  event .debug "Getting user" [("id", .text id)]
  requireLive (← require (UserId.ofText id))

def changes (request : UpdateRequest) (id : UserId) (sex : Option Sex) (status : Option Status) :
    Patch where
  id := id
  nickname := request.nickname
  remark := request.remark
  deptId := request.deptId
  postIds := request.postIds
  email := request.email
  mobile := request.mobile
  sex := sex
  avatar := request.avatar
  status := status
  updateBy := request.updateBy

/-- Makes the changes of a request without faults. The user's own email and mobile number may be
submitted again. -/
def amend (request : UpdateRequest) (id : UserId) (sex : Option Sex) (status : Option Status) :
    Program User := do
  let current ← requireLive id
  whenGiven (changed request.email current.email) fun email =>
    requireEmailFree email (some current.id)
  whenGiven (changed request.mobile current.mobile) fun mobile =>
    requireMobileFree mobile (some current.id)
  requireFound id (← ask (.update (changes request id sex status)))

def updateUser (request : UpdateRequest) : Program User := do
  info "Updating user" [("id", .text request.id)]
  let (id, sex, status) ← require (readUpdate request)
  amend request id sex status

def deleteUser (id : String) : Program Unit := do
  info "Deleting user" [("id", .text id)]
  let id ← require (UserId.ofText id)
  requireDone id (← ask (.delete id))

def deleteItem (item : String) (tally : Tally) : Program Tally :=
  let failed (failure : Failure) : Program Tally := do
    event .warn "Batch delete failed for user"
      [("user_id", .text item), ("error", .text failure.message)]
    return tally.addFailure item
  match UserId.ofText item with
  | .error error => failed error.failure
  | .ok id =>
    call (.delete id) fun
      | .ok true => done tally.addSuccess
      | .ok false => do
        event .warn "Batch delete skipped missing user" [("user_id", .text item)]
        return tally.addFailure item
      | .error .outOfCalendar => fail .outOfCalendar
      | .error failure => failed failure

/-- Deletes each item by itself and goes on past failures. -/
def deleteItems : List String → Tally → Program Tally
  | [], tally => done tally
  | item :: rest, tally => do deleteItems rest (← deleteItem item tally)

def batchDeleteUsers (ids : List String) : Program Tally := do
  info "Batch deleting users" [("count", .number ids.length)]
  require (Rule.idList ids)
  let tally ← deleteItems ids {}
  info "Batch delete finished"
    [("success_count", .number tally.succeeded), ("failed_count", .number tally.failed)]
  return tally

def changeUserStatus (id : String) (status : Int) (updateBy : Option String) : Program Unit := do
  info "Changing user status" [("id", .text id), ("status", .number status)]
  let id ← require (UserId.ofText id)
  let status ← require (Status.ofCode status)
  let _ ← requireLive id
  requireDone id (← ask (.changeStatus id status updateBy))

def resetPassword (id password : String) (updateBy : Option String) : Program Unit := do
  info "Resetting user password" [("id", .text id)]
  let id ← require (UserId.ofText id)
  require (Rule.password password)
  let _ ← requireLive id
  let hash ← digestOf password
  let _ ← requireFound id (← ask (.update { id, passwordHash := some hash, updateBy }))

def checkAccountExists (account : String) : Program Bool := do
  info "Checking account existence" [("account", .text account)]
  require (Rule.account account)
  let found : Option User ← ask (.findByAccount account)
  return found.isSome

def countEach (scope : Filter) (windows : Windows) : Program Statistics := do
  let total : Nat ← ask (.count scope)
  let active : Nat ← ask (.count (scope.withStatus .enabled))
  let inactive : Nat ← ask (.count (scope.withStatus .disabled))
  let today : Nat ← ask (.count (scope.createdSince windows.today))
  let thisWeek : Nat ← ask (.count (scope.createdSince windows.thisWeek))
  let thisMonth : Nat ← ask (.count (scope.createdSince windows.thisMonth))
  return { total, active, inactive, today, thisWeek, thisMonth }

def Counting.program (counting : Counting) (scope : Filter) (windows : Windows) :
    Program Statistics :=
  match counting with
  | byCount => countEach scope windows
  | byAggregate => ask (.statistics scope windows)

def displayed (instant : Instant) : EventValue := .text (String.ofList instant.displayText)

def getUserStatistics (settings : Settings) (tenantId : Option String) : Program Statistics := do
  let tenantId := supplied tenantId
  let shown := EventValue.text (tenantId.getD "*")
  info "Getting user statistics" [("tenant_id", shown)]
  let windows ← inCalendar (Windows.at? (← clock) settings.offset)
  event .debug "Collecting user statistics"
    [("tenant_id", shown), ("today", displayed windows.today),
      ("this_week", displayed windows.thisWeek), ("this_month", displayed windows.thisMonth)]
  settings.counting.program (Filter.ofTenant tenantId) windows

def listUsers (settings : Settings) (request : ListRequest) : Program Page := do
  let page := Paging.page request.page
  let pageSize := Paging.size request.pageSize
  info "Listing users" [("page", .number page), ("page_size", .number pageSize)]
  let status ← require (readCode Status.ofCode request.status)
  let (createdFrom, createdBefore) ←
    ofExcept (CreationRange.instants request.startDate request.endDate settings.offset)
  ask (.list {
    filter := {
      account := supplied request.account
      email := supplied request.email
      mobile := supplied request.mobile
      status
      deptId := supplied request.deptId
      tenantId := supplied request.tenantId
      createdFrom
      createdBefore }
    page
    pageSize })

/-- Every reason to refuse gives the same answer. -/
def verifyCredentials (account password : String) : Program User := do
  let refused := Failure.unauthorized "Invalid account or password"
  info "Verifying credentials" [("account", .text account)]
  if (Rule.account account).toBool = false then fail refused
  let found : Option User ← ask (.findByAccount account)
  match found with
  | none => fail refused
  | some user =>
    match user.passwordHash with
    | none => fail refused
    | some stored =>
      if (← verified password stored) && user.status = .enabled then return user
      else fail refused

end UserDirectory.Service
