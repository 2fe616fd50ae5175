namespace UserDirectory

/-- The fields that no two live users may share. -/
inductive UniqueField
  | account
  | email
  | mobile
deriving DecidableEq, Repr

def UniqueField.name : UniqueField → String
  | account => "account"
  | email => "email"
  | mobile => "mobile"

inductive Failure
  | notFound (message : String)
  | alreadyExists (field : UniqueField) (value : String)
  | badRequest (message : String)
  | unauthorized (message : String)
  | storage (message : String)
  | configuration (message : String)
  | internal (message : String)
  /-- A date computation left the calendar; the operation is broken off. -/
  | outOfCalendar
deriving DecidableEq, Repr

namespace Failure

def message : Failure → String
  | notFound message => "Not found: " ++ message
  | alreadyExists field value =>
    "Already exists: " ++ field.name ++ " '" ++ value ++ "' is already in use"
  | badRequest message => "Bad request: " ++ message
  | unauthorized message => "Unauthorized: " ++ message
  | storage message => "Storage error: " ++ message
  | configuration message => "Configuration error: " ++ message
  | internal message => "Internal error: " ++ message
  | outOfCalendar => "The date is outside the calendar"

def kind : Failure → String
  | notFound _ => "NotFound"
  | alreadyExists _ _ => "AlreadyExists"
  | badRequest _ => "BadRequest"
  | unauthorized _ => "Unauthorized"
  | storage _ => "Storage"
  | configuration _ => "Configuration"
  | internal _ => "Internal"
  | outOfCalendar => "OutOfCalendar"

def isNotFound : Failure → Bool
  | notFound _ => true
  | _ => false

def isBadRequest : Failure → Bool
  | badRequest _ => true
  | _ => false

def isAlreadyExists (failure : Failure) (field : UniqueField) : Bool :=
  match failure with
  | alreadyExists taken _ => taken = field
  | _ => false

end Failure

end UserDirectory
