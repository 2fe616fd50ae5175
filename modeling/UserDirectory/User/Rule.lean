import UserDirectory.Failure
import UserDirectory.Text.Blank
import UserDirectory.Text.Letter
import UserDirectory.User.Email
import UserDirectory.User.Mobile

/-!
The rules for the fields of a user. Each check gives the first rule that a value breaks. Lengths
count characters, except that of an email address, which counts bytes of UTF-8.
-/

namespace UserDirectory

inductive FieldError
  | emptyId
  | idTooLong
  | idContainsBlank
  | emptyIdList
  | emptyAccount
  | accountTooShort
  | accountTooLong
  | invalidAccountCharacter (character : Char)
  | emptyPassword
  | passwordTooShort
  | passwordTooLong
  | weakPassword
  | nicknameTooLong
  | remarkTooLong
  | emailTooLong
  | invalidEmail (email : String)
  | invalidMobile (mobile : String)
  | invalidSex (code : Int)
  | invalidStatus (code : Int)
deriving DecidableEq, Repr

namespace Limit

def id : Nat := 64
def accountLeast : Nat := 3
def account : Nat := 50
def passwordLeast : Nat := 3
def password : Nat := 128
def nickname : Nat := 30
def remark : Nat := 500
def emailBytes : Nat := 254

end Limit

namespace FieldError

def tooShort (name : String) (least : Nat) : String :=
  name ++ " is too short. Minimum length is " ++ toString least ++ " characters"

def tooLong (name : String) (most : Nat) : String :=
  name ++ " exceeds maximum length of " ++ toString most ++ " characters"

def message : FieldError → String
  | emptyId => "User ID cannot be empty"
  | idTooLong => tooLong "User ID" Limit.id
  | idContainsBlank => "User ID cannot contain whitespace"
  | emptyIdList => "User ID list cannot be empty"
  | emptyAccount => "Account cannot be empty"
  | accountTooShort => tooShort "Account" Limit.accountLeast
  | accountTooLong => tooLong "Account" Limit.account
  | invalidAccountCharacter character =>
    "Account contains invalid character: '" ++ character.toString ++
      "'. Only letters, digits, '_', '-' and '.' are allowed"
  | emptyPassword => "Password cannot be empty"
  | passwordTooShort => tooShort "Password" Limit.passwordLeast
  | passwordTooLong => tooLong "Password" Limit.password
  | weakPassword => "Password must contain at least one letter and one digit"
  | nicknameTooLong => tooLong "Nickname" Limit.nickname
  | remarkTooLong => tooLong "Remark" Limit.remark
  | emailTooLong => tooLong "Email" Limit.emailBytes
  | invalidEmail email => "Email '" ++ email ++ "' is not a valid address"
  | invalidMobile mobile => "Mobile '" ++ mobile ++ "' is not a valid mobile number"
  | invalidSex code => "Sex must be 0 (female) or 1 (male), got " ++ toString code
  | invalidStatus code => "Status must be 0 (disabled) or 1 (enabled), got " ++ toString code

def name : FieldError → String
  | emptyId => "EmptyId"
  | idTooLong => "IdTooLong"
  | idContainsBlank => "IdContainsWhitespace"
  | emptyIdList => "EmptyIdList"
  | emptyAccount => "EmptyAccount"
  | accountTooShort => "AccountTooShort"
  | accountTooLong => "AccountTooLong"
  | invalidAccountCharacter _ => "InvalidAccountCharacter"
  | emptyPassword => "EmptyPassword"
  | passwordTooShort => "PasswordTooShort"
  | passwordTooLong => "PasswordTooLong"
  | weakPassword => "WeakPassword"
  | nicknameTooLong => "NicknameTooLong"
  | remarkTooLong => "RemarkTooLong"
  | emailTooLong => "EmailTooLong"
  | invalidEmail _ => "InvalidEmail"
  | invalidMobile _ => "InvalidMobile"
  | invalidSex _ => "InvalidSex"
  | invalidStatus _ => "InvalidStatus"

def failure (error : FieldError) : Failure := .badRequest error.message

end FieldError

namespace Rule

def isAccountChar (c : Char) : Bool := c.isAlphanum || "_-.".toList.contains c

def id (value : String) : Except FieldError Unit :=
  if value.isEmpty then .error .emptyId
  else if value.length > Limit.id then .error .idTooLong
  else if value.toList.any Text.isBlank then .error .idContainsBlank
  else .ok ()

/-- Of a list of ids only its emptiness is checked; each id is judged by itself later. -/
def idList (ids : List String) : Except FieldError Unit :=
  if ids.isEmpty then .error .emptyIdList else .ok ()

def account (value : String) : Except FieldError Unit :=
  if value.isEmpty then .error .emptyAccount
  else if value.length < Limit.accountLeast then .error .accountTooShort
  else if value.length > Limit.account then .error .accountTooLong
  else
    match value.toList.find? fun c => !isAccountChar c with
    | some c => .error (.invalidAccountCharacter c)
    | none => .ok ()

def password (value : String) : Except FieldError Unit :=
  if value.isEmpty then .error .emptyPassword
  else if value.length < Limit.passwordLeast then .error .passwordTooShort
  else if value.length > Limit.password then .error .passwordTooLong
  else if value.toList.any Text.isLetter && value.toList.any Char.isDigit then .ok ()
  else .error .weakPassword

def nickname (value : String) : Except FieldError Unit :=
  if value.length > Limit.nickname then .error .nicknameTooLong else .ok ()

def remark (value : String) : Except FieldError Unit :=
  if value.length > Limit.remark then .error .remarkTooLong else .ok ()

/-- The empty text stands for an address not supplied. -/
def email (value : String) : Except FieldError Unit :=
  if value.isEmpty then .ok ()
  else if value.utf8ByteSize > Limit.emailBytes then .error .emailTooLong
  else if Email.isAddress value.toList then .ok ()
  else .error (.invalidEmail value)

/-- The empty text stands for a number not supplied. -/
def mobile (value : String) : Except FieldError Unit :=
  if value.isEmpty then .ok ()
  else if Mobile.isNumber value.toList then .ok ()
  else .error (.invalidMobile value)

end Rule

end UserDirectory
