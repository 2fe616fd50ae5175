namespace UserDirectory

inductive Level
  | debug
  | info
  | warn
deriving DecidableEq, Repr

def Level.name : Level → String
  | debug => "DEBUG"
  | info => "INFO"
  | warn => "WARN"

inductive EventValue
  | text (value : String)
  | number (value : Int)
deriving DecidableEq

structure Event where
  level : Level
  message : String
  fields : List (String × EventValue)
deriving DecidableEq

end UserDirectory
