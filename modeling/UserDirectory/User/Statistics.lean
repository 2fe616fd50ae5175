import UserDirectory.Time.Boundary
import UserDirectory.User.Basic

namespace UserDirectory

structure Statistics where
  total : Nat
  active : Nat
  inactive : Nat
  today : Nat
  thisWeek : Nat
  thisMonth : Nat
deriving DecidableEq

end UserDirectory
