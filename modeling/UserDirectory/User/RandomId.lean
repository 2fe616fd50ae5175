import UserDirectory.User.Id

/-!
Ids made of random bits: 128 of them as 32 hexadecimal digits. Six bits are fixed and say that the
others are random.
-/

namespace UserDirectory

def hexadecimal (n : Nat) : Char := "0123456789abcdef".toList.getD (n % 16) '0'

def hexadecimals : Nat → Nat → List Char
  | 0, _ => []
  | width + 1, n => hexadecimals width (n / 16) ++ [hexadecimal n]

/-- The digit 4 stands at the thirteenth place, and one of 8, 9, a and b at the seventeenth. -/
def randomIdText (high low : UInt64) : List Char :=
  let high := (high &&& 0xffffffffffff0fff) ||| 0x4000
  let low := (low &&& 0x3fffffffffffffff) ||| 0x8000000000000000
  hexadecimals 16 high.toNat ++ hexadecimals 16 low.toNat

def UserId.random (high low : UInt64) : Except Failure UserId :=
  (UserId.ofText (String.ofList (randomIdText high low))).mapError fun error =>
    .internal ("Generated identifier was rejected: " ++ error.message)

end UserDirectory
