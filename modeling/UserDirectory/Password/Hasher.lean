import UserDirectory.Password.Digest

namespace UserDirectory

/-- One-way password digests. Making one takes its place in the row of digests made so far, from
which it may draw its salt. -/
structure Hasher where
  hash : Nat → String → Except Failure String
  verify : String → String → Bool

namespace Password

structure Salt where
  bytes : List UInt8
  length_eq : bytes.length = 16
deriving DecidableEq

def Salt.ofWords (first second : UInt64) : Salt := ⟨bytesOfWord first ++ bytesOfWord second, rfl⟩

def Cost.recipe (cost : Cost) (salt : Salt) : Recipe where
  variant := .hybrid
  version := .v19
  cost := cost
  salt := salt.bytes
  associated := []
  size := 32

def digest (cost : Cost) (salt : Salt) (password : String) : Digest :=
  let recipe := cost.recipe salt
  ⟨recipe, Argon2.hash recipe password.toUTF8.toList⟩

/-- A text that is no digest accepts no password. -/
def verify (password stored : String) : Bool :=
  match Digest.ofText? stored.toList with
  | some digest => digest.accepts password
  | none => false

def hasher (cost : Cost) (salts : Nat → Salt) : Hasher where
  hash n password := .ok (String.ofList (digest cost (salts n) password).text)
  verify := verify

end Password

end UserDirectory
