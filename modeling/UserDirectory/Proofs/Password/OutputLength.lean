import Mathlib.Data.List.Basic
import UserDirectory.Password.Argon2

namespace UserDirectory.Password

theorem length_lowBytes (width : Nat) (word : UInt64) : (lowBytes width word).length = width := by
  induction width generalizing word with
  | zero => rfl
  | succ width ih => rw [lowBytes, List.length_cons, ih]

theorem length_flatMap_bytesOfWord (words : List UInt64) :
    (words.flatMap bytesOfWord).length = 8 * words.length := by
  induction words with
  | nil => rfl
  | cons word words ih =>
    rw [List.flatMap_cons, List.length_append, ih, bytesOfWord, length_lowBytes, List.length_cons]
    omega

namespace Blake2b

variable {state : List UInt64}

theorem length_compress (eight : state.length = 8) (block : List UInt8) (count : Nat)
    (last : Bool) : (compress state block count last).length = 8 := by
  simp [compress, eight, Row.toList]

theorem length_absorb (eight : state.length = 8) (count : Nat) (message : List UInt8) :
    (absorb state count message).length = 8 := by
  induction state, count, message using absorb.induct with
  | case1 state count message short =>
    rw [absorb, if_pos short]
    exact length_compress eight _ _ _
  | case2 state count message long ih =>
    rw [absorb, if_neg long]
    exact ih (length_compress eight _ _ _)

theorem length_hash (size : Nat) (message : List UInt8) :
    (hash size message).length = min size 64 := by
  rw [hash, List.length_take, length_flatMap_bytesOfWord, length_absorb rfl]

end Blake2b

namespace Argon2

theorem length_extend (size : Nat) (state : List UInt8) : (extend size state).length = size := by
  induction size, state using extend.induct with
  | case1 size state short =>
    rw [extend, if_pos short, Blake2b.length_hash, Nat.min_eq_left short]
  | case2 size state long next ih =>
    rw [extend, if_neg long, List.length_append, ih, List.length_take, Blake2b.length_hash]
    omega

theorem length_longHash (size : Nat) (message : List UInt8) :
    (longHash size message).length = size := by
  rw [longHash]
  split
  next short => rw [Blake2b.length_hash, Nat.min_eq_left short]
  next long =>
    rw [List.length_append, length_extend, List.length_take, Blake2b.length_hash]
    omega

theorem length_hash (recipe : Recipe) (password : List UInt8) :
    (hash recipe password).length = recipe.size := by
  rw [hash]
  exact length_longHash _ _

end Argon2

end UserDirectory.Password
