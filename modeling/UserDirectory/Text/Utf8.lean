namespace UserDirectory.Text.Utf8

/-- How many bytes follow a first byte, and the range that the second one must lie in. -/
def following? (first : Nat) : Option (Nat × Nat × Nat) :=
  if first < 0xC2 then none
  else if first < 0xE0 then some (1, 0x80, 0xBF)
  else if first = 0xE0 then some (2, 0xA0, 0xBF)
  else if first = 0xED then some (2, 0x80, 0x9F)
  else if first < 0xF0 then some (2, 0x80, 0xBF)
  else if first = 0xF0 then some (3, 0x90, 0xBF)
  else if first < 0xF4 then some (3, 0x80, 0xBF)
  else if first = 0xF4 then some (3, 0x80, 0x8F)
  else none

def readRest : Nat → Nat → Nat → Nat → List UInt8 → Option Nat × List UInt8
  | 0, _, _, code, bytes => (some code, bytes)
  | _ + 1, _, _, _, [] => (none, [])
  | count + 1, low, high, code, byte :: rest =>
    if low ≤ byte.toNat ∧ byte.toNat ≤ high then
      readRest count 0x80 0xBF (64 * code + byte.toNat % 64) rest
    else (none, byte :: rest)

theorem readRest_length_le (count low high code : Nat) (bytes : List UInt8) :
    (readRest count low high code bytes).2.length ≤ bytes.length := by
  induction bytes generalizing count low high code with
  | nil => cases count <;> simp [readRest]
  | cons byte rest ih =>
    cases count with
    | zero => simp [readRest]
    | succ count =>
      simp only [readRest]
      split
      · exact Nat.le_succ_of_le (ih ..)
      · exact Nat.le_refl _

/-- The first character, or none for bytes that begin like a character and do not end like one. -/
def readFirst (first : UInt8) (rest : List UInt8) : Option Char × List UInt8 :=
  let value := first.toNat
  if value < 0x80 then (some (Char.ofNat value), rest)
  else
    match following? value with
    | none => (none, rest)
    | some (count, low, high) =>
      let (code, rest) := readRest count low high (value % Nat.pow 2 (6 - count)) rest
      (code.map Char.ofNat, rest)

theorem readFirst_length_le (first : UInt8) (rest : List UInt8) :
    (readFirst first rest).2.length ≤ rest.length := by
  simp only [readFirst]
  split
  · exact Nat.le_refl _
  · split
    · exact Nat.le_refl _
    · exact readRest_length_le ..

def characters : List UInt8 → List (Option Char)
  | [] => []
  | first :: rest =>
    (readFirst first rest).1 :: characters (readFirst first rest).2
termination_by bytes => bytes.length
decreasing_by
  have shorter := readFirst_length_le first rest
  simp only [List.length_cons]
  omega

def decode? (bytes : List UInt8) : Option (List Char) := (characters bytes).mapM id

def decodeLossy (bytes : List UInt8) : List Char :=
  (characters bytes).map fun character => character.getD '\ufffd'

end UserDirectory.Text.Utf8
