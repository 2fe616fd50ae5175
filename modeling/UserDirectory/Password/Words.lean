/-!
Words of 64 bits as eight bytes, the lowest first, and rows of sixteen words with the mixing round
that BLAKE2b and Argon2 share. A row keeps its words in fields, so a round allocates one row only.
-/

namespace UserDirectory.Password

def wordOfBytes (bytes : List UInt8) : UInt64 :=
  bytes.foldr (fun byte word => word * 256 + byte.toUInt64) 0

def lowBytes : Nat → UInt64 → List UInt8
  | 0, _ => []
  | width + 1, word => word.toUInt8 :: lowBytes width (word >>> 8)

def bytesOfWord (word : UInt64) : List UInt8 := lowBytes 8 word

def bytes32 (n : Nat) : List UInt8 := lowBytes 4 (UInt64.ofNat n)

@[inline] def rotateRight (word places : UInt64) : UInt64 :=
  (word >>> places) ||| (word <<< (64 - places))

structure Quarter where
  a : UInt64
  b : UInt64
  c : UInt64
  d : UInt64

@[inline] def Quarter.mix (sum : UInt64 → UInt64 → UInt64) (x y : UInt64) (q : Quarter) : Quarter :=
  let a := sum q.a q.b + x
  let d := rotateRight (q.d ^^^ a) 32
  let c := sum q.c d
  let b := rotateRight (q.b ^^^ c) 24
  let a := sum a b + y
  let d := rotateRight (d ^^^ a) 16
  let c := sum c d
  let b := rotateRight (b ^^^ c) 63
  ⟨a, b, c, d⟩

structure Row where
  w0 : UInt64
  w1 : UInt64
  w2 : UInt64
  w3 : UInt64
  w4 : UInt64
  w5 : UInt64
  w6 : UInt64
  w7 : UInt64
  w8 : UInt64
  w9 : UInt64
  w10 : UInt64
  w11 : UInt64
  w12 : UInt64
  w13 : UInt64
  w14 : UInt64
  w15 : UInt64
deriving Inhabited

namespace Row

def ofFn (word : Fin 16 → UInt64) : Row :=
  ⟨word 0, word 1, word 2, word 3, word 4, word 5, word 6, word 7,
    word 8, word 9, word 10, word 11, word 12, word 13, word 14, word 15⟩

def toList (r : Row) : List UInt64 :=
  [r.w0, r.w1, r.w2, r.w3, r.w4, r.w5, r.w6, r.w7,
    r.w8, r.w9, r.w10, r.w11, r.w12, r.w13, r.w14, r.w15]

def zero : Row := ofFn fun _ => 0

def ofList (words : List UInt64) : Row := ofFn fun i => words.getD i 0

def xor (r s : Row) : Row :=
  ⟨r.w0 ^^^ s.w0, r.w1 ^^^ s.w1, r.w2 ^^^ s.w2, r.w3 ^^^ s.w3,
    r.w4 ^^^ s.w4, r.w5 ^^^ s.w5, r.w6 ^^^ s.w6, r.w7 ^^^ s.w7,
    r.w8 ^^^ s.w8, r.w9 ^^^ s.w9, r.w10 ^^^ s.w10, r.w11 ^^^ s.w11,
    r.w12 ^^^ s.w12, r.w13 ^^^ s.w13, r.w14 ^^^ s.w14, r.w15 ^^^ s.w15⟩

/-- The quarter step on the four columns of the row as a square, then on its four diagonals. Two
words of `m` enter each step. -/
@[inline] def round (sum : UInt64 → UInt64 → UInt64) (m r : Row) : Row :=
  let p := Quarter.mix sum m.w0 m.w1 ⟨r.w0, r.w4, r.w8, r.w12⟩
  let q := Quarter.mix sum m.w2 m.w3 ⟨r.w1, r.w5, r.w9, r.w13⟩
  let s := Quarter.mix sum m.w4 m.w5 ⟨r.w2, r.w6, r.w10, r.w14⟩
  let t := Quarter.mix sum m.w6 m.w7 ⟨r.w3, r.w7, r.w11, r.w15⟩
  let i := Quarter.mix sum m.w8 m.w9 ⟨p.a, q.b, s.c, t.d⟩
  let j := Quarter.mix sum m.w10 m.w11 ⟨q.a, s.b, t.c, p.d⟩
  let k := Quarter.mix sum m.w12 m.w13 ⟨s.a, t.b, p.c, q.d⟩
  let l := Quarter.mix sum m.w14 m.w15 ⟨t.a, p.b, q.c, s.d⟩
  ⟨i.a, j.a, k.a, l.a, l.b, i.b, j.b, k.b, k.c, l.c, i.c, j.c, j.d, k.d, l.d, i.d⟩

end Row

end UserDirectory.Password
