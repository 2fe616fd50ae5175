import UserDirectory.Password.Words

/-!
The BLAKE2b hash without a key, with one to 64 bytes of output.
-/

namespace UserDirectory.Password.Blake2b

def start : List UInt64 :=
  [0x6a09e667f3bcc908, 0xbb67ae8584caa73b, 0x3c6ef372fe94f82b, 0xa54ff53a5f1d36f1,
    0x510e527fade682d1, 0x9b05688c2b3e6c1f, 0x1f83d9abfb41bd6b, 0x5be0cd19137e2179]

def schedule : List (List Nat) :=
  let orders := [
    [0, 1, 2, 3, 4, 5, 6, 7, 8, 9, 10, 11, 12, 13, 14, 15],
    [14, 10, 4, 8, 9, 15, 13, 6, 1, 12, 0, 2, 11, 7, 5, 3],
    [11, 8, 12, 0, 5, 2, 15, 13, 10, 14, 3, 6, 7, 1, 9, 4],
    [7, 9, 3, 1, 13, 12, 11, 14, 2, 6, 5, 10, 4, 0, 15, 8],
    [9, 0, 5, 7, 2, 4, 10, 15, 14, 1, 11, 12, 6, 8, 3, 13],
    [2, 12, 6, 10, 0, 11, 8, 3, 4, 13, 7, 5, 15, 14, 1, 9],
    [12, 5, 1, 15, 14, 13, 4, 10, 0, 7, 6, 3, 9, 2, 8, 11],
    [13, 11, 7, 14, 12, 1, 3, 9, 5, 0, 15, 4, 8, 6, 2, 10],
    [6, 15, 14, 9, 11, 3, 0, 8, 12, 2, 13, 7, 1, 4, 10, 5],
    [10, 2, 8, 4, 7, 6, 1, 5, 15, 11, 9, 14, 3, 12, 13, 0]]
  orders ++ orders.take 2

def wordsOf (bytes : List UInt8) : List UInt64 :=
  (List.range 16).map fun i => wordOfBytes ((bytes.drop (8 * i)).take 8)

/-- Takes a block of at most 128 bytes into the eight words of the state. `count` is the number of
bytes taken in with this block. -/
def compress (state : List UInt64) (block : List UInt8) (count : Nat) (last : Bool) :
    List UInt64 :=
  let words := wordsOf block
  let tweak := [UInt64.ofNat count, UInt64.ofNat (count / 0x10000000000000000),
    if last then 0xffffffffffffffff else 0, 0]
  let entry := Row.ofList (state ++ start.take 4 ++ (start.drop 4).zipWith (· ^^^ ·) tweak)
  let mixed := schedule.foldl (fun row order =>
    Row.round (· + ·) (Row.ofList (order.map fun i => words.getD i 0)) row) entry
  let (upper, lower) := mixed.toList.splitAt 8
  state.zipWith (· ^^^ ·) (upper.zipWith (· ^^^ ·) lower)

def absorb (state : List UInt64) (count : Nat) (message : List UInt8) : List UInt64 :=
  if message.length ≤ 128 then compress state message (count + message.length) true
  else absorb (compress state (message.take 128) (count + 128) false) (count + 128)
    (message.drop 128)
termination_by message.length
decreasing_by simp only [List.length_drop]; omega

def hash (size : Nat) (message : List UInt8) : List UInt8 :=
  let entry := start.zipWith (· ^^^ ·) [0x01010000 ^^^ UInt64.ofNat size, 0, 0, 0, 0, 0, 0, 0]
  ((absorb entry 0 message).flatMap bytesOfWord).take size

end UserDirectory.Password.Blake2b
