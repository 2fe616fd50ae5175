import UserDirectory.Password.Blake2b
import UserDirectory.Password.Cost

/-!
The Argon2 password hash in its three variants and both versions. Memory is a matrix of blocks, one
row a lane; each pass goes over it in four slices, and a block is made from the block before it and
one chosen among those the slice may look back at.
-/

namespace UserDirectory.Password

inductive Variant
  /-- Blocks are chosen by the contents of memory. -/
  | dependent
  /-- Blocks are chosen by their places alone. -/
  | independent
  /-- By their places in the first half of the first pass, and by contents from there on. -/
  | hybrid
deriving DecidableEq, Repr

def Variant.code : Variant → Nat
  | dependent => 0
  | independent => 1
  | hybrid => 2

inductive Version
  | v16
  | v19
deriving DecidableEq, Repr

def Version.number : Version → Nat
  | v16 => 16
  | v19 => 19

structure Recipe where
  variant : Variant
  version : Version
  cost : Cost
  salt : List UInt8
  associated : List UInt8
  /-- The length of the output. -/
  size : Nat
deriving DecidableEq

structure Block where
  r0 : Row
  r1 : Row
  r2 : Row
  r3 : Row
  r4 : Row
  r5 : Row
  r6 : Row
  r7 : Row
deriving Inhabited

namespace Block

def rows (b : Block) : List Row := [b.r0, b.r1, b.r2, b.r3, b.r4, b.r5, b.r6, b.r7]

@[inline] def map (f : Row → Row) (b : Block) : Block :=
  ⟨f b.r0, f b.r1, f b.r2, f b.r3, f b.r4, f b.r5, f b.r6, f b.r7⟩

def zero : Block :=
  ⟨Row.zero, Row.zero, Row.zero, Row.zero, Row.zero, Row.zero, Row.zero, Row.zero⟩

def xor (b c : Block) : Block :=
  ⟨b.r0.xor c.r0, b.r1.xor c.r1, b.r2.xor c.r2, b.r3.xor c.r3,
    b.r4.xor c.r4, b.r5.xor c.r5, b.r6.xor c.r6, b.r7.xor c.r7⟩

@[inline] def column (left right : Row → UInt64) (b : Block) : Row :=
  ⟨left b.r0, right b.r0, left b.r1, right b.r1, left b.r2, right b.r2, left b.r3, right b.r3,
    left b.r4, right b.r4, left b.r5, right b.r5, left b.r6, right b.r6, left b.r7, right b.r7⟩

def transpose (b : Block) : Block :=
  ⟨b.column Row.w0 Row.w1, b.column Row.w2 Row.w3, b.column Row.w4 Row.w5, b.column Row.w6 Row.w7,
    b.column Row.w8 Row.w9, b.column Row.w10 Row.w11, b.column Row.w12 Row.w13,
    b.column Row.w14 Row.w15⟩

/-- The sum of two words and twice the product of their lower halves. -/
@[inline] def productSum (x y : UInt64) : UInt64 :=
  x + y + 2 * ((x &&& 0xffffffff) * (y &&& 0xffffffff))

def mixRow (row : Row) : Row := Row.round productSum Row.zero row

/-- Rows are mixed first, then columns, and what entered is added to what comes out. -/
def compress (b c : Block) : Block :=
  let entry := b.xor c
  entry.xor ((entry.map mixRow).transpose.map mixRow).transpose

def word (b : Block) (i : Nat) : UInt64 := ((b.rows.getD (i / 16) Row.zero).toList).getD (i % 16) 0

def bytes (b : Block) : List UInt8 := b.rows.flatMap fun row => row.toList.flatMap bytesOfWord

def rowOf (words : List UInt64) (i : Nat) : Row := Row.ofList ((words.drop (16 * i)).take 16)

def ofWords (words : List UInt64) : Block :=
  ⟨rowOf words 0, rowOf words 1, rowOf words 2, rowOf words 3,
    rowOf words 4, rowOf words 5, rowOf words 6, rowOf words 7⟩

def wordsOf (bytes : List UInt8) : List UInt64 :=
  match bytes with
  | [] => []
  | byte :: rest => wordOfBytes ((byte :: rest).take 8) :: wordsOf (rest.drop 7)
termination_by bytes.length
decreasing_by simp only [List.length_drop, List.length_cons]; omega

end Block

namespace Argon2

/-- Output of any length: hashes of 64 bytes, each of the one before, give 32 bytes each, and the
last one gives all the rest. -/
def extend (size : Nat) (state : List UInt8) : List UInt8 :=
  if size ≤ 64 then Blake2b.hash size state
  else
    let next := Blake2b.hash 64 state
    next.take 32 ++ extend (size - 32) next
termination_by size

def longHash (size : Nat) (message : List UInt8) : List UInt8 :=
  let message := bytes32 size ++ message
  if size ≤ 64 then Blake2b.hash size message
  else
    let first := Blake2b.hash 64 message
    first.take 32 ++ extend (size - 32) first

def counted (bytes : List UInt8) : List UInt8 := bytes32 bytes.length ++ bytes

/-- The hash of all inputs. No secret is used, so its length is zero. -/
def seed (recipe : Recipe) (password : List UInt8) : List UInt8 :=
  Blake2b.hash 64 (
    bytes32 recipe.cost.lanes ++ bytes32 recipe.size ++ bytes32 recipe.cost.memory ++
    bytes32 recipe.cost.passes ++ bytes32 recipe.version.number ++ bytes32 recipe.variant.code ++
    counted password ++ counted recipe.salt ++ counted [] ++ counted recipe.associated)

def segment (cost : Cost) : Nat := cost.memory / (4 * cost.lanes)

def laneLength (cost : Cost) : Nat := 4 * segment cost

structure Place where
  pass : Nat
  slice : Nat
  lane : Nat
  index : Nat

def firstBlocks (seed : List UInt8) (lane : Nat) : List Block :=
  [0, 1].map fun i =>
    Block.ofWords (Block.wordsOf (longHash 1024 (seed ++ bytes32 i ++ bytes32 lane)))

def byPlace (variant : Variant) (place : Place) : Bool :=
  match variant with
  | .dependent => false
  | .independent => true
  | .hybrid => place.pass = 0 && place.slice < 2

def choices (recipe : Recipe) (place : Place) : Block :=
  let counters := [place.pass, place.lane, place.slice, 4 * recipe.cost.lanes * segment recipe.cost,
    recipe.cost.passes, recipe.variant.code, place.index / 128 + 1]
  let numbered := Block.ofWords (counters.map UInt64.ofNat)
  if byPlace recipe.variant place then
    Block.zero.compress (Block.zero.compress numbered)
  else Block.zero

def chosen (cost : Cost) (place : Place) (choice : UInt64) : Nat × Nat :=
  let low := choice.toNat % 0x100000000
  let high := choice.toNat / 0x100000000
  let lane := if place.pass = 0 && place.slice = 0 then place.lane else high % cost.lanes
  let finished := if place.pass = 0 then place.slice * segment cost
    else laneLength cost - segment cost
  let area := if lane = place.lane then finished + place.index - 1
    else if place.index = 0 then finished - 1 else finished
  let back := area * (low * low / 0x100000000) / 0x100000000
  let first := if place.pass = 0 then 0 else (place.slice + 1) * segment cost
  (lane, (first + (area - 1 - back)) % laneLength cost)

def makeBlock (recipe : Recipe) (place : Place) (choices : Block) (memory : Array Block) :
    Array Block :=
  let length := laneLength recipe.cost
  let position := place.slice * segment recipe.cost + place.index
  let before := memory.getD (place.lane * length + (position + length - 1) % length) Block.zero
  let choice :=
    if byPlace recipe.variant place then choices.word (place.index % 128) else before.r0.w0
  let (lane, index) := chosen recipe.cost place choice
  let made := before.compress (memory.getD (lane * length + index) Block.zero)
  let here := place.lane * length + position
  let made := match recipe.version with
    | .v16 => made
    | .v19 => if place.pass = 0 then made else made.xor (memory.getD here Block.zero)
  memory.setIfInBounds here made

def fillSegment (recipe : Recipe) : Nat → Place → Block → Array Block → Array Block
  | 0, _, _, memory => memory
  | count + 1, place, current, memory =>
    let next := { place with index := place.index + 1 }
    fillSegment recipe count next
      (if next.index % 128 = 0 then choices recipe next else current)
      (makeBlock recipe place current memory)

/-- The first two blocks of each lane are there from the start. -/
def fillSlice (recipe : Recipe) (memory : Array Block) (pass slice lane : Nat) : Array Block :=
  let first := if pass = 0 && slice = 0 then 2 else 0
  let place := ⟨pass, slice, lane, first⟩
  fillSegment recipe (segment recipe.cost - first) place (choices recipe place) memory

def fillPass (recipe : Recipe) (memory : Array Block) (pass : Nat) : Array Block :=
  (List.range 4).foldl (fun memory slice =>
    (List.range recipe.cost.lanes).foldl (fun memory lane =>
      fillSlice recipe memory pass slice lane) memory) memory

def emptyMemory (recipe : Recipe) (seed : List UInt8) : Array Block :=
  (List.range recipe.cost.lanes).foldl (fun memory lane =>
    memory ++ firstBlocks seed lane ++
      Array.replicate (laneLength recipe.cost - 2) Block.zero) #[]

def hash (recipe : Recipe) (password : List UInt8) : List UInt8 :=
  let length := laneLength recipe.cost
  let memory := (List.range recipe.cost.passes).foldl (fillPass recipe)
    (emptyMemory recipe (seed recipe password))
  let last := (List.range recipe.cost.lanes).foldl (fun block lane =>
    block.xor (memory.getD (lane * length + length - 1) Block.zero)) Block.zero
  longHash recipe.size last.bytes

end Argon2

end UserDirectory.Password
