import BotaSdk.Lib.Bytes

/-!
# SHA-256

The hash function on byte lists, with words as numbers below `2 ^ 32`.
-/

namespace Sha256

open Bytes

/-! ## Words -/

def size : Nat := 2 ^ 32

def rotr (n word : Nat) : Nat :=
  word >>> n ||| word <<< (32 - n) % size

def choose (x y z : Nat) : Nat :=
  x &&& y ^^^ (size - 1 ^^^ x) &&& z

def majority (x y z : Nat) : Nat :=
  x &&& y ^^^ x &&& z ^^^ y &&& z

/-! ## One block -/

/-- The hash value, and the working variables of its rounds. -/
structure State where
  a : Nat
  b : Nat
  c : Nat
  d : Nat
  e : Nat
  f : Nat
  g : Nat
  h : Nat
  deriving DecidableEq

namespace State

def initial : State where
  a := 0x6a09e667
  b := 0xbb67ae85
  c := 0x3c6ef372
  d := 0xa54ff53a
  e := 0x510e527f
  f := 0x9b05688c
  g := 0x1f83d9ab
  h := 0x5be0cd19

/-- One round, with the sum of its constant and its word. -/
def round (state : State) (term : Nat) : State :=
  let sigma1 := rotr 6 state.e ^^^ rotr 11 state.e ^^^ rotr 25 state.e
  let sigma0 := rotr 2 state.a ^^^ rotr 13 state.a ^^^ rotr 22 state.a
  let t1 := state.h + sigma1 + choose state.e state.f state.g + term
  let t2 := sigma0 + majority state.a state.b state.c
  { a := (t1 + t2) % size, b := state.a, c := state.b, d := state.c
    e := (state.d + t1) % size, f := state.e, g := state.f, h := state.g }

def add (state other : State) : State where
  a := (state.a + other.a) % size
  b := (state.b + other.b) % size
  c := (state.c + other.c) % size
  d := (state.d + other.d) % size
  e := (state.e + other.e) % size
  f := (state.f + other.f) % size
  g := (state.g + other.g) % size
  h := (state.h + other.h) % size

def bytes (state : State) : List UInt8 :=
  [state.a, state.b, state.c, state.d, state.e, state.f, state.g, state.h].flatMap (beBytes 4)

theorem length_bytes (state : State) : state.bytes.length = 32 := by
  simp [bytes]

end State

def constants : List Nat :=
  [0x428a2f98, 0x71374491, 0xb5c0fbcf, 0xe9b5dba5, 0x3956c25b, 0x59f111f1, 0x923f82a4, 0xab1c5ed5,
    0xd807aa98, 0x12835b01, 0x243185be, 0x550c7dc3, 0x72be5d74, 0x80deb1fe, 0x9bdc06a7, 0xc19bf174,
    0xe49b69c1, 0xefbe4786, 0x0fc19dc6, 0x240ca1cc, 0x2de92c6f, 0x4a7484aa, 0x5cb0a9dc, 0x76f988da,
    0x983e5152, 0xa831c66d, 0xb00327c8, 0xbf597fc7, 0xc6e00bf3, 0xd5a79147, 0x06ca6351, 0x14292967,
    0x27b70a85, 0x2e1b2138, 0x4d2c6dfc, 0x53380d13, 0x650a7354, 0x766a0abb, 0x81c2c92e, 0x92722c85,
    0xa2bfe8a1, 0xa81a664b, 0xc24b8b70, 0xc76c51a3, 0xd192e819, 0xd6990624, 0xf40e3585, 0x106aa070,
    0x19a4c116, 0x1e376c08, 0x2748774c, 0x34b0bcb5, 0x391c0cb3, 0x4ed8aa4a, 0x5b9cca4f, 0x682e6ff3,
    0x748f82ee, 0x78a5636f, 0x84c87814, 0x8cc70208, 0x90befffa, 0xa4506ceb, 0xbef9a3f7, 0xc67178f2]

/-- The word that the schedule has sixteen places behind the first of these. -/
def extend (schedule : List Nat) : Nat :=
  let early := schedule.getD 1 0
  let late := schedule.getD 14 0
  let sigma0 := rotr 7 early ^^^ rotr 18 early ^^^ early >>> 3
  let sigma1 := rotr 17 late ^^^ rotr 19 late ^^^ late >>> 10
  (sigma1 + schedule.getD 9 0 + sigma0 + schedule.headD 0) % size

/-- The rounds of a block, with the sixteen words of the schedule that come next. -/
def rounds : List Nat → List Nat → State → State
  | [], _, state => state
  | constant :: rest, schedule, state =>
    rounds rest (schedule.tail ++ [extend schedule]) (state.round (constant + schedule.headD 0))

/-! ## Whole messages -/

def words : List UInt8 → List Nat
  | a :: b :: c :: d :: rest => beNat [a, b, c, d] :: words rest
  | _ => []

def pad (message : List UInt8) : List UInt8 :=
  message ++ 0x80 :: List.replicate ((119 - message.length % 64) % 64) 0 ++
    beBytes 8 (8 * message.length)

def blocks : Nat → List Nat → State → State
  | 0, _, state => state
  | count + 1, schedule, state =>
    blocks count (schedule.drop 16) (state.add (rounds constants (schedule.take 16) state))

def digest (message : List UInt8) : { bytes : List UInt8 // bytes.length = 32 } :=
  let padded := pad message
  ⟨(blocks (padded.length / 64) (words padded) .initial).bytes, State.length_bytes _⟩

/-- The digest of `abc`. -/
example : (digest [0x61, 0x62, 0x63]).1 =
    [0xba, 0x78, 0x16, 0xbf, 0x8f, 0x01, 0xcf, 0xea, 0x41, 0x41, 0x40, 0xde, 0x5d, 0xae, 0x22, 0x23,
      0xb0, 0x03, 0x61, 0xa3, 0x96, 0x17, 0x7a, 0x9c, 0xb4, 0x10, 0xff, 0x61, 0xf2, 0x00, 0x15,
      0xad] := by
  decide +kernel

end Sha256
