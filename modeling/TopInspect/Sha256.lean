import Mathlib.Data.List.Basic

/-! SHA-256 and the HMAC over it, on lists of bytes. -/
namespace TopInspect.Sha256

structure State where
  a : UInt32
  b : UInt32
  c : UInt32
  d : UInt32
  e : UInt32
  f : UInt32
  g : UInt32
  h : UInt32

def initial : State where
  a := 0x6a09e667
  b := 0xbb67ae85
  c := 0x3c6ef372
  d := 0xa54ff53a
  e := 0x510e527f
  f := 0x9b05688c
  g := 0x1f83d9ab
  h := 0x5be0cd19

def constants : List UInt32 := [
  0x428a2f98, 0x71374491, 0xb5c0fbcf, 0xe9b5dba5, 0x3956c25b, 0x59f111f1, 0x923f82a4, 0xab1c5ed5,
  0xd807aa98, 0x12835b01, 0x243185be, 0x550c7dc3, 0x72be5d74, 0x80deb1fe, 0x9bdc06a7, 0xc19bf174,
  0xe49b69c1, 0xefbe4786, 0x0fc19dc6, 0x240ca1cc, 0x2de92c6f, 0x4a7484aa, 0x5cb0a9dc, 0x76f988da,
  0x983e5152, 0xa831c66d, 0xb00327c8, 0xbf597fc7, 0xc6e00bf3, 0xd5a79147, 0x06ca6351, 0x14292967,
  0x27b70a85, 0x2e1b2138, 0x4d2c6dfc, 0x53380d13, 0x650a7354, 0x766a0abb, 0x81c2c92e, 0x92722c85,
  0xa2bfe8a1, 0xa81a664b, 0xc24b8b70, 0xc76c51a3, 0xd192e819, 0xd6990624, 0xf40e3585, 0x106aa070,
  0x19a4c116, 0x1e376c08, 0x2748774c, 0x34b0bcb5, 0x391c0cb3, 0x4ed8aa4a, 0x5b9cca4f, 0x682e6ff3,
  0x748f82ee, 0x78a5636f, 0x84c87814, 0x8cc70208, 0x90befffa, 0xa4506ceb, 0xbef9a3f7, 0xc67178f2]

def rotate (word : UInt32) (places : UInt32) : UInt32 := word >>> places ||| word <<< (32 - places)

def round (state : State) (constant word : UInt32) : State :=
  let sum := rotate state.e 6 ^^^ rotate state.e 11 ^^^ rotate state.e 25
  let choice := state.e &&& state.f ^^^ ~~~state.e &&& state.g
  let first := state.h + sum + choice + constant + word
  let majority := state.a &&& state.b ^^^ state.a &&& state.c ^^^ state.b &&& state.c
  let second := (rotate state.a 2 ^^^ rotate state.a 13 ^^^ rotate state.a 22) + majority
  { a := first + second, b := state.a, c := state.b, d := state.c
    e := state.d + first, f := state.e, g := state.f, h := state.g }

def toBytes (word : UInt32) : List UInt8 :=
  [(word >>> 24).toUInt8, (word >>> 16).toUInt8, (word >>> 8).toUInt8, word.toUInt8]

def toWords : List UInt8 → List UInt32
  | first :: second :: third :: fourth :: rest =>
      (first.toUInt32 <<< 24 ||| second.toUInt32 <<< 16 ||| third.toUInt32 <<< 8 |||
        fourth.toUInt32) :: toWords rest
  | _ => []

-- The words stand in reverse: the next one is made of the second, seventh, fifteenth and sixteenth
-- before it.
def expand : Nat → List UInt32 → List UInt32
  | 0, words => words
  | more + 1, words =>
      let near := words.getD 1 0
      let far := words.getD 14 0
      let mixed := (rotate near 17 ^^^ rotate near 19 ^^^ near >>> 10) + words.getD 6 0 +
        (rotate far 7 ^^^ rotate far 18 ^^^ far >>> 3) + words.getD 15 0
      expand more (mixed :: words)

def compress (state : State) (block : List UInt8) : State :=
  let schedule := (expand 48 (toWords block).reverse).reverse
  let last := (constants.zip schedule).foldl (fun state entry => round state entry.1 entry.2) state
  { a := state.a + last.a, b := state.b + last.b, c := state.c + last.c, d := state.d + last.d
    e := state.e + last.e, f := state.f + last.f, g := state.g + last.g, h := state.h + last.h }

def padding (message : List UInt8) : List UInt8 :=
  let bits := UInt64.ofNat (8 * message.length)
  let zeros := List.replicate ((119 - message.length % 64) % 64) (0 : UInt8)
  message ++ ((0x80 : UInt8) :: zeros) ++ toBytes (bits >>> 32).toUInt32 ++ toBytes bits.toUInt32

def blocks : Nat → List UInt8 → List (List UInt8)
  | 0, _ => []
  | more + 1, bytes => bytes.take 64 :: blocks more (bytes.drop 64)

def digest (message : List UInt8) : List UInt8 :=
  let padded := padding message
  let state := (blocks (padded.length / 64) padded).foldl compress initial
  [state.a, state.b, state.c, state.d, state.e, state.f, state.g, state.h].flatMap toBytes

example : digest [0x61, 0x62, 0x63] =
    [0xba, 0x78, 0x16, 0xbf, 0x8f, 0x01, 0xcf, 0xea, 0x41, 0x41, 0x40, 0xde, 0x5d, 0xae, 0x22, 0x23,
      0xb0, 0x03, 0x61, 0xa3, 0x96, 0x17, 0x7a, 0x9c, 0xb4, 0x10, 0xff, 0x61, 0xf2, 0x00, 0x15,
        0xad] := by
  decide +kernel

/-- The HMAC of a key, which is hashed first if it is longer than a block. -/
def mac (key data : List UInt8) : List UInt8 :=
  let short := if 64 < key.length then digest key else key
  let block := short ++ List.replicate (64 - short.length) 0
  digest (block.map (· ^^^ 0x5c) ++ digest (block.map (· ^^^ 0x36) ++ data))

theorem mac_length (key data : List UInt8) : (mac key data).length = 32 := rfl

end TopInspect.Sha256
