/-! # SHA-256

* `Sha256.padded` — a message filled up to whole blocks
* `Sha256.compress` — one block taken into the state
* `sha256` — the digest of a message
* `hexDigits` — a byte string in hexadecimal digits
-/

set_option autoImplicit false

namespace DocAtlas

namespace Sha256

/-- The additive constants of the 64 rounds. -/
def roundConstants : List UInt32 :=
  [0x428a2f98, 0x71374491, 0xb5c0fbcf, 0xe9b5dba5, 0x3956c25b, 0x59f111f1, 0x923f82a4, 0xab1c5ed5,
   0xd807aa98, 0x12835b01, 0x243185be, 0x550c7dc3, 0x72be5d74, 0x80deb1fe, 0x9bdc06a7, 0xc19bf174,
   0xe49b69c1, 0xefbe4786, 0x0fc19dc6, 0x240ca1cc, 0x2de92c6f, 0x4a7484aa, 0x5cb0a9dc, 0x76f988da,
   0x983e5152, 0xa831c66d, 0xb00327c8, 0xbf597fc7, 0xc6e00bf3, 0xd5a79147, 0x06ca6351, 0x14292967,
   0x27b70a85, 0x2e1b2138, 0x4d2c6dfc, 0x53380d13, 0x650a7354, 0x766a0abb, 0x81c2c92e, 0x92722c85,
   0xa2bfe8a1, 0xa81a664b, 0xc24b8b70, 0xc76c51a3, 0xd192e819, 0xd6990624, 0xf40e3585, 0x106aa070,
   0x19a4c116, 0x1e376c08, 0x2748774c, 0x34b0bcb5, 0x391c0cb3, 0x4ed8aa4a, 0x5b9cca4f, 0x682e6ff3,
   0x748f82ee, 0x78a5636f, 0x84c87814, 0x8cc70208, 0x90befffa, 0xa4506ceb, 0xbef9a3f7, 0xc67178f2]

/-- The eight words a digest is gathered in. -/
structure State where
  a : UInt32
  b : UInt32
  c : UInt32
  d : UInt32
  e : UInt32
  f : UInt32
  g : UInt32
  h : UInt32

def State.initial : State :=
  ⟨0x6a09e667, 0xbb67ae85, 0x3c6ef372, 0xa54ff53a, 0x510e527f, 0x9b05688c, 0x1f83d9ab, 0x5be0cd19⟩

def State.add (s t : State) : State :=
  ⟨s.a + t.a, s.b + t.b, s.c + t.c, s.d + t.d, s.e + t.e, s.f + t.f, s.g + t.g, s.h + t.h⟩

def State.words (s : State) : List UInt32 := [s.a, s.b, s.c, s.d, s.e, s.f, s.g, s.h]

def rotate (x n : UInt32) : UInt32 := (x >>> n) ||| (x <<< (32 - n))

/-- The bytes of a number, most significant first. -/
def bigEndian : (width n : Nat) → List UInt8
  | 0, _ => []
  | width + 1, n => bigEndian width (n / 256) ++ [UInt8.ofNat (n % 256)]

def wordOf (bytes : List UInt8) : UInt32 :=
  bytes.foldl (fun word b => (word <<< 8) ||| b.toUInt32) 0

/-- The list cut into pieces of `size` elements, `count` of them. -/
def chunks {α : Type} (size : Nat) : (count : Nat) → List α → List (List α)
  | 0, _ => []
  | count + 1, xs => xs.take size :: chunks size count (xs.drop size)

/-- The message, a one bit, zero bits up to 8 bytes before the end of a block, and the length of the
message in bits. -/
def padded (message : List UInt8) : List UInt8 :=
  let zeros := (119 - message.length % 64) % 64
  message ++ [0x80] ++ List.replicate zeros 0 ++ bigEndian 8 (message.length * 8)

/-- `n` more words of the schedule. The words so far come last first. -/
def extendSchedule : Nat → List UInt32 → List UInt32
  | 0, words => words
  | n + 1, words =>
    let word := fun i => words.getD i 0
    let s0 := rotate (word 14) 7 ^^^ rotate (word 14) 18 ^^^ (word 14 >>> 3)
    let s1 := rotate (word 1) 17 ^^^ rotate (word 1) 19 ^^^ (word 1 >>> 10)
    extendSchedule n ((word 15 + s0 + word 6 + s1) :: words)

/-- The 64 words of the schedule of a block. -/
def schedule (block : List UInt8) : List UInt32 :=
  (extendSchedule 48 ((chunks 4 16 block).map wordOf).reverse).reverse

/-- One round with the sum of its constant and its word of the schedule. -/
def round (s : State) (k : UInt32) : State :=
  let s1 := rotate s.e 6 ^^^ rotate s.e 11 ^^^ rotate s.e 25
  let choice := (s.e &&& s.f) ^^^ ((~~~ s.e) &&& s.g)
  let t1 := s.h + s1 + choice + k
  let s0 := rotate s.a 2 ^^^ rotate s.a 13 ^^^ rotate s.a 22
  let majority := (s.a &&& s.b) ^^^ (s.a &&& s.c) ^^^ (s.b &&& s.c)
  ⟨t1 + (s0 + majority), s.a, s.b, s.c, s.d + t1, s.e, s.f, s.g⟩

/-- The state after one more block. -/
def compress (s : State) (block : List UInt8) : State :=
  s.add ((List.zipWith (· + ·) roundConstants (schedule block)).foldl round s)

end Sha256

/-- The digest of a message. -/
def sha256 (message : List UInt8) : List UInt8 :=
  let bytes := Sha256.padded message
  let final := (Sha256.chunks 64 (bytes.length / 64) bytes).foldl Sha256.compress .initial
  final.words.flatMap fun word => Sha256.bigEndian 4 word.toNat

/-- A byte string in lowercase hexadecimal digits. -/
def hexDigits (bytes : List UInt8) : String :=
  String.ofList (bytes.flatMap fun b => [Nat.digitChar (b.toNat / 16), Nat.digitChar (b.toNat % 16)])

end DocAtlas
