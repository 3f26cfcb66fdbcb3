import P4Control.Bytes

namespace P4Control.Sha256

/-!
# SHA-256

The secure hash of a byte string: the message is padded to blocks of 64 bytes, each
block is expanded into 64 schedule words, and 64 rounds mix them into eight chaining
words.  All arithmetic is on 32-bit words and wraps.

* `pad` — the message followed by a one bit, zeros and its length in bits.
* `schedule` — the words of one block.
* `compress` — one block mixed into the chaining state.
* `digest` — the 32 bytes of the hash.
-/

/-- The chaining words before the first block: fractional parts of square roots of primes. -/
def initial : List UInt32 :=
  [0x6a09e667, 0xbb67ae85, 0x3c6ef372, 0xa54ff53a, 0x510e527f, 0x9b05688c, 0x1f83d9ab, 0x5be0cd19]

/-- The round constants: fractional parts of cube roots of the first 64 primes. -/
def roundConstants : List UInt32 :=
  [0x428a2f98, 0x71374491, 0xb5c0fbcf, 0xe9b5dba5, 0x3956c25b, 0x59f111f1, 0x923f82a4, 0xab1c5ed5,
   0xd807aa98, 0x12835b01, 0x243185be, 0x550c7dc3, 0x72be5d74, 0x80deb1fe, 0x9bdc06a7, 0xc19bf174,
   0xe49b69c1, 0xefbe4786, 0x0fc19dc6, 0x240ca1cc, 0x2de92c6f, 0x4a7484aa, 0x5cb0a9dc, 0x76f988da,
   0x983e5152, 0xa831c66d, 0xb00327c8, 0xbf597fc7, 0xc6e00bf3, 0xd5a79147, 0x06ca6351, 0x14292967,
   0x27b70a85, 0x2e1b2138, 0x4d2c6dfc, 0x53380d13, 0x650a7354, 0x766a0abb, 0x81c2c92e, 0x92722c85,
   0xa2bfe8a1, 0xa81a664b, 0xc24b8b70, 0xc76c51a3, 0xd192e819, 0xd6990624, 0xf40e3585, 0x106aa070,
   0x19a4c116, 0x1e376c08, 0x2748774c, 0x34b0bcb5, 0x391c0cb3, 0x4ed8aa4a, 0x5b9cca4f, 0x682e6ff3,
   0x748f82ee, 0x78a5636f, 0x84c87814, 0x8cc70208, 0x90befffa, 0xa4506ceb, 0xbef9a3f7, 0xc67178f2]

/-- A word turned right by `n` bits, for `0 < n < 32`. -/
def rotateRight (w n : UInt32) : UInt32 := (w >>> n) ||| (w <<< (32 - n))

/-- The message, a one bit, zeros up to eight bytes short of a block, and the length in bits. -/
def pad (message : Bytes) : Bytes :=
  let filled := (message.length + 9) % 64
  let zeros := if filled = 0 then 0 else 64 - filled
  message ++ 0x80 :: List.replicate zeros 0 ++ Bytes.ofUInt64 (UInt64.ofNat (8 * message.length))

/-- The big-endian 32-bit words of a byte string; an incomplete last word is left out. -/
def words : Bytes → List UInt32
  | a :: b :: c :: d :: rest =>
    ((a.toUInt32 <<< 24) ||| (b.toUInt32 <<< 16) ||| (c.toUInt32 <<< 8) ||| d.toUInt32) :: words rest
  | _ => []

/-- The four bytes of a word, most significant first. -/
def wordBytes (w : UInt32) : Bytes :=
  [(w >>> 24).toUInt8, (w >>> 16).toUInt8, (w >>> 8).toUInt8, w.toUInt8]

/-- The next schedule word, from the sixteen before it, latest first. -/
def nextWord (latest : List UInt32) : UInt32 :=
  let word := fun i => latest.getD i 0
  let s0 := rotateRight (word 14) 7 ^^^ rotateRight (word 14) 18 ^^^ (word 14 >>> 3)
  let s1 := rotateRight (word 1) 17 ^^^ rotateRight (word 1) 19 ^^^ (word 1 >>> 10)
  word 15 + s0 + word 6 + s1

/-- Adds `n` schedule words in front of those made so far, latest first. -/
def extend : Nat → List UInt32 → List UInt32
  | 0, latest => latest
  | n + 1, latest => extend n (nextWord latest :: latest)

/-- The 64 schedule words of a block of sixteen words. -/
def schedule (block : List UInt32) : List UInt32 := (extend 48 block.reverse).reverse

/-- The eight working words of a round. -/
structure Working where
  a : UInt32
  b : UInt32
  c : UInt32
  d : UInt32
  e : UInt32
  f : UInt32
  g : UInt32
  h : UInt32

/-- One round with its constant and schedule word. -/
def round (v : Working) (kw : UInt32 × UInt32) : Working :=
  let s1 := rotateRight v.e 6 ^^^ rotateRight v.e 11 ^^^ rotateRight v.e 25
  let ch := (v.e &&& v.f) ^^^ (~~~v.e &&& v.g)
  let t1 := v.h + s1 + ch + kw.1 + kw.2
  let s0 := rotateRight v.a 2 ^^^ rotateRight v.a 13 ^^^ rotateRight v.a 22
  let maj := (v.a &&& v.b) ^^^ (v.a &&& v.c) ^^^ (v.b &&& v.c)
  ⟨t1 + (s0 + maj), v.a, v.b, v.c, v.d + t1, v.e, v.f, v.g⟩

/-- Mixes one block of sixteen words into the chaining words. -/
def compress (state block : List UInt32) : List UInt32 :=
  let word := fun i => state.getD i 0
  let start : Working := ⟨word 0, word 1, word 2, word 3, word 4, word 5, word 6, word 7⟩
  let v := (roundConstants.zip (schedule block)).foldl round start
  List.zipWith (· + ·) state [v.a, v.b, v.c, v.d, v.e, v.f, v.g, v.h]

/-- Mixes `n` blocks of sixteen words in turn. -/
def compressBlocks : (n : Nat) → (state message : List UInt32) → List UInt32
  | 0, state, _ => state
  | n + 1, state, message => compressBlocks n (compress state (message.take 16)) (message.drop 16)

/-- The hash of a message, 32 bytes. -/
def digest (message : Bytes) : Bytes :=
  let padded := words (pad message)
  (compressBlocks (padded.length / 16) initial padded).flatMap wordBytes

end P4Control.Sha256
