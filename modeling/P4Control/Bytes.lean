namespace P4Control

/-!
# Byte strings

Payloads, keys and configuration blobs are opaque to the client: it compares and
forwards them.  This file fixes their representation and the big-endian reading of
64-bit words.

* `Bytes` — a byte string.
* `Bytes.ofUInt64` / `Bytes.toUInt64` — a 64-bit word, most significant byte first.
-/

/-- A byte string. -/
abbrev Bytes := List UInt8

namespace Bytes

/-- The eight bytes of a 64-bit word, most significant first. -/
def ofUInt64 (w : UInt64) : Bytes :=
  ([56, 48, 40, 32, 24, 16, 8, 0] : List UInt64).map fun shift => (w >>> shift).toUInt8

/-- The word whose big-endian bytes are given; of more than eight bytes the last eight count. -/
def toUInt64 (bytes : Bytes) : UInt64 :=
  bytes.foldl (fun acc b => (acc <<< 8) ||| b.toUInt64) 0

end Bytes

end P4Control
