import P4Control.Digest.Sha256
import P4Control.Pipeconf

namespace P4Control

/-!
# Pipeline cookies

A program is pushed together with a cookie that identifies it, so that a later client can
tell by the cookie alone whether the switch runs the program it wants.
-/

/-- The cookie of a program pushed with `deviceData`: the first eight bytes, as a big-endian word,
of the SHA-256 hash of the fingerprint (eight bytes, big-endian) followed by the data. -/
def pipelineCookie (p : Pipeconf) (deviceData : Bytes) : UInt64 :=
  Bytes.toUInt64 ((Sha256.digest (Bytes.ofUInt64 p.fingerprint ++ deviceData)).take 8)

end P4Control
