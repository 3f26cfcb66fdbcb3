import P4Control.Cookie
import Mathlib.Algebra.Group.Nat.Defs
import Mathlib.Data.List.Induction

namespace P4Control

/-!
# What a cookie tells

A cookie is cut from the hash of the fingerprint of a program followed by its device data.  It tells
programs with their data apart as far as the first eight bytes of the hash do: nothing is lost where they
are read as a word, nor where fingerprint and data are written one after the other, since the fingerprint
always takes eight bytes.

* `Bytes.toUInt64_inj`, `Bytes.ofUInt64_inj` — words and their bytes determine each other.
* `Sha256.length_digest` — there are always enough bytes to cut the cookie from.
* `hashed`, `hashed_inj` — what is hashed for a program, and that it determines what it has been made of.
* `Sha256.Collide` — the first eight bytes of the hashes of two messages do not tell them apart.
* `cookie_eq_iff` — the cookie tells what a comparison of everything tells.
-/

/-! ### Words and bytes -/

namespace Bytes

/-- One more byte is shifted in from the right. -/
theorem toUInt64_concat (bytes : Bytes) (b : UInt8) :
    toUInt64 (bytes ++ [b]) = (toUInt64 bytes <<< 8) ||| b.toUInt64 := by
  simp [toUInt64]

/-- Up to eight bytes are read without loss, the last one as the lowest digit. -/
theorem toNat_toUInt64_concat {bytes : Bytes} (hl : bytes.length < 8)
    (h : (toUInt64 bytes).toNat < 256 ^ bytes.length) (b : UInt8) :
    (toUInt64 (bytes ++ [b])).toNat = 256 * (toUInt64 bytes).toNat + b.toNat := by
  have hb : b.toNat < 2 ^ 8 := b.toNat_lt
  have hp : 256 ^ bytes.length ≤ 256 ^ 7 := Nat.pow_le_pow_right (by decide) (by omega)
  have hshift : (toUInt64 bytes <<< 8).toNat = (toUInt64 bytes).toNat <<< 8 := by
    rw [UInt64.toNat_shiftLeft]
    refine Nat.mod_eq_of_lt ?_
    rw [show (8 : UInt64).toNat % 64 = 8 from rfl, Nat.shiftLeft_eq]
    omega
  rw [toUInt64_concat, UInt64.toNat_or, hshift, UInt8.toNat_toUInt64,
    ← Nat.shiftLeft_add_eq_or_of_lt hb, Nat.shiftLeft_eq]
  omega

/-- A word that is made of bytes is as small as their number allows. -/
theorem toNat_toUInt64_lt {bytes : Bytes} (hl : bytes.length ≤ 8) :
    (toUInt64 bytes).toNat < 256 ^ bytes.length := by
  induction bytes using List.reverseRecOn with
  | nil => decide
  | append_singleton bytes b ih =>
    rw [List.length_append, List.length_singleton] at hl ⊢
    have hlt := ih (by omega)
    have hb : b.toNat < 256 := b.toNat_lt
    rw [toNat_toUInt64_concat (by omega) hlt, Nat.pow_succ]
    omega

/-- Up to eight bytes are determined by the word they are read as, and their number. -/
theorem toUInt64_inj {bytes bytes' : Bytes} (hl : bytes.length ≤ 8)
    (hlen : bytes'.length = bytes.length) (h : toUInt64 bytes = toUInt64 bytes') :
    bytes = bytes' := by
  -- by induction from the end, where the lowest digit is
  induction bytes using List.reverseRecOn generalizing bytes' with
  | nil => exact (List.length_eq_zero_iff.mp hlen).symm
  | append_singleton bytes b ih =>
    rw [List.length_append, List.length_singleton] at hl hlen
    cases bytes' using List.reverseRecOn with
    | nil => cases hlen
    | append_singleton bytes' b' =>
      rw [List.length_append, List.length_singleton] at hlen
      have hn := congrArg UInt64.toNat h
      rw [toNat_toUInt64_concat (by omega) (toNat_toUInt64_lt (by omega)),
        toNat_toUInt64_concat (by omega) (toNat_toUInt64_lt (by omega))] at hn
      have hb : b.toNat < 256 := b.toNat_lt
      have hb' : b'.toNat < 256 := b'.toNat_lt
      have hw : toUInt64 bytes = toUInt64 bytes' := UInt64.toNat_inj.mp (by omega)
      have hlast : b = b' := UInt8.toNat_inj.mp (by omega)
      rw [ih (by omega) (by omega) hw, hlast]

/-- A word has eight bytes. -/
theorem length_ofUInt64 (w : UInt64) : (ofUInt64 w).length = 8 := rfl

/-- A digit and what stands before it determine the number up to this digit. -/
theorem div_eq_of_digit {n n' : Nat} (m : Nat) (hn : n / (m * 256) = n' / (m * 256))
    (hd : n / m % 256 = n' / m % 256) : n / m = n' / m := by
  rw [← Nat.div_div_eq_div_mul, ← Nat.div_div_eq_div_mul] at hn
  omega

/-- The bytes of a word are its digits, and determine it. -/
theorem ofUInt64_inj {w w' : UInt64} (h : ofUInt64 w = ofUInt64 w') : w = w' := by
  simp only [ofUInt64, List.map_cons, List.map_nil, List.cons.injEq, ← UInt8.toNat_inj,
    UInt64.toNat_toUInt8, UInt64.toNat_shiftRight, UInt64.reduceToNat, Nat.shiftRight_eq_div_pow,
    Nat.reduceMod, and_true] at h
  -- from the most significant byte on, what has been read so far is the same number
  obtain ⟨h₇, h₆, h₅, h₄, h₃, h₂, h₁, h₀⟩ := h
  have e₈ : w.toNat / 2 ^ 64 = w'.toNat / 2 ^ 64 := by
    rw [Nat.div_eq_of_lt w.toNat_lt, Nat.div_eq_of_lt w'.toNat_lt]
  have e₇ := div_eq_of_digit (2 ^ 56) e₈ h₇
  have e₆ := div_eq_of_digit (2 ^ 48) e₇ h₆
  have e₅ := div_eq_of_digit (2 ^ 40) e₆ h₅
  have e₄ := div_eq_of_digit (2 ^ 32) e₅ h₄
  have e₃ := div_eq_of_digit (2 ^ 24) e₄ h₃
  have e₂ := div_eq_of_digit (2 ^ 16) e₃ h₂
  have e₁ := div_eq_of_digit (2 ^ 8) e₂ h₁
  have e₀ := div_eq_of_digit (2 ^ 0) e₁ h₀
  rwa [Nat.pow_zero, Nat.div_one, Nat.div_one, UInt64.toNat_inj] at e₀

end Bytes

/-! ### The hash -/

namespace Sha256

/-- The compression of a block keeps the eight words of the state. -/
theorem length_compress {state block : List UInt32} (h : state.length = 8) :
    (compress state block).length = 8 := by
  simp [compress, h]

/-- So does the compression of any number of blocks. -/
theorem length_compressBlocks (n : Nat) {state : List UInt32} (h : state.length = 8)
    (message : List UInt32) : (compressBlocks n state message).length = 8 := by
  induction n generalizing state message with
  | zero => exact h
  | succ n ih => exact ih (length_compress h) _

/-- A word of the hash has four bytes. -/
theorem length_flatMap_wordBytes (words : List UInt32) :
    (words.flatMap wordBytes).length = 4 * words.length := by
  induction words with
  | nil => rfl
  | cons w rest ih =>
    have hw : (wordBytes w).length = 4 := rfl
    rw [List.flatMap_cons, List.length_append, List.length_cons, ih, hw]
    omega

/-- A digest has 32 bytes. -/
theorem length_digest (message : Bytes) : (digest message).length = 32 := by
  unfold digest
  dsimp only
  rw [length_flatMap_wordBytes, length_compressBlocks _ rfl]

/-- Two messages are different, but the first eight bytes of their hashes are the same. -/
def Collide (message message' : Bytes) : Prop :=
  message ≠ message' ∧ (digest message).take 8 = (digest message').take 8

end Sha256

/-! ### Cookies -/

/-- What is hashed for a program with its device data. -/
def hashed (p : Pipeconf) (deviceData : Bytes) : Bytes :=
  Bytes.ofUInt64 p.fingerprint ++ deviceData

/-- The fingerprint has a fixed width, and so it can be told where the device data begin. -/
theorem hashed_inj {p p' : Pipeconf} {deviceData deviceData' : Bytes}
    (h : hashed p deviceData = hashed p' deviceData') :
    p.fingerprint = p'.fingerprint ∧ deviceData = deviceData' := by
  have hl : (Bytes.ofUInt64 p.fingerprint).length = (Bytes.ofUInt64 p'.fingerprint).length :=
    (Bytes.length_ofUInt64 _).trans (Bytes.length_ofUInt64 _).symm
  obtain ⟨hf, hd⟩ := List.append_inj h hl
  exact ⟨Bytes.ofUInt64_inj hf, hd⟩

/-- A cookie has as many bits as there are in the bytes that it is made of. -/
theorem cookie_eq_cookie_iff {p p' : Pipeconf} {deviceData deviceData' : Bytes} :
    pipelineCookie p deviceData = pipelineCookie p' deviceData' ↔
      (Sha256.digest (hashed p deviceData)).take 8 =
        (Sha256.digest (hashed p' deviceData')).take 8 := by
  have hl : ∀ message, ((Sha256.digest message).take 8).length = 8 := fun message => by
    rw [List.length_take, Sha256.length_digest]
    rfl
  exact ⟨Bytes.toUInt64_inj (Nat.le_of_eq (hl _)) ((hl _).trans (hl _).symm), congrArg Bytes.toUInt64⟩

/-- If what is hashed does not collide, and two programs have the same fingerprint exactly if they have
the same description, then comparing cookies comes to comparing description and data. -/
theorem cookie_eq_iff {p p' : Pipeconf} {deviceData deviceData' : Bytes}
    (hc : ¬ Sha256.Collide (hashed p' deviceData') (hashed p deviceData))
    (hf : p'.fingerprint = p.fingerprint ↔ p'.p4info? = p.p4info?) :
    pipelineCookie p' deviceData' = pipelineCookie p deviceData ↔
      p'.p4info? = p.p4info? ∧ deviceData' = deviceData := by
  rw [cookie_eq_cookie_iff, ← hf]
  constructor
  · intro h
    exact hashed_inj (Decidable.of_not_not fun hne => hc ⟨hne, h⟩)
  · rintro ⟨hfp, rfl⟩
    rw [hashed, hashed, hfp]

end P4Control
