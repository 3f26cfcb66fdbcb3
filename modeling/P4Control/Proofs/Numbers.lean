import P4Control.Proofs.Bids
import P4Control.Session.Mastership

namespace P4Control

/-!
# Election ids are the numbers of 128 bits

An election id is compared in three places: by the client with the id that it has sent, by the agent with
the id of the master, and by whoever reads it in decimal digits.  All of them compare the number that it is.

* `ElectionId.getLsbD_toBits` — each bit of the number is a bit of one half.
* `ofBits_toBits`, `toBits_ofBits` — ids and numbers are the same things.
* `ElectionId.compare_eq` — ids are compared as numbers.
* `IsNumeral` — the decimal digits of a number, `IsNumeral.compare_eq` — how they are compared.
* `ElectionId.ids_are_numbers` — the client, the agent and the reader agree.
-/

namespace ElectionId

/-! ### The halves of a number -/

/-- The low half has the first 64 bits of the number, and the high half those after them. -/
theorem getLsbD_toBits (id : ElectionId) (i : Nat) :
    id.toBits.getLsbD i =
      if i < 64 then id.low.toBitVec.getLsbD i else id.high.toBitVec.getLsbD (i - 64) := by
  rw [toBits, BitVec.getLsbD_or, BitVec.getLsbD_shiftLeft, BitVec.getLsbD_setWidth,
    BitVec.getLsbD_setWidth]
  split
  · next hi => simp [hi, show i < 128 by omega]
  · next hi =>
    -- the low half has no bit here, and neither half has one past the width of the number
    rw [BitVec.getLsbD_of_ge id.low.toBitVec i (Nat.le_of_not_lt hi)]
    by_cases hwidth : i < 128
    · simp [hi, hwidth, show i - 64 < 128 by omega]
    · simp [hi, hwidth, show 64 ≤ i - 64 by omega]

theorem toBits_ofBits (n : BitVec 128) : (ofBits n).toBits = n := by
  apply BitVec.eq_of_getLsbD_eq
  intro i hi
  rw [getLsbD_toBits]
  split
  · next hlow => simp [ofBits, hlow]
  · next hhigh => simp [ofBits, show i - 64 < 64 by omega, show 64 + (i - 64) = i by omega]

theorem ofBits_toBits (id : ElectionId) : ofBits id.toBits = id := by
  have hhigh : (id.toBits >>> 64).setWidth 64 = id.high.toBitVec := by
    apply BitVec.eq_of_getLsbD_eq
    intro i hi
    simp [getLsbD_toBits, hi]
  have hlow : id.toBits.setWidth 64 = id.low.toBitVec := by
    apply BitVec.eq_of_getLsbD_eq
    intro i hi
    simp [getLsbD_toBits, hi]
  rw [ofBits, hhigh, hlow]

theorem toBits_inj {a b : ElectionId} : a.toBits = b.toBits ↔ a = b := by
  constructor
  · intro h
    rw [← ofBits_toBits a, h, ofBits_toBits]
  · rintro rfl
    rfl

/-! ### The order -/

/-- To compare the halves of two ids is to compare the numbers. -/
theorem compare_eq (a b : ElectionId) : a.compare b = Ord.compare a.toBits.toNat b.toBits.toNat :=
  a.toWire.compare_eq b.toWire

end ElectionId

/-- A client takes itself for the master when the number acknowledged is the one that it has sent. -/
theorem Arbiter.verdict_eq_master_iff (sent acknowledged : ElectionId) :
    Arbiter.verdict (some sent) (some acknowledged.toWire) = .master ↔
      sent.toBits.toNat = acknowledged.toBits.toNat := by
  rw [BitVec.toNat_inj, ElectionId.toBits_inj]
  show (if sent = acknowledged then MastershipState.master else .notMaster) = .master ↔ _
  split
  · next h => exact iff_of_true rfl h
  · next h => exact iff_of_false nofun h

/-- Of two ids an agent keeps the one with the higher number. -/
theorem Agent.elect_toWire (a b : ElectionId) :
    Agent.elect (some a.toWire) (some b.toWire) =
      some (if a.toBits.toNat < b.toBits.toNat then b else a).toWire := by
  have hlt : a.toWire.lt b.toWire = true ↔ a.toBits.toNat < b.toBits.toNat := a.toWire.lt_iff b.toWire
  rw [elect, apply_ite ElectionId.toWire, apply_ite some]
  simp only [hlt]

/-! ### Decimal digits -/

/-- The digits are those of the number in decimal notation, and none of them is superfluous. -/
structure IsNumeral (digits : List Char) (n : Nat) : Prop where
  nonempty : digits ≠ []
  digit : ∀ c ∈ digits, c.isDigit = true
  value : Nat.ofDigitChars 10 digits 0 = n
  shortest : ∀ size, 0 < size → (digits.length ≤ size ↔ n < 10 ^ size)

/-- Compares numerals by their looks: a longer one comes later, and of equally long ones the first
difference decides. -/
def compareNumerals (s t : List Char) : Ordering :=
  (Ord.compare s.length t.length).then (Ord.compare s t)

/-- The digits are in the order of their values. -/
theorem compare_digitValue {c d : Char} (hc : c.isDigit = true) (hd : d.isDigit = true) :
    Ord.compare (c.toNat - 48) (d.toNat - 48) = Ord.compare c d := by
  have hc : 48 ≤ c.toNat ∧ c.toNat ≤ 57 := Char.isDigit_iff_toNat.mp hc
  have hd : 48 ≤ d.toNat ∧ d.toNat ≤ 57 := Char.isDigit_iff_toNat.mp hd
  have hlt : c.toNat - 48 < d.toNat - 48 ↔ c < d := by
    rw [Char.lt_def, UInt32.lt_iff_toNat_lt]
    show _ ↔ c.toNat < d.toNat
    omega
  have heq : c.toNat - 48 = d.toNat - 48 ↔ c = d := by
    rw [← Char.toNat_inj]
    omega
  show compareOfLessAndEq _ _ = compareOfLessAndEq c d
  simp only [compareOfLessAndEq, hlt, heq]

/-- Equally many more digits leave the order of two numbers as it is, and decide only between equal ones. -/
theorem compare_ofDigitChars {s t : List Char} (hlen : s.length = t.length)
    (hs : ∀ c ∈ s, c.isDigit = true) (ht : ∀ c ∈ t, c.isDigit = true) (m n : Nat) :
    Ord.compare (Nat.ofDigitChars 10 s m) (Nat.ofDigitChars 10 t n) =
      (Ord.compare m n).then (Ord.compare s t) := by
  induction s generalizing t m n with
  | nil =>
    cases t with
    | nil => simp
    | cons d t => cases hlen
  | cons c s ih =>
    cases t with
    | nil => cases hlen
    | cons d t =>
      simp only [List.mem_cons, forall_eq_or_imp] at hs ht
      have hc : c.toNat - '0'.toNat < 10 := Nat.lt_succ_of_le
        (Nat.sub_le_sub_right (Char.isDigit_iff_toNat.mp hs.1).2 '0'.toNat)
      have hd : d.toNat - '0'.toNat < 10 := Nat.lt_succ_of_le
        (Nat.sub_le_sub_right (Char.isDigit_iff_toNat.mp ht.1).2 '0'.toNat)
      have hfirst : Ord.compare (c.toNat - '0'.toNat) (d.toNat - '0'.toNat) = Ord.compare c d :=
        compare_digitValue hs.1 ht.1
      rw [Nat.ofDigitChars_cons, Nat.ofDigitChars_cons, ih (Nat.succ.inj hlen) hs.2 ht.2,
        Nat.mul_comm 10 m, Nat.mul_comm 10 n, compare_digits hc hd, hfirst, Ordering.then_assoc,
        List.compare_cons_cons]

/-- A number below another one has fewer digits, or the first difference shows it. -/
theorem IsNumeral.compare_eq {s t : List Char} {m n : Nat} (hs : IsNumeral s m) (ht : IsNumeral t n) :
    compareNumerals s t = Ord.compare m n := by
  have hs₀ := List.length_pos_iff.mpr hs.nonempty
  have ht₀ := List.length_pos_iff.mpr ht.nonempty
  unfold compareNumerals
  cases h : Ord.compare s.length t.length with
  | lt =>
    have hm : m < 10 ^ s.length := (hs.shortest _ hs₀).mp (Nat.le_refl _)
    have hn : ¬ n < 10 ^ s.length :=
      mt (ht.shortest _ hs₀).mpr (Nat.not_le_of_lt (Nat.compare_eq_lt.mp h))
    rw [Ordering.lt_then, eq_comm, Nat.compare_eq_lt]
    omega
  | eq =>
    rw [Ordering.eq_then, ← hs.value, ← ht.value,
      compare_ofDigitChars (Nat.compare_eq_eq.mp h) hs.digit ht.digit]
    rfl
  | gt =>
    have hn : n < 10 ^ t.length := (ht.shortest _ ht₀).mp (Nat.le_refl _)
    have hm : ¬ m < 10 ^ t.length :=
      mt (hs.shortest _ ht₀).mpr (Nat.not_le_of_lt (Nat.compare_eq_gt.mp h))
    rw [Ordering.gt_then, eq_comm, Nat.compare_eq_gt]
    omega

namespace ElectionId

theorem isNumeral_text (id : ElectionId) : IsNumeral id.text.toList id.toBits.toNat := by
  have htext : id.text.toList = Nat.toDigits 10 id.toBits.toNat := Nat.toList_repr
  rw [htext]
  exact {
    nonempty := Nat.toDigits_ne_nil
    digit := fun _ hc => Nat.isDigit_of_mem_toDigits (by decide) (by decide) hc
    value := Nat.ofDigitChars_ten_toDigits
    shortest := fun _ hsize => Nat.length_toDigits_le_iff (by decide) hsize }

/-! ### One order -/

/-- Election ids are the numbers of 128 bits: each bit of the number is in one half and in one place, and
nothing else is.  Ids, and ids on the wire, are in the order of their numbers; the client takes itself for the
master, and the agent elects one, by that number; and a text shows it in decimal digits, whose order is the
same. -/
theorem ids_are_numbers :
    ((∀ id : ElectionId, ofBits id.toBits = id) ∧ ∀ n : BitVec 128, (ofBits n).toBits = n) ∧
    (∀ (id : ElectionId) (i : Nat), id.toBits.getLsbD i =
      if i < 64 then id.low.toBitVec.getLsbD i else id.high.toBitVec.getLsbD (i - 64)) ∧
    (∀ a b : ElectionId, a.compare b = Ord.compare a.toBits.toNat b.toBits.toNat) ∧
    ((∀ id : ElectionId, ofWire id.toWire = id) ∧ ∀ w : Uint128, (ofWire w).toWire = w) ∧
    ((∀ a b : ElectionId, a.toWire.compare b.toWire = a.compare b) ∧
      ∀ v w : Uint128, (ofWire v).compare (ofWire w) = v.compare w) ∧
    (∀ sent acknowledged : ElectionId,
      Arbiter.verdict (some sent) (some acknowledged.toWire) = .master ↔
        sent.toBits.toNat = acknowledged.toBits.toNat) ∧
    (∀ a b : ElectionId, Agent.elect (some a.toWire) (some b.toWire) =
      some (if a.toBits.toNat < b.toBits.toNat then b else a).toWire) ∧
    (∀ id : ElectionId, IsNumeral id.text.toList id.toBits.toNat) ∧
    (∀ a b : ElectionId, compareNumerals a.text.toList b.text.toList = a.compare b) := by
  refine ⟨⟨ofBits_toBits, toBits_ofBits⟩, getLsbD_toBits, compare_eq, ⟨fun _ => rfl, fun _ => rfl⟩,
    ⟨fun _ _ => rfl, fun _ _ => rfl⟩, Arbiter.verdict_eq_master_iff, Agent.elect_toWire, isNumeral_text,
    fun a b => ?_⟩
  rw [a.isNumeral_text.compare_eq b.isNumeral_text, compare_eq]

-- The highest number of the low half comes just before the lowest one of the high half.
example : (⟨0, 18446744073709551615⟩ : ElectionId).compare ⟨1, 0⟩ = .lt ∧
    (⟨1, 0⟩ : ElectionId).text = "18446744073709551616" := by decide

end ElectionId

end P4Control
