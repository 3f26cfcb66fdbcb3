import P4Control.Switch.Agent
import Mathlib.Algebra.Group.Nat.Defs

namespace P4Control

/-!
# Claims of mastership, in any order

The agent makes the highest election id that it has seen the master.  The ids are numbers of 128 bits,
and the comparison of their halves is that of the numbers.

* `compare_digits` — to compare numbers is to compare their digits.
* `Uint128.number` — the number on the wire, `Uint128.compare_eq` — how it is compared.
* `Agent.arbitrateAll` — claims, one after the other, and how each is acknowledged.
* `Agent.highest` — the highest of some election ids.
* `number_master_arbitrateAll` — the master has the highest id, `master_arbitrateAll_perm` — in any order.
* `arbitrateAll_getElem?` — what each claimant is told.
-/

/-! ### Election ids as numbers -/

/-- Of two numbers in one base, all digits but the last are compared first. -/
theorem compare_digits {base d e : Nat} (hd : d < base) (he : e < base) (m n : Nat) :
    Ord.compare (m * base + d) (n * base + e) = (Ord.compare m n).then (Ord.compare d e) := by
  cases h : Ord.compare m n with
  | lt =>
    have hle : (m + 1) * base ≤ n * base := Nat.mul_le_mul_right base (Nat.compare_eq_lt.mp h)
    rw [Nat.add_one_mul] at hle
    rw [Ordering.lt_then, Nat.compare_eq_lt]
    omega
  | eq =>
    obtain rfl := Nat.compare_eq_eq.mp h
    rw [Ordering.eq_then, Nat.compare_eq_ite_lt, Nat.compare_eq_ite_lt]
    simp only [Nat.add_lt_add_iff_left]
  | gt =>
    have hle : (n + 1) * base ≤ m * base := Nat.mul_le_mul_right base (Nat.compare_eq_gt.mp h)
    rw [Nat.add_one_mul] at hle
    rw [Ordering.gt_then, Nat.compare_eq_gt]
    omega

theorem compare_toNat (a b : UInt64) : Ord.compare a b = Ord.compare a.toNat b.toNat := by
  show compareOfLessAndEq a b = compareOfLessAndEq a.toNat b.toNat
  simp only [compareOfLessAndEq, UInt64.lt_iff_toNat_lt, UInt64.toNat_inj]

theorem ElectionId.toNat_toBits (id : ElectionId) :
    id.toBits.toNat = id.high.toNat * 2 ^ 64 + id.low.toNat := by
  have hh := id.high.toNat_lt
  have hl := id.low.toNat_lt
  have hfits : id.high.toNat <<< 64 < 2 ^ 128 := by
    rw [Nat.shiftLeft_eq]
    omega
  have hhigh : (id.high.toBitVec.setWidth 128 <<< 64).toNat = id.high.toNat <<< 64 := by
    rw [BitVec.toNat_shiftLeft, BitVec.toNat_setWidth, UInt64.toNat_toBitVec,
      Nat.mod_eq_of_lt (show id.high.toNat < 2 ^ 128 by omega), Nat.mod_eq_of_lt hfits]
  have hlow : (id.low.toBitVec.setWidth 128).toNat = id.low.toNat := by
    rw [BitVec.toNat_setWidth, UInt64.toNat_toBitVec, Nat.mod_eq_of_lt (by omega)]
  rw [toBits, BitVec.toNat_or, hhigh, hlow, ← Nat.shiftLeft_add_eq_or_of_lt hl, Nat.shiftLeft_eq]

namespace Uint128

/-- The number that is carried on the wire. -/
def number (n : Uint128) : Nat := (ElectionId.ofWire n).toBits.toNat

theorem number_eq (n : Uint128) : n.number = n.high.toNat * 2 ^ 64 + n.low.toNat :=
  ElectionId.toNat_toBits _

theorem number_inj {a b : Uint128} (h : a.number = b.number) : a = b := by
  rw [number_eq, number_eq] at h
  have ha := a.low.toNat_lt
  have hb := b.low.toNat_lt
  obtain ⟨high, low⟩ := a
  obtain ⟨high', low'⟩ := b
  dsimp only at h ha hb
  obtain rfl : high = high' := UInt64.toNat_inj.mp (by omega)
  obtain rfl : low = low' := UInt64.toNat_inj.mp (by omega)
  rfl

theorem number_inj? {a b : Option Uint128} : a.map number = b.map number ↔ a = b := by
  constructor
  · intro h
    cases a <;> cases b
    · rfl
    · cases h
    · cases h
    · rw [number_inj (Option.some.inj h)]
  · rintro rfl
    rfl

/-- The halves are the digits of the number in the base `2 ^ 64`. -/
theorem compare_eq (a b : Uint128) : a.compare b = Ord.compare a.number b.number := by
  rw [number_eq, number_eq, compare_digits a.low.toNat_lt b.low.toNat_lt, compare, compare_toNat,
    compare_toNat]

/-- To compare the high halves and then the low ones is to compare the numbers. -/
theorem lt_iff (a b : Uint128) : a.lt b = true ↔ a.number < b.number := by
  rw [lt, beq_iff_eq, compare_eq, Nat.compare_eq_lt]

end Uint128

namespace Agent

/-! ### The master -/

/-- The highest of some election ids, as a number. -/
def highest (ids : List (Option Uint128)) : Option Nat :=
  ((ids.filterMap fun id => id).map Uint128.number).max?

theorem highest_singleton (a : Option Uint128) : highest [a] = a.map Uint128.number := by
  cases a <;> rfl

/-- The order of the ids makes no difference. -/
theorem highest_perm {ids ids' : List (Option Uint128)} (h : ids.Perm ids') :
    highest ids = highest ids' := by
  have hp := (h.filterMap fun id => id).map Uint128.number
  unfold highest
  ext n
  simp only [List.max?_eq_some_iff, hp.mem_iff]

/-- A claim makes the higher one of two ids the master. -/
theorem highest_elect (master claimed : Option Uint128) (rest : List (Option Uint128)) :
    highest (elect master claimed :: rest) = highest (master :: claimed :: rest) := by
  cases master with
  | none => cases claimed <;> rfl
  | some m =>
    cases claimed with
    | none => rfl
    | some c =>
      have hmax : ∀ w : Uint128, highest (some w :: rest) =
          some (((rest.filterMap fun id => id).map Uint128.number).foldl max w.number) := fun _ =>
        List.max?_cons'
      have hboth : highest (some m :: some c :: rest) =
          some (((rest.filterMap fun id => id).map Uint128.number).foldl max
            (max m.number c.number)) := List.max?_cons'
      rw [elect, hboth]
      by_cases hlt : m.lt c = true
      · rw [if_pos hlt, hmax, Nat.max_eq_right (Nat.le_of_lt ((m.lt_iff c).mp hlt))]
      · rw [if_neg hlt, hmax, Nat.max_eq_left (Nat.le_of_not_lt fun h => hlt ((m.lt_iff c).mpr h))]

/-- The claimant becomes the master if its id is not lower than that of the master before. -/
theorem elect_eq_claimed_iff (master : Option Uint128) (claimed : Uint128) :
    elect master (some claimed) = some claimed ↔ ∀ m, master = some m → m.number ≤ claimed.number := by
  cases master with
  | none => simp [elect]
  | some m =>
    simp only [elect, Option.some.injEq, forall_eq']
    split
    · next hlt => simpa using Nat.le_of_lt ((m.lt_iff claimed).mp hlt)
    · next hlt =>
      rw [Uint128.lt_iff] at hlt
      constructor
      · rintro ⟨⟩
        exact Nat.le_refl _
      · intro hle
        rw [Uint128.number_inj (Nat.le_antisymm hle (Nat.le_of_not_lt hlt))]

/-! ### Claims, one after the other -/

/-- Takes in claims, one after the other: the agent afterwards, and the acknowledgement of each. -/
def arbitrateAll (a : Agent) : List ArbitrationUpdate → Agent × List (Option ArbitrationUpdate)
  | [] => (a, [])
  | claim :: rest =>
    let (b, ack) := a.arbitrate claim
    let (c, acks) := b.arbitrateAll rest
    (c, ack :: acks)

variable (a : Agent)

theorem arbitrateAll_append (claims claims' : List ArbitrationUpdate) :
    a.arbitrateAll (claims ++ claims') =
      (((a.arbitrateAll claims).1.arbitrateAll claims').1,
       (a.arbitrateAll claims).2 ++ ((a.arbitrateAll claims).1.arbitrateAll claims').2) := by
  induction claims generalizing a with
  | nil => rfl
  | cons claim rest ih => simp only [List.cons_append, arbitrateAll, ih]

theorem length_arbitrateAll (claims : List ArbitrationUpdate) :
    (a.arbitrateAll claims).2.length = claims.length := by
  induction claims generalizing a with
  | nil => rfl
  | cons claim rest ih => simp only [arbitrateAll, List.length_cons, ih]

theorem acknowledges_arbitrateAll (claims : List ArbitrationUpdate) :
    (a.arbitrateAll claims).1.acknowledges = a.acknowledges := by
  induction claims generalizing a with
  | nil => rfl
  | cons claim rest ih => exact ih _

/-- The master after claims has the highest of all their ids and of its own before. -/
theorem number_master_arbitrateAll (claims : List ArbitrationUpdate) :
    (a.arbitrateAll claims).1.master.map Uint128.number =
      highest (a.master :: claims.map (·.election)) := by
  induction claims generalizing a with
  | nil => exact (highest_singleton a.master).symm
  | cons claim rest ih =>
    show ((a.arbitrate claim).1.arbitrateAll rest).1.master.map _ = _
    rw [ih]
    exact highest_elect a.master claim.election _

/-- Whatever the order of the claims, the master is the same. -/
theorem master_arbitrateAll_perm {claims claims' : List ArbitrationUpdate}
    (h : claims.Perm claims') :
    (a.arbitrateAll claims').1.master = (a.arbitrateAll claims).1.master := by
  rw [← Uint128.number_inj?, number_master_arbitrateAll, number_master_arbitrateAll]
  exact highest_perm ((h.symm.map _).cons _)

/-- Nothing but the master before counts. -/
theorem master_arbitrateAll_congr {a b : Agent} (h : b.master = a.master)
    (claims : List ArbitrationUpdate) :
    (b.arbitrateAll claims).1.master = (a.arbitrateAll claims).1.master := by
  rw [← Uint128.number_inj?, number_master_arbitrateAll, number_master_arbitrateAll, h]

/-- Each claimant is told the master so far and whether it is the one, if claims are acknowledged. -/
theorem arbitrateAll_getElem? {claims : List ArbitrationUpdate} {k : Nat} (hk : k < claims.length) :
    (a.arbitrateAll claims).2[k]? =
      some ((a.arbitrateAll (claims.take k)).1.arbitrate claims[k]).2 := by
  have hsplit : claims = claims.take k ++ claims[k] :: claims.drop (k + 1) := by
    rw [← List.drop_eq_getElem_cons hk, List.take_append_drop]
  have hlen : (a.arbitrateAll (claims.take k)).2.length = k := by
    rw [length_arbitrateAll, List.length_take, Nat.min_eq_left (Nat.le_of_lt hk)]
  have hall := a.arbitrateAll_append (claims.take k) (claims[k] :: claims.drop (k + 1))
  rw [← hsplit] at hall
  rw [hall]
  dsimp only
  rw [List.getElem?_append_right (Nat.le_of_eq hlen), hlen, Nat.sub_self]
  rfl

/-- The acknowledgement of the claim at position `k` names its device and the highest id so far, and
reports success if that is the one claimed. -/
theorem acknowledgement_arbitrateAll (ha : a.acknowledges = true) {claims : List ArbitrationUpdate}
    {k : Nat} (hk : k < claims.length) :
    ∃ ack, (a.arbitrateAll claims).2[k]? = some (some ack) ∧ ack.device = claims[k].device ∧
      ack.election.map Uint128.number =
        highest (a.master :: (claims.take (k + 1)).map (·.election)) ∧
      (ack.status.map Status.isOk = some true ↔ claims[k].election.map Uint128.number =
        highest (a.master :: (claims.take (k + 1)).map (·.election))) := by
  have hmaster := a.number_master_arbitrateAll (claims.take (k + 1))
  have hacks := (a.acknowledges_arbitrateAll (claims.take k)).trans ha
  rw [List.take_succ_eq_append_getElem hk, arbitrateAll_append] at hmaster
  rw [a.arbitrateAll_getElem? hk, List.take_succ_eq_append_getElem hk, ← hmaster]
  generalize (a.arbitrateAll (claims.take k)).1 = b at hacks
  generalize claims[k] = claim
  -- the master so far is the one that the agent elects at this claim
  show ∃ ack, some (b.arbitrate claim).2 = some (some ack) ∧ ack.device = claim.device ∧
    ack.election.map Uint128.number = (elect b.master claim.election).map Uint128.number ∧
      (ack.status.map Status.isOk = some true ↔
        claim.election.map Uint128.number = (elect b.master claim.election).map Uint128.number)
  simp only [arbitrate, if_pos hacks, Option.some.injEq, exists_eq_left', Uint128.number_inj?, true_and,
    Option.map_some]
  by_cases he : elect b.master claim.election = claim.election
  · simp [he, Status.success, Status.isOk]
  · simp [he, Ne.symm he, Status.isOk]

end Agent

end P4Control
