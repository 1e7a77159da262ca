import Mathlib.Algebra.Group.Nat.Defs

/-!
# Numbers of fixed width

What is computed with numbers of a fixed width has a result where that fits into the width, and none otherwise. Where it has one, it is
that of the natural numbers.
-/

namespace ControlPlane

/-- A number that is made at least one. -/
theorem toNat_max_one (n : UInt32) : (max 1 n).toNat = max 1 n.toNat := by
  have hm : max 1 n = if 1 ≤ n then n else 1 := rfl
  rw [hm]
  split
  · next h =>
    have := UInt32.le_iff_toNat_le.mp h
    exact (Nat.max_eq_right this).symm
  · next h =>
    rw [UInt32.le_iff_toNat_le] at h
    exact (Nat.max_eq_left (Nat.le_of_not_le h)).symm

namespace Word

variable {w : Nat} {a b : BitVec w}

/-- The sum, if it fits. -/
def add? (a b : BitVec w) : Option (BitVec w) := if a.uaddOverflow b then none else some (a + b)

/-- The difference, if it is none below zero. -/
def sub? (a b : BitVec w) : Option (BitVec w) := if a.usubOverflow b then none else some (a - b)

/-- The product, if it fits. -/
def mul? (a b : BitVec w) : Option (BitVec w) := if a.umulOverflow b then none else some (a * b)

/-- The quotient rounded up, if it is none by zero. -/
def divCeil? (a b : BitVec w) : Option (BitVec w) :=
  if b = 0 then none else if a % b = 0 then some (a / b) else add? (a / b) 1

theorem add?_eq_some (h : a.toNat + b.toNat < 2 ^ w) : add? a b = some (a + b) := by
  have hno : ¬a.uaddOverflow b = true := by
    rw [BitVec.uaddOverflow, decide_eq_true_eq]
    exact Nat.not_le.mpr h
  exact if_neg hno

theorem sub?_eq_some (h : b.toNat ≤ a.toNat) : sub? a b = some (a - b) := by
  have hno : ¬a.usubOverflow b = true := by
    rw [BitVec.usubOverflow, decide_eq_true_eq]
    exact Nat.not_lt.mpr h
  exact if_neg hno

theorem mul?_eq_some (h : a.toNat * b.toNat < 2 ^ w) : mul? a b = some (a * b) := by
  have hno : ¬a.umulOverflow b = true := by
    rw [BitVec.umulOverflow, decide_eq_true_eq]
    exact Nat.not_le.mpr h
  exact if_neg hno

theorem mul?_eq_none (h : 2 ^ w ≤ a.toNat * b.toNat) : mul? a b = none := by
  have hoverflow : a.umulOverflow b = true := by
    rw [BitVec.umulOverflow, decide_eq_true_eq]
    exact h
  exact if_pos hoverflow

/-- The quotient rounded up is one more than the one rounded down, unless there is no remainder. -/
theorem add_sub_one_div (m : Nat) {n : Nat} (h : 0 < n) : (m + n - 1) / n = if m % n = 0 then m / n else m / n + 1 := by
  have hmod := Nat.mod_add_div m n
  have hremainder := Nat.mod_lt m h
  have hcomm : m / n * n = n * (m / n) := Nat.mul_comm _ _
  have hnext (q : Nat) : (q + 1) * n = q * n + n := Nat.succ_mul q n
  have hone := hnext (m / n)
  have htwo := hnext (m / n + 1)
  split
  · exact Nat.div_eq_of_lt_le (by omega) (by omega)
  · exact Nat.div_eq_of_lt_le (by omega) (by omega)

/-- A quotient that leaves a remainder can be rounded up, since it is not the greatest number. -/
theorem divCeil?_eq_some (h : 0 < b.toNat) :
    ∃ c, divCeil? a b = some c ∧ c.toNat = (a.toNat + b.toNat - 1) / b.toNat := by
  have hb : b ≠ 0 := fun hb => by simp [hb] at h
  have hexact : a % b = 0 ↔ a.toNat % b.toNat = 0 := by
    rw [← BitVec.toNat_inj, BitVec.toNat_umod]
    simp
  rw [add_sub_one_div a.toNat h, divCeil?, if_neg hb]
  by_cases hr : a.toNat % b.toNat = 0
  · exact ⟨a / b, if_pos (hexact.mpr hr), by rw [if_pos hr, BitVec.toNat_udiv]⟩
  · have hmod := Nat.mod_add_div a.toNat b.toNat
    have hle : a.toNat / b.toNat ≤ b.toNat * (a.toNat / b.toNat) := Nat.le_mul_of_pos_left _ h
    have ha := a.isLt
    have hwidth : 1 < 2 ^ w := by omega
    have hone : (1 : BitVec w).toNat = 1 := by simp [Nat.mod_eq_of_lt hwidth]
    have hfits : (a / b).toNat + (1 : BitVec w).toNat < 2 ^ w := by
      rw [BitVec.toNat_udiv, hone]
      omega
    refine ⟨a / b + 1, by rw [if_neg (mt hexact.mp hr), add?_eq_some hfits], ?_⟩
    rw [if_neg hr, BitVec.toNat_add, Nat.mod_eq_of_lt hfits, BitVec.toNat_udiv, hone]

end Word

end ControlPlane
