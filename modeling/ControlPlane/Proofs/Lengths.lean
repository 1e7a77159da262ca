import ControlPlane.Duration
import ControlPlane.Proofs.Words

/-!
# Lengths of time in two words

A length of time is told in two words: its whole seconds, and the nanoseconds beyond them, of which there are less than make a second.
Nanoseconds that are doubled carry into the seconds. Where the seconds leave their word, the longest length of time takes the place of the
result, and the longest nanoseconds that of what is beyond the seconds. None of this shows in the number of nanoseconds
(`Parts.total_double`), and neither does a comparison that begins with the seconds (`Parts.total_shorter`).
-/

namespace ControlPlane.Duration

/-! ## Nanoseconds -/

theorem nanos_le_longest (d : Duration) : d.nanos ≤ longest.nanos := Nat.le_pred_of_lt d.nanos_lt

@[simp] theorem nanos_double (d : Duration) : d.double.nanos = min (2 * d.nanos) longest.nanos := rfl

@[simp] theorem nanos_shorter (a b : Duration) : (a.shorter b).nanos = min a.nanos b.nanos := by
  by_cases h : a.nanos ≤ b.nanos
  · rw [shorter, if_pos h, Nat.min_eq_left h]
  · rw [shorter, if_neg h, Nat.min_eq_right (Nat.le_of_not_le h)]

/-! ## Seconds and nanoseconds -/

theorem secs_lt (d : Duration) : d.secs < 0x10000000000000000 := by
  have := d.nanos_lt
  unfold secs perSecond
  omega

theorem subsecNanos_lt (d : Duration) : d.subsecNanos < 1000000000 := by
  unfold subsecNanos perSecond
  omega

/-- A length of time is its whole seconds and what is beyond them. -/
theorem secs_mul_add (d : Duration) : d.secs * 1000000000 + d.subsecNanos = d.nanos := by
  unfold secs subsecNanos perSecond
  omega

theorem toNat_secs (d : Duration) : (UInt64.ofNat d.secs).toNat = d.secs := by
  rw [UInt64.toNat_ofNat']
  exact Nat.mod_eq_of_lt d.secs_lt

theorem toNat_subsecNanos (d : Duration) : (UInt32.ofNat d.subsecNanos).toNat = d.subsecNanos := by
  rw [UInt32.toNat_ofNat']
  exact Nat.mod_eq_of_lt (Nat.lt_trans d.subsecNanos_lt (by decide))

/-- A length of time in two words: whole seconds, and the nanoseconds beyond them. -/
structure Parts where
  secs : UInt64
  nanos : UInt32
  nanos_lt : nanos.toNat < 1000000000
deriving DecidableEq

namespace Parts

/-- The number of nanoseconds that the words tell. -/
def total (p : Parts) : Nat := p.secs.toNat * 1000000000 + p.nanos.toNat

theorem total_lt (p : Parts) : p.total < 0x10000000000000000 * 1000000000 := by
  have hsecs := p.secs.toNat_lt
  have hnanos := p.nanos_lt
  unfold total
  omega

/-- The length of time that the words tell. -/
def toDuration (p : Parts) : Duration := ⟨p.total, p.total_lt⟩

/-- The words of the longest length of time. -/
def longest : Parts := ⟨0xffffffffffffffff, 999999999, by decide⟩

theorem total_longest : longest.total = Duration.longest.nanos := by decide

end Parts

/-- The words of a length of time. -/
def parts (d : Duration) : Parts where
  secs := UInt64.ofNat d.secs
  nanos := UInt32.ofNat d.subsecNanos
  nanos_lt := by rw [d.toNat_subsecNanos]; exact d.subsecNanos_lt

/-- A length of time is the one that its words tell. -/
theorem toDuration_parts (d : Duration) : d.parts.toDuration = d := by
  apply Duration.ext
  show (UInt64.ofNat d.secs).toNat * 1000000000 + (UInt32.ofNat d.subsecNanos).toNat = d.nanos
  rw [d.toNat_secs, d.toNat_subsecNanos, d.secs_mul_add]

/-- A length of time comes back from its parts. -/
theorem ofParts?_parts (d : Duration) : ofParts? (UInt64.ofNat d.secs) (UInt32.ofNat d.subsecNanos) = some d := by
  have hread : ofParts? d.parts.secs d.parts.nanos = some d.parts.toDuration := dif_pos d.parts.total_lt
  rwa [toDuration_parts] at hread

/-! ## Doubling with a carry -/

namespace Parts

/-- Twice the nanoseconds, before they carry. -/
def carried (p : Parts) : UInt64 := p.nanos.toUInt64 * 2

theorem toNat_carried (p : Parts) : p.carried.toNat = 2 * p.nanos.toNat := by
  have hnanos := p.nanos_lt
  rw [carried, UInt64.toNat_mul, UInt32.toNat_toUInt64]
  simp only [UInt64.reduceToNat]
  omega

theorem toNat_carried_mod (p : Parts) : (p.carried % 1000000000).toUInt32.toNat = 2 * p.nanos.toNat % 1000000000 := by
  rw [UInt64.toNat_toUInt32, UInt64.toNat_mod, toNat_carried]
  simp only [UInt64.reduceToNat]
  omega

theorem toNat_carried_div (p : Parts) : (p.carried / 1000000000).toNat = 2 * p.nanos.toNat / 1000000000 := by
  rw [UInt64.toNat_div, toNat_carried]
  rfl

/-- Twice as long, if the seconds fit into their word. -/
def double? (p : Parts) : Option Parts :=
  (Word.mul? p.secs.toBitVec 2).bind fun doubled =>
    (Word.add? doubled (p.carried / 1000000000).toBitVec).map fun secs =>
      ⟨.ofBitVec secs, (p.carried % 1000000000).toUInt32, by rw [toNat_carried_mod]; exact Nat.mod_lt _ (by decide)⟩

/-- Twice as long, or the longest length of time. -/
def double (p : Parts) : Parts := p.double?.getD longest

/-- The shorter of two: that of fewer seconds, or of the same and no more nanoseconds. -/
def shorter (p q : Parts) : Parts := if p.secs < q.secs ∨ p.secs = q.secs ∧ p.nanos ≤ q.nanos then p else q

/-- Where twice the seconds fit into their word, so do those that are carried, one at most: the word has room for it behind an even
number. -/
theorem double?_of_lt {p : Parts} (h : p.secs.toNat * 2 < 2 ^ 64) : ∃ q, p.double? = some q ∧ q.total = 2 * p.total := by
  have hnanos := p.nanos_lt
  have hproduct : p.secs.toBitVec.toNat * (2 : BitVec 64).toNat < 2 ^ 64 := h
  have hdoubled : (p.secs.toBitVec * 2).toNat = p.secs.toNat * 2 := by
    rw [BitVec.toNat_mul, Nat.mod_eq_of_lt hproduct]
    rfl
  have hcarried : (p.carried / 1000000000).toBitVec.toNat = 2 * p.nanos.toNat / 1000000000 := p.toNat_carried_div
  have hsum : (p.secs.toBitVec * 2).toNat + (p.carried / 1000000000).toBitVec.toNat < 2 ^ 64 := by
    rw [hdoubled, hcarried]
    omega
  refine ⟨_, by rw [double?, Word.mul?_eq_some hproduct, Option.bind_some, Word.add?_eq_some hsum, Option.map_some], ?_⟩
  have hsecs : (p.secs.toBitVec * 2 + (p.carried / 1000000000).toBitVec).toNat = p.secs.toNat * 2 + 2 * p.nanos.toNat / 1000000000 := by
    rw [BitVec.toNat_add, Nat.mod_eq_of_lt hsum, hdoubled, hcarried]
  unfold total
  rw [toNat_carried_mod, ← UInt64.toNat_toBitVec, hsecs]
  omega

/-- Twice as long is twice as many nanoseconds, up to those of the longest length of time. -/
theorem total_double (p : Parts) : p.double.total = min (2 * p.total) Duration.longest.nanos := by
  by_cases h : p.secs.toNat * 2 < 2 ^ 64
  · obtain ⟨q, hq, htotal⟩ := double?_of_lt h
    rw [double, hq, Option.getD_some, htotal]
    have hlt := q.total_lt
    rw [htotal] at hlt
    exact (Nat.min_eq_left (Nat.le_pred_of_lt hlt)).symm
  · have hnone : p.double? = none := by
      rw [double?, Word.mul?_eq_none (Nat.not_lt.mp h), Option.bind_none]
    rw [double, hnone, Option.getD_none, total_longest]
    refine (Nat.min_eq_right ?_).symm
    have hlongest : Duration.longest.nanos = 0x10000000000000000 * 1000000000 - 1 := rfl
    rw [hlongest]
    unfold total
    omega

/-- The shorter of two is the one of fewer nanoseconds. -/
theorem total_shorter (p q : Parts) : (p.shorter q).total = min p.total q.total := by
  have hp := p.nanos_lt
  have hq := q.nanos_lt
  have hsecs : p.secs < q.secs ∨ p.secs = q.secs ∧ p.nanos ≤ q.nanos ↔ p.total ≤ q.total := by
    rw [UInt64.lt_iff_toNat_lt, ← UInt64.toNat_inj, UInt32.le_iff_toNat_le]
    unfold total
    omega
  unfold shorter
  by_cases h : p.total ≤ q.total
  · rw [if_pos (hsecs.mpr h), Nat.min_eq_left h]
  · rw [if_neg (mt hsecs.mp h), Nat.min_eq_right (Nat.le_of_not_le h)]

/-- Doubling and comparing words is doubling and comparing the lengths of time that they tell. -/
theorem toDuration_double (p : Parts) : p.double.toDuration = p.toDuration.double := Duration.ext p.total_double

theorem toDuration_shorter (p q : Parts) : (p.shorter q).toDuration = p.toDuration.shorter q.toDuration :=
  Duration.ext ((p.total_shorter q).trans (nanos_shorter p.toDuration q.toDuration).symm)

end Parts

end ControlPlane.Duration
