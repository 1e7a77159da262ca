import ControlPlane.Decimal.Word
import Mathlib.Algebra.Group.Nat.Defs

/-!
# Numbers come back from their digits

A number that is written in decimal digits is read back, with zeros before it or without (`Decimal.ofDigits_padded`), and also
where it must fit a width (`Decimal.word32?_toString`). Where it must, a text is read as a number just if it writes one that fits
(`Decimal.below?_eq_some_iff`).
-/

namespace ControlPlane.Decimal

/-- The number of digits, as the library has it. -/
theorem ofDigits_eq (ds : List Char) : ofDigits ds = Nat.ofDigitChars 10 ds 0 := by
  rw [Nat.ofDigitChars_eq_foldl, ofDigits]
  congr 1
  funext n c
  rw [Nat.mul_comm]
  rfl

/-- Whether a character of a written number is a digit. -/
theorem isDigit_of_mem {n : Nat} {c : Char} (h : c ∈ Nat.toDigits 10 n) : c.isDigit = true :=
  Nat.isDigit_of_mem_toDigits (by decide) (by decide) h

/-- A number comes back from its digits. -/
theorem ofDigits_toDigits (n : Nat) : ofDigits (Nat.toDigits 10 n) = n := by
  rw [ofDigits_eq, Nat.ofDigitChars_ten_toDigits]

/-- Different numbers have different texts. -/
theorem toString_injective {m n : Nat} (h : toString m = toString n) : m = n := by
  have hlist := congrArg String.toList h
  rw [Nat.toString_eq_repr, Nat.toString_eq_repr, Nat.toList_repr, Nat.toList_repr] at hlist
  have hdigits := congrArg ofDigits hlist
  rwa [ofDigits_toDigits, ofDigits_toDigits] at hdigits

/-- Zeros before digits do not count. -/
theorem ofDigits_padded (k n : Nat) : ofDigits (List.replicate k '0' ++ Nat.toDigits 10 n) = n := by
  rw [ofDigits_eq, Nat.ofDigitChars_append, Nat.ofDigitChars_replicate_zero, Nat.mul_zero, Nat.ofDigitChars_ten_toDigits]

/-- A digit stands for less than ten. -/
theorem digit_lt {c : Char} (h : c.isDigit = true) : 48 ≤ c.toNat ∧ c.toNat - 48 < 10 := by
  have hd : '0' ≤ c ∧ c ≤ '9' := by simpa [Char.isDigit, Char.le_def] using h
  have h1 : '0'.toNat ≤ c.toNat := UInt32.le_iff_toNat_le.mp hd.1
  have h2 : c.toNat ≤ '9'.toNat := UInt32.le_iff_toNat_le.mp hd.2
  have h3 : '0'.toNat = 48 := rfl
  have h4 : '9'.toNat = 57 := rfl
  omega

/-- Digits stand for less than the power of ten of their number. -/
theorem ofDigits_lt {ds : List Char} (h : ∀ c ∈ ds, c.isDigit = true) : ofDigits ds < 10 ^ ds.length := by
  rw [ofDigits_eq]
  induction ds with
  | nil => exact Nat.one_pos
  | cons c ds ih =>
    have hc := (digit_lt (h c List.mem_cons_self)).2
    have hi := ih fun d hd => h d (List.mem_cons_of_mem c hd)
    rw [Nat.ofDigitChars_cons, Nat.ofDigitChars_eq_ofDigitChars_zero, List.length_cons, Nat.pow_succ]
    have h0 : '0'.toNat = 48 := rfl
    have hle := Nat.mul_le_mul_left (10 ^ ds.length) (show 10 * 0 + (c.toNat - '0'.toNat) ≤ 9 by omega)
    omega

/-- The first digit of a number is zero only where the number is. -/
theorem head_toDigits {n : Nat} {c : Char} {ds : List Char} (h : Nat.toDigits 10 n = c :: ds) (hn : n ≠ 0) : c ≠ '0' := by
  induction n using Nat.strongRecOn generalizing ds with
  | _ n ih =>
    rcases Nat.lt_or_ge n 10 with hlt | hge
    · rw [Nat.toDigits_of_lt_base hlt] at h
      obtain ⟨rfl, -⟩ := List.cons.inj h
      exact (by decide : ∀ n < 10, n ≠ 0 → Nat.digitChar n ≠ '0') n hlt hn
    · rw [Nat.toDigits_of_base_le (by decide) hge] at h
      cases hq : Nat.toDigits 10 (n / 10) with
      | nil => exact absurd hq Nat.toDigits_ne_nil
      | cons d es =>
        rw [hq, List.cons_append] at h
        obtain ⟨rfl, -⟩ := List.cons.inj h
        exact ih (n / 10) (by omega) hq (by omega)

/-- Whether a text writes a number: in one or more digits, which may have a plus sign before them. -/
def Writes (s : List Char) (n : Nat) : Prop :=
  ∃ digits, (s = digits ∨ s = '+' :: digits) ∧ digits ≠ [] ∧ (∀ c ∈ digits, c.isDigit = true) ∧ ofDigits digits = n

/-- A number is read where it is written and below the bound. -/
theorem below?_eq_some_iff {bound n : Nat} {s : List Char} : below? bound s = some n ↔ Writes s n ∧ n < bound := by
  have hread : ∀ digits : List Char,
      (if !digits.isEmpty && digits.all Char.isDigit && ofDigits digits < bound then some (ofDigits digits) else none) = some n ↔
        (digits ≠ [] ∧ (∀ c ∈ digits, c.isDigit = true) ∧ ofDigits digits = n) ∧ n < bound := by
    intro digits
    simp only [Bool.and_eq_true, Bool.not_eq_true', List.isEmpty_eq_false_iff, List.all_eq_true, decide_eq_true_eq,
      Option.ite_none_right_eq_some, Option.some.injEq]
    constructor
    · rintro ⟨⟨⟨hne, hdigits⟩, hlt⟩, rfl⟩
      exact ⟨⟨hne, hdigits, rfl⟩, hlt⟩
    · rintro ⟨⟨hne, hdigits, rfl⟩, hlt⟩
      exact ⟨⟨⟨hne, hdigits⟩, hlt⟩, rfl⟩
  unfold below?
  constructor
  · intro h
    split at h
    · next rest =>
      obtain ⟨hwritten, hlt⟩ := (hread rest).mp h
      exact ⟨⟨rest, Or.inr rfl, hwritten⟩, hlt⟩
    · obtain ⟨hwritten, hlt⟩ := (hread s).mp h
      exact ⟨⟨s, Or.inl rfl, hwritten⟩, hlt⟩
  · rintro ⟨⟨digits, hs, hwritten⟩, hlt⟩
    rcases hs with rfl | rfl
    · split
      -- A sign is no digit.
      · next rest => exact absurd (hwritten.2.1 '+' List.mem_cons_self) (by decide)
      · exact (hread s).mpr ⟨hwritten, hlt⟩
    · exact (hread digits).mpr ⟨hwritten, hlt⟩

/-- A number of 64 bits is read where it is written. -/
theorem word64?_eq_some_iff {t : String} {n : UInt64} : word64? t = some n ↔ Writes t.toList n.toNat := by
  rw [word64?, Option.map_eq_some_iff]
  constructor
  · rintro ⟨m, hm, rfl⟩
    obtain ⟨hwritten, hlt⟩ := below?_eq_some_iff.mp hm
    rwa [Nat.toUInt64_eq, UInt64.toNat_ofNat', Nat.mod_eq_of_lt hlt]
  · intro hwritten
    exact ⟨n.toNat, below?_eq_some_iff.mpr ⟨hwritten, n.toNat_lt⟩, UInt64.ofNat_toNat⟩

/-- A number below a bound comes back from its digits. -/
theorem below?_toDigits {bound n : Nat} (h : n < bound) : below? bound (Nat.toDigits 10 n) = some n :=
  below?_eq_some_iff.mpr ⟨⟨_, Or.inl rfl, Nat.toDigits_ne_nil, fun _ => isDigit_of_mem, ofDigits_toDigits n⟩, h⟩

/-- A number of 32 bits comes back from its text. -/
theorem word32?_toString (n : UInt32) : word32? (toString n.toNat) = some n := by
  rw [word32?, Nat.toString_eq_repr, Nat.toList_repr, below?_toDigits n.toNat_lt, Option.map_some]
  exact congrArg some UInt32.ofNat_toNat

end ControlPlane.Decimal
