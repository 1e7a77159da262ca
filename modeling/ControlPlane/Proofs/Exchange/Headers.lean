import ControlPlane.Http.Message
import ControlPlane.Proofs.Text.Utf8

/-!
# What is read from headers

The value of a header has a text where each octet is a printable character of ASCII or a tab, and then it is the octets of that text
(`plainText?_eq_some_iff`).
-/

namespace ControlPlane.Http

/-- Whether a character is a printable one of ASCII, or a tab. -/
def IsPrintable (c : Char) : Prop := c = '\t' ∨ (0x20 ≤ c.toNat ∧ c.toNat < 0x7f)

instance : DecidablePred IsPrintable := fun c => inferInstanceAs (Decidable (c = '\t' ∨ (0x20 ≤ c.toNat ∧ c.toNat < 0x7f)))

theorem IsPrintable.ascii {c : Char} (h : IsPrintable c) : c.toNat < 0x80 := by
  rcases h with rfl | ⟨-, hlt⟩
  · decide
  · omega

/-- An octet is plain where it is that of a printable character. -/
theorem isPlain_iff (b : UInt8) : (b == 0x09 || (0x20 ≤ b && b < 0x7f)) = true ↔ IsPrintable (Char.ofNat b.toNat) := by
  have hb := b.toNat_lt
  have hchar : (Char.ofNat b.toNat).toNat = b.toNat := Text.toNat_ofNat (by omega)
  have htab : Char.ofNat b.toNat = '\t' ↔ b = 0x09 := by
    constructor
    · intro h
      rw [← UInt8.toNat_inj, ← hchar, h]
      rfl
    · rintro rfl
      rfl
  simp only [IsPrintable, htab, hchar, Bool.or_eq_true, beq_iff_eq, Bool.and_eq_true, decide_eq_true_eq, UInt8.le_iff_toNat_le,
    UInt8.lt_iff_toNat_lt]
  exact Iff.rfl

/-- A value has a text where it is the octets of one that is printable. -/
theorem plainText?_eq_some_iff {v : List UInt8} {t : String} :
    plainText? v = some t ↔ v = Text.octets t ∧ ∀ c ∈ t.toList, IsPrintable c := by
  rw [plainText?, Option.ite_none_right_eq_some, Option.some.injEq, List.all_eq_true]
  constructor
  · rintro ⟨hall, rfl⟩
    have hprintable : ∀ c ∈ v.map fun b => Char.ofNat b.toNat, IsPrintable c := by
      intro c hc
      obtain ⟨b, hb, rfl⟩ := List.mem_map.mp hc
      exact (isPlain_iff b).mp (hall b hb)
    refine ⟨?_, by rwa [String.toList_ofList]⟩
    rw [Text.octets_ofList, Text.encode_ascii fun c hc => (hprintable c hc).ascii, List.map_map]
    refine (List.map_id _).symm.trans (List.map_congr_left fun b _ => ?_)
    have hb := b.toNat_lt
    rw [Function.comp_apply, Text.toNat_ofNat (by omega), UInt8.ofNat_toNat]
    rfl
  · rintro ⟨rfl, hprintable⟩
    have hback : ∀ c ∈ t.toList, Char.ofNat (UInt8.ofNat c.toNat).toNat = c := by
      intro c hc
      have hlt := (hprintable c hc).ascii
      rw [UInt8.toNat_ofNat', Nat.mod_eq_of_lt (by omega), Char.ofNat_toNat]
    rw [Text.octets, Text.encode_ascii fun c hc => (hprintable c hc).ascii]
    constructor
    · intro b hb
      obtain ⟨c, hc, rfl⟩ := List.mem_map.mp hb
      exact (isPlain_iff _).mpr (by rw [hback c hc]; exact hprintable c hc)
    · rw [List.map_map]
      exact (congrArg String.ofList ((List.map_congr_left hback).trans (List.map_id _))).trans String.ofList_toList

/-- The text of a header is that of its value. -/
theorem Response.headerText?_eq_some_iff {r : Response} {name t : String} :
    r.headerText? name = some t ↔ r.header? name = some (Text.octets t) ∧ ∀ c ∈ t.toList, IsPrintable c := by
  rw [headerText?, Option.bind_eq_some_iff]
  constructor
  · rintro ⟨v, hv, ht⟩
    obtain ⟨rfl, hprintable⟩ := plainText?_eq_some_iff.mp ht
    exact ⟨hv, hprintable⟩
  · rintro ⟨hv, hprintable⟩
    exact ⟨_, hv, plainText?_eq_some_iff.mpr ⟨rfl, hprintable⟩⟩

end ControlPlane.Http
