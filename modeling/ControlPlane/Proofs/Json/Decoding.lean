import ControlPlane.Json.Encoding
import ControlPlane.Proofs.Json.Values

/-!
# Decoders and the forms that they read back

A decoder reads a form back if it gives the value from everything that shows the form, where enough lists and objects may be
nested (`Decoder.Reads`). There is one law for each way to build a decoder. The one for records goes through their fields in the
order in which a structure writes them (`Record.Fills`). What is read back from a form is read back from its text
(`Decoder.Reads.run`).
-/

namespace ControlPlane.Json

variable {α β σ : Type}

/-- Whether a decoder gives a value from everything that shows a form, where at least so many lists and objects may be nested.
The numbers in the form are whole ones of 64 bits. -/
structure Decoder.Reads (d : Decoder α) (need : Nat) (v : Json) (a : α) : Prop where
  exact : v.IsExact
  reads : ∀ depth r, need ≤ depth → r.Shows v → d depth r = .ok a

namespace Decoder

variable {d : Decoder α} {need : Nat} {v : Json} {a : α}

/-- What is read back is read back where more may be nested. -/
theorem Reads.mono (h : d.Reads need v a) {more : Nat} (hle : need ≤ more) : d.Reads more v a :=
  ⟨h.exact, fun depth r hd => h.reads depth r (Nat.le_trans hle hd)⟩

/-- What is made of a value that is read back is read back. -/
theorem Reads.map (h : d.Reads need v a) (f : α → β) : Reads (fun depth r => (d depth r).map f) need v (f a) :=
  ⟨h.exact, fun depth r hd hr => by rw [h.reads depth r hd hr]; rfl⟩

/-- What is read back from a form is read back from its text. -/
theorem Reads.run (h : d.Reads need v a) (hn : need ≤ greatestDepth) : d.run (Text.octets v.compact) = .ok a := by
  obtain ⟨r, h1, h2⟩ := Reading.ofOctets_compact h.exact
  have h3 := h.reads greatestDepth r hn h2
  simp only [Decoder.run, h1, h3, Option.getD_some]
  rfl

/-! ## Plain values -/

/-- A text is read back. -/
theorem text_reads (s : String) (need : Nat) : text.Reads need (.text s) s where
  exact := trivial
  reads _ _ _ h := by
    cases h
    rfl

/-- A truth value is read back. -/
theorem bool_reads (b : Bool) (need : Nat) : bool.Reads need (.bool b) b where
  exact := trivial
  reads _ _ _ h := by
    cases h
    rfl

/-- A whole number in its range is read back. -/
theorem integer_reads (expected : String) {low high n : Int} (h1 : low ≤ n) (h2 : n ≤ high) (hn : Numeral.IsExact n)
    (need : Nat) : (integer expected low high).Reads need (.integer n) n where
  exact := hn
  reads _ _ _ h := by
    cases h
    simp only [integer, h1, h2, and_self, if_true]

/-- A word of 32 bits is read back. -/
theorem word32_reads (n : UInt32) (need : Nat) : word32.Reads need (.ofWord32 n) n := by
  have hlt := n.toNat_lt
  have hi : (integer "u32" 0 0xffffffff).Reads need (.ofWord32 n) n.toNat :=
    integer_reads "u32" (by omega) (by omega) ⟨by omega, by omega⟩ need
  refine ⟨hi.exact, fun depth r hd hr => ?_⟩
  rw [word32, hi.reads depth r hd hr]
  exact congrArg Except.ok UInt32.ofNat_toNat

/-- A word of 64 bits is read back. -/
theorem word64_reads (n : UInt64) (need : Nat) : word64.Reads need (.ofWord64 n) n := by
  have hlt := n.toNat_lt
  have hi : (integer "u64" 0 0xffffffffffffffff).Reads need (.ofWord64 n) n.toNat :=
    integer_reads "u64" (by omega) (by omega) ⟨by omega, by omega⟩ need
  refine ⟨hi.exact, fun depth r hd hr => ?_⟩
  rw [word64, hi.reads depth r hd hr]
  exact congrArg Except.ok UInt64.ofNat_toNat

/-- A signed number of 64 bits is read back. -/
theorem int64_reads (n : Int64) (need : Nat) : int64.Reads need (.ofInt64 n) n := by
  have hlow := n.le_toInt
  have hhigh := n.toInt_lt
  have hi : (integer "i64" (-0x8000000000000000) 0x7fffffffffffffff).Reads need (.ofInt64 n) n.toInt :=
    integer_reads "i64" (by omega) (by omega) ⟨by omega, by omega⟩ need
  refine ⟨hi.exact, fun depth r hd hr => ?_⟩
  rw [int64, hi.reads depth r hd hr]
  exact congrArg Except.ok n.ofInt_toInt

/-! ## Values that may be missing, lists and choices -/

/-- A value that may be missing is read back, where the form of one that is there is not that of one that is missing. -/
theorem optional_reads {f : α → Json} (hf : ∀ a, f a ≠ .null) (o : Option α) (h : ∀ a ∈ o, d.Reads need (f a) a) :
    d.optional.Reads need (.ofOption f o) o := by
  cases o with
  | none =>
    refine ⟨trivial, fun depth r hd hr => ?_⟩
    cases hr
    rfl
  | some a =>
    have ha := h a rfl
    refine ⟨ha.exact, fun depth r hd hr => ?_⟩
    have hread := ha.reads depth r hd hr
    rw [Json.ofOption] at hr
    generalize hv : f a = v at hr
    cases hr with
    | null => exact absurd hv (hf a)
    | _ => simp only [Decoder.optional, hread, Functor.map, Except.map]

/-- The items of a list are read back. -/
theorem items_read {f : α → Json} {as : List α} (h : ∀ a ∈ as, d.Reads need (f a) a) {depth : Nat} (hd : need ≤ depth)
    {is : Items} (hs : is.Show (as.map f)) : items d depth is = .ok as := by
  induction as generalizing is with
  | nil =>
    cases hs
    rfl
  | cons a as ih =>
    cases hs with
    | cons hr hs =>
      have ha := (h a List.mem_cons_self).reads depth _ hd hr
      have has := ih (fun b hb => h b (List.mem_cons_of_mem a hb)) hs
      simp only [items, ha, has]
      rfl

theorem areExact_map {f : α → Json} {as : List α} (h : ∀ a ∈ as, (f a).IsExact) : AreExact (as.map f) := by
  induction as with
  | nil => trivial
  | cons a as ih => exact ⟨h a List.mem_cons_self, ih fun b hb => h b (List.mem_cons_of_mem a hb)⟩

/-- A list is read back. -/
theorem list_reads {f : α → Json} (as : List α) (h : ∀ a ∈ as, d.Reads need (f a) a) :
    d.list.Reads (need + 1) (.ofList f as) as where
  exact := areExact_map fun a ha => (h a ha).exact
  reads depth r hd hr := by
    obtain ⟨m, rfl⟩ : ∃ m, depth = m + 1 := ⟨depth - 1, by omega⟩
    cases hr with
    | list hs => exact items_read h (by omega) hs

/-- The name of a choice that has no value of its own is read back. -/
theorem choice_reads {variants : List (String × Variant α)} {s : String} (h : variants.lookup s = some (.plain a)) (need : Nat) :
    (choice variants).Reads need (.text s) a where
  exact := trivial
  reads depth _ _ hr := by
    cases hr
    simp only [choice, variant, h]
    rfl

/-! ## Any value -/

/-- Any text is read back as the value that it is. -/
theorem any_text_reads (s : String) (need : Nat) : Reads any need (.text s) (.text s) where
  exact := trivial
  reads _ _ _ h := by
    cases h
    rw [any]

/-- So is any whole number. -/
theorem any_integer_reads {n : Int} (hn : Numeral.IsExact n) (need : Nat) : Reads any need (.integer n) (.integer n) where
  exact := hn
  reads _ _ _ h := by
    cases h
    rw [any]
    rfl

/-- Members are read one after another, each put in its place among those before it. -/
theorem anyMembers_read {ms : List (String × Json)} (h : ∀ m ∈ ms, Reads any need m.2 m.2) {depth : Nat} (hd : need ≤ depth)
    {members : Members} (hs : members.Show ms) (others : List (String × Json)) :
    anyMembers depth members others = .ok (ms.foldl (fun others m => insertMember m.1 m.2 others) others) := by
  induction ms generalizing members others with
  | nil =>
    cases hs
    rw [anyMembers, List.foldl_nil]
  | cons m ms ih =>
    cases hs with
    | cons hr hs =>
      have hm := (h _ List.mem_cons_self).reads depth _ hd hr
      have hms := ih (fun b hb => h b (List.mem_cons_of_mem _ hb)) hs
      rw [anyMembers, List.foldl_cons, ← hms, hm]
      rfl

theorem haveExact_of_reads {ms : List (String × Json)} (h : ∀ m ∈ ms, Reads any need m.2 m.2) : HaveExact ms := by
  induction ms with
  | nil => trivial
  | cons m ms ih => exact ⟨(h m List.mem_cons_self).exact, ih fun b hb => h b (List.mem_cons_of_mem m hb)⟩

/-- An object is read back with its members in the order of their names. -/
theorem any_object_reads {ms : List (String × Json)} (h : ∀ m ∈ ms, Reads any need m.2 m.2) :
    Reads any (need + 1) (.object ms) (.object (ms.foldl (fun others m => insertMember m.1 m.2 others) [])) where
  exact := haveExact_of_reads h
  reads depth r hd hr := by
    obtain ⟨m, rfl⟩ : ∃ m, depth = m + 1 := ⟨depth - 1, by omega⟩
    cases hr with
    | object hs =>
      rw [any, anyMembers_read h (by omega) hs]
      rfl

end Decoder

/-! ## Records -/

namespace Record

@[simp] theorem names_of (a : α) : (of a).names = [] := rfl

@[simp] theorem names_required (r : Record σ (α → β)) (name : String) (d : Decoder α) :
    (r.required name d).names = r.names ++ [name] := rfl

@[simp] theorem names_optional (r : Record σ (Option α → β)) (name : String) (d : Decoder α) :
    (r.optional name d).names = r.names ++ [name] := rfl

@[simp] theorem names_defaulted (r : Record σ (α → β)) (name : String) (d : Decoder α) (absent : α) :
    (r.defaulted name d absent).names = r.names ++ [name] := rfl

/-- Whether members fill the slots of a record, one after the other. -/
inductive Reaches (r : Record σ α) (need : Nat) : σ → List (String × Json) → σ → Prop
  | nil (s : σ) : Reaches r need s [] s
  | cons {key : String} {v : Json} {ms : List (String × Json)} {s t u : σ} {fill : Decoder σ} :
      r.put key s = some fill → fill.Reads need v t → Reaches r need t ms u → Reaches r need s ((key, v) :: ms) u

namespace Reaches

variable {r : Record σ α} {need : Nat} {s t u : σ} {ms ns : List (String × Json)}

/-- Members that are seen fill the slots. -/
theorem fill (h : r.Reaches need s ms t) (othersAllowed : Bool) {depth : Nat} (hd : need ≤ depth) {members : Members}
    (hs : members.Show ms) : r.fill othersAllowed depth members s = .ok t := by
  induction h generalizing members with
  | nil s =>
    cases hs
    rfl
  | cons hput hv _ ih =>
    cases hs with
    | cons hr hs =>
      have ht := hv.reads depth _ hd hr
      have hrest := ih hs
      simp only [Record.fill, Decoder.text, bind, Except.bind, hput, ht]
      exact hrest

theorem haveExact (h : r.Reaches need s ms t) : HaveExact ms := by
  induction h with
  | nil => trivial
  | cons _ hv _ ih => exact ⟨hv.exact, ih⟩

theorem append (h : r.Reaches need s ms t) (h' : r.Reaches need t ns u) : r.Reaches need s (ms ++ ns) u := by
  induction h with
  | nil => exact h'
  | cons hput hv _ ih => exact .cons hput hv (ih h')

/-- The slot of another field changes nothing for the members before it. -/
theorem field {r : Record σ (α → β)} (h : r.Reaches need s ms t) (name : String) (d : Decoder α) (absent x : Option α) :
    (r.field name d absent).Reaches need (s, x) ms (t, x) := by
  induction h with
  | nil s => exact .nil (s, x)
  | @cons key v ms s t u f hput hv _ ih =>
    have hput' : (r.field name d absent).put key (s, x) = some fun depth v => (·, x) <$> f depth v := by
      simp only [Record.field, hput]
    refine .cons hput' ⟨hv.exact, fun depth reading hd hr => ?_⟩ ih
    simp only [hv.reads depth reading hd hr, Functor.map, Except.map]

end Reaches

/-- Whether members give a structure: they fill the slots of its record, which puts nothing under other names than its own. -/
structure Fills (r : Record σ α) (need : Nat) (ms : List (String × Json)) (a : α) : Prop where
  unknown : ∀ key slots, key ∉ r.names → r.put key slots = none
  filled : ∃ slots, r.Reaches need r.blank ms slots ∧ r.close slots = .ok a

namespace Fills

variable {need : Nat} {ms : List (String × Json)} {d : Decoder α} {a : α} {v : Json}

/-- No members give a structure without fields. -/
theorem of (a : α) (need : Nat) : (Record.of a).Fills need [] a where
  unknown _ _ _ := rfl
  filled := ⟨(), .nil (), rfl⟩

/-- A member gives one more field. -/
theorem field {r : Record σ (α → β)} {f : α → β} (h : r.Fills need ms f) (name : String) (hname : name ∉ r.names)
    (hv : d.Reads need v a) (absent : Option α) : (r.field name d absent).Fills need (ms ++ [(name, v)]) (f a) where
  unknown key slots hkey := by
    have h1 : key ∉ r.names := fun hk => hkey (List.mem_append_left _ hk)
    have hne : key ≠ name := fun he => hkey (List.mem_append_right _ (List.mem_singleton.mpr he))
    simp only [Record.field, h.unknown key slots.1 h1, hne, if_false]
  filled := by
    obtain ⟨slots, hslots, hclose⟩ := h.filled
    have hput : (r.field name d absent).put name (slots, none) =
        some fun depth v => (fun a => (slots, some a)) <$> d depth v := by
      simp only [Record.field, h.unknown name slots hname, if_true]
    refine ⟨(slots, some a), (hslots.field name d absent none).append (.cons hput ⟨hv.exact, fun depth r hd hr => ?_⟩ (.nil _)),
      ?_⟩
    · simp only [hv.reads depth r hd hr, Functor.map, Except.map]
    · simp only [Record.field, hclose]
      rfl

/-- A member gives a field that must be there. -/
theorem required {r : Record σ (α → β)} {f : α → β} (h : r.Fills need ms f) (name : String) (hname : name ∉ r.names)
    (hv : d.Reads need v a) : (r.required name d).Fills need (ms ++ [(name, v)]) (f a) :=
  h.field name hname hv none

/-- A member gives a field that may be absent or null. -/
theorem optional {r : Record σ (Option α → β)} {f : Option α → β} (h : r.Fills need ms f) (name : String)
    (hname : name ∉ r.names) {o : Option α} (hv : d.optional.Reads need v o) :
    (r.optional name d).Fills need (ms ++ [(name, v)]) (f o) :=
  h.field name hname hv (some none)

/-- A member gives a field that has a value where it is absent. -/
theorem defaulted {r : Record σ (α → β)} {f : α → β} (h : r.Fills need ms f) (name : String) (hname : name ∉ r.names)
    (hv : d.Reads need v a) (absent : α) : (r.defaulted name d absent).Fills need (ms ++ [(name, v)]) (f a) :=
  h.field name hname hv (some absent)

/-- A structure is read back from its members. -/
theorem decoder {r : Record σ α} (h : r.Fills need ms a) (name : String) : (r.decoder name).Reads (need + 1) (.object ms) a := by
  obtain ⟨slots, hslots, hclose⟩ := h.filled
  refine ⟨hslots.haveExact, fun depth reading hd hr => ?_⟩
  obtain ⟨m, rfl⟩ : ∃ m, depth = m + 1 := ⟨depth - 1, by omega⟩
  cases hr with
  | object hs =>
    have hfill := hslots.fill true (show need ≤ m by omega) hs
    simp only [Record.decoder, Record.decoderNamed, Decoder.nested, hfill, bind, Except.bind]
    exact hclose

end Fills

end Record

end ControlPlane.Json
