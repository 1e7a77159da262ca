import ControlPlane.Mutation.Encoding
import ControlPlane.Proofs.Json.Lines
import ControlPlane.Proofs.Json.Resources
import ControlPlane.Proofs.Lengths
import ControlPlane.Proofs.Text.Timestamps

/-!
# Everything that is exchanged comes back from its text

Entities, resources, reports on jobs, handles and changes are read back from the texts that they are written as, whether in one line
or in many. The main statement is `Json.Decoder.reads_what_is_written`.
-/

namespace ControlPlane

open Json (Decoder Record)

namespace Json

variable {α β σ : Type}

/-- Whether a value comes back from the texts that its form is written as. -/
def Decoder.Returns (d : Decoder α) (v : Json) (a : α) : Prop :=
  d.run (Text.octets v.compact) = .ok a ∧ d.run (Text.octets v.pretty) = .ok a

/-- What is read back from a form comes back from its texts. -/
theorem Decoder.Reads.returns {d : Decoder α} {need : Nat} {v : Json} {a : α} (h : d.Reads need v a) (hn : need ≤ greatestDepth) :
    d.Returns v a := by
  refine ⟨h.run hn, ?_⟩
  obtain ⟨r, h1, h2⟩ := Reading.ofOctets_pretty h.exact
  have h3 := h.reads greatestDepth r hn h2
  simp only [Decoder.run, h1, h3, Option.getD_some]
  rfl

namespace Decoder

variable {d : Decoder α} {need : Nat} {v : Json} {a : α}

/-- Nothing is read back. -/
theorem unit_reads (need : Nat) : unit.Reads need .null () where
  exact := trivial
  reads _ _ _ h := by
    cases h
    rfl

/-- A choice that has a value of its own is read back. -/
theorem choice_reads_holding {variants : List (String × Variant α)} {name : String}
    (h : variants.lookup name = some (.holding d)) (hd : d.Reads need v a) :
    (choice variants).Reads (need + 1) (.object [(name, v)]) a where
  exact := ⟨hd.exact, trivial⟩
  reads depth r hn hr := by
    obtain ⟨m, rfl⟩ : ∃ m, depth = m + 1 := ⟨depth - 1, by omega⟩
    cases hr with
    | object hs =>
      cases hs with
      | cons hv hs =>
        cases hs
        simp only [choice, nested, variant, h, hd.reads m _ (by omega) hv, closing, bind, Except.bind]
        rfl

end Decoder

namespace Record.Fills

variable {need : Nat} {ms : List (String × Json)} {a : α}

/-- A field that has a value where it is absent may be left out. -/
theorem absent {r : Record σ (α → β)} {f : α → β} (h : r.Fills need ms f) (name : String) (d : Decoder α) (absent : α) :
    (r.field name d (some absent)).Fills need ms (f absent) where
  unknown key slots hkey := by
    have h1 : key ∉ r.names := fun hk => hkey (List.mem_append_left _ hk)
    have hne : key ≠ name := fun he => hkey (List.mem_append_right _ (List.mem_singleton.mpr he))
    simp only [Record.field, h.unknown key slots.1 h1, hne, if_false]
  filled := by
    obtain ⟨slots, hslots, hclose⟩ := h.filled
    refine ⟨(slots, none), hslots.field name d (some absent) none, ?_⟩
    simp only [Record.field, hclose]
    rfl

/-- A structure is read back from its members, whether others are allowed or not. -/
theorem decoderNamed {r : Record σ α} (h : r.Fills need ms a) (expected whole : String) (othersAllowed : Bool) :
    (r.decoderNamed expected whole othersAllowed).Reads (need + 1) (.object ms) a := by
  obtain ⟨slots, hslots, hclose⟩ := h.filled
  refine ⟨hslots.haveExact, fun depth reading hd hr => ?_⟩
  obtain ⟨m, rfl⟩ : ∃ m, depth = m + 1 := ⟨depth - 1, by omega⟩
  cases hr with
  | object hs =>
    have hfill := hslots.fill othersAllowed (show need ≤ m by omega) hs
    simp only [Record.decoderNamed, Decoder.nested, hfill, bind, Except.bind]
    exact hclose

end Record.Fills

end Json

/-! ## Times -/

namespace Timestamp

/-- Whether a point in time can be read from some text. -/
def IsReadable (t : Timestamp) : Prop := ∃ s, ofString s = .ok t

theorem IsReadable.ofString_text {t : Timestamp} (h : t.IsReadable) : ofString t.text = .ok t := by
  obtain ⟨s, hs⟩ := h
  exact Timestamp.ofString_text (isShowable_of_ofString hs)

end Timestamp

namespace Duration

theorem toJson_eq (d : Duration) :
    d.toJson = .object [("secs", .ofWord64 (UInt64.ofNat d.secs)), ("nanos", .ofWord32 (UInt32.ofNat d.subsecNanos))] := by
  unfold toJson Json.ofWord64 Json.ofWord32
  rw [d.toNat_secs, d.toNat_subsecNanos]

/-- A length of time is read from its parts. -/
theorem decoder_of_parts {depth : Nat} {r : Json.Reading} {secs : UInt64} {nanos : UInt32} {d : Duration}
    (h : (Record.of Prod.mk |>.required "secs" Decoder.word64 |>.required "nanos" Decoder.word32).decoderNamed
      "struct Duration" "struct Duration" false depth r = .ok (secs, nanos))
    (hd : ofParts? secs nanos = some d) : decoder depth r = .ok d := by
  -- Only rewriting is fast here: to compare by computation multiplies by a thousand million, one by one.
  have hok (p : UInt64 × UInt32) (f : UInt64 × UInt32 → Except Json.Refusal Duration) : (Except.ok p >>= f) = f p := rfl
  have hparts : ofParts? (secs, nanos).1 (secs, nanos).2 = some d := hd
  rw [decoder, h, hok, hparts]

/-- A length of time is read back. -/
theorem decoder_reads (d : Duration) : decoder.Reads 1 d.toJson d := by
  have hparts := (Record.Fills.of Prod.mk 0
    |>.required "secs" (by simp) (Decoder.word64_reads (UInt64.ofNat d.secs) 0)
    |>.required "nanos" (by simp) (Decoder.word32_reads (UInt32.ofNat d.subsecNanos) 0)).decoderNamed
    "struct Duration" "struct Duration" false
  rw [toJson_eq]
  exact ⟨hparts.exact, fun depth r hd hr => decoder_of_parts (hparts.reads depth r hd hr) d.ofParts?_parts⟩

end Duration

namespace Job

/-- A handle is read back, with its hint or without one. -/
theorem Handle.decoder_reads (h : Handle) : Handle.decoder.Reads 2 h.toJson h := by
  obtain ⟨id, hint⟩ := h
  have hid := Record.Fills.of Handle.mk 1 |>.required "id" (by simp) (Decoder.text_reads id 1)
  cases hint with
  | none => exact (hid.absent "poll_interval_hint" Duration.decoder.optional none).decoder "JobHandle"
  | some d =>
    have hsome : Duration.decoder.optional.Reads 1 d.toJson (some d) :=
      Decoder.optional_reads (fun _ h => by cases h) (some d) fun d _ => d.decoder_reads
    exact (hid.optional "poll_interval_hint" (by simp) hsome).decoder "JobHandle"

end Job

/-! ## Entities -/

/-- An organization is read back. -/
theorem Organization.decoder_reads (o : Organization) (h : ∀ t ∈ o.createdAt, t.IsReadable) :
    Organization.decoder.Reads 1 o.toJson o :=
  (Record.Fills.of Organization.mk 0
    |>.required "id" (by simp) (Decoder.text_reads o.id 0)
    |>.required "name" (by simp) (Decoder.text_reads o.name 0)
    |>.optional "status" (by simp) (Decoder.optionalText_reads o.status 0)
    |>.optional "quota_definition_id" (by simp) (Decoder.optionalText_reads o.quotaDefinitionId 0)
    |>.optional "created_at" (by simp) (Timestamp.optional_reads o.createdAt (fun t ht => (h t ht).ofString_text) 0)).decoder
    "Organization"

/-- A space is read back. -/
theorem Space.decoder_reads (s : Space) (h : ∀ t ∈ s.createdAt, t.IsReadable) : Space.decoder.Reads 1 s.toJson s :=
  (Record.Fills.of Space.mk 0
    |>.required "id" (by simp) (Decoder.text_reads s.id 0)
    |>.required "name" (by simp) (Decoder.text_reads s.name 0)
    |>.optional "organization_id" (by simp) (Decoder.optionalText_reads s.organizationId 0)
    |>.optional "space_quota_id" (by simp) (Decoder.optionalText_reads s.spaceQuotaId 0)
    |>.defaulted "allow_ssh" (by simp) (Decoder.bool_reads s.allowSsh 0) false
    |>.optional "created_at" (by simp) (Timestamp.optional_reads s.createdAt (fun t ht => (h t ht).ofString_text) 0)).decoder
    "Space"

/-- A space quota is read back. -/
theorem SpaceQuota.decoder_reads (q : SpaceQuota) : SpaceQuota.decoder.Reads 1 q.toJson q :=
  (Record.Fills.of SpaceQuota.mk 0
    |>.required "id" (by simp) (Decoder.text_reads q.id 0)
    |>.required "name" (by simp) (Decoder.text_reads q.name 0)
    |>.optional "organization_id" (by simp) (Decoder.optionalText_reads q.organizationId 0)
    |>.required "paid_service_plans" (by simp) (Decoder.bool_reads q.paidServicePlans 0)
    |>.required "total_services" (by simp) (Decoder.int64_reads q.totalServices 0)
    |>.required "total_routes" (by simp) (Decoder.int64_reads q.totalRoutes 0)
    |>.required "total_memory_limit" (by simp) (Decoder.int64_reads q.totalMemoryLimit 0)
    |>.required "instance_memory_limit" (by simp) (Decoder.int64_reads q.instanceMemoryLimit 0)
    |>.optional "app_instance_limit" (by simp)
      (Decoder.optional_reads (fun _ h => by cases h) q.appInstanceLimit fun n _ => Decoder.int64_reads n 0)).decoder "SpaceQuota"

/-- A service instance is read back. -/
theorem ServiceInstance.decoder_reads (i : ServiceInstance) : ServiceInstance.decoder.Reads 2 i.toJson i :=
  (Record.Fills.of ServiceInstance.mk 1
    |>.required "id" (by simp) (Decoder.text_reads i.id 1)
    |>.required "name" (by simp) (Decoder.text_reads i.name 1)
    |>.required "type" (by simp) (Origin.decoder_reads i.origin 1)
    |>.optional "space_id" (by simp) (Decoder.optionalText_reads i.spaceId 1)
    |>.optional "dashboard_url" (by simp) (Decoder.optionalText_reads i.dashboardUrl 1)
    |>.optional "last_operation" (by simp)
      (Decoder.optional_reads (fun _ h => by cases h) i.lastOperation fun l _ => l.decoder_reads)).decoder "ServiceInstance"

/-! ## Changes -/

namespace Mutation

/-- The platform's answer to a change that has no value is read back. -/
theorem Response.decoder_reads (r : Response Unit) : (Response.decoder Decoder.unit).Reads 3 (r.toJson nothing) r := by
  cases r with
  | immediate u => exact Decoder.choice_reads_holding rfl ((Decoder.unit_reads 2).map Response.immediate)
  | accepted h => exact Decoder.choice_reads_holding rfl (h.decoder_reads.map Response.accepted)

/-- A change that has been made and has no value is read back. -/
theorem Completed.decoder_reads (c : Completed Unit) : (Completed.decoder Decoder.unit).Reads 3 (c.toJson nothing) c := by
  cases c with
  | immediate u => exact Decoder.choice_reads_holding rfl ((Decoder.unit_reads 2).map Completed.immediate)
  | job h => exact Decoder.choice_reads_holding rfl (h.decoder_reads.map Completed.job)

end Mutation

/-! ## Resources -/

namespace Resource

variable {α ε : Type}

/-- Whether the points in time of a resource can be read. -/
def IsReadable (r : Resource ε) : Prop :=
  (∀ t ∈ r.metadata.createdAt, t.IsReadable) ∧ ∀ t ∈ r.metadata.updatedAt, t.IsReadable

/-- A resource whose points in time can be read comes back where the fields of its kind are read back. -/
theorem returns {fields : Decoder ε} {fieldsJson : ε → Json} {need : Nat} {r : Resource ε}
    (hfields : fields.Reads need (fieldsJson r.entity) r.entity) (hneed : 1 ≤ need ∧ need < Json.greatestDepth)
    (h : r.IsReadable) : (Resource.decoder fields).Returns (r.toJson fieldsJson) r :=
  (r.decoder_reads hfields hneed.1 (fun t ht => (h.1 t ht).ofString_text) (fun t ht => (h.2 t ht).ofString_text)).returns hneed.2

/-- Whether an entity comes back from the texts of the resource that it is sent as. -/
def Form.Restores (form : Form α ε) (a : α) : Prop :=
  let v := (form.toResource a).toJson form.fieldsJson
  ∀ text, text = v.compact ∨ text = v.pretty →
    ((Resource.decoder form.fields).run (Text.octets text)).map form.ofResource = .ok a

/-- An entity comes back where its resource does. -/
theorem Form.restores {form : Form α ε} {a : α}
    (h : (Resource.decoder form.fields).Returns ((form.toResource a).toJson form.fieldsJson) (form.toResource a)) :
    form.Restores a := by
  have hback : (Except.ok (form.toResource a) : Except Json.Refusal (Resource ε)).map form.ofResource = .ok a :=
    congrArg Except.ok (form.ofResource_toResource a)
  rintro text (rfl | rfl)
  · rw [h.1, hback]
  · rw [h.2, hback]

end Resource

/-- Everything that is exchanged comes back from the texts that it is written as: every entity, resource, report on a job, handle and
change, whatever characters its texts are made of and whatever of it may be missing. An entity also comes back from the resource that
it is sent as. Only the points in time must be such that some text gives them. -/
theorem Json.Decoder.reads_what_is_written :
    ((∀ o : Organization, (∀ t ∈ o.createdAt, t.IsReadable) → Organization.decoder.Returns o.toJson o) ∧
        (∀ s : Space, (∀ t ∈ s.createdAt, t.IsReadable) → Space.decoder.Returns s.toJson s) ∧
        (∀ q : SpaceQuota, SpaceQuota.decoder.Returns q.toJson q) ∧
        ∀ i : ServiceInstance, ServiceInstance.decoder.Returns i.toJson i) ∧
      ((∀ r : Resource Organization.Entity, r.IsReadable →
          (Resource.decoder Organization.Entity.decoder).Returns (r.toJson Organization.Entity.toJson) r) ∧
        (∀ r : Resource Space.Entity, r.IsReadable →
          (Resource.decoder Space.Entity.decoder).Returns (r.toJson Space.Entity.toJson) r) ∧
        (∀ r : Resource SpaceQuota.Entity, r.IsReadable →
          (Resource.decoder SpaceQuota.Entity.decoder).Returns (r.toJson SpaceQuota.Entity.toJson) r) ∧
        ∀ r : Resource ServiceInstance.Entity, r.IsReadable →
          (Resource.decoder ServiceInstance.Entity.decoder).Returns (r.toJson ServiceInstance.Entity.toJson) r) ∧
      ((∀ r : Resource Job.Entity, r.IsReadable →
          (Resource.decoder Job.Entity.decoder).Returns (r.toJson Job.Entity.toJson) r) ∧
        (∀ r : Job.ReportV3, Job.ReportV3.decoder.Returns r.toJson r) ∧
        (∀ h : Job.Handle, Job.Handle.decoder.Returns h.toJson h) ∧
        (∀ r : Mutation.Response Unit, (Mutation.Response.decoder .unit).Returns (r.toJson Mutation.nothing) r) ∧
        ∀ c : Mutation.Completed Unit, (Mutation.Completed.decoder .unit).Returns (c.toJson Mutation.nothing) c) ∧
      (∀ o : Organization, (∀ t ∈ o.createdAt, t.IsReadable) → Organization.form.Restores o) ∧
      (∀ s : Space, (∀ t ∈ s.createdAt, t.IsReadable) → Space.form.Restores s) ∧
      (∀ q : SpaceQuota, SpaceQuota.form.Restores q) ∧
      ∀ i : ServiceInstance, ServiceInstance.form.Restores i := by
  have horganization (r : Resource Organization.Entity) (h : r.IsReadable) := Resource.returns r.entity.decoder_reads (by decide) h
  have hspace (r : Resource Space.Entity) (h : r.IsReadable) := Resource.returns r.entity.decoder_reads (by decide) h
  have hquota (r : Resource SpaceQuota.Entity) (h : r.IsReadable) := Resource.returns r.entity.decoder_reads (by decide) h
  have hinstance (r : Resource ServiceInstance.Entity) (h : r.IsReadable) := Resource.returns r.entity.decoder_reads (by decide) h
  refine ⟨⟨fun o h => (o.decoder_reads h).returns (by decide), fun s h => (s.decoder_reads h).returns (by decide),
      fun q => q.decoder_reads.returns (by decide), fun i => i.decoder_reads.returns (by decide)⟩,
    ⟨horganization, hspace, hquota, hinstance⟩,
    ⟨fun r h => Resource.returns r.entity.decoder_reads (by decide) h, fun r => r.decoder_reads.returns (by decide),
      fun h => h.decoder_reads.returns (by decide), fun r => r.decoder_reads.returns (by decide),
      fun c => c.decoder_reads.returns (by decide)⟩, ?_, ?_, ?_, ?_⟩
  · exact fun o h => Resource.Form.restores (horganization o.toResource ⟨h, nofun⟩)
  · exact fun s h => Resource.Form.restores (hspace s.toResource ⟨h, nofun⟩)
  · exact fun q => Resource.Form.restores (hquota q.toResource ⟨nofun, nofun⟩)
  · exact fun i => Resource.Form.restores (hinstance i.toResource ⟨nofun, nofun⟩)

/-- An organization that was made within a leap second, with a name of many kinds of characters. -/
theorem Json.Decoder.reads_what_is_written_dated :
    let t : Timestamp := { date := ⟨2016, 12, 31⟩, hour := 23, minute := 59, second := 60, nanos := 500000000 }
    let o : Organization := { id := "org-1", name := "a\"b\\c\n ü €", createdAt := some t }
    t.IsReadable ∧ Organization.decoder.Returns o.toJson o ∧ Organization.form.Restores o := by
  intro t o
  have ht : t.IsReadable := ⟨"2016-12-31T23:59:60.5Z", by rfl⟩
  have ho : ∀ t ∈ o.createdAt, t.IsReadable := by
    intro u hu
    cases hu
    exact ht
  exact ⟨ht, reads_what_is_written.1.1 o ho, reads_what_is_written.2.2.2.1 o ho⟩

end ControlPlane
