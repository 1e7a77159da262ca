import ControlPlane.Envelope
import ControlPlane.Job.Report
import ControlPlane.Organization
import ControlPlane.Proofs.Json.Decoding
import ControlPlane.ServiceInstance
import ControlPlane.Space
import ControlPlane.SpaceQuota

/-!
# Resources come back from their JSON forms

The decoder of each kind of resource reads back the form that the platform sends, with every field, where the points in time of
its metadata come back from their texts (`Resource.decoder_reads`). A page of such resources is read back as a whole
(`Envelope.decoder_reads`), and so is a report on a job (`Job.Entity.decoder_reads`).
-/

namespace ControlPlane

open Json (Decoder Record)

/-! ## Fields -/

/-- A text that may be missing is read back. -/
theorem Json.Decoder.optionalText_reads (o : Option String) (need : Nat) :
    (Decoder.optional .text).Reads need (.ofOption .text o) o :=
  optional_reads (fun _ h => by cases h) o fun s _ => text_reads s need

/-- A point in time comes back from its form if it does from its text. -/
theorem Timestamp.decoder_reads {t : Timestamp} (h : ofString t.text = .ok t) (need : Nat) :
    Timestamp.decoder.Reads need t.toJson t where
  exact := trivial
  reads _ _ _ hr := by
    cases hr
    simp only [Timestamp.decoder, h]

/-- A point in time that may be missing is read back. -/
theorem Timestamp.optional_reads (o : Option Timestamp) (h : ∀ t ∈ o, ofString t.text = .ok t) (need : Nat) :
    Timestamp.decoder.optional.Reads need (.ofOption Timestamp.toJson o) o :=
  Decoder.optional_reads (fun _ h => by cases h) o fun t ht => decoder_reads (h t ht) need

namespace ServiceInstance

/-- The origin of a service instance is read back from its word. -/
theorem Origin.decoder_reads (o : Origin) (need : Nat) : Origin.decoder.Reads need (.text o.word) o := by
  refine Decoder.choice_reads ?_ need
  cases o <;> rfl

/-- The last operation is read back. -/
theorem LastOperation.decoder_reads (l : LastOperation) : LastOperation.decoder.Reads 1 l.toJson l :=
  (Record.Fills.of LastOperation.mk 0
    |>.required "type" (by simp) (Decoder.text_reads l.type 0)
    |>.required "state" (by simp) (Decoder.text_reads l.state 0)
    |>.optional "description" (by simp) (Decoder.optionalText_reads l.description 0)).decoder "LastOperation"

end ServiceInstance

/-! ## Metadata and entities -/

/-- Metadata is read back. -/
theorem Metadata.decoder_reads (m : Metadata) (hc : ∀ t ∈ m.createdAt, Timestamp.ofString t.text = .ok t)
    (hu : ∀ t ∈ m.updatedAt, Timestamp.ofString t.text = .ok t) : Metadata.decoder.Reads 1 m.toJson m :=
  (Record.Fills.of Metadata.mk 0
    |>.required "guid" (by simp) (Decoder.text_reads m.guid 0)
    |>.optional "url" (by simp) (Decoder.optionalText_reads m.url 0)
    |>.optional "created_at" (by simp) (Timestamp.optional_reads m.createdAt hc 0)
    |>.optional "updated_at" (by simp) (Timestamp.optional_reads m.updatedAt hu 0)).decoder "Metadata"

/-- The fields of an organization are read back. -/
theorem Organization.Entity.decoder_reads (e : Organization.Entity) : Organization.Entity.decoder.Reads 1 e.toJson e :=
  (Record.Fills.of Organization.Entity.mk 0
    |>.required "name" (by simp) (Decoder.text_reads e.name 0)
    |>.optional "status" (by simp) (Decoder.optionalText_reads e.status 0)
    |>.optional "quota_definition_guid" (by simp) (Decoder.optionalText_reads e.quotaDefinitionGuid 0)
    |>.defaulted "billing_enabled" (by simp) (Decoder.bool_reads e.billingEnabled 0) false).decoder "OrganizationEntity"

/-- The fields of a space are read back. -/
theorem Space.Entity.decoder_reads (e : Space.Entity) : Space.Entity.decoder.Reads 1 e.toJson e :=
  (Record.Fills.of Space.Entity.mk 0
    |>.required "name" (by simp) (Decoder.text_reads e.name 0)
    |>.optional "organization_guid" (by simp) (Decoder.optionalText_reads e.organizationGuid 0)
    |>.optional "space_quota_definition_guid" (by simp) (Decoder.optionalText_reads e.spaceQuotaDefinitionGuid 0)
    |>.defaulted "allow_ssh" (by simp) (Decoder.bool_reads e.allowSsh 0) false).decoder "SpaceEntity"

/-- The fields of a space quota are read back. -/
theorem SpaceQuota.Entity.decoder_reads (e : SpaceQuota.Entity) : SpaceQuota.Entity.decoder.Reads 1 e.toJson e :=
  (Record.Fills.of SpaceQuota.Entity.mk 0
    |>.required "name" (by simp) (Decoder.text_reads e.name 0)
    |>.optional "organization_guid" (by simp) (Decoder.optionalText_reads e.organizationGuid 0)
    |>.defaulted "non_basic_services_allowed" (by simp) (Decoder.bool_reads e.nonBasicServicesAllowed 0) false
    |>.defaulted "total_services" (by simp) (Decoder.int64_reads e.totalServices 0) 0
    |>.defaulted "total_routes" (by simp) (Decoder.int64_reads e.totalRoutes 0) 0
    |>.defaulted "memory_limit" (by simp) (Decoder.int64_reads e.memoryLimit 0) 0
    |>.defaulted "instance_memory_limit" (by simp) (Decoder.int64_reads e.instanceMemoryLimit 0) 0
    |>.optional "app_instance_limit" (by simp)
      (Decoder.optional_reads (fun _ h => by cases h) e.appInstanceLimit fun n _ => Decoder.int64_reads n 0)).decoder
    "SpaceQuotaDefinitionEntity"

/-- The fields of a service instance are read back. -/
theorem ServiceInstance.Entity.decoder_reads (e : ServiceInstance.Entity) : ServiceInstance.Entity.decoder.Reads 2 e.toJson e :=
  (Record.Fills.of ServiceInstance.Entity.mk 1
    |>.required "name" (by simp) (Decoder.text_reads e.name 1)
    |>.defaulted "type" (by simp) (Origin.decoder_reads e.origin 1) .managed
    |>.optional "space_guid" (by simp) (Decoder.optionalText_reads e.spaceGuid 1)
    |>.optional "service_plan_guid" (by simp) (Decoder.optionalText_reads e.servicePlanGuid 1)
    |>.optional "dashboard_url" (by simp) (Decoder.optionalText_reads e.dashboardUrl 1)
    |>.optional "last_operation" (by simp)
      (Decoder.optional_reads (fun _ h => by cases h) e.lastOperation fun l _ => l.decoder_reads)).decoder
    "ServiceInstanceEntity"

/-! ## Reports on jobs -/

namespace Job

/-- A state of the second version is read back from its word. -/
theorem State.decoderV2_reads (s : State) (need : Nat) : State.decoderV2.Reads need (.text s.wordV2) s := by
  refine Decoder.choice_reads ?_ need
  cases s <;> rfl

/-- The reason of a failure is read back. -/
theorem ErrorDetails.decoder_reads (e : ErrorDetails) : ErrorDetails.decoder.Reads 1 e.toJson e :=
  (Record.Fills.of ErrorDetails.mk 0
    |>.optional "code" (by simp)
      (Decoder.optional_reads (fun _ h => by cases h) e.code fun n _ => Decoder.int64_reads n 0)
    |>.optional "description" (by simp) (Decoder.optionalText_reads e.description 0)
    |>.optional "error_code" (by simp) (Decoder.optionalText_reads e.errorCode 0)).decoder "JobErrorDetails"

/-- A report of the second version is read back. -/
theorem Entity.decoder_reads (e : Entity) : Entity.decoder.Reads 2 e.toJson e :=
  (Record.Fills.of Entity.mk 1
    |>.optional "guid" (by simp) (Decoder.optionalText_reads e.guid 1)
    |>.required "status" (by simp) (State.decoderV2_reads e.status 1)
    |>.optional "error_details" (by simp)
      (Decoder.optional_reads (fun _ h => by cases h) e.errorDetails fun d _ => d.decoder_reads)).decoder "JobEntity"

/-- A state of the third version is read back from its word. -/
theorem StateV3.decoder_reads (s : StateV3) (need : Nat) : StateV3.decoder.Reads need (.text s.word) s := by
  refine Decoder.choice_reads ?_ need
  cases s <;> rfl

/-- An error of the third version is read back. -/
theorem ErrorV3.decoder_reads (e : ErrorV3) : ErrorV3.decoder.Reads 1 e.toJson e :=
  (Record.Fills.of ErrorV3.mk 0
    |>.optional "code" (by simp)
      (Decoder.optional_reads (fun _ h => by cases h) e.code fun n _ => Decoder.int64_reads n 0)
    |>.optional "title" (by simp) (Decoder.optionalText_reads e.title 0)
    |>.optional "detail" (by simp) (Decoder.optionalText_reads e.detail 0)).decoder "ApiErrorV3"

/-- A report of the third version is read back. -/
theorem ReportV3.decoder_reads (r : ReportV3) : ReportV3.decoder.Reads 3 r.toJson r :=
  (Record.Fills.of ReportV3.mk 2
    |>.required "guid" (by simp) (Decoder.text_reads r.guid 2)
    |>.required "state" (by simp) (r.state.decoder_reads 2)
    |>.optional "operation" (by simp) (Decoder.optionalText_reads r.operation 2)
    |>.defaulted "errors" (by simp) (Decoder.list_reads r.errors fun e _ => e.decoder_reads) []).decoder "JobV3"

end Job

/-! ## Resources and pages -/

variable {α ε : Type}

/-- A resource is read back if the fields of its kind are. -/
theorem Resource.decoder_reads {fields : Decoder ε} {fieldsJson : ε → Json} {need : Nat} (r : Resource ε)
    (hfields : fields.Reads need (fieldsJson r.entity) r.entity) (hneed : 1 ≤ need)
    (hc : ∀ t ∈ r.metadata.createdAt, Timestamp.ofString t.text = .ok t)
    (hu : ∀ t ∈ r.metadata.updatedAt, Timestamp.ofString t.text = .ok t) :
    (Resource.decoder fields).Reads (need + 1) (r.toJson fieldsJson) r :=
  (Record.Fills.of Resource.mk need
    |>.required "metadata" (by simp) ((r.metadata.decoder_reads hc hu).mono hneed)
    |>.required "entity" (by simp) hfields).decoder "Resource"

/-- A page is read back if its resources are. -/
theorem Envelope.decoder_reads {item : Decoder α} {itemJson : α → Json} {need : Nat} (e : Envelope α)
    (h : ∀ a ∈ e.resources, item.Reads need (itemJson a) a) :
    (Envelope.decoder item).Reads (need + 2) (e.toJson itemJson) e :=
  (Record.Fills.of Envelope.mk (need + 1)
    |>.optional "total_results" (by simp)
      (Decoder.optional_reads (fun _ h => by cases h) e.totalResults fun n _ => Decoder.word64_reads n (need + 1))
    |>.optional "total_pages" (by simp)
      (Decoder.optional_reads (fun _ h => by cases h) e.totalPages fun n _ => Decoder.word32_reads n (need + 1))
    |>.optional "prev_url" (by simp) (Decoder.optionalText_reads e.prevUrl (need + 1))
    |>.optional "next_url" (by simp) (Decoder.optionalText_reads e.nextUrl (need + 1))
    |>.defaulted "resources" (by simp) (Decoder.list_reads e.resources h) []).decoder "PaginatedResponse"

end ControlPlane
