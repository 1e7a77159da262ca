import ControlPlane.Proofs.Exchange.Headers
import ControlPlane.Proofs.Platform.Routes

/-!
# The job of a deletion

A deletion that is accepted is made by a job, which the response names: by the last part of its location that is not empty
(`Client.lastSegment?_eq`), where there is a location that can be read and that names something, and otherwise by the job in its body.
`Client.Says` tells the cases apart. The main statement is `Client.deletion_names_job`.
-/

namespace ControlPlane

open Platform

namespace Client

/-! ## Parts between slashes -/

/-- The last part of a location that is not empty. -/
def lastPart? (location : List Char) : Option (List Char) := ((location.splitOn '/').filter (! ·.isEmpty)).getLast?

/-- Slashes at the end have nothing but empty parts behind them. -/
theorem lastPart?_slashes (location : List Char) (k : Nat) : lastPart? (location ++ List.replicate k '/') = lastPart? location := by
  induction k with
  | zero => rw [List.replicate_zero, List.append_nil]
  | succ k ih =>
    rw [List.replicate_succ', ← List.append_assoc, lastPart?, List.splitOn_append_cons_self, List.filter_append, List.splitOn_nil]
    exact (congrArg List.getLast? (List.append_nil _)).trans ih

/-- A part that no slash is in is the last one, alone or behind a slash. -/
theorem lastPart?_part {id : List Char} (hne : id ≠ []) (hid : '/' ∉ id) (before : List Char) :
    lastPart? id = some id ∧ lastPart? (before ++ '/' :: id) = some id := by
  have hkeep : [id].filter (! ·.isEmpty) = [id] := by simp [hne]
  rw [lastPart?, lastPart?, List.splitOn_append_cons_self, List.splitOn_eq_singleton hid, List.filter_append, hkeep]
  exact ⟨rfl, List.getLast?_concat⟩

/-- A text, seen from its end, is one that ends in no slash, and then slashes. -/
theorem exists_slashes (r : List Char) : ∃ k, r.reverse = (r.dropWhile (· == '/')).reverse ++ List.replicate k '/' := by
  have hall : ∀ c ∈ r.takeWhile (· == '/'), c = '/' := by
    intro c hc
    exact beq_iff_eq.mp (List.mem_takeWhile_imp (p := (· == '/')) hc)
  refine ⟨(r.takeWhile (· == '/')).length, ?_⟩
  calc r.reverse = (r.takeWhile (· == '/') ++ r.dropWhile (· == '/')).reverse := by rw [List.takeWhile_append_dropWhile]
    _ = (r.dropWhile (· == '/')).reverse ++ (r.takeWhile (· == '/')).reverse := List.reverse_append
    _ = (r.dropWhile (· == '/')).reverse ++ List.replicate (r.takeWhile (· == '/')).length '/' := by
      rw [List.eq_replicate_of_mem hall, List.reverse_replicate, List.length_replicate]

/-- The last part of a text that ends in no slash, seen from its end, goes up to the first slash. -/
theorem lastPart?_reverse {c : Char} (hc : c ≠ '/') (r : List Char) :
    lastPart? (c :: r).reverse = some ((c :: r).takeWhile (· != '/')).reverse := by
  have hne : ((c :: r).takeWhile (· != '/')).reverse ≠ [] := by simp [hc]
  have hpart : '/' ∉ ((c :: r).takeWhile (· != '/')).reverse := by
    intro hmem
    have hmark := List.mem_takeWhile_imp (p := (· != '/')) (List.mem_reverse.mp hmem)
    simp at hmark
  have hwhole := List.takeWhile_append_dropWhile (p := (· != '/')) (l := c :: r)
  have hhead := List.head?_dropWhile_not (· != '/') (c :: r)
  obtain ⟨halone, hbehind⟩ := lastPart?_part hne hpart ((c :: r).dropWhile (· != '/')).tail.reverse
  cases hbefore : (c :: r).dropWhile (· != '/') with
  | nil =>
    rw [hbefore, List.append_nil] at hwhole
    rw [hwhole] at halone ⊢
    exact halone
  | cons m before =>
    rw [hbefore] at hwhole hhead hbehind
    obtain rfl : m = '/' := by simpa using hhead
    rw [← hbehind, ← hwhole, List.reverse_append, List.reverse_cons, List.append_assoc, List.singleton_append, hwhole, List.tail_cons]

/-- The segment that names a job is the last part of a location that is not empty. -/
theorem lastSegment?_eq (location : String) : lastSegment? location = (lastPart? location.toList).map String.ofList := by
  obtain ⟨k, hlocation⟩ := exists_slashes location.toList.reverse
  have hhead := List.head?_dropWhile_not (· == '/') location.toList.reverse
  rw [List.reverse_reverse] at hlocation
  rw [hlocation, lastPart?_slashes, lastSegment?]
  cases hrest : location.toList.reverse.dropWhile (· == '/') with
  | nil => rfl
  | cons c rest =>
    rw [hrest] at hhead
    have hc : c ≠ '/' := by simpa using hhead
    have hempty : ((c :: rest).takeWhile (· != '/')).isEmpty = false := by simp [hc]
    simp only [lastPart?_reverse hc, hempty, Bool.false_eq_true, if_false, Option.map_some]

/-- The last part that is not empty is not empty. -/
theorem ne_nil_of_lastPart? {location id : List Char} (h : lastPart? location = some id) : id ≠ [] := by
  have hmem := List.mem_of_getLast? h
  rw [List.mem_filter] at hmem
  simpa using hmem.2

/-- All parts are empty just where there is nothing but slashes. -/
theorem lastPart?_eq_none_iff {location : List Char} : lastPart? location = none ↔ ∀ c ∈ location, c = '/' := by
  obtain ⟨k, hlocation⟩ := exists_slashes location.reverse
  have hhead := List.head?_dropWhile_not (· == '/') location.reverse
  rw [List.reverse_reverse] at hlocation
  rw [hlocation, lastPart?_slashes]
  cases hrest : location.reverse.dropWhile (· == '/') with
  | nil =>
    rw [List.reverse_nil, List.nil_append]
    exact ⟨fun _ c hc => (List.mem_replicate.mp hc).2, fun _ => rfl⟩
  | cons c rest =>
    rw [hrest] at hhead
    have hc : c ≠ '/' := by simpa using hhead
    rw [lastPart?_reverse hc]
    constructor
    · exact nofun
    · intro hall
      exact absurd (hall c (by simp)) hc

end Client

/-! ## What a response says of a deletion -/

/-- Whether a response gives a location that can be read and that has more than slashes in it. -/
structure Http.Response.Locates (r : Http.Response) (location : String) : Prop where
  given : r.header? "location" = some (Text.octets location)
  printable : ∀ c ∈ location.toList, Http.IsPrintable c
  named : ∃ c ∈ location.toList, c ≠ '/'

/-- A location with more than slashes in it names something. -/
theorem Http.Response.Locates.exists_lastPart {r : Http.Response} {location : String} (h : r.Locates location) :
    ∃ id, Client.lastPart? location.toList = some id := by
  obtain ⟨c, hc, hne⟩ := h.named
  by_contra hnone
  exact hne (Client.lastPart?_eq_none_iff.mp (Option.eq_none_iff_forall_ne_some.mpr fun id hid => hnone ⟨id, hid⟩) c hc)

namespace Client

/-- What a response of success says of a deletion: that it is made; that it is accepted as the job that the location names, or else as
the one in the body; or nothing that can be read. -/
inductive Says (r : Http.Response) : Result (Mutation.Response Unit) → Prop
  | made (h : r.status ≠ 202) : Says r (.ok (.immediate ()))
  | located (h : r.status = 202) {location : String} (hl : r.Locates location) {id : List Char}
      (hid : ((location.toList.splitOn '/').filter (! ·.isEmpty)).getLast? = some id) :
      Says r (.ok (.accepted { id := String.ofList id }))
  | reported (h : r.status = 202) (hl : ∀ location, ¬r.Locates location) {body : Http.Body} (hbody : r.body = some body)
      {job : Resource Job.Entity} (hjob : (Resource.decoder Job.Entity.decoder).run body.octets = .ok job) :
      Says r (.ok (.accepted { id := job.metadata.guid }))
  | unreadable (h : r.status = 202) (hl : ∀ location, ¬r.Locates location)
      (hjob : ∀ body, r.body = some body → ∀ job, (Resource.decoder Job.Entity.decoder).run body.octets ≠ .ok job) :
      Says r (.error (.transport .undecodableBody))

variable {r : Http.Response}

/-- The job that a location names is the last part of it that is not empty. -/
theorem located_iff {id : List Char} :
    (r.headerText? "location").bind lastSegment? = some (String.ofList id) ↔
      ∃ location, r.Locates location ∧ lastPart? location.toList = some id := by
  constructor
  · intro h
    obtain ⟨location, htext, hsegment⟩ := Option.bind_eq_some_iff.mp h
    obtain ⟨hgiven, hprintable⟩ := Http.Response.headerText?_eq_some_iff.mp htext
    rw [lastSegment?_eq] at hsegment
    obtain ⟨part, hpart, hid⟩ := Option.map_eq_some_iff.mp hsegment
    obtain rfl : part = id := String.ofList_injective hid
    refine ⟨location, ⟨hgiven, hprintable, ?_⟩, hpart⟩
    by_contra hnone
    rw [lastPart?_eq_none_iff.mpr fun c hc => by_contra fun hne => hnone ⟨c, hc, hne⟩] at hpart
    cases hpart
  · rintro ⟨location, hl, hpart⟩
    rw [Http.Response.headerText?_eq_some_iff.mpr ⟨hl.given, hl.printable⟩, Option.bind_some, lastSegment?_eq, hpart, Option.map_some]

/-- Where there is no location that can be read and that has more than slashes in it, no job is named by it. -/
theorem not_located_iff : (r.headerText? "location").bind lastSegment? = none ↔ ∀ location, ¬r.Locates location := by
  constructor
  · intro h location hl
    obtain ⟨id, hid⟩ := hl.exists_lastPart
    rw [located_iff.mpr ⟨location, hl, hid⟩] at h
    cases h
  · intro h
    by_contra hne
    obtain ⟨id, hid⟩ := Option.ne_none_iff_exists'.mp hne
    obtain ⟨location, hl, -⟩ := located_iff.mp (hid.trans (congrArg some String.ofList_toList.symm))
    exact h location hl

/-- What is read from a body: a value that it stands for, or nothing. -/
theorem decode_cases {α : Type} (d : Json.Decoder α) (r : Http.Response) :
    (∃ body a, r.body = some body ∧ d.run body.octets = .ok a ∧ r.decode d = .ok a) ∨
      ((∀ body, r.body = some body → ∀ a, d.run body.octets ≠ .ok a) ∧ r.decode d = .error (.transport .undecodableBody)) := by
  rw [Http.Response.decode]
  cases hbody : r.body with
  | none =>
    refine Or.inr ⟨fun body h => ?_, rfl⟩
    cases h
  | some body =>
    cases hread : d.run body.octets with
    | ok a => exact Or.inl ⟨body, a, rfl, hread, by simp only [hread, Except.mapError]⟩
    | error fault =>
      refine Or.inr ⟨fun body' h a hok => ?_, by simp only [hread, Except.mapError]⟩
      obtain rfl : body = body' := Option.some.inj h
      rw [hread] at hok
      cases hok

/-- A deletion that is not accepted as a job is made. -/
theorem deletionOf_made (h : r.status ≠ 202) : deletionOf r = .ok (.immediate ()) := if_neg h

/-- A deletion that is accepted as a job is accepted as the one that the location names. -/
theorem deletionOf_located (h : r.status = 202) {location : String} (hl : r.Locates location) {id : List Char}
    (hid : lastPart? location.toList = some id) : deletionOf r = .ok (.accepted { id := String.ofList id }) := by
  rw [deletionOf, if_pos (show r.status = acceptedStatus from h), acceptedJob, located_iff.mpr ⟨location, hl, hid⟩]
  rfl

/-- A deletion that is accepted as a job and not located is accepted as the job in the body. -/
theorem deletionOf_unlocated (h : r.status = 202) (hl : ∀ location, ¬r.Locates location) :
    deletionOf r = (r.decode (Resource.decoder Job.Entity.decoder)).map fun job => .accepted { id := job.metadata.guid } := by
  rw [deletionOf, if_pos (show r.status = acceptedStatus from h), acceptedJob, not_located_iff.mpr hl]
  cases r.decode (Resource.decoder Job.Entity.decoder) <;> rfl

/-- What is read from a response of success is what it says, and nothing else. -/
theorem deletionOf_eq_iff {told : Result (Mutation.Response Unit)} : deletionOf r = told ↔ Says r told := by
  constructor
  · rintro rfl
    by_cases hstatus : r.status = 202
    · by_cases hl : ∃ location, r.Locates location
      · obtain ⟨location, hl⟩ := hl
        obtain ⟨id, hid⟩ := hl.exists_lastPart
        rw [deletionOf_located hstatus hl hid]
        exact .located hstatus hl hid
      · have hl := not_exists.mp hl
        rw [deletionOf_unlocated hstatus hl]
        rcases decode_cases (Resource.decoder Job.Entity.decoder) r with ⟨body, job, hbody, hjob, hread⟩ | ⟨hjob, hread⟩
        · rw [hread]
          exact .reported hstatus hl hbody hjob
        · rw [hread]
          exact .unreadable hstatus hl hjob
    · rw [deletionOf_made hstatus]
      exact .made hstatus
  · intro hsays
    cases hsays with
    | made hstatus => exact deletionOf_made hstatus
    | located hstatus hl hid => exact deletionOf_located hstatus hl hid
    | @reported hstatus hl body hbody job hjob =>
      rw [deletionOf_unlocated hstatus hl, Http.Response.decode, hbody]
      simp only [hjob]
      rfl
    | unreadable hstatus hl hjob =>
      rw [deletionOf_unlocated hstatus hl]
      rcases decode_cases (Resource.decoder Job.Entity.decoder) r with ⟨body, job, hbody, hok, -⟩ | ⟨-, hread⟩
      · exact absurd hok (hjob body hbody job)
      · rw [hread]
        rfl

/-- What comes of a deletion to which the response is one of success. Unless it is accepted as a job, it is made, whatever else the response
says. It is accepted as the job that the first location names, where that is printable and has more than slashes in it: by the last part
of it that is not empty, with any slashes behind. In all other cases it is accepted as the job in the body, and fails where there is none.
The id that a location gives is not empty, and no job comes with an interval. -/
theorem deletion_names_job {σ : Type} {c : Client} {server : Http.Server σ} {path : String} {pairs : List (String × String)}
    {q : Http.Request} {s : Session σ} {t : σ} (hq : c.deletionRequest path pairs = .ok q)
    (hr : server q s.server = (.response r, t)) (hs : r.isSuccess = true) :
    let result := ((c.delete server path pairs).runOn s).1
    (∀ told, result = told ↔ Says r told) ∧
      (r.status = 202 → ∀ (before id : String) (k : Nat), (∀ ch ∈ (before ++ "/" ++ id).toList, Http.IsPrintable ch) → id ≠ "" →
        '/' ∉ id.toList →
        r.header? "location" = some (Text.octets (before ++ "/" ++ id ++ String.ofList (List.replicate k '/'))) →
          result = .ok (.accepted { id })) ∧
      ∀ handle, result = .ok (.accepted handle) →
        handle.intervalHint = none ∧ ((∃ location, r.Locates location) → handle.id ≠ "") := by
  intro result
  have hresult : result = deletionOf r := by
    have hsent : (c.deleteWith server path pairs).runOn s = _ := runOn_sendAt hq hr hs
    simp only [result, delete, Conversation.runOn_bind, hsent, Conversation.runOn_known]
  refine ⟨fun told => by rw [hresult]; exact deletionOf_eq_iff, ?_, ?_⟩
  · intro hstatus before id k hprintable hne hslash hgiven
    have hlist : (before ++ "/" ++ id ++ String.ofList (List.replicate k '/')).toList =
        before.toList ++ '/' :: id.toList ++ List.replicate k '/' := by simp
    have hid : id.toList ≠ [] := fun h => hne (String.toList_eq_nil_iff.mp h)
    have hl : r.Locates (before ++ "/" ++ id ++ String.ofList (List.replicate k '/')) := by
      refine ⟨hgiven, ?_, ?_⟩
      · intro ch hch
        rw [String.toList_append, String.toList_ofList, List.mem_append] at hch
        rcases hch with hch | hch
        · exact hprintable ch hch
        · rw [(List.mem_replicate.mp hch).2]
          exact Or.inr (by decide)
      · obtain ⟨ch, hch⟩ := List.exists_mem_of_ne_nil _ hid
        refine ⟨ch, by rw [hlist]; simp [hch], ?_⟩
        rintro rfl
        exact hslash hch
    have hpart : lastPart? (before ++ "/" ++ id ++ String.ofList (List.replicate k '/')).toList = some id.toList := by
      rw [hlist, lastPart?_slashes]
      exact (lastPart?_part hid hslash before.toList).2
    rw [hresult, deletionOf_located hstatus hl hpart, String.ofList_toList]
  · intro handle hhandle
    cases deletionOf_eq_iff.mp (hresult.symm.trans hhandle) with
    | @located _ location _ id hid =>
      have hne : id ≠ [] := ne_nil_of_lastPart? hid
      refine ⟨rfl, fun _ hempty => hne ?_⟩
      rw [← String.toList_ofList (l := id)]
      exact String.toList_eq_nil_iff.mpr hempty
    | reported _ hl _ _ => exact ⟨rfl, fun ⟨location, hlocated⟩ => absurd hlocated (hl location)⟩

/-- A deletion that is accepted with two locations, of which the first one ends in slashes. -/
theorem deletion_names_job_slashes :
    let c : Client := ⟨linkBase, "token"⟩
    let r : Http.Response := { status := 202, headers := [⟨"Location", Text.octets "http://localhost/v3/jobs/job-7// "⟩,
      ⟨"location", Text.octets "/v3/jobs/job-8"⟩] }
    ∃ q, c.deletionRequest "v2/spaces/space-1" [("async", "true")] = .ok q ∧
      Http.Server.scripted q [.response r] = (.response r, []) ∧ r.isSuccess = true ∧
      ((c.delete Http.Server.scripted "v2/spaces/space-1" [("async", "true")]).runOn ⟨[.response r], []⟩).1 =
        .ok (.accepted { id := "job-7" }) := by
  intro c r
  have hc : c.Reaches {} := ⟨rfl, by decide +kernel, by decide +kernel, by decide +kernel, rfl⟩
  have hpath : "v2/spaces/space-1" = "v2/spaces/" ++ Url.segmentText "space-1" := by decide +kernel
  have hscope : IsScope "space-1" := ⟨by decide, by decide, by decide⟩
  obtain ⟨q, hq⟩ := (isAlong_space hscope).requestAt hc .delete (writes_withPairs [("async", "true")])
  rw [← hpath] at hq
  have hr : Http.Server.scripted q [.response r] = (.response r, []) := rfl
  have hsuccess : r.isSuccess = true := rfl
  have hgiven : r.header? "location" =
      some (Text.octets ("http://localhost/v3/jobs" ++ "/" ++ "job-7" ++ String.ofList (List.replicate 2 '/'))) := by
    decide +kernel
  have hprintable : ∀ ch ∈ ("http://localhost/v3/jobs" ++ "/" ++ "job-7").toList, Http.IsPrintable ch :=
    Url.forall_char (by decide +kernel)
  obtain ⟨-, hlocated, -⟩ := deletion_names_job (s := (⟨[.response r], []⟩ : Session (List Http.Reply))) hq hr hsuccess
  exact ⟨q, hq, hr, hsuccess, hlocated rfl "http://localhost/v3/jobs" "job-7" 2 hprintable (by decide) (by decide +kernel) hgiven⟩

end Client

end ControlPlane
