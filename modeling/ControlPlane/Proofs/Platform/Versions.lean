import ControlPlane.Proofs.Platform.Jobs
import ControlPlane.Proofs.Waiting.Lockstep

/-!
# Jobs in either version of the interface

A platform tells the same of a job in both versions, in different forms (`Platform.reply`). What a client reads from them differs only
in that the third version does not tell a job that is queued from one that is running (`Client.status_versions`), and a wait does not
ask for that difference. The main statement is `Client.awaits_alike`.
-/

namespace ControlPlane

open Platform

/-! ## What the third version tells -/

namespace Job

/-- A state as the third version tells it. -/
def State.coarse (s : State) : State := (stateV3 s).toState

/-- A status as the third version tells it. -/
def Status.coarse (status : Status) : Status := { status with state := status.state.coarse }

/-- A wait goes on alike for jobs that are queued and for jobs that are running. -/
theorem Wait.verdict_coarse (w : Wait) (r : Result Status) : w.verdict (r.map Status.coarse) = w.verdict r := by
  cases r with
  | error e => rfl
  | ok status =>
    obtain ⟨state, error⟩ := status
    cases state <;> rfl

end Job

namespace Platform

variable (id : String) (state : Job.State) (failure : Option Job.ErrorDetails)

/-- The report of the third version stands for the status of which it is made. The reason of a failure is told with all its parts,
those that are missing included. -/
theorem toStatus_jobReport :
    (jobReport id state failure).toStatus = Job.Status.coarse ⟨state, failure.map Job.ErrorDetails.toError⟩ := by
  cases failure <;> rfl

/-- The status of a job is read from the report of the third version. -/
theorem statusOf_report :
    Client.statusOf .v3 (jsonResponse 200 (jobJson .v3 id state failure)) =
      .ok (Job.Status.coarse ⟨state, failure.map Job.ErrorDetails.toError⟩) := by
  have hread := decode_jsonResponse ((jobReport id state failure).decoder_reads.run (by decide)) 200
  rw [Client.statusOf, ← toStatus_jobReport id]
  simp only [jobJson, hread]
  rfl

/-! ## What a platform tells of a job -/

/-- What a store tells of a job to whoever shows credentials, or its refusal, and the store afterwards. -/
def Store.tellsJob (s : Store) (credentials : List (List UInt8)) (id : String) :
    Except Http.Response (Job.State × Option Job.ErrorDetails) × Store :=
  if IsScope id then
    if s.requiredToken.all (shows · credentials) then
      match s.pollJob id with
      | (some told, s) => (.ok told, s)
      | (none, s) => (.error (noJob id), s)
    else (.error unauthorized, s)
  else (.error (emptyResponse 404), s)

/-- What is told of a job in the form of a version. -/
def reply (version : Job.Version) (id : String) : Except Http.Response (Job.State × Option Job.ErrorDetails) → Http.Response
  | .ok (state, failure) => jsonResponse 200 (jobJson version id state failure)
  | .error refusal => refusal

/-- What is refused is no success, so that nothing is read from it. -/
theorem check_refusal {s : Store} {credentials : List (List UInt8)} {id : String} {refusal : Http.Response}
    (h : (s.tellsJob credentials id).1 = .error refusal) : ∃ e, refusal.check = .error e := by
  have hrefused : refusal.isSuccess = false := by
    unfold Store.tellsJob at h
    split at h
    · split at h
      · split at h <;> cases h
        rfl
      · cases h
        rfl
    · cases h
      rfl
  rw [Http.Response.check, hrefused, if_neg (by decide)]
  split
  · exact ⟨_, rfl⟩
  · exact ⟨_, rfl⟩

/-- What is read from a reply in either version: the third one tells the same as the second one, as far as it tells it. -/
theorem status_of_reply {s : Store} {credentials : List (List UInt8)}
    {told : Except Http.Response (Job.State × Option Job.ErrorDetails)} (h : (s.tellsJob credentials id).1 = told) :
    (reply .v3 id told).check.bind (Client.statusOf .v3) =
      ((reply .v2 id told).check.bind (Client.statusOf .v2)).map Job.Status.coarse := by
  cases told with
  | error refusal =>
    obtain ⟨e, he⟩ := check_refusal h
    rw [reply, reply, he]
    rfl
  | ok told =>
    obtain ⟨state, failure⟩ := told
    have hcheck : ∀ v : Json, (jsonResponse 200 v).check = .ok (jsonResponse 200 v) := fun _ => rfl
    rw [reply, reply, hcheck, hcheck]
    exact (statusOf_report id state failure).trans (congrArg (·.map Job.Status.coarse) (statusOf_job id state failure)).symm

/-! ### Requests for a job -/

/-- The word for a version in a path. -/
def versionWord : Job.Version → String
  | .v2 => "v2"
  | .v3 => "v3"

theorem isPlainSegment_versionWord (version : Job.Version) : Url.IsPlainSegment (versionWord version) := by
  cases version with
  | v2 => exact isPlainSegment_versions.1
  | v3 => exact isPlainSegment_versions.2

theorem jobPath_eq (version : Job.Version) (id : String) :
    Client.jobPath version id = Url.pathText (versionWord version) ["jobs", Url.segmentText id] := by
  rw [Url.pathText_last]
  cases version <;> rfl

/-- Whatever the id of a job, its path is one of written segments. -/
theorem isSegmentChar_of_jobPath (version : Job.Version) (id : String) :
    ∀ x ∈ [versionWord version, "jobs", Url.segmentText id], ∀ c ∈ x.toList, Url.isSegmentChar c = true := by
  intro x hx
  simp only [List.mem_cons, List.not_mem_nil, or_false] at hx
  rcases hx with rfl | rfl | rfl
  · exact (isPlainSegment_versionWord version).chars
  · exact (isPlainSegment_of_mem_words (by decide)).chars
  · exact fun c => Url.isSegmentChar_of_mem

/-- An id that cannot stand in a path leads nowhere, in either version. -/
theorem along?_unscoped {id : String} (hid : ¬IsScope id) (version : Job.Version) :
    (Route.segments? (Url.Path.segments (Url.walk [] [versionWord version, "jobs", Url.segmentText id])).text).bind Route.along? =
      none := by
  have hall : ∀ id ∈ ["", ".", ".."], ∀ version ∈ [Job.Version.v2, .v3],
      (Route.segments? (Url.Path.segments (Url.walk [] [versionWord version, "jobs", Url.segmentText id])).text).bind
        Route.along? = none := by
    decide +kernel
  have hmem : id ∈ ["", ".", ".."] := by
    by_contra hne
    simp only [List.mem_cons, List.not_mem_nil, or_false, not_or] at hne
    exact hid ⟨hne.1, hne.2.1, hne.2.2⟩
  exact hall id hmem version (by cases version <;> decide)

/-- A request for the status of a job arrives with the credentials of the client, and leads to the job if its id can stand in a
path. -/
theorem statusRequest_arrives {c : Client} (hc : c.IsAtRoot)
    (hsendable : Http.isHeaderValue (Client.bearerCredentials c.token) = true) (version : Job.Version) (id : String) :
    ∃ q, c.statusRequest version id = .ok q ∧ (Arrival.ofRequest q).method = .get ∧
      (Arrival.ofRequest q).authorization = c.shownCredentials ∧
      routed (.ofRequest q) = if IsScope id then .ok (.job version id) else .error (emptyResponse 404) := by
  by_cases hid : IsScope id
  · have hallows : (Route.job version id).allows .get = true := rfl
    obtain ⟨q, hq, hm, hrouted, -, hauth⟩ := (isAt_job hid version).segments.routed hc hsendable hallows Client.writes_id rfl
    exact ⟨q, hq, hm, hauth, by rw [hrouted, if_pos hid]⟩
  · obtain ⟨q, hq, hm, hpath, -, hauth⟩ := Client.arrival_of_requestAt hc hsendable (isPlainSegment_versionWord version).nonempty
      (isSegmentChar_of_jobPath version id) .get Client.writes_id
    rw [← jobPath_eq] at hq
    refine ⟨q, hq, hm, hauth, ?_⟩
    rw [routed, hpath, along?_unscoped hid, if_neg hid]

/-- A request for the status of a job is replied to in its version with what the store tells of the job. -/
theorem server_job {c : Client} (hc : c.IsAtRoot) (hsendable : Http.isHeaderValue (Client.bearerCredentials c.token) = true)
    (version : Job.Version) (id : String) :
    ∃ q, c.statusRequest version id = .ok q ∧
      ∀ s, server q s = (.response (reply version id (s.tellsJob c.shownCredentials id).1), (s.tellsJob c.shownCredentials id).2) := by
  obtain ⟨q, hq, hm, hauth, hrouted⟩ := statusRequest_arrives hc hsendable version id
  refine ⟨q, hq, fun s => ?_⟩
  have hstrip : ∀ r, strip (Arrival.ofRequest q).method r = r := fun r => by rw [hm]; rfl
  have hadmits : admits s.requiredToken c.shownCredentials (.job version id) = s.requiredToken.all (shows · c.shownCredentials) := by
    rw [admits]
    rfl
  rw [server, respond, hrouted, Store.tellsJob]
  by_cases hid : IsScope id
  · simp only [if_pos hid, hauth, hadmits, hstrip]
    split
    · rw [answer]
      split <;> simp_all only [reply]
    · rfl
  · simp only [if_neg hid, hstrip]
    rfl

end Platform

namespace Client

variable {c : Client}

/-- Asking for the status of a job comes to the same in both versions, as far as the third one tells it: the platform is left in the
same state, and as many requests are sent, which is one unless the token cannot be sent. -/
theorem status_versions (hc : c.IsAtRoot) (id : String) (s : Store) :
    ∃ r t log log', (c.status server .v2 id).Comes s r t log ∧ (c.status server .v3 id).Comes s (r.map Job.Status.coarse) t log' ∧
      log'.length = log.length ∧ (Http.isHeaderValue (bearerCredentials c.token) = true → log.length = 1) := by
  cases hsendable : Http.isHeaderValue (bearerCredentials c.token) with
  | false =>
    have hunsent : ∀ version, c.statusRequest version id = .error (.transport .badHeader) := fun version => by
      rw [statusRequest, jobPath_eq]
      exact requestAt_unsendable hc hsendable (isPlainSegment_versionWord version).nonempty (isSegmentChar_of_jobPath version id) _ _
    exact ⟨_, _, [], [], status_unsent (hunsent .v2) server s, status_unsent (hunsent .v3) server s, rfl, nofun⟩
  | true =>
    obtain ⟨q, hq, hserver⟩ := server_job hc hsendable .v2 id
    obtain ⟨q', hq', hserver'⟩ := server_job hc hsendable .v3 id
    have hcomes' := status_checked hq' (hserver' s)
    rw [status_of_reply id rfl] at hcomes'
    exact ⟨_, _, _, _, status_checked hq (hserver s), hcomes', rfl, fun _ => rfl⟩

/-- Whether two sessions have come to the same store with as many requests. -/
def SentAlike (x y : Session Store) : Prop := y.server = x.server ∧ y.requests.length = x.requests.length

/-- Both versions tell a wait the same. -/
theorem lockstep_versions (hc : c.IsAtRoot) (w : Job.Wait) :
    w.Lockstep SentAlike (c.statuses server .v2) (c.statuses server .v3) := by
  have hboth : ∀ now x y, SentAlike x y →
      w.verdict (c.statuses server .v3 w.job now y).1.result = w.verdict (c.statuses server .v2 w.job now x).1.result ∧
        SentAlike (c.statuses server .v2 w.job now x).2 (c.statuses server .v3 w.job now y).2 := by
    rintro now x y ⟨hsame, hsent⟩
    obtain ⟨r, t, log, log', hcomes, hcomes', hlength, -⟩ := status_versions hc w.job x.server
    have hsecond : (c.status server .v2 w.job).runOn x = (r, x.after t log) := hcomes x.history
    have hthird : (c.status server .v3 w.job).runOn y = (r.map Job.Status.coarse, y.after t log') := by
      rw [← hsame] at hcomes'
      exact hcomes' y.history
    rw [statuses, statuses, hsecond, hthird]
    refine ⟨w.verdict_coarse r, rfl, ?_⟩
    rw [Session.requests_after, Session.requests_after, List.length_append, List.length_append, List.length_map, List.length_map,
      hlength, hsent]
  -- The latencies are compared to a number, since the sources themselves must not be unfolded against each other.
  have hlatency : ∀ version now x, (c.statuses server version w.job now x).1.latency = some 0 := fun _ _ _ => rfl
  exact ⟨fun now x y _ => (hlatency .v3 now y).trans (hlatency .v2 now x).symm, fun now x y h => (hboth now x y h).1,
    fun now x y h => (hboth now x y h).2⟩

/-- Each question for a status is one request, where the token can be sent. -/
theorem requests_of_status (hc : c.IsAtRoot) (hsendable : Http.isHeaderValue (bearerCredentials c.token) = true) (id : String)
    (now : Nat) (x : Session Store) : (c.statuses server .v2 id now x).2.requests.length = x.requests.length + 1 := by
  obtain ⟨r, t, log, -, hcomes, -, -, hone⟩ := status_versions hc id x.server
  have hsecond : (c.status server .v2 id).runOn x = (r, x.after t log) := hcomes x.history
  rw [statuses, hsecond, Session.requests_after, List.length_append, List.length_map, hone hsendable]

/-- Waiting for a job comes to the same in both versions of the interface, whatever the job, the token and what the platform holds.
From the same state on, both waits ask for the status at the same times, send as many requests, end at the same time with the same
outcome, and leave the platform in the same state. Each time that they ask they send a request, unless the token cannot be sent. -/
theorem awaits_alike (hc : c.IsAtRoot) (handle : Job.Handle) (settings : Job.PollSettings) (allowed now : Nat) (x : Session Store) :
    let second := Job.await (c.statuses server .v2) handle settings allowed now x
    let third := Job.await (c.statuses server .v3) handle settings allowed now x
    third.outcome = second.outcome ∧ third.events = second.events ∧ third.time = second.time ∧
      third.state.server = second.state.server ∧ third.state.requests.length = second.state.requests.length ∧
      (Http.isHeaderValue (bearerCredentials c.token) = true →
        second.state.requests.length = x.requests.length + second.events.length) := by
  intro second third
  have hmatch : second.Matches SentAlike third :=
    Job.await_lockstep (fun w _ => lockstep_versions hc w) settings allowed now ⟨rfl, rfl⟩
  obtain ⟨hserver, hsent⟩ := hmatch.state
  refine ⟨hmatch.outcome, hmatch.events, hmatch.time, hserver, hsent, fun hsendable => ?_⟩
  let sent : Session Store → Nat := fun y => y.requests.length
  have hone : ∀ time y, sent (c.statuses server .v2 handle.id time y).2 = sent y + 1 := requests_of_status hc hsendable handle.id
  exact Job.await_counts hone settings allowed now x

/-- A job that fails with a name and a number but without description is told failed alike in both versions. -/
theorem awaits_alike_failing :
    let c : Client := ⟨linkBase, "token"⟩
    let s : Store := ({ Scenario.standard with requiredToken := some "token" } : Store).withFailingJobs
      { code := some 10001, errorCode := some "CF-ServerError" }
    let started : Session Store := ⟨(s.startJob (some (.space "space-1"))).2, []⟩
    let line := fun version => Job.await (c.statuses server version) { id := "job-1" } {} 5 0 started
    c.IsAtRoot ∧ (line .v3).outcome = .error (.failure (.jobFailed "job-1" "CF-ServerError(10001)" "job failed")) ∧
      (line .v3).state.server = (line .v2).state.server := by
  intro c s started line
  have hc : c.Reaches s := ⟨rfl, by decide +kernel, by decide +kernel, by decide +kernel, by decide +kernel⟩
  obtain ⟨houtcome, -, -, hserver, -⟩ := awaits_alike hc.isAtRoot { id := "job-1" } {} 5 0 started
  obtain ⟨log, hawaits⟩ := awaits_job hc (show ({} : Job.PollSettings).timeout = none from rfl) ⟨.failed, by decide, rfl⟩
    (show s.effectiveScript.length ≤ 5 by decide) (some (.space "space-1"))
  have hjob : Store.jobId s.started = "job-1" := by decide +kernel
  have hstarted : (s.startJob (some (.space "space-1"))).2 = s.withJob (s.nextJob (some (.space "space-1"))) := by
    rw [Store.startJob_first (show s.jobs = [] from rfl)]
  have hsecond := (hawaits []).1
  rw [hjob, ← hstarted] at hsecond
  refine ⟨hc.isAtRoot, houtcome.trans (hsecond.trans ?_), hserver⟩
  decide +kernel

end Client

end ControlPlane
