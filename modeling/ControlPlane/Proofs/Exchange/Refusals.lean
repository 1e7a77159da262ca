import ControlPlane.Proofs.Exchange.Bodies
import ControlPlane.Proofs.Exchange.Course
import ControlPlane.Proofs.Exchange.Reasons
import ControlPlane.Proofs.Json.Decoding
import ControlPlane.Proofs.Paging.Results
import ControlPlane.Proofs.Platform.Routes

/-!
# Refusals reach who asked

A response that does not pass ends what was asked: it is the last one that comes back, and its failure is what is told
(`Conversation.Heeds`). That holds of a single request, is kept where one conversation follows another, and carries over to a list of
which any page is refused. Where it comes back for the first request, no other is sent (`Conversation.FailsOn`, `PageSource.FailsOn`).
What a platform writes into a refusal is read back from it (`Platform.refusal_told`). The main statement is
`Client.refusals_reach_caller`.
-/

namespace ControlPlane

variable {σ α β : Type}

/-! ## Refused responses -/

/-- Whether an exchange with a response that does not pass is the last one, and its failure is told. -/
def Heeded (log : List Exchange) (told : Failure → Prop) : Prop :=
  ∀ x ∈ log, ∀ r e, x.reply = .response r → r.check = .error e → log.getLast? = some x ∧ told e

namespace Heeded

variable {log more : List Exchange} {told told' : Failure → Prop}

theorem nil (told : Failure → Prop) : Heeded [] told := fun _ hx => absurd hx List.not_mem_nil

theorem mono (h : Heeded log told) (himp : ∀ e, told e → told' e) : Heeded log told' := by
  intro x hx r e hreply hcheck
  obtain ⟨hlast, htold⟩ := h x hx r e hreply hcheck
  exact ⟨hlast, himp e htold⟩

/-- Where all responses have passed, more may be exchanged. -/
theorem append (h : Heeded log fun _ => False) (h' : Heeded more told) : Heeded (log ++ more) told := by
  intro x hx r e hreply hcheck
  rcases List.mem_append.mp hx with hx | hx
  · exact absurd (h x hx r e hreply hcheck).2 id
  · obtain ⟨hlast, htold⟩ := h' x hx r e hreply hcheck
    exact ⟨by rw [List.getLast?_append, hlast, Option.some_or], htold⟩

/-- What was told is no failure, so that all responses have passed. -/
theorem of_ok {a : α} (h : Heeded log fun e => (.ok a : Result α) = .error e) : Heeded log told :=
  h.mono fun _ he => by cases he

end Heeded

/-- Whether a conversation ends with a response that does not pass, and with its failure. -/
def Conversation.Heeds (c : Conversation σ α) : Prop := c.Sends fun log result => Heeded log (result = .error ·)

/-- Whether a conversation that begins with a request ends with a response wherever that comes back, and fails for a reason. -/
structure Conversation.FailsOn (c : Conversation σ α) (server : Http.Server σ) (request : Result Http.Request) (r : Http.Response)
    (e : Failure) : Prop where
  first : ∀ q s t, request = .ok q → server q s.server = (.response r, t) → c.runOn s = (.error e, s.after t [⟨q, .response r⟩])
  all : c.Sends fun log result => ∀ x ∈ log, x.reply = .response r → log.getLast? = some x ∧ result = .error e

/-- Whether a list that is taken item by item, and begins with a request, ends with a response wherever that comes back: items are told,
and then that it fails for a reason. -/
structure PageSource.FailsOn (source : PageSource (Session σ) α) (server : Http.Server σ) (request : Result Http.Request)
    (r : Http.Response) (e : Failure) : Prop where
  first : ∀ q s t, request = .ok q → server q s.server = (.response r, t) →
    source.results s = ([.error e], s.after t [⟨q, .response r⟩])
  all : ∀ s, ∃ log, (source.results s).2 = s.after (source.results s).2.server log ∧
    ∀ x ∈ log, x.reply = .response r →
      log.getLast? = some x ∧ ∃ given : List α, (source.results s).1 = given.map .ok ++ [.error e]

namespace Conversation.Heeds

theorem known (r : Result α) : (Conversation.known (σ := σ) r).Heeds := by
  refine (Sends.known r).weaken fun log result => ?_
  rintro ⟨rfl, -⟩
  exact .nil _

/-- One conversation after another ends with refused responses. -/
theorem bind {c : Conversation σ α} {f : α → Conversation σ β} (hc : c.Heeds) (hf : ∀ a, (f a).Heeds) : (c >>= f).Heeds := by
  refine (Sends.bind hc hf).weaken fun log result h => ?_
  rcases h with ⟨e, h, rfl⟩ | ⟨a, first, rest, rfl, h, h'⟩
  · refine h.mono fun e' he => ?_
    cases he
    rfl
  · exact h.of_ok.append h'

end Conversation.Heeds

/-! ## Refused pages -/

/-- Where each page is one that ends with refused responses, a list does: it tells items, and then the failure. -/
theorem PageSource.walk_heeds {source : PageSource (Session σ) α}
    (hsource : ∀ n s, ∃ log, (source n s).2 = s.after (source n s).2.server log ∧ Heeded log ((source n s).1.result = .error ·))
    (n : UInt32) (s : Session σ) :
    ∃ log, (source.walk n s).2 = s.after (source.walk n s).2.server log ∧
      Heeded log fun e => ∃ given : List α, source.listing n s = given.map .ok ++ [.error e] := by
  induction n, s using PageSource.walk_induction source with
  | failed n s e hr =>
    obtain ⟨log, hs, hheeded⟩ := hsource n s
    rw [PageSource.walk_of_failed hr]
    refine ⟨log, hs, hheeded.mono fun e he => ⟨[], ?_⟩⟩
    rw [PageSource.listing_of_failed he, List.map_nil, List.nil_append]
  | stale n s p m hr hn hle =>
    obtain ⟨log, hs, hheeded⟩ := hsource n s
    rw [hr] at hheeded
    rw [PageSource.walk_of_stale hr hn hle]
    exact ⟨log, hs, hheeded.of_ok⟩
  | last n s p hr hn =>
    obtain ⟨log, hs, hheeded⟩ := hsource n s
    rw [hr] at hheeded
    rw [PageSource.walk_of_last hr hn]
    exact ⟨log, hs, hheeded.of_ok⟩
  | next n s p m hr hn hlt ih =>
    obtain ⟨log, hs, hheeded⟩ := hsource n s
    obtain ⟨rest, hs', hrest⟩ := ih
    rw [hr] at hheeded
    rw [PageSource.walk_of_next hr hn hlt]
    refine ⟨log ++ rest, Session.after_trans hs hs', hheeded.of_ok.append (hrest.mono ?_)⟩
    rintro e ⟨given, hgiven⟩
    refine ⟨p.items ++ given, ?_⟩
    rw [PageSource.listing_of_next hr hn hlt, hgiven, List.map_append, List.append_assoc]

/-! ## What a client asks -/

namespace Client

section

variable (c : Client) (server : Http.Server σ)

theorem send_heeds (method : Http.Method) (u : Url) : (c.send server method u).Heeds := by
  intro s
  cases hq : c.request method u with
  | error e => exact ⟨[], by simp [send, hq, Conversation.runOn_bind], .nil _⟩
  | ok q =>
    rw [runOn_send hq]
    refine ⟨[⟨q, (server q s.server).1⟩], rfl, fun x hx r e hreply hcheck => ?_⟩
    obtain rfl := List.mem_singleton.mp hx
    have hresponse : (server q s.server).1 = .response r := hreply
    refine ⟨rfl, ?_⟩
    simp only [hresponse, hcheck]

theorem sendAt_heeds (method : Http.Method) (path : String) (change : Url → Url) :
    Conversation.Heeds (do c.send server method (change (← Conversation.known (c.address path)))) :=
  .bind (.known _) fun u => c.send_heeds server method (change u)

theorem page_heeds (list : Collection α) (query : Query) (number : UInt32) : (c.page server list query number).Heeds := by
  have hsent : (c.getWith server list.path (query.pairs number ++ list.pairs)).Heeds := c.sendAt_heeds server .get list.path _
  rw [page_eq]
  exact hsent.bind fun r => .known (pageOf list number r)

/-- A list that is taken page by page ends with a page that is refused: it tells the items before, and then the failure. -/
theorem pages_heed (list : Collection α) (query : Query) (s : Session σ) :
    ∃ log, ((c.pages server list query).results s).2 = s.after ((c.pages server list query).results s).2.server log ∧
      Heeded log fun e => ∃ given : List α, ((c.pages server list query).results s).1 = given.map .ok ++ [.error e] := by
  rw [PageSource.results_eq_walk]
  refine PageSource.walk_heeds (fun n s => ?_) 1 s
  simp only [pages, Fetch.ready]
  exact c.page_heeds server list query n s

end

variable {c : Client} {server : Http.Server σ} {r : Http.Response} {e : Failure}

/-- What is read from the response to a request to a path fails on each response that does not pass. -/
theorem failsOn_of_sendAt {method : Http.Method} {path : String} {change : Url → Url} {sent : Conversation σ Http.Response}
    (hsent : sent = do c.send server method (change (← Conversation.known (c.address path)))) (hcheck : r.check = .error e)
    (reader : Http.Response → Result α) :
    (sent >>= fun r => Conversation.known (reader r)).FailsOn server (c.requestAt method path change) r e where
  first q s t hq hr := by
    rw [Conversation.runOn_bind, hsent, runOn_sendAt_checked hq hr, hcheck]
  all := by
    have hheeds : (sent >>= fun r => Conversation.known (reader r)).Heeds := by
      rw [hsent]
      exact (c.sendAt_heeds server method path change).bind fun r => .known (reader r)
    exact hheeds.weaken fun _ _ hheeded x hx hreply => hheeded x hx r e hreply hcheck

theorem page_failsOn (hcheck : r.check = .error e) (list : Collection α) (query : Query) (number : UInt32) :
    (c.page server list query number).FailsOn server (c.pageRequest list query number) r e := by
  rw [page_eq]
  exact failsOn_of_sendAt rfl hcheck (pageOf list number)

theorem delete_failsOn (hcheck : r.check = .error e) (path : String) (pairs : List (String × String)) :
    (c.delete server path pairs).FailsOn server (c.deletionRequest path pairs) r e := by
  rw [delete]
  exact failsOn_of_sendAt rfl hcheck deletionOf

theorem status_failsOn (hcheck : r.check = .error e) (version : Job.Version) (job : String) :
    (c.status server version job).FailsOn server (c.statusRequest version job) r e := by
  rw [status]
  exact failsOn_of_sendAt rfl hcheck (statusOf version)

theorem pages_failsOn (hcheck : r.check = .error e) (list : Collection α) (query : Query) :
    (c.pages server list query).FailsOn server (c.pageRequest list query 1) r e where
  first q s t hq hr := by
    have hpage := (page_failsOn hcheck list query 1).first q s t hq hr
    have hresult : (c.pages server list query 1 s).1.result = .error e := by rw [pages, Fetch.ready, hpage]
    rw [PageSource.results_eq_walk, PageSource.listing_of_failed hresult, PageSource.walk_of_failed hresult, pages, hpage]
  all s := by
    obtain ⟨log, hs, hheeded⟩ := c.pages_heed server list query s
    exact ⟨log, hs, fun x hx hreply => hheeded x hx r e hreply hcheck⟩

theorem list_failsOn (hcheck : r.check = .error e) (list : Collection α) (query : Query) :
    (c.list server list query).FailsOn server (c.pageRequest list query 1) r e where
  first q s t hq hr := by
    rw [Client.list, Conversation.runOn_of, PageSource.collect, (pages_failsOn hcheck list query).first q s t hq hr]
    rfl
  all s := by
    obtain ⟨log, hs, hall⟩ := (pages_failsOn hcheck list query).all s
    refine ⟨log, hs, fun x hx hreply => ?_⟩
    obtain ⟨hlast, given, hgiven⟩ := hall x hx hreply
    have hwhole : Fallible.whole (given.map .ok ++ [.error e]) = .error e := Fallible.whole_append given _
    exact ⟨hlast, (congrArg Fallible.whole hgiven).trans hwhole⟩

end Client

/-! ## What a platform refuses -/

namespace Platform

/-- The members of a refusal. -/
def refusalMembers (code : UInt32) (name description : String) : List (String × Json) :=
  [("code", .integer code.toNat), ("description", .text description), ("error_code", .text name)]

/-- The names of the members of a refusal are in order. -/
theorem insert_refusalMembers (code : UInt32) (name description : String) :
    (refusalMembers code name description).foldl (fun others m => Json.Decoder.insertMember m.1 m.2 others) [] =
      refusalMembers code name description := by
  have hdescription : ¬"description" < "code" ∧ "code" ≠ "description" := by decide +kernel
  have hname : ¬"error_code" < "code" ∧ "code" ≠ "error_code" := by decide +kernel
  have hbehind : ¬"error_code" < "description" ∧ "description" ≠ "error_code" := by decide +kernel
  simp only [refusalMembers, List.foldl_cons, List.foldl_nil, Json.Decoder.insertMember, hdescription, hname, hbehind, if_false]

/-- The value in a refusal is read back from its text. -/
theorem holds_refusal (code : UInt32) (name description : String) :
    Http.Response.Holds (Json.object (refusalMembers code name description)).compact
      (.object (refusalMembers code name description)) := by
  have hmembers : ∀ m ∈ refusalMembers code name description, Json.Decoder.Reads Json.Decoder.any 0 m.2 m.2 := by
    have hcode := code.toNat_lt
    intro m hm
    simp only [refusalMembers, List.mem_cons, List.not_mem_nil, or_false] at hm
    rcases hm with rfl | rfl | rfl
    · exact Json.Decoder.any_integer_reads ⟨by omega, by omega⟩ 0
    · exact Json.Decoder.any_text_reads description 0
    · exact Json.Decoder.any_text_reads name 0
  have hread := Json.Decoder.any_object_reads hmembers
  rw [insert_refusalMembers] at hread
  exact hread.run (by decide)

/-- A refusal is told as the description and the name that are written into it, unless its status is one that means something else. -/
theorem refusal_told {status : UInt16} (hstatus : ¬(200 ≤ status ∧ status < 300)) (hlater : status ≠ 429) (code : UInt32)
    (name description : String) :
    (refusal status code.toNat name description).check = .error (.api description (some status) (some name)) := by
  have htext : (refusal status code.toNat name description).text? = some (Json.object (refusalMembers code name description)).compact :=
    rfl
  have hdescription : (Json.object (refusalMembers code name description)).member? "description" = some (.text description) := rfl
  have hcode : (Json.object (refusalMembers code name description)).HoldsText "error_code" (some name) := by
    intro t
    have hmember : (Json.object (refusalMembers code name description)).member? "error_code" = some (.text name) := rfl
    rw [hmember, Option.some.injEq, Option.some.injEq, Json.text.injEq]
  have htells : (refusal status code.toNat name description).Tells (description, some name) :=
    .explained htext (holds_refusal code name description) (.described hdescription hcode)
  exact Http.Response.check_eq_error_iff.mpr (.refused hstatus hlater htells)

end Platform

/-- Each response passes just if it is one of success, and is told as what it refuses as otherwise, whatever its body is read as. What a
platform refuses with a status of failure, unless that asks to come back later, reaches whoever asked for a page, a list, a deletion or a
status, by way of a reader that takes a body without mark for UTF-8: what was asked ends with the refusal, and fails with its status, its
description and its name, whatever these say. -/
theorem Client.refusals_reach_caller :
    (∀ r : Http.Response, (∀ passed, r.check = .ok passed ↔ passed = r ∧ 200 ≤ r.status ∧ r.status < 300) ∧
      ∀ e, r.check = .error e ↔ r.Refuses e) ∧
    ∀ status : UInt16, 400 ≤ status → status < 600 → status ≠ 429 → ∀ (code : UInt32) (name description : String)
      (reads : Http.TextReader), reads.ReadsUtf8 →
      let refused := (Platform.refusal status code.toNat name description).readBy reads
      let e := Failure.api description (some status) (some name)
      ∀ (σ : Type) (c : Client) (server : Http.Server σ),
        (∀ (α : Type) (list : Collection α) (query : Query),
          (c.pages server list query).FailsOn server (c.pageRequest list query 1) refused e ∧
            (c.list server list query).FailsOn server (c.pageRequest list query 1) refused e ∧
            ∀ number, (c.page server list query number).FailsOn server (c.pageRequest list query number) refused e) ∧
        (∀ path pairs, (c.delete server path pairs).FailsOn server (c.deletionRequest path pairs) refused e) ∧
        ∀ version job, (c.status server version job).FailsOn server (c.statusRequest version job) refused e := by
  refine ⟨fun r => ⟨fun _ => Http.Response.check_eq_ok_iff, fun _ => Http.Response.check_eq_error_iff⟩, ?_⟩
  intro status hlow hhigh hlater code name description reads hreads refused e σ c server
  have hstatus : ¬(200 ≤ status ∧ status < 300) := by
    rintro ⟨-, hlt⟩
    rw [UInt16.le_iff_toNat_le] at hlow
    rw [UInt16.lt_iff_toNat_lt] at hlt
    have h300 : (300 : UInt16).toNat = 300 := rfl
    have h400 : (400 : UInt16).toNat = 400 := rfl
    omega
  have hread : refused = Platform.refusal status code.toNat name description :=
    (Platform.isWritten_refusal status code.toNat name description).readBy hreads
  have hcheck : refused.check = .error e := by
    rw [hread]
    exact Platform.refusal_told hstatus hlater code name description
  refine ⟨fun α list query => ⟨?_, ?_, ?_⟩, ?_, ?_⟩
  · exact pages_failsOn hcheck list query
  · exact list_failsOn hcheck list query
  · exact page_failsOn hcheck list query
  · exact delete_failsOn hcheck
  · exact status_failsOn hcheck

/-- A deletion that is refused with quotes and a break in the description, read in UTF-8 whatever the headers say. -/
theorem Client.refusals_reach_caller_unavailable :
    let c : Client := ⟨linkBase, "token"⟩
    let reads : Http.TextReader := fun _ octets => Text.ofOctets octets
    let refused := (Platform.refusal 503 10001 "CF-Unavailable" "\"diego\" is down\n").readBy reads
    (400 : UInt16) ≤ 503 ∧ (503 : UInt16) < 600 ∧ (503 : UInt16) ≠ 429 ∧ reads.ReadsUtf8 ∧
      ((c.delete Http.Server.scripted "v2/spaces/space-1" []).runOn ⟨[.response refused], []⟩).1 =
        .error (.api "\"diego\" is down\n" (some 503) (some "CF-Unavailable")) := by
  intro c reads refused
  have hreads : reads.ReadsUtf8 := fun _ text _ _ => Text.ofOctets_octets text
  have hc : c.Reaches {} := ⟨rfl, by decide +kernel, by decide +kernel, by decide +kernel, rfl⟩
  have hpath : "v2/spaces/space-1" = "v2/spaces/" ++ Url.segmentText "space-1" := by decide +kernel
  have hscope : Platform.IsScope "space-1" := ⟨by decide, by decide, by decide⟩
  obtain ⟨q, hq⟩ := (Platform.isAlong_space hscope).requestAt hc .delete (writes_withPairs [])
  rw [← hpath] at hq
  have hr : Http.Server.scripted q [.response refused] = (.response refused, []) := rfl
  obtain ⟨hlow, hhigh, hlater⟩ : (400 : UInt16) ≤ 503 ∧ (503 : UInt16) < 600 ∧ (503 : UInt16) ≠ 429 := by decide
  refine ⟨hlow, hhigh, hlater, hreads, ?_⟩
  obtain ⟨-, hdelete, -⟩ := refusals_reach_caller.2 503 hlow hhigh hlater 10001 "CF-Unavailable" "\"diego\" is down\n" reads hreads _ c
    Http.Server.scripted
  have hfails := hdelete "v2/spaces/space-1" []
  exact congrArg Prod.fst (hfails.first q ⟨[.response refused], []⟩ [] hq hr)

end ControlPlane
