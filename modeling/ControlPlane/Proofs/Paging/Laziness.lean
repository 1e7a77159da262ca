import ControlPlane.Proofs.Paging.Polls

/-!
# Pages are fetched one at a time, and only when they are needed

What happens while a pager is polled is a list of events: fetches are started, are not ready or bring their results, and polls
end with what they tell. `PageSource.events` is that list; its polls and its pages are those of `PageSource.told` and
`PageSource.asked`. The main statement is `PageSource.fetches_lazily`: a fetch is started only when every fetch before it has
brought a page and every item of these pages has been handed out, and a poll that finds a fetch not ready ends with it.
-/

namespace ControlPlane

variable {σ α : Type}

/-! ## Events -/

/-- What happens while a pager is polled. -/
inductive Pager.Event (α : Type) where
  /-- A page is asked for. -/
  | started (page : UInt32) (fetch : Fetch α)
  /-- The fetch under way is not ready. -/
  | unready
  /-- The fetch under way brings its result. -/
  | arrived (result : Result (Page α))
  /-- A poll ends. -/
  | told (t : Pager.Poll α)

namespace Pager

namespace Event

/-- The page that is asked for. -/
def page? : Event α → Option UInt32
  | started page _ => some page
  | _ => none

/-- The fetch that is started. -/
def fetch? : Event α → Option (Fetch α)
  | started _ fetch => some fetch
  | _ => none

/-- The result that arrives. -/
def result? : Event α → Option (Result (Page α))
  | arrived result => some result
  | _ => none

/-- What a poll tells. -/
def poll? : Event α → Option (Poll α)
  | told t => some t
  | _ => none

/-- The item that is handed out. -/
def item? : Event α → Option α
  | told (.item a) => some a
  | _ => none

/-- The items handed out. -/
def items (events : List (Event α)) : List α := events.filterMap item?

end Event

/-- What happens in the next step before it tells something. -/
def happening (source : PageSource σ α) : Pager α → σ → List (Event α)
  | .holding _ [] (some next), s => [.started next.val (source next.val s).1]
  | .holding .., _ => []
  | .fetching _ ⟨_ + 1, _⟩, _ => [.unready]
  | .fetching _ ⟨0, result⟩, _ => [.arrived result]

/-- What happens in a poll: steps happen until one tells something. -/
def pollEvents (source : PageSource σ α) (p : Pager α) (s : σ) : List (Event α) :=
  match _h : (p.step source s).1.told? with
  | none => p.happening source s ++ pollEvents source (p.step source s).2.1 (p.step source s).2.2
  | some t => p.happening source s ++ [.told t]
termination_by descends_wf.wrap p.measure
decreasing_by exact step_descends source p s (by intro hf; rw [hf] at _h; cases _h)

/-- What happens when a pager is polled so many times. -/
def events (source : PageSource σ α) : Nat → Pager α → σ → List (Event α)
  | 0, _, _ => []
  | k + 1, p, s => p.pollEvents source s ++ events source k (p.poll source s).2.1 (p.poll source s).2.2

theorem pollEvents_of_silent {source : PageSource σ α} {p : Pager α} {s : σ} (h : (p.step source s).1.told? = none) :
    p.pollEvents source s =
      p.happening source s ++ (p.step source s).2.1.pollEvents source (p.step source s).2.2 := by
  rw [pollEvents]
  split <;> simp_all

theorem pollEvents_of_told {source : PageSource σ α} {p : Pager α} {s : σ} {t : Poll α}
    (h : (p.step source s).1.told? = some t) : p.pollEvents source s = p.happening source s ++ [.told t] := by
  rw [pollEvents]
  split <;> simp_all

end Pager

/-- What happens when a list is polled from its beginning so many times. -/
def PageSource.events (source : PageSource σ α) (s : σ) (k : Nat) : List (Pager.Event α) := Pager.events source k .start s

/-! ## Events are what polls show -/

namespace Pager

open Event

/-- Only the end of a poll tells something. -/
theorem poll?_happening (source : PageSource σ α) (p : Pager α) (s : σ) : (p.happening source s).filterMap poll? = [] := by
  match p with
  | .holding _ (_ :: _) _ | .holding _ [] none | .holding _ [] (some _) | .fetching _ ⟨_ + 1, _⟩ | .fetching _ ⟨0, _⟩ => rfl

/-- A step asks for the pages that it starts to fetch. -/
theorem page?_happening (source : PageSource σ α) (p : Pager α) (s : σ) :
    (p.happening source s).filterMap page? = p.starting := by
  match p with
  | .holding _ (_ :: _) _ | .holding _ [] none | .holding _ [] (some _) | .fetching _ ⟨_ + 1, _⟩ | .fetching _ ⟨0, _⟩ => rfl

/-- The events of a poll end with what it tells, and tell nothing before. -/
theorem poll?_pollEvents (source : PageSource σ α) (p : Pager α) (s : σ) :
    (p.pollEvents source s).filterMap poll? = [(p.poll source s).1] := by
  induction p, s using poll_induction source with
  | told p s t ht =>
    rw [pollEvents_of_told ht, poll_of_told ht, List.filterMap_append, poll?_happening]
    rfl
  | silent p s ht ih => rw [pollEvents_of_silent ht, poll_of_silent ht, List.filterMap_append, poll?_happening, ih, List.nil_append]

/-- The pages that a poll asks for are those that its source notes. -/
theorem page?_pollEvents (source : PageSource σ α) (p : Pager α) (s : σ) (log : List UInt32) :
    p.poll source.noting (s, log) =
      ((p.poll source s).1, (p.poll source s).2.1, (p.poll source s).2.2, log ++ (p.pollEvents source s).filterMap page?) := by
  induction p, s using poll_induction source generalizing log with
  | told p s t ht =>
    have hn : (p.step source.noting (s, log)).1.told? = some t := by rw [step_noting]; exact ht
    rw [pollEvents_of_told ht, poll_of_told hn, poll_of_told ht, step_noting, List.filterMap_append, page?_happening]
    exact congrArg (fun l => (t, (p.step source s).2.1, (p.step source s).2.2, log ++ l)) (List.append_nil _).symm
  | silent p s ht ih =>
    have hn : (p.step source.noting (s, log)).1.told? = none := by rw [step_noting]; exact ht
    rw [pollEvents_of_silent ht, poll_of_silent hn, poll_of_silent ht, step_noting, ih, List.filterMap_append, page?_happening,
      List.append_assoc]

/-- What polls tell is told by their events. -/
theorem poll?_events (source : PageSource σ α) (k : Nat) (p : Pager α) (s : σ) :
    (events source k p s).filterMap poll? = (polls source k p s).1 := by
  induction k generalizing p s with
  | zero => rfl
  | succ k ih =>
    rw [events, List.filterMap_append, poll?_pollEvents, ih]
    rfl

/-- The pages that polls ask for are asked for by their events. -/
theorem page?_events (source : PageSource σ α) (k : Nat) (p : Pager α) (s : σ) (log : List UInt32) :
    (polls source.noting k p (s, log)).2.2.2 = log ++ (events source k p s).filterMap page? := by
  induction k generalizing p s log with
  | zero => exact (List.append_nil log).symm
  | succ k ih =>
    rw [polls, events, page?_pollEvents]
    simp only
    rw [ih, List.filterMap_append, List.append_assoc]

/-! ## Where a pager stands after its events -/

/-- Whether all fetches that were started have brought their results, and these are pages. -/
structure Settled (events : List (Event α)) (pages : List (Page α)) : Prop where
  started : (events.filterMap fetch?).map (·.result) = pages.map .ok
  arrived : events.filterMap result? = pages.map .ok

/-- How far a pager is after events. -/
inductive Stands : List (Event α) → Pager α → Prop
  | unstarted : Stands [] start
  /-- Of the last page that arrived, some items have been handed out, and the others are held. -/
  | holding {events : List (Event α)} {earlier : List (Page α)} {last : Page α} {given held : List α} {page : UInt32}
      {next : Option { n : UInt32 // page < n }} :
      Settled events (earlier ++ [last]) → last.items = given ++ held →
      Event.items events = earlier.flatMap (·.items) ++ given → Stands events (.holding page held next)
  /-- All pages have arrived and all their items have been handed out, but for the page being fetched. -/
  | fetching {events : List (Event α)} {pages : List (Page α)} {page : UInt32} {fetch : Fetch α} :
      (events.filterMap fetch?).map (·.result) = pages.map .ok ++ [fetch.result] →
      events.filterMap result? = pages.map .ok → Event.items events = pages.flatMap (·.items) →
      Stands events (.fetching page fetch)
  | ended {events : List (Event α)} {page : UInt32} : Stands events (ended page)

/-- Whether an event may come after others: a fetch is started when all that were started before have brought their pages, and
all items of these have been handed out; an item is handed out from the last of the pages that were fetched, after the items
before it. -/
def MayFollow (before : List (Event α)) : Event α → Prop
  | .started .. => ∃ pages, Settled before pages ∧ Event.items before = pages.flatMap (·.items)
  | .told (.item a) => ∃ earlier last given rest, Settled before (earlier ++ [last]) ∧ last.items = given ++ a :: rest ∧
      Event.items before = earlier.flatMap (·.items) ++ given
  | _ => True

/-- Whether each event may come after those before it. -/
def InOrder (events : List (Event α)) : Prop :=
  ∀ before x after, events = before ++ x :: after → MayFollow before x

theorem InOrder.nil : InOrder ([] : List (Event α)) := fun _ _ _ h => absurd h.symm (by simp)

/-- One more event in its place. -/
theorem InOrder.snoc {events : List (Event α)} {x : Event α} (h : InOrder events) (hx : MayFollow events x) :
    InOrder (events ++ [x]) := by
  intro before y after he
  rcases List.eq_nil_or_concat after with rfl | ⟨after, z, rfl⟩
  · obtain ⟨rfl, h1⟩ := List.append_inj' he rfl
    cases h1
    exact hx
  · rw [List.concat_eq_append, ← List.cons_append, ← List.append_assoc] at he
    exact h before y after (List.append_inj' he rfl).1

variable {events : List (Event α)} {p : Pager α}

/-- An item that is held is handed out. -/
theorem Stands.give {a : α} {held : List α} {page : UInt32} {next : Option { n : UInt32 // page < n }}
    (h : Stands events (.holding page (a :: held) next)) :
    Stands (events ++ [.told (.item a)]) (.holding page held next) ∧ MayFollow events (.told (.item a)) := by
  cases h with
  | @holding _ earlier last given _ _ _ hs hl hi =>
    have hsettled : Settled (events ++ [.told (.item a)]) (earlier ++ [last]) :=
      ⟨by simpa [fetch?, List.filterMap_cons] using hs.started, by simpa [result?, List.filterMap_cons] using hs.arrived⟩
    have hgiven : last.items = (given ++ [a]) ++ held := by rw [hl, List.append_assoc, List.singleton_append]
    refine ⟨.holding hsettled hgiven ?_, earlier, last, given, held, hs, hl, hi⟩
    rw [← List.append_assoc, ← hi]
    simp [Event.items, item?]

/-- The next fetch is started when nothing is held. -/
theorem Stands.visit {page : UInt32} {next : { n : UInt32 // page < n }} (h : Stands events (.holding page [] (some next)))
    (fetch : Fetch α) :
    Stands (events ++ [.started next.val fetch]) (.fetching next.val fetch) ∧
      MayFollow events (.started next.val fetch) := by
  have hpages : ∃ pages, Settled events pages ∧ Event.items events = pages.flatMap (·.items) := by
    cases h with
    | unstarted => exact ⟨[], ⟨rfl, rfl⟩, rfl⟩
    | @holding _ earlier last given _ _ _ hs hl hi =>
      rw [List.append_nil] at hl
      exact ⟨earlier ++ [last], hs, by rw [hi, List.flatMap_append, ← hl]; simp⟩
  obtain ⟨pages, hs, hi⟩ := hpages
  have hitems : Event.items (events ++ [.started next.val fetch]) = pages.flatMap (·.items) := by
    rw [← hi]
    simp [Event.items, item?]
  refine ⟨.fetching ?_ ?_ hitems, pages, hs, hi⟩
  · simp [fetch?, hs.started]
  · simp [result?, hs.arrived]

/-- A fetch that is not ready stays under way. -/
theorem Stands.wait {page : UInt32} {n : Nat} {result : Result (Page α)} (h : Stands events (.fetching page ⟨n + 1, result⟩)) :
    Stands (events ++ [.unready] ++ [.told .pending]) (.fetching page ⟨n, result⟩) := by
  cases h with
  | @fetching _ pages _ _ hf hr hi =>
    have hitems : Event.items (events ++ [.unready] ++ [.told .pending]) = pages.flatMap (·.items) := by
      rw [← hi]
      simp [Event.items, item?]
    refine .fetching ?_ ?_ hitems
    · simpa [fetch?, List.filterMap_cons] using hf
    · simpa [result?, List.filterMap_cons] using hr

/-- A page that arrives is held. -/
theorem Stands.arrive {page : UInt32} {received : Page α} {q : Pager α} (h : Stands events (.fetching page ⟨0, .ok received⟩))
    (hq : receive page received = .ok q) : Stands (events ++ [.arrived (.ok received)]) q := by
  obtain ⟨next, rfl⟩ := holding_of_receive hq
  cases h with
  | @fetching _ pages _ _ hf hr hi =>
    have hsettled : Settled (events ++ [.arrived (.ok received)]) (pages ++ [received]) :=
      ⟨by simp [fetch?, hf], by simp [result?, hr]⟩
    have hgiven : received.items = [] ++ received.items := rfl
    refine .holding hsettled hgiven ?_
    simp [Event.items, item?, ← hi]

/-- A step goes on from where a pager stands, and everything in it happens in its place. -/
theorem Stands.step (source : PageSource σ α) (h : Stands events p) (ho : InOrder events) (s : σ) :
    let happened := events ++ p.happening source s ++ ((p.step source s).1.told?.map .told).toList
    Stands happened (p.step source s).2.1 ∧ InOrder happened := by
  match p with
  | .holding page (a :: held) next =>
    obtain ⟨hg, hm⟩ := h.give
    simpa [happening, Pager.step, Move.told?] using And.intro hg (ho.snoc hm)
  | .holding page [] none =>
    refine ⟨.ended, ?_⟩
    simpa [happening, Pager.step, Move.told?] using ho.snoc (x := .told .finished) trivial
  | .holding page [] (some next) =>
    obtain ⟨hv, hm⟩ := h.visit (source next.val s).1
    simpa [happening, Pager.step, Move.told?] using And.intro hv (ho.snoc hm)
  | .fetching page ⟨n + 1, result⟩ => exact ⟨h.wait, InOrder.snoc (ho.snoc trivial) trivial⟩
  | .fetching page ⟨0, .error e⟩ => exact ⟨.ended, InOrder.snoc (ho.snoc trivial) trivial⟩
  | .fetching page ⟨0, .ok received⟩ =>
    simp only [Pager.step, happening]
    cases hq : receive page received with
    | error e => exact ⟨.ended, InOrder.snoc (ho.snoc trivial) trivial⟩
    | ok q =>
      have hin : InOrder (events ++ [.arrived (.ok received)]) := ho.snoc trivial
      simpa [Move.told?] using And.intro (h.arrive hq) hin

/-- So does a poll. -/
theorem Stands.poll (source : PageSource σ α) (h : Stands events p) (ho : InOrder events) (s : σ) :
    Stands (events ++ p.pollEvents source s) (p.poll source s).2.1 ∧ InOrder (events ++ p.pollEvents source s) := by
  induction p, s using poll_induction source generalizing events with
  | told p s t ht =>
    have hstep := h.step source ho s
    rw [ht] at hstep
    rw [pollEvents_of_told ht, poll_of_told ht, ← List.append_assoc]
    exact hstep
  | silent p s ht ih =>
    have hstep := h.step source ho s
    simp only [ht, Option.map_none, Option.toList_none, List.append_nil] at hstep
    rw [pollEvents_of_silent ht, poll_of_silent ht, ← List.append_assoc]
    exact ih hstep.1 hstep.2

/-- So do any number of polls. -/
theorem Stands.polls (source : PageSource σ α) (k : Nat) (h : Stands events p) (ho : InOrder events) (s : σ) :
    Stands (events ++ Pager.events source k p s) (Pager.polls source k p s).2.1 ∧
      InOrder (events ++ Pager.events source k p s) := by
  induction k generalizing events p s with
  | zero =>
    rw [Pager.events, List.append_nil]
    exact ⟨h, ho⟩
  | succ k ih =>
    obtain ⟨h1, h2⟩ := h.poll source ho s
    rw [Pager.events, ← List.append_assoc]
    exact ih h1 h2 _

/-! ## Polls that find a fetch not ready -/

/-- Whether nothing is done about a fetch that is not ready but to tell so. -/
def Patient (events : List (Event α)) : Prop :=
  ∀ before after, events = before ++ .unready :: after → ∃ rest, after = .told .pending :: rest

theorem Patient.append {more : List (Event α)} (h : Patient events) (h' : Patient more) : Patient (events ++ more) := by
  intro before after he
  rcases List.append_eq_append_iff.mp he with ⟨middle, rfl, hm⟩ | ⟨middle, rfl, hm⟩
  · exact h' middle after hm
  · cases middle with
    | nil => exact h' [] after hm.symm
    | cons x middle =>
      obtain ⟨rfl, rfl⟩ := List.cons_eq_cons.mp hm
      obtain ⟨rest, rfl⟩ := h before middle rfl
      exact ⟨rest ++ more, rfl⟩

/-- Events among which no fetch is asked in vain. -/
theorem Patient.of_not_mem (h : .unready ∉ events) : Patient events := fun before _ he =>
  absurd (he ▸ List.mem_append_right before List.mem_cons_self) h

/-- A step that finds the fetch under way not ready tells so. -/
theorem told_of_unready {source : PageSource σ α} {s : σ} (h : .unready ∈ p.happening source s) :
    p.happening source s = [.unready] ∧ (p.step source s).1.told? = some .pending := by
  match p with
  | .fetching page ⟨n + 1, result⟩ => exact ⟨rfl, rfl⟩
  | .holding _ (_ :: _) _ | .holding _ [] none | .holding _ [] (some _) | .fetching _ ⟨0, _⟩ => simp [happening] at h

/-- A poll does nothing about a fetch that is not ready but to tell so. -/
theorem patient_pollEvents (source : PageSource σ α) (p : Pager α) (s : σ) : Patient (p.pollEvents source s) := by
  induction p, s using poll_induction source with
  | told p s t ht =>
    rw [pollEvents_of_told ht]
    by_cases h : .unready ∈ p.happening source s
    · obtain ⟨h1, h2⟩ := told_of_unready h
      cases ht.symm.trans h2
      rw [h1]
      intro before after he
      cases before with
      | nil => exact ⟨[], (List.cons_eq_cons.mp he).2.symm⟩
      | cons x before => simp [List.cons_eq_append_iff] at he
    · refine Patient.of_not_mem fun hm => (List.mem_append.mp hm).elim h fun hm => ?_
      cases List.mem_singleton.mp hm
  | silent p s ht ih =>
    rw [pollEvents_of_silent ht]
    refine Patient.append (Patient.of_not_mem fun hm => ?_) ih
    cases ht.symm.trans (told_of_unready hm).2

/-- Neither do any number of polls. -/
theorem patient_events (source : PageSource σ α) (k : Nat) (p : Pager α) (s : σ) : Patient (Pager.events source k p s) := by
  induction k generalizing p s with
  | zero => exact Patient.of_not_mem List.not_mem_nil
  | succ k ih => exact (patient_pollEvents source p s).append (ih _ _)

/-- What a poll tells is the last that happens in it. -/
theorem exists_pollEvents (source : PageSource σ α) (p : Pager α) (s : σ) :
    ∃ before, p.pollEvents source s = before ++ [.told (p.poll source s).1] := by
  induction p, s using poll_induction source with
  | told p s t ht => exact ⟨p.happening source s, by rw [pollEvents_of_told ht, poll_of_told ht]⟩
  | silent p s ht ih =>
    obtain ⟨before, hb⟩ := ih
    exact ⟨p.happening source s ++ before, by rw [pollEvents_of_silent ht, poll_of_silent ht, hb, List.append_assoc]⟩

/-- What polls tell last is the last that happens. -/
theorem exists_events (source : PageSource σ α) {k : Nat} (p : Pager α) (s : σ) {t : Poll α}
    (h : (Pager.polls source k p s).1.getLast? = some t) : ∃ before, Pager.events source k p s = before ++ [.told t] := by
  induction k generalizing p s with
  | zero => cases h
  | succ k ih =>
    rw [Pager.events]
    cases k with
    | zero =>
      have ht : (p.poll source s).1 = t := Option.some.inj h
      obtain ⟨before, hb⟩ := exists_pollEvents source p s
      exact ⟨before, by rw [hb, ht, Pager.events, List.append_nil]⟩
    | succ k =>
      rw [Pager.polls, List.getLast?_cons_of_ne_nil (by simp [Pager.polls])] at h
      obtain ⟨before, hb⟩ := ih _ _ h
      exact ⟨p.pollEvents source s ++ before, by rw [hb, List.append_assoc]⟩

/-- So many pages are asked for as fetches are started. -/
theorem length_pages (events : List (Event α)) : (events.filterMap page?).length = (events.filterMap fetch?).length := by
  induction events with
  | nil => rfl
  | cons x events ih =>
    cases x with
    | started page fetch => exact congrArg Nat.succ ih
    | unready | arrived | told => exact ih

/-- Where all fetches have brought their pages, so many pages have been asked for. -/
theorem Settled.length {pages : List (Page α)} (h : Settled events pages) :
    (events.filterMap page?).length = pages.length := by
  rw [length_pages, ← List.length_map (f := (·.result)), h.started, List.length_map]

end Pager

/-- Whatever a source does and however often a list is polled, this is what happens, in its order. Events tell what the polls tell
and ask for the pages that are asked for, and nothing happens after what is told last. A poll that finds the fetch under way not
ready does nothing more but tell so. A fetch is started only when all fetches before it have brought pages and all items of these
pages have been handed out. An item is handed out from the last of the pages that were fetched, behind the items of all pages
before it and those before it on its own; by then so many pages have been asked for as there are up to that one. -/
theorem PageSource.fetches_lazily (source : PageSource σ α) (s : σ) (k : Nat) :
    let events := source.events s k
    events.filterMap Pager.Event.poll? = source.told s k ∧ events.filterMap Pager.Event.page? = source.asked s k ∧
      (∀ t, (source.told s k).getLast? = some t → ∃ before, events = before ++ [.told t]) ∧
      (∀ before after, events = before ++ .unready :: after → ∃ rest, after = .told .pending :: rest) ∧
      (∀ before page fetch after, events = before ++ .started page fetch :: after →
        ∃ pages, Pager.Settled before pages ∧ Pager.Event.items before = pages.flatMap (·.items)) ∧
      ∀ before a after, events = before ++ .told (.item a) :: after →
        ∃ earlier last given rest, Pager.Settled before (earlier ++ [last]) ∧ last.items = given ++ a :: rest ∧
          Pager.Event.items before = earlier.flatMap (·.items) ++ given ∧
          (before.filterMap Pager.Event.page?).length = earlier.length + 1 := by
  intro events
  have hpage : events.filterMap Pager.Event.page? = source.asked s k :=
    ((Pager.page?_events source k .start s []).trans (List.nil_append _)).symm
  have horder : Pager.InOrder events := (Pager.Stands.unstarted.polls source k .nil s).2
  refine ⟨Pager.poll?_events source k .start s, hpage, fun t ht => Pager.exists_events source .start s ht,
    Pager.patient_events source k .start s, fun before page fetch after he => horder before _ after he,
    fun before a after he => ?_⟩
  obtain ⟨earlier, last, given, rest, hs, hl, hi⟩ := horder before _ after he
  exact ⟨earlier, last, given, rest, hs, hl, hi, by rw [hs.length, List.length_append, List.length_singleton]⟩

end ControlPlane
