import ControlPlane.Fallible
import ControlPlane.Page

/-!
# Taking items from a list page by page

A `Pager` is asked for one item at a time and fetches a page only when it holds no item any more, so two fetches never
overlap. A page may name only a later page as its successor; a page that does not is refused as a whole. The first failure
ends the list.

A fetch may answer "not yet" any number of times before its result is there. `Pager.step` is one move of the pager,
`Pager.poll` moves until there is something to tell, and `Pager.results` takes everything. Both end for every source,
since the numbers of the fetched pages rise and are less than `2 ^ 32`.
-/

namespace ControlPlane

/-- A fetch under way: how often it will still answer "not yet", and its result. -/
structure Fetch (α : Type) where
  pendings : Nat
  result : Result (Page α)

/-- The fetch whose result is there at once. -/
def Fetch.ready {α : Type} (result : Result (Page α)) : Fetch α := ⟨0, result⟩

/-- Where pages come from: a page is asked for by its number, and the source goes to its next state. -/
abbrev PageSource (σ α : Type) := UInt32 → σ → Fetch α × σ

/-- The state of taking items: either items of the last page and the number of the page after it, or a page being
fetched. -/
inductive Pager (α : Type) where
  | holding (page : UInt32) (items : List α) (next : Option { n : UInt32 // page < n })
  | fetching (page : UInt32) (fetch : Fetch α)

/-- What one move of a pager tells. -/
inductive Pager.Move (α : Type) where
  | silent | pending | finished
  | item (a : α)
  | failed (e : Failure)

/-- What a pager tells when it is polled. -/
inductive Pager.Poll (α : Type) where
  | pending | finished
  | item (a : α)
  | failed (e : Failure)

namespace Pager

variable {σ α β : Type}

/-- The pager before its first page. -/
def start : Pager α := .holding 0 [] (some ⟨1, by decide⟩)

/-- The pager after the end. -/
def ended (page : UInt32) : Pager α := .holding page [] none

/-- The pager that has received a page, or the failure when its successor is not after it. -/
def receive (page : UInt32) (received : Page α) : Result (Pager α) :=
  match received.next with
  | none => .ok (.holding page received.items none)
  | some n =>
    if h : page < n then .ok (.holding page received.items (some ⟨n, h⟩))
    else .error (.invalidCursor page n)

/-- One move: hand out an item, start the next fetch, ask the fetch under way once, or end. -/
def step (source : PageSource σ α) : Pager α → σ → Move α × Pager α × σ
  | .holding page (a :: items) next, s => (.item a, .holding page items next, s)
  | .holding page [] none, s => (.finished, ended page, s)
  | .holding _ [] (some next), s => (.silent, .fetching next.val (source next.val s).1, (source next.val s).2)
  | .fetching page ⟨n + 1, result⟩, s => (.pending, .fetching page ⟨n, result⟩, s)
  | .fetching page ⟨0, .error e⟩, s => (.failed e, ended page, s)
  | .fetching page ⟨0, .ok received⟩, s =>
    match receive page received with
    | .ok p => (.silent, p, s)
    | .error e => (.failed e, ended page, s)

/-! ## Every run ends -/

/-- The pages that may still be fetched, then the answers of the fetch under way, then the items held. -/
def measure : Pager α → Nat × Nat × Nat
  | .holding page items _ => (0x100000000 - page.toNat, 0, items.length)
  | .fetching page fetch => (0x100000000 - page.toNat, fetch.pendings + 1, 0)

/-- The order in which a run descends. -/
abbrev descends : Nat × Nat × Nat → Nat × Nat × Nat → Prop :=
  Prod.Lex (· < ·) (Prod.Lex (· < ·) (· < ·))

theorem descends_wf : WellFounded descends :=
  (Prod.lex Nat.lt_wfRel (Prod.lex Nat.lt_wfRel Nat.lt_wfRel)).wf

/-- A received page leaves no answer of its fetch outstanding. -/
theorem measure_receive {page : UInt32} {received : Page α} {p : Pager α} (h : receive page received = .ok p) :
    p.measure = (0x100000000 - page.toNat, 0, received.items.length) := by
  unfold receive at h
  split at h
  · cases h; rfl
  · split at h
    · cases h; rfl
    · cases h

/-- Every move that does not end the run descends. -/
theorem step_descends (source : PageSource σ α) (p : Pager α) (s : σ) (h : (p.step source s).1 ≠ .finished) :
    descends (p.step source s).2.1.measure p.measure := by
  match p with
  | .holding page (a :: items) next =>
    exact .right _ (.right _ (by simp))
  | .holding page [] none => exact absurd rfl h
  | .holding page [] (some next) =>
    refine .left _ _ ?_
    have h1 := UInt32.lt_iff_toNat_lt.mp next.property
    have h2 := next.val.toNat_lt
    omega
  | .fetching page ⟨n + 1, result⟩ => exact .right _ (.left _ _ (by simp))
  | .fetching page ⟨0, .error e⟩ => exact .right _ (.left _ _ (by simp))
  | .fetching page ⟨0, .ok received⟩ =>
    simp only [step]
    split
    · next q hq =>
      rw [measure_receive hq]
      exact .right _ (.left _ _ (by simp))
    · exact .right _ (.left _ _ (by simp))

/-- Moves until there is something to tell. -/
def poll (source : PageSource σ α) (p : Pager α) (s : σ) : Poll α × Pager α × σ :=
  match _h : p.step source s with
  | (.silent, q, t) => poll source q t
  | (.pending, q, t) => (.pending, q, t)
  | (.finished, q, t) => (.finished, q, t)
  | (.item a, q, t) => (.item a, q, t)
  | (.failed e, q, t) => (.failed e, q, t)
termination_by descends_wf.wrap p.measure
decreasing_by
  have := step_descends source p s (by rw [_h]; exact nofun)
  rwa [_h] at this

/-- Takes everything: the items up to the end, or up to the first failure with that failure as the last one. -/
def results (source : PageSource σ α) (p : Pager α) (s : σ) : List (Result α) × σ :=
  match _h : p.step source s with
  | (.silent, q, t) | (.pending, q, t) => results source q t
  | (.finished, _, t) => ([], t)
  | (.item a, q, t) => (.ok a :: (results source q t).1, (results source q t).2)
  | (.failed e, _, t) => ([.error e], t)
termination_by descends_wf.wrap p.measure
decreasing_by
  all_goals
    have := step_descends source p s (by rw [_h]; exact nofun)
    rwa [_h] at this

end Pager

namespace PageSource

variable {σ α : Type}

/-- Everything a source tells, from its first page on. -/
def results (source : PageSource σ α) (s : σ) : List (Result α) × σ := Pager.start.results source s

/-- Everything a source holds, from its first page on, or the first failure. -/
def collect (source : PageSource σ α) (s : σ) : Result (List α) × σ :=
  (Fallible.whole (source.results s).1, (source.results s).2)

end PageSource

end ControlPlane
