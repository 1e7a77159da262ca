import ControlPlane.Page.Pager

/-!
# The plain walk through a list

A list is walked page by page from some page on: each page is fetched once, tells its items, and leads to the page after it.
A fetch that fails tells its failure and ends the walk; so does a page that names a page that is not after it, of which no item
is told. `PageSource.walk` is that walk and `PageSource.listing` what it tells; what is shown of them is shown page by page, from the
last one on (`PageSource.walk_induction`). Neither knows of a buffer, or of fetches that answer "not yet": `walk_delayed`.
-/

namespace ControlPlane

/-- A page on the way through a list: its number, and what it tells. -/
structure Visit (α : Type) where
  page : UInt32
  told : List (Result α)

namespace Visit

variable {α : Type}

/-- What the result of a fetch tells, and the page after it. -/
def disclosed (page : UInt32) : Result (Page α) → List (Result α) × Option { n : UInt32 // page < n }
  | .error e => ([.error e], none)
  | .ok received =>
    match received.next with
    | none => (received.items.map .ok, none)
    | some n =>
      if h : page < n then (received.items.map .ok, some ⟨n, h⟩) else ([.error (.invalidCursor page n)], none)

/-- A page leads to none where it is the last one, or names a page that is not after it. -/
theorem disclosed_none {page : UInt32} {p : Page α} (h : (disclosed page (.ok p)).2 = none) :
    p.next = none ∨ ∃ n, p.next = some n ∧ ¬page < n := by
  unfold disclosed at h
  cases hn : p.next with
  | none => exact Or.inl rfl
  | some n =>
    refine Or.inr ⟨n, rfl, fun hlt => ?_⟩
    simp [hn, hlt] at h

/-- Only a page that can be fetched leads to another, to the one that it names. -/
theorem disclosed_some {page : UInt32} {r : Result (Page α)} {next : { n : UInt32 // page < n }}
    (h : (disclosed page r).2 = some next) : ∃ p, r = .ok p ∧ p.next = some next.val := by
  unfold disclosed at h
  cases r with
  | error e => cases h
  | ok p =>
    refine ⟨p, rfl, ?_⟩
    cases hn : p.next with
    | none => simp [hn] at h
    | some n =>
      by_cases hlt : page < n
      · simp only [hn, hlt, dite_true, Option.some.injEq] at h
        rw [← h]
      · simp [hn, hlt] at h

/-- What visits tell, one after another. -/
def results (visits : List (Visit α)) : List (Result α) := visits.flatMap told

/-- The pages of visits. -/
def pages (visits : List (Visit α)) : List UInt32 := visits.map page

/-- The pages that must be visited before so many answers are known. That a list has ended is an answer too. -/
def demanded : Nat → List (Visit α) → List UInt32
  | 0, _ => []
  | _ + 1, [] => []
  | m + 1, v :: rest => v.page :: demanded (m + 1 - v.told.length) rest

@[simp] theorem demanded_zero (visits : List (Visit α)) : demanded 0 visits = [] := by
  cases visits <;> rfl

@[simp] theorem demanded_nil (m : Nat) : demanded m ([] : List (Visit α)) = [] := by
  cases m <;> rfl

/-- Only pages that are visited are demanded, in their order. -/
theorem demanded_prefix_pages (m : Nat) (visits : List (Visit α)) : demanded m visits <+: pages visits := by
  induction visits generalizing m with
  | nil => simp
  | cons v rest ih =>
    cases m with
    | zero => simp
    | succ m => exact List.cons_prefix_cons.mpr ⟨rfl, ih _⟩

/-- A page is demanded just if the pages before it do not tell enough. -/
theorem lt_length_demanded_iff (m : Nat) (visits : List (Visit α)) (i : Nat) :
    i < (demanded m visits).length ↔ i < visits.length ∧ (results (visits.take i)).length < m := by
  induction visits generalizing m i with
  | nil => simp
  | cons v rest ih =>
    cases m with
    | zero => simp
    | succ m =>
      cases i with
      | zero => simp [demanded, results]
      | succ i =>
        have hrest := ih (m + 1 - v.told.length) i
        have htold : (results ((v :: rest).take (i + 1))).length = v.told.length + (results (rest.take i)).length :=
          List.length_append
        rw [demanded, List.length_cons, List.length_cons, htold]
        omega

end Visit

namespace PageSource

variable {σ α : Type}

/-- The walk from a page on: the pages visited, and the state in which it leaves the source. -/
def walk (source : PageSource σ α) (page : UInt32) (s : σ) : List (Visit α) × σ :=
  let told := (Visit.disclosed page (source page s).1.result).1
  match (Visit.disclosed page (source page s).1.result).2 with
  | none => ([⟨page, told⟩], (source page s).2)
  | some next =>
    (⟨page, told⟩ :: (walk source next.val (source page s).2).1, (walk source next.val (source page s).2).2)
termination_by 0x100000000 - page.toNat
decreasing_by
  all_goals
    have h1 := UInt32.lt_iff_toNat_lt.mp next.property
    have h2 := next.val.toNat_lt
    omega

/-- The walk from the page after another, if there is one. -/
def walkOn {page : UInt32} (source : PageSource σ α) (next : Option { n : UInt32 // page < n }) (s : σ) :
    List (Visit α) × σ :=
  match next with
  | none => ([], s)
  | some n => source.walk n.val s

/-- What a list tells from a page on. -/
def listing (source : PageSource σ α) (page : UInt32) (s : σ) : List (Result α) := Visit.results (source.walk page s).1

/-- One page, and the walk from the page after it. -/
theorem walk_eq (source : PageSource σ α) (page : UInt32) (s : σ) :
    source.walk page s =
      let seen := Visit.disclosed page (source page s).1.result
      (⟨page, seen.1⟩ :: (source.walkOn seen.2 (source page s).2).1, (source.walkOn seen.2 (source page s).2).2) := by
  rw [walk]
  cases h : (Visit.disclosed page (source page s).1.result).2 with
  | none => simp only [h, walkOn]
  | some next => simp only [h, walkOn]

/-! ### The walk, case by case -/

/-- A page that cannot be fetched is the last one visited. -/
theorem walk_of_failed {source : PageSource σ α} {page : UInt32} {s : σ} {e : Failure}
    (h : (source page s).1.result = .error e) : source.walk page s = ([⟨page, [.error e]⟩], (source page s).2) := by
  rw [walk_eq]
  simp [h, Visit.disclosed, walkOn]

/-- So is a page that names a page not after it. -/
theorem walk_of_stale {source : PageSource σ α} {page n : UInt32} {s : σ} {p : Page α}
    (h : (source page s).1.result = .ok p) (hn : p.next = some n) (hle : ¬page < n) :
    source.walk page s = ([⟨page, [.error (.invalidCursor page n)]⟩], (source page s).2) := by
  rw [walk_eq]
  simp [h, hn, hle, Visit.disclosed, walkOn]

/-- So is the last page. -/
theorem walk_of_last {source : PageSource σ α} {page : UInt32} {s : σ} {p : Page α}
    (h : (source page s).1.result = .ok p) (hn : p.next = none) :
    source.walk page s = ([⟨page, p.items.map .ok⟩], (source page s).2) := by
  rw [walk_eq]
  simp [h, hn, Visit.disclosed, walkOn]

/-- After any other page the page that it names is visited. -/
theorem walk_of_next {source : PageSource σ α} {page n : UInt32} {s : σ} {p : Page α}
    (h : (source page s).1.result = .ok p) (hn : p.next = some n) (hlt : page < n) :
    source.walk page s =
      (⟨page, p.items.map .ok⟩ :: (source.walk n (source page s).2).1, (source.walk n (source page s).2).2) := by
  rw [walk_eq]
  simp [h, hn, hlt, Visit.disclosed, walkOn]

/-- A page that cannot be fetched tells only its failure. -/
theorem listing_of_failed {source : PageSource σ α} {page : UInt32} {s : σ} {e : Failure}
    (h : (source page s).1.result = .error e) : source.listing page s = [.error e] := by
  rw [listing, walk_of_failed h]
  rfl

/-- A page that names a page not after it tells only that it does. -/
theorem listing_of_stale {source : PageSource σ α} {page n : UInt32} {s : σ} {p : Page α}
    (h : (source page s).1.result = .ok p) (hn : p.next = some n) (hle : ¬page < n) :
    source.listing page s = [.error (.invalidCursor page n)] := by
  rw [listing, walk_of_stale h hn hle]
  rfl

/-- The last page tells its items. -/
theorem listing_of_last {source : PageSource σ α} {page : UInt32} {s : σ} {p : Page α}
    (h : (source page s).1.result = .ok p) (hn : p.next = none) : source.listing page s = p.items.map .ok := by
  rw [listing, walk_of_last h hn]
  exact List.append_nil _

/-- Any other page tells its items, and then what the list tells from the page after it. -/
theorem listing_of_next {source : PageSource σ α} {page n : UInt32} {s : σ} {p : Page α}
    (h : (source page s).1.result = .ok p) (hn : p.next = some n) (hlt : page < n) :
    source.listing page s = p.items.map .ok ++ source.listing n (source page s).2 := by
  rw [listing, walk_of_next h hn hlt]
  rfl

/-- What holds of a page that ends the walk, and of any other page where it holds of the page after it, holds of every page. -/
@[elab_as_elim]
theorem walk_induction (source : PageSource σ α) {motive : UInt32 → σ → Prop}
    (failed : ∀ n s e, (source n s).1.result = .error e → motive n s)
    (stale : ∀ n s p m, (source n s).1.result = .ok p → p.next = some m → ¬n < m → motive n s)
    (last : ∀ n s p, (source n s).1.result = .ok p → p.next = none → motive n s)
    (next : ∀ n s p m, (source n s).1.result = .ok p → p.next = some m → n < m → motive m (source n s).2 → motive n s)
    (page : UInt32) (s : σ) : motive page s := by
  induction page, s using walk.induct source with
  | case1 n s h =>
    cases hr : (source n s).1.result with
    | error e => exact failed n s e hr
    | ok p =>
      rw [hr] at h
      rcases Visit.disclosed_none h with hn | ⟨m, hn, hle⟩
      · exact last n s p hr hn
      · exact stale n s p m hr hn hle
  | case2 n s m h ih =>
    obtain ⟨p, hr, hn⟩ := Visit.disclosed_some h
    exact next n s p m.val hr hn m.property ih

/-! ### Sources that answer later -/

/-- A source whose fetches answer "not yet" as often as some rule says, and otherwise as before. -/
def delayed (source : PageSource σ α) (pendings : UInt32 → σ → Nat) : PageSource σ α :=
  fun page s => (⟨pendings page s, (source page s).1.result⟩, (source page s).2)

/-- The walk does not depend on how often fetches answer "not yet". -/
theorem walk_delayed (source : PageSource σ α) (pendings : UInt32 → σ → Nat) (page : UInt32) (s : σ) :
    (source.delayed pendings).walk page s = source.walk page s := by
  induction page, s using walk.induct source with
  | case1 page s h =>
    rw [walk_eq, walk_eq]
    simp only [delayed, h, walkOn]
  | case2 page s next h ih =>
    rw [walk_eq, walk_eq]
    simp only [delayed, h, walkOn]
    rw [← ih]

end PageSource

end ControlPlane
