import ControlPlane.Proofs.Paging.Polled
import ControlPlane.Proofs.Paging.Walk

/-!
# Polling a pager

A pager is polled any number of times. Its position is what it holds and what it will still visit: `Pager.position`. One step
of a pager, one poll, and any number of polls are each a `Course` from one position to another: what they answer is what the
position has ahead, and the pages they ask for are those that the answers demand. A pager whose fetches are ready at once gives an answer
with every poll, and is polled in an orderly way (`Polled.isOrderly_pager`). The main statement is `told_follows_listing`: the answers of
a pager are what the plain walk tells, and then the end for ever.
-/

namespace ControlPlane

variable {σ α : Type}

/-! ## Answers -/

namespace Pager

/-- What a poll answers: an item, a failure, or the end of the list. "Not yet" is no answer. -/
def Poll.answer? : Poll α → Option (Option (Result α))
  | .pending => none
  | .finished => some none
  | .item a => some (some (.ok a))
  | .failed e => some (some (.error e))

/-- What a move tells to the one who polls. -/
def Move.told? : Move α → Option (Poll α)
  | .silent => none
  | .pending => some .pending
  | .finished => some .finished
  | .item a => some (.item a)
  | .failed e => some (.failed e)

/-- The answers among what polls tell. -/
def answers (told : List (Poll α)) : List (Option (Result α)) := told.filterMap Poll.answer?

/-- Whether an answer is the end of the list or a failure. -/
def IsLast (answer : Option (Result α)) : Prop := answer = none ∨ ∃ e, answer = some (.error e)

/-! ## Polls -/

/-- A page that is received is held as a whole. -/
theorem holding_of_receive {page : UInt32} {received : Page α} {p : Pager α} (h : receive page received = .ok p) :
    ∃ next, p = holding page received.items next := by
  unfold receive at h
  split at h
  · cases h
    exact ⟨none, rfl⟩
  · split at h
    · cases h
      exact ⟨_, rfl⟩
    · cases h

/-- Where a step tells nothing a poll goes on. -/
theorem poll_of_silent {source : PageSource σ α} {p : Pager α} {s : σ} (h : (p.step source s).1.told? = none) :
    p.poll source s = (p.step source s).2.1.poll source (p.step source s).2.2 := by
  rw [poll]
  split <;> simp_all [Move.told?]

/-- Where a step tells something a poll ends. -/
theorem poll_of_told {source : PageSource σ α} {p : Pager α} {s : σ} {t : Poll α}
    (h : (p.step source s).1.told? = some t) : p.poll source s = (t, (p.step source s).2) := by
  rw [poll]
  split <;> simp_all [Move.told?]

/-- A statement about a pager holds if it holds where the next step tells something, and where it holds after a step that
tells nothing. -/
theorem poll_induction {motive : Pager α → σ → Prop} (source : PageSource σ α)
    (told : ∀ p s t, (p.step source s).1.told? = some t → motive p s)
    (silent : ∀ p s, (p.step source s).1.told? = none → motive (p.step source s).2.1 (p.step source s).2.2 → motive p s)
    (p : Pager α) (s : σ) : motive p s := by
  induction p, s using poll.induct source with
  | case1 p s q t h ih => exact silent p s (by rw [h]; rfl) (by rw [h]; exact ih)
  | case2 p s q t h | case3 p s q t h => exact told p s _ (by rw [h]; rfl)
  | case4 p s a q t h => exact told p s (.item a) (by rw [h]; rfl)
  | case5 p s e q t h => exact told p s (.failed e) (by rw [h]; rfl)

/-- Polls a pager so many times: what it tells each time, the pager after that, and the state of its source. -/
def polls (source : PageSource σ α) : Nat → Pager α → σ → List (Poll α) × Pager α × σ
  | 0, p, s => ([], p, s)
  | k + 1, p, s =>
    let first := p.poll source s
    let rest := polls source k first.2.1 first.2.2
    (first.1 :: rest.1, rest.2)

/-- A pager is polled like everything else. -/
theorem polls_eq_times (source : PageSource σ α) (k : Nat) (p : Pager α) (s : σ) :
    polls source k p s = (Polled.pager source).times k p s := by
  induction k generalizing p s with
  | zero => rfl
  | succ k ih =>
    rw [polls, ih]
    rfl

/-- Polls go on from where earlier ones ended. -/
theorem polls_add (source : PageSource σ α) (k j : Nat) (p : Pager α) (s : σ) :
    polls source (k + j) p s =
      let first := polls source k p s
      let rest := polls source j first.2.1 first.2.2
      (first.1 ++ rest.1, rest.2) := by
  simp only [polls_eq_times]
  exact (Polled.pager source).times_add k j p s

/-! ## What every fetch keeps -/

section

variable (source : PageSource σ α) {P : σ → Prop} (hsource : ∀ n s, P s → P (source n s).2)
include hsource

/-- What every fetch keeps, every step keeps. -/
theorem step_keeps (p : Pager α) {s : σ} (h : P s) : P (p.step source s).2.2 := by
  match p with
  | .holding page (a :: items) next | .holding page [] none | .fetching page ⟨n + 1, result⟩
  | .fetching page ⟨0, .error e⟩ => exact h
  | .holding page [] (some next) => exact hsource next.val s h
  | .fetching page ⟨0, .ok received⟩ =>
    simp only [step]
    cases receive page received <;> exact h

/-- So does every poll. -/
theorem poll_keeps (p : Pager α) {s : σ} (h : P s) : P (p.poll source s).2.2 := by
  induction p, s using poll_induction source with
  | told p s t ht =>
    rw [poll_of_told ht]
    exact step_keeps source hsource p h
  | silent p s ht ih =>
    rw [poll_of_silent ht]
    exact ih (step_keeps source hsource p h)

/-- So do any number of polls. -/
theorem polls_keeps (k : Nat) (p : Pager α) {s : σ} (h : P s) : P (polls source k p s).2.2 := by
  rw [polls_eq_times]
  exact (Polled.pager source).times_keeps (fun p _ => poll_keeps source hsource p) k p h

end

end Pager

namespace PageSource

/-- The source that also notes which pages it is asked for. -/
def noting (source : PageSource σ α) : PageSource (σ × List UInt32) α :=
  fun page s => ((source page s.1).1, (source page s.1).2, s.2 ++ [page])

/-- What is told when a list is polled from its beginning so many times. -/
def told (source : PageSource σ α) (s : σ) (k : Nat) : List (Pager.Poll α) := (Pager.polls source k .start s).1

/-- The pages asked for when a list is polled from its beginning so many times. -/
def asked (source : PageSource σ α) (s : σ) (k : Nat) : List UInt32 :=
  (Pager.polls source.noting k .start (s, [])).2.2.2

end PageSource

/-! ## Positions -/

/-- What a pager has ahead: what it holds of the page it is at, and the visits to come. -/
structure Position (α : Type) where
  held : List (Result α)
  visits : List (Visit α)

namespace Position

/-- What will be told from a position on. -/
def ahead (x : Position α) : List (Result α) := x.held ++ Visit.results x.visits

/-- The pages that must be asked for from a position on before so many answers are known. -/
def demanded (m : Nat) (x : Position α) : List UInt32 := Visit.demanded (m - x.held.length) x.visits

@[simp] theorem demanded_zero (x : Position α) : x.demanded 0 = [] := by simp [demanded]

/-- A page that holds answers is not asked for before they are known. -/
theorem demanded_cons (m : Nat) (a : Result α) (held : List (Result α)) (visits : List (Visit α)) :
    demanded (m + 1) ⟨a :: held, visits⟩ = demanded m ⟨held, visits⟩ := by
  simp [demanded, Nat.add_sub_add_right]

/-- The next page is asked for when nothing is held. -/
theorem demanded_visit (m : Nat) (v : Visit α) (rest : List (Visit α)) :
    demanded (m + 1) ⟨[], v :: rest⟩ = v.page :: demanded (m + 1) ⟨v.told, rest⟩ := by
  simp [demanded, Visit.demanded]

end Position

/-- A course from one position to another: the answers are what the first position has ahead, and the pages asked for are
those that later answers demand of the first position but not of the second. -/
structure Course (x : Position α) (asked : List UInt32) (answers : List (Option (Result α))) (y : Position α) : Prop where
  answered : ∀ i < answers.length, answers[i]? = some x.ahead[i]?
  left : y.ahead = x.ahead.drop answers.length
  demand : ∀ m, x.demanded (answers.length + (m + 1)) = asked ++ y.demanded (m + 1)

namespace Course

variable {x y z : Position α} {asked asked' : List UInt32} {given given' : List (Option (Result α))}

theorem refl (x : Position α) : Course x [] [] x where
  answered := by simp
  left := by simp
  demand m := by simp

/-- Courses compose. -/
theorem trans (h : Course x asked given y) (h' : Course y asked' given' z) :
    Course x (asked ++ asked') (given ++ given') z where
  answered i hi := by
    rcases Nat.lt_or_ge i given.length with hlt | hge
    · rw [List.getElem?_append_left hlt]
      exact h.answered i hlt
    · rw [List.getElem?_append_right hge, h'.answered _ (by rw [List.length_append] at hi; omega), h.left,
        List.getElem?_drop, Nat.add_sub_cancel' hge]
  left := by rw [h'.left, h.left, List.drop_drop, List.length_append]
  demand m := by
    rw [List.length_append, Nat.add_assoc, ← Nat.add_assoc given'.length, h.demand, Nat.add_assoc, h'.demand,
      List.append_assoc]

/-- An answer that is held is given. -/
theorem give (a : Result α) (held : List (Result α)) (visits : List (Visit α)) :
    Course ⟨a :: held, visits⟩ [] [some a] ⟨held, visits⟩ where
  answered := by simp [Position.ahead]
  left := by simp [Position.ahead]
  demand m := by
    rw [List.length_singleton, Nat.add_comm, Position.demanded_cons]
    rfl

/-- Where nothing is held and no visit is to come, the list has ended. -/
theorem finish : Course (α := α) ⟨[], []⟩ [] [none] ⟨[], []⟩ where
  answered := by simp [Position.ahead, Visit.results]
  left := by simp [Position.ahead, Visit.results]
  demand m := by simp [Position.demanded]

/-- Where nothing is held the next page is visited. -/
theorem visit (v : Visit α) (rest : List (Visit α)) : Course ⟨[], v :: rest⟩ [v.page] [] ⟨v.told, rest⟩ where
  answered := by simp
  left := by simp [Position.ahead, Visit.results]
  demand m := by
    rw [List.length_nil, Nat.zero_add, Position.demanded_visit]
    rfl

/-- The answers are the first of what lies ahead, as many as there are. -/
theorem answers_eq (h : Course x asked given y) : given = (List.range given.length).map (x.ahead[·]?) := by
  refine List.ext_getElem? fun i => ?_
  rcases Nat.lt_or_ge i given.length with hlt | hge
  · rw [h.answered i hlt, List.getElem?_map, List.getElem?_range hlt]
    rfl
  · rw [List.getElem?_eq_none hge, List.getElem?_eq_none (by simpa using hge)]

/-- No page is asked for that the answers and the one after them do not demand. -/
theorem asked_prefix (h : Course x asked given y) : asked <+: x.demanded (given.length + 1) := by
  rw [h.demand 0]
  exact List.prefix_append _ _

end Course

/-! ## The position of a pager -/

namespace Pager

/-- The position of a pager and its source. -/
def position (source : PageSource σ α) : Pager α → σ → Position α
  | .holding _ items next, s => ⟨items.map .ok, (source.walkOn next s).1⟩
  | .fetching page fetch, s =>
    let seen := Visit.disclosed page fetch.result
    ⟨seen.1, (source.walkOn seen.2 s).1⟩

/-- The page that the next step asks for. -/
def starting : Pager α → List UInt32
  | .holding _ [] (some next) => [next.val]
  | _ => []

/-- A received page leaves the position as it was while the page was fetched. -/
theorem position_receive (source : PageSource σ α) {page : UInt32} {received : Page α} {p : Pager α} (s : σ)
    (h : receive page received = .ok p) :
    p.position source s = (fetching page ⟨0, .ok received⟩).position source s := by
  unfold receive at h
  simp only [position, Visit.disclosed]
  cases hn : received.next with
  | none =>
    simp only [hn] at h ⊢
    cases h
    rfl
  | some n =>
    simp only [hn] at h ⊢
    by_cases hlt : page < n
    · simp only [hlt, dite_true] at h ⊢
      cases h
      rfl
    · simp [hlt] at h

/-- A page that is refused discloses only the failure, and no page after it. -/
theorem position_refuse (source : PageSource σ α) {page : UInt32} {received : Page α} {e : Failure} (s : σ)
    (h : receive page received = .error e) :
    (fetching page ⟨0, .ok received⟩).position source s = ⟨[.error e], []⟩ := by
  unfold receive at h
  simp only [position, Visit.disclosed]
  cases hn : received.next with
  | none => simp [hn] at h
  | some n =>
    simp only [hn] at h ⊢
    by_cases hlt : page < n
    · simp [hlt] at h
    · simp only [hlt, dite_false] at h ⊢
      cases h
      rfl

/-- One step is a course: it answers what it tells, and asks for the page that it starts to fetch. -/
theorem step_course (source : PageSource σ α) (p : Pager α) (s : σ) :
    Course (p.position source s) p.starting (answers (p.step source s).1.told?.toList)
      ((p.step source s).2.1.position source (p.step source s).2.2) := by
  match p with
  | .holding page (a :: items) next => exact Course.give (.ok a) (items.map .ok) (source.walkOn next s).1
  | .holding page [] none => exact Course.finish
  | .holding page [] (some next) =>
    have hx : (holding page [] (some next)).position source s =
        ⟨[], ⟨next.val, ((fetching next.val (source next.val s).1).position source (source next.val s).2).held⟩ ::
          ((fetching next.val (source next.val s).1).position source (source next.val s).2).visits⟩ := by
      simp only [position, PageSource.walkOn, PageSource.walk_eq source next.val s, List.map_nil]
    rw [hx]
    exact Course.visit _ _
  | .fetching page ⟨n + 1, result⟩ => exact Course.refl _
  | .fetching page ⟨0, .error e⟩ => exact Course.give (.error e) [] []
  | .fetching page ⟨0, .ok received⟩ =>
    simp only [step]
    cases h : receive page received with
    | ok q =>
      rw [← position_receive source s h]
      exact Course.refl _
    | error e =>
      rw [position_refuse source s h]
      exact Course.give (.error e) [] []

/-! ## Courses of polls -/

/-- A source that notes what it is asked for makes the same steps, and notes the page that a step asks for. -/
theorem step_noting (source : PageSource σ α) (p : Pager α) (s : σ) (log : List UInt32) :
    p.step source.noting (s, log) =
      ((p.step source s).1, (p.step source s).2.1, (p.step source s).2.2, log ++ p.starting) := by
  match p with
  | .holding page (a :: items) next | .holding page [] none | .fetching page ⟨n + 1, result⟩
  | .fetching page ⟨0, .error e⟩ => simp [step, starting]
  | .holding page [] (some next) => rfl
  | .fetching page ⟨0, .ok received⟩ =>
    simp only [step, starting, List.append_nil]
    cases receive page received <;> rfl

/-- A step that answers asks for no page, and its answer demands none: it is held, or no visit is to come. -/
theorem demanded_of_answer (source : PageSource σ α) (p : Pager α) (s : σ) {t : Poll α}
    (ht : (p.step source s).1.told? = some t) (hp : t ≠ .pending) :
    p.starting = [] ∧ (p.position source s).demanded 1 = [] := by
  match p with
  | .holding page (a :: items) next => exact ⟨rfl, by simp [position, Position.demanded]⟩
  | .holding page [] none => exact ⟨rfl, by simp [position, Position.demanded, PageSource.walkOn]⟩
  | .holding page [] (some next) => simp [step, Move.told?] at ht
  | .fetching page ⟨n + 1, result⟩ => exact absurd (Option.some.inj ht).symm hp
  | .fetching page ⟨0, .error e⟩ => exact ⟨rfl, by simp [position, Visit.disclosed, Position.demanded]⟩
  | .fetching page ⟨0, .ok received⟩ =>
    refine ⟨rfl, ?_⟩
    cases h : receive page received with
    | ok q => simp [step, h, Move.told?] at ht
    | error e =>
      rw [position_refuse source s h]
      simp [Position.demanded]

/-- A poll is a course, and one that gives an answer asks for no page that the answer does not demand. -/
theorem poll_course (source : PageSource σ α) (p : Pager α) (s : σ) (log : List UInt32) :
    ∃ asked, p.poll source.noting (s, log) =
        ((p.poll source s).1, (p.poll source s).2.1, (p.poll source s).2.2, log ++ asked) ∧
      Course (p.position source s) asked (answers [(p.poll source s).1])
        ((p.poll source s).2.1.position source (p.poll source s).2.2) ∧
      ((p.poll source s).1 ≠ .pending → asked = (p.position source s).demanded 1) := by
  induction p, s using poll_induction source generalizing log with
  | told p s t ht =>
    have hn : (p.step source.noting (s, log)).1.told? = some t := by rw [step_noting]; exact ht
    have hc := step_course source p s
    rw [ht] at hc
    rw [poll_of_told hn, poll_of_told ht, step_noting]
    refine ⟨p.starting, rfl, hc, fun hp => ?_⟩
    obtain ⟨h1, h2⟩ := demanded_of_answer source p s ht hp
    rw [h1, h2]
  | silent p s ht ih =>
    have hn : (p.step source.noting (s, log)).1.told? = none := by rw [step_noting]; exact ht
    have hc := step_course source p s
    rw [ht] at hc
    obtain ⟨asked, he, hp, hd⟩ := ih (log ++ p.starting)
    rw [poll_of_silent hn, poll_of_silent ht, step_noting, he]
    refine ⟨p.starting ++ asked, by rw [List.append_assoc], hc.trans hp, fun h => ?_⟩
    rw [hd h]
    exact (hc.demand 0).symm

theorem answer?_eq_none_iff {t : Poll α} : t.answer? = none ↔ t = .pending := by
  cases t <;> simp [Poll.answer?]

/-- Polls of which the last gives an answer give one. -/
theorem exists_answer_of_last {told : List (Poll α)} (hne : told ≠ []) (hl : told.getLast? ≠ some .pending) :
    ∃ m, (answers told).length = m + 1 := by
  refine Nat.exists_eq_succ_of_ne_zero fun h0 => hl ?_
  rw [answers, List.length_eq_zero_iff, List.filterMap_eq_nil_iff] at h0
  rw [List.getLast?_eq_some_getLast hne, answer?_eq_none_iff.mp (h0 _ (List.getLast_mem hne))]

/-- Any number of polls are a course. Where the last of them gives an answer, they ask for no page that the answers do not
demand. -/
theorem polls_course (source : PageSource σ α) (k : Nat) (p : Pager α) (s : σ) (log : List UInt32) :
    ∃ asked, polls source.noting k p (s, log) =
        ((polls source k p s).1, (polls source k p s).2.1, (polls source k p s).2.2, log ++ asked) ∧
      Course (p.position source s) asked (answers (polls source k p s).1)
        ((polls source k p s).2.1.position source (polls source k p s).2.2) ∧
      ((polls source k p s).1.getLast? ≠ some .pending →
        asked = (p.position source s).demanded (answers (polls source k p s).1).length) := by
  induction k generalizing p s log with
  | zero => exact ⟨[], by simp [polls], Course.refl _, fun _ => by simp [polls, answers]⟩
  | succ k ih =>
    obtain ⟨first, hf, cf, df⟩ := poll_course source p s log
    obtain ⟨rest, hr, cr, dr⟩ := ih (p.poll source s).2.1 (p.poll source s).2.2 (log ++ first)
    have hc := cf.trans cr
    rw [answers, answers, ← List.filterMap_append, List.singleton_append] at hc
    refine ⟨first ++ rest, ?_, hc, fun hl => ?_⟩
    · simp only [polls]
      rw [hf]
      simp only
      rw [hr, List.append_assoc]
    · cases k with
      | zero =>
        have hp : (p.poll source s).1 ≠ .pending := fun h => hl (by simp [polls, h])
        obtain ⟨a, ha⟩ := Option.ne_none_iff_exists'.mp (mt answer?_eq_none_iff.mp hp)
        rw [df hp, dr (by simp [polls])]
        simp [polls, answers, ha]
      | succ k =>
        have hl' : (polls source (k + 1) (p.poll source s).2.1 (p.poll source s).2.2).1.getLast? ≠ some .pending := by
          rwa [polls, List.getLast?_cons_of_ne_nil (by simp [polls])] at hl
        obtain ⟨m, hm⟩ := exists_answer_of_last (by simp [polls]) hl'
        rw [dr hl', hm, ← cf.demand m, ← hm, ← List.length_append, answers, answers, ← List.filterMap_append]
        rfl

/-! ## Progress -/

/-- After some number of polls there is an answer: every poll without one brings the end of the run nearer. -/
theorem exists_polls_answer (source : PageSource σ α) (p : Pager α) (s : σ) :
    ∃ k, (answers (polls source k p s).1).length = 1 := by
  induction hm : p.measure using descends_wf.induction generalizing p s with
  | _ m ih =>
    subst hm
    cases ht : (p.step source s).1.told? with
    | none =>
      have hd := step_descends source p s (by intro h; rw [h] at ht; cases ht)
      obtain ⟨k, hk⟩ := ih _ hd (p.step source s).2.1 (p.step source s).2.2 rfl
      cases k with
      | zero => simp [polls, answers] at hk
      | succ k =>
        refine ⟨k + 1, ?_⟩
        rw [polls, poll_of_silent ht]
        exact hk
    | some t =>
      by_cases hp : t = .pending
      · subst hp
        have hd := step_descends source p s (by intro h; rw [h] at ht; cases ht)
        obtain ⟨k, hk⟩ := ih _ hd (p.step source s).2.1 (p.step source s).2.2 rfl
        refine ⟨k + 1, ?_⟩
        rw [polls, poll_of_told ht]
        exact hk
      · refine ⟨1, ?_⟩
        rw [polls, poll_of_told ht]
        cases t <;> simp_all [answers, Poll.answer?, polls]

/-- Polled often enough a pager gives any number of answers. -/
theorem exists_polls_answers (source : PageSource σ α) (m : Nat) (p : Pager α) (s : σ) :
    ∃ k, (answers (polls source k p s).1).length = m := by
  induction m generalizing p s with
  | zero => exact ⟨0, rfl⟩
  | succ m ih =>
    obtain ⟨k, hk⟩ := exists_polls_answer source p s
    obtain ⟨j, hj⟩ := ih (polls source k p s).2.1 (polls source k p s).2.2
    refine ⟨k + j, ?_⟩
    rw [polls_add]
    simp only [answers, List.filterMap_append, List.length_append] at hk hj ⊢
    omega

/-! ## Fetches that are ready at once -/

/-- Whether the fetch under way, if there is one, is ready. -/
def IsReady : Pager α → Prop
  | .holding .. => True
  | .fetching _ fetch => fetch.pendings = 0

/-- Where every fetch is ready at once, so is one under way after a step. -/
theorem isReady_step {source : PageSource σ α} (hsource : ∀ n s, (source n s).1.pendings = 0) {p : Pager α} (hp : p.IsReady)
    (s : σ) : (p.step source s).2.1.IsReady := by
  match p with
  | .holding page (a :: items) next | .holding page [] none | .fetching page ⟨0, .error e⟩ => trivial
  | .fetching page ⟨n + 1, result⟩ => cases hp
  | .holding page [] (some next) => exact hsource next.val s
  | .fetching page ⟨0, .ok received⟩ =>
    simp only [step]
    cases h : receive page received with
    | error e => trivial
    | ok q =>
      obtain ⟨next, rfl⟩ := holding_of_receive h
      trivial

/-- A step of a pager whose fetch is ready does not tell "not yet". -/
theorem told?_ne_pending {source : PageSource σ α} {p : Pager α} (hp : p.IsReady) (s : σ) :
    (p.step source s).1.told? ≠ some .pending := by
  intro h
  match p with
  | .holding page (a :: items) next | .holding page [] none | .holding page [] (some next)
  | .fetching page ⟨0, .error e⟩ => cases h
  | .fetching page ⟨n + 1, result⟩ => cases hp
  | .fetching page ⟨0, .ok received⟩ =>
    simp only [step] at h
    cases hr : receive page received <;> rw [hr] at h <;> cases h

/-- Where every fetch is ready at once, a poll gives an answer. -/
theorem poll_of_isReady {source : PageSource σ α} (hsource : ∀ n s, (source n s).1.pendings = 0) {p : Pager α} (hp : p.IsReady)
    (s : σ) : (p.poll source s).1 ≠ .pending ∧ (p.poll source s).2.1.IsReady := by
  induction p, s using poll_induction source with
  | told p s t ht =>
    rw [poll_of_told ht]
    refine ⟨fun h => told?_ne_pending hp s (ht.trans (congrArg some h)), isReady_step hsource hp s⟩
  | silent p s ht ih =>
    rw [poll_of_silent ht]
    exact ih (isReady_step hsource hp s)

/-- There are as many answers as polls then, and the last poll gives one. -/
theorem answers_of_isReady {source : PageSource σ α} (hsource : ∀ n s, (source n s).1.pendings = 0) (k : Nat) {p : Pager α}
    (hp : p.IsReady) (s : σ) :
    (answers (polls source k p s).1).length = k ∧ (polls source k p s).1.getLast? ≠ some .pending := by
  induction k generalizing p s with
  | zero => exact ⟨rfl, nofun⟩
  | succ k ih =>
    obtain ⟨hpoll, hready⟩ := poll_of_isReady hsource hp s
    obtain ⟨hlength, hlast⟩ := ih hready (p.poll source s).2.2
    obtain ⟨a, ha⟩ := Option.ne_none_iff_exists'.mp (mt answer?_eq_none_iff.mp hpoll)
    refine ⟨?_, ?_⟩
    · rw [polls, answers, List.filterMap_cons_some ha]
      exact congrArg Nat.succ hlength
    · rw [polls, List.getLast?_cons]
      cases hrest : (polls source k (p.poll source s).2.1 (p.poll source s).2.2).1.getLast? with
      | none => simpa using hpoll
      | some t => simpa [hrest] using hlast

/-! ## After the end -/

/-- A pager that has ended is over. -/
theorem isOver_ended (source : PageSource σ α) (page : UInt32) : (Polled.pager source).IsOver (ended page) :=
  fun _ => poll_of_told (t := .finished) rfl

/-- It stays so, and asks for nothing. -/
theorem polls_ended (source : PageSource σ α) (page : UInt32) (k : Nat) (s : σ) :
    (polls source k (ended page) s).2 = (ended page, s) := by
  rw [polls_eq_times, (isOver_ended source page).times]

/-- A poll that tells the end or a failure leaves a pager that has ended. -/
theorem poll_last (source : PageSource σ α) (p : Pager α) (s : σ) {a : Option (Result α)}
    (ha : (p.poll source s).1.answer? = some a) (hl : IsLast a) : ∃ page, (p.poll source s).2.1 = ended page := by
  induction p, s using poll_induction source with
  | told p s t ht =>
    rw [poll_of_told ht] at ha ⊢
    match p with
    | .holding page (a :: items) next =>
      cases ht
      cases ha
      rcases hl with h | ⟨e, h⟩ <;> cases h
    | .holding page [] none => exact ⟨page, rfl⟩
    | .holding page [] (some next) => cases ht
    | .fetching page ⟨n + 1, result⟩ => cases ht; cases ha
    | .fetching page ⟨0, .error e⟩ => exact ⟨page, rfl⟩
    | .fetching page ⟨0, .ok received⟩ =>
      refine ⟨page, ?_⟩
      simp only [step] at ht ⊢
      cases h : receive page received with
      | ok q => rw [h] at ht; cases ht
      | error e => rfl
  | silent p s ht ih =>
    rw [poll_of_silent ht] at ha ⊢
    exact ih ha

/-- Polls that tell the end or a failure leave a pager that has ended. -/
theorem polls_last (source : PageSource σ α) (k : Nat) (p : Pager α) (s : σ) {a : Option (Result α)}
    (ha : a ∈ answers (polls source k p s).1) (hl : IsLast a) : ∃ page, (polls source k p s).2.1 = ended page := by
  induction k generalizing p s with
  | zero => simp [polls, answers] at ha
  | succ k ih =>
    simp only [polls, answers, List.mem_filterMap, List.mem_cons] at ha
    obtain ⟨t, rfl | ht, ha⟩ := ha
    · obtain ⟨page, hp⟩ := poll_last source p s ha hl
      refine ⟨page, ?_⟩
      simp only [polls]
      rw [hp, polls_ended]
    · exact ih _ _ (List.mem_filterMap.mpr ⟨t, ht, ha⟩)

end Pager

namespace Polled

/-- A pager whose fetches are ready at once is polled in an orderly way. -/
theorem isOrderly_pager {source : PageSource σ α} (hsource : ∀ n s, (source n s).1.pendings = 0) :
    (pager source).IsOrderly Pager.IsReady := by
  intro x s hx
  have hready : (pager source x s).1 ≠ .pending ∧ (pager source x s).2.1.IsReady := Pager.poll_of_isReady hsource hx s
  have hover {a : Option (Result α)} (ha : (pager source x s).1.answer? = some a) (hl : Pager.IsLast a) :
      (pager source).IsOver (pager source x s).2.1 := by
    obtain ⟨page, hp⟩ := Pager.poll_last source x s ha hl
    rw [show (pager source x s).2.1 = .ended page from hp]
    exact Pager.isOver_ended source page
  rcases ht : pager source x s with ⟨t, y, u⟩
  rw [ht] at hready hover
  cases t with
  | pending => exact absurd rfl hready.1
  | item a => exact .inl ⟨a, y, u, rfl, hready.2⟩
  | finished => exact .inr ⟨.inl rfl, hover rfl (.inl rfl)⟩
  | failed e => exact .inr ⟨.inr ⟨e, rfl⟩, hover rfl (.inr ⟨e, rfl⟩)⟩

end Polled

/-! ## What polls tell -/

namespace PageSource

open Pager

/-- Noting what is asked does not change what is told. -/
theorem told_noting (source : PageSource σ α) (s : σ) (k : Nat) :
    (polls source.noting k .start (s, [])).1 = source.told s k := by
  obtain ⟨asked, h, -⟩ := polls_course source k .start s []
  rw [h]
  rfl

/-- Polls from the beginning of a list are a course along its walk. -/
theorem told_course (source : PageSource σ α) (s : σ) (k : Nat) :
    ∃ y, Course ⟨[], (source.walk 1 s).1⟩ (source.asked s k) (answers (source.told s k)) y := by
  obtain ⟨asked, h, hc, -⟩ := polls_course source k .start s []
  rw [PageSource.asked, h, List.nil_append]
  exact ⟨_, hc⟩

/-- Polls of which the last gives an answer have asked for the pages that their answers demand. -/
theorem asked_eq_demanded (source : PageSource σ α) (s : σ) (k : Nat) (hl : (source.told s k).getLast? ≠ some .pending) :
    source.asked s k = Visit.demanded (answers (source.told s k)).length (source.walk 1 s).1 := by
  obtain ⟨asked, h, -, hd⟩ := polls_course source k .start s []
  rw [PageSource.asked, h, List.nil_append]
  exact hd hl

/-- The answers of polls are the first of what the list tells, and the end where it tells nothing more. -/
theorem answers_told (source : PageSource σ α) (s : σ) (k : Nat) :
    answers (source.told s k) = (List.range (answers (source.told s k)).length).map ((source.listing 1 s)[·]?) := by
  obtain ⟨y, hc⟩ := told_course source s k
  exact hc.answers_eq

/-- After an answer that is the last nothing is asked for. -/
theorem asked_after_last (source : PageSource σ α) (s : σ) (k j : Nat) {a : Option (Result α)}
    (ha : a ∈ answers (source.told s k)) (hl : IsLast a) : source.asked s (k + j) = source.asked s k := by
  rw [← told_noting] at ha
  obtain ⟨page, hp⟩ := polls_last source.noting k .start (s, []) ha hl
  rw [asked, polls_add, asked]
  simp only
  rw [hp, polls_ended]

/-- Polling a list tells what the plain walk tells. Whatever a source does, and however often it is polled: the answers are the
first of the listing from page 1, and the end for ever after it; the pages asked for are the first of the walk; any number of
answers comes after some number of polls. The answers, and the pages asked for when an answer is there, are the same when
fetches answer "not yet" more or less often. After the first failure or the end no page is asked for. -/
theorem told_follows_listing (source : PageSource σ α) (s : σ) (k : Nat) :
    answers (source.told s k) = (List.range (answers (source.told s k)).length).map ((source.listing 1 s)[·]?) ∧
      source.asked s k <+: Visit.pages (source.walk 1 s).1 ∧
      (∀ m, ∃ j, (answers (source.told s j)).length = m) ∧
      (∀ (pendings : UInt32 → σ → Nat) (j : Nat),
        (answers ((source.delayed pendings).told s j)).length = (answers (source.told s k)).length →
          answers ((source.delayed pendings).told s j) = answers (source.told s k) ∧
          ((source.told s k).getLast? ≠ some .pending → ((source.delayed pendings).told s j).getLast? ≠ some .pending →
            (source.delayed pendings).asked s j = source.asked s k)) ∧
      ∀ j, ∀ a ∈ answers (source.told s k), IsLast a → source.asked s (k + j) = source.asked s k := by
  refine ⟨answers_told source s k, ?_, fun m => exists_polls_answers source m .start s, fun pendings j hlen => ⟨?_, ?_⟩,
    fun j a ha hl => asked_after_last source s k j ha hl⟩
  · obtain ⟨y, hc⟩ := told_course source s k
    exact hc.asked_prefix.trans (Visit.demanded_prefix_pages _ _)
  · rw [answers_told, hlen, listing, walk_delayed, answers_told source s k, List.length_map, List.length_range]
    rfl
  · intro hk hj
    rw [asked_eq_demanded _ s j hj, asked_eq_demanded source s k hk, hlen, walk_delayed]

end PageSource

end ControlPlane
