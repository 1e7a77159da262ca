import ControlPlane.Proofs.Waiting.Budget

/-!
# What a wait without a limit comes to

Where no limit ends a wait, an answer does, or none. So the outcome of the wait and the number of its requests are those of
`Wait.settled`, which goes through the answers and looks at no clock (`Wait.run_settled`). The main statement is
`await_follows_answers`: the first answer that decides is the outcome, and waits that differ in nothing but their delays and the
times of their answers come to the same after as many requests.
-/

namespace ControlPlane.Job

/-- The source that gives answers one after another, whatever the job and the time. -/
def answering (answers : Nat → Answer) : StatusSource Nat := fun _ _ i => (answers i, i + 1)

/-! ## Answers -/

namespace Answer

/-- Whether an answer says that the job is not done. -/
def IsOpen (a : Answer) : Prop := ∃ status, a.result = .ok status ∧ status.state.isTerminal = false

/-- What the wait for a job comes to with an answer that ends it. -/
inductive Decides (job : String) (a : Answer) : Except Halt Unit → Prop
  | finished {status : Status} : a.result = .ok status → status.state = .finished → Decides job a (.ok ())
  /-- The job failed, and its last status says why. -/
  | failed {status : Status} {error : Error} : a.result = .ok status → status.state = .failed → status.error = some error →
      Decides job a (.error (.failure (.jobFailed job error.code error.description)))
  /-- The job failed, and its last status does not say why. -/
  | unexplained {status : Status} : a.result = .ok status → status.state = .failed → status.error = none →
      Decides job a (.error (.failure (.jobFailed job "UnknownError" "job failed")))
  /-- The request itself failed. -/
  | refused {e : Failure} : a.result = .error e → Decides job a (.error (.failure e))

end Answer

namespace Wait

variable {w : Wait} {a : Answer} {answers : Nat → Answer}

/-- A job that is not done does not end a wait. -/
theorem verdict_of_isOpen (h : a.IsOpen) : w.verdict a.result = none := by
  obtain ⟨status, hr, ht⟩ := h
  rw [hr, verdict]
  cases hs : status.state with
  | queued => simp
  | running => simp
  | finished =>
    rw [hs] at ht
    cases ht
  | failed =>
    rw [hs] at ht
    cases ht

/-- An answer that decides ends a wait. -/
theorem verdict_of_decides {outcome : Except Halt Unit} (h : a.Decides w.job outcome) : w.verdict a.result = some outcome := by
  cases h with
  | finished hr hs => simp [verdict, hr, hs]
  | failed hr hs he => simp [verdict, hr, hs, Status.failure, he]
  | unexplained hr hs he =>
    simp [verdict, hr, hs, Status.failure, he, Error.unknown, Error.unknownCode, Error.unknownDescription]
  | refused hr => simp [verdict, hr]

/-! ## Waits that look at no clock -/

/-- What a wait comes to that looks at the answers alone, from one of them on, and after how many requests. -/
def settled (w : Wait) (answers : Nat → Answer) : Nat → Nat → Except Halt Unit × Nat
  | 0, _ => (.error .exhausted, 0)
  | allowed + 1, i =>
    match w.verdict (answers i).result with
    | some outcome => (outcome, 1)
    | none => ((settled w answers allowed (i + 1)).1, (settled w answers allowed (i + 1)).2 + 1)

/-- Where no limit is set, a round ends with what its answer means for the wait, or goes on after the delay. -/
theorem round_unlimited (hd : w.deadline = none) {latency : Nat} (hl : a.latency = some latency) (delay : Duration) (now : Nat) :
    w.round a delay now =
      match w.verdict a.result with
      | some outcome => .ends outcome (now + latency)
      | none => .asks (wake (now + latency) delay) := by
  have harrival : w.arrival now a.latency = .ok (now + latency) := by simp only [arrival, limit, hd, hl, Option.map_none]
  have hnext : w.nextRequest (now + latency) delay = .ok (wake (now + latency) delay) := by simp only [nextRequest, hd]
  cases hv : w.verdict a.result with
  | some outcome => simp only [round, harrival, hv]
  | none => simp only [round, harrival, hv, hnext]

/-- A wait without a limit whose answers all arrive comes to what it would if it looked at no clock. -/
theorem run_settled (hd : w.deadline = none) (hall : ∀ i, (answers i).latency.isSome = true) (allowed : Nat) (delay : Duration)
    (now i : Nat) :
    (w.run (answering answers) allowed delay now i).outcome = (w.settled answers allowed i).1 ∧
      (w.run (answering answers) allowed delay now i).requests.map (·.2) =
        List.replicate (w.settled answers allowed i).2 w.job := by
  induction allowed generalizing delay now i with
  | zero => exact ⟨rfl, rfl⟩
  | succ allowed ih =>
    obtain ⟨latency, hl⟩ := Option.isSome_iff_exists.mp (hall i)
    have hround := round_unlimited hd hl delay now
    rw [run_succ, settled]
    cases hv : w.verdict (answers i).result with
    | some outcome =>
      rw [hv] at hround
      simp only [answering, hround]
      exact ⟨rfl, rfl⟩
    | none =>
      rw [hv] at hround
      obtain ⟨houtcome, hasked⟩ := ih (w.backoff.next delay) (wake (now + latency) delay) (i + 1)
      simp only [answering, hround]
      refine ⟨houtcome, ?_⟩
      rw [Timeline.requests_after_asked, List.map_cons, List.replicate_succ]
      exact congrArg (w.job :: ·) hasked

/-- The first answer that decides is what a wait comes to that looks at no clock. -/
theorem settled_of_decides {i : Nat} {outcome : Except Halt Unit} (hopen : ∀ j < i, (answers j).IsOpen)
    (hdecides : (answers i).Decides w.job outcome) (allowed : Nat) :
    ∀ k ≤ i, i < k + allowed → w.settled answers allowed k = (outcome, i - k + 1) := by
  induction allowed with
  | zero =>
    intro k hk hi
    omega
  | succ allowed ih =>
    intro k hk hi
    rw [settled]
    rcases Nat.eq_or_lt_of_le hk with rfl | hlt
    · rw [verdict_of_decides hdecides]
      simp
    · have hrest := ih (k + 1) hlt (by omega)
      rw [verdict_of_isOpen (hopen k hlt)]
      simp only [hrest, Prod.mk.injEq, true_and]
      omega

/-- Waits for the same job that are told the same come to the same where they look at no clock. -/
theorem settled_congr {w' : Wait} (hjob : w'.job = w.job) {answers' : Nat → Answer}
    (hsame : ∀ i, (answers' i).result = (answers i).result) (allowed i : Nat) :
    w'.settled answers' allowed i = w.settled answers allowed i := by
  have hverdict : ∀ r, w'.verdict r = w.verdict r := by
    intro r
    simp only [verdict, hjob]
  induction allowed generalizing i with
  | zero => rfl
  | succ allowed ih => simp only [settled, hverdict, hsame, ih]

end Wait

/-! ## Waits for a job -/

/-- The wait for a job without a time limit, where all answers arrive. -/
theorem await_settled {answers : Nat → Answer} (hall : ∀ i, (answers i).latency.isSome = true) (handle : Handle)
    {settings : PollSettings} (ht : settings.timeout = none) (allowed now : Nat) :
    ∃ w : Wait, w.job = handle.id ∧
      (await (answering answers) handle settings allowed now 0).outcome = (w.settled answers allowed 0).1 ∧
      (await (answering answers) handle settings allowed now 0).requests.map (·.2) =
        List.replicate (w.settled answers allowed 0).2 handle.id := by
  have hclock : ∀ t ∈ settings.timeout, now * Duration.perMilli + t.nanos < clockLimit := by
    intro t hmem
    rw [ht] at hmem
    cases hmem
  refine ⟨⟨handle.id, now, none, settings.backoff⟩, rfl, ?_⟩
  rw [await_eq_run_of_lt (answering answers) handle settings allowed 0 hclock, ht, Option.map_none]
  exact Wait.run_settled rfl hall allowed (settings.firstDelay handle) now 0

/-- Without a time limit, a wait for a job depends on what it is told alone, where all answers arrive. It comes to the first answer that
decides, after one request for the job and one for each answer before; and with other delays, and answers that say the same but come at
other times, it comes to the same after as many requests, however many it is allowed. -/
theorem await_follows_answers (answers : Nat → Answer) (hall : ∀ i, (answers i).latency.isSome = true) (handle : Handle)
    (settings : PollSettings) (ht : settings.timeout = none) (allowed now : Nat) :
    let line := await (answering answers) handle settings allowed now 0
    (∀ i outcome, (∀ j < i, (answers j).IsOpen) → (answers i).Decides handle.id outcome → i < allowed →
        line.outcome = outcome ∧ line.requests.map (·.2) = List.replicate (i + 1) handle.id) ∧
      ∀ (answers' : Nat → Answer) (handle' : Handle) (settings' : PollSettings) (now' : Nat),
        (∀ i, (answers' i).result = (answers i).result ∧ (answers' i).latency.isSome = true) → handle'.id = handle.id →
        settings'.timeout = none →
        let other := await (answering answers') handle' settings' allowed now' 0
        other.outcome = line.outcome ∧ other.requests.map (·.2) = line.requests.map (·.2) := by
  intro line
  obtain ⟨w, hjob, houtcome, hasked⟩ := await_settled hall handle ht allowed now
  constructor
  · intro i outcome hopen hdecides hi
    have hsettled := Wait.settled_of_decides hopen (hjob ▸ hdecides) allowed 0 (Nat.zero_le i) (by omega)
    rw [hsettled] at houtcome hasked
    exact ⟨houtcome, hasked⟩
  · intro answers' handle' settings' now' hsame hid ht' other
    obtain ⟨w', hjob', houtcome', hasked'⟩ := await_settled (fun i => (hsame i).2) handle' ht' allowed now'
    have hcongr : w'.settled answers' allowed 0 = w.settled answers allowed 0 :=
      Wait.settled_congr (by rw [hjob', hjob, hid]) (fun i => (hsame i).1) allowed 0
    rw [hcongr] at houtcome' hasked'
    rw [hid] at hasked'
    exact ⟨houtcome'.trans houtcome.symm, hasked'.trans hasked.symm⟩

/-- A job that is running, with an error that does not count yet, and then fails without saying why. With delays that double, and a
second answer that takes a minute, the wait comes to the same. -/
theorem await_follows_answers_failing :
    let answers (latency : Nat) : Nat → Answer := fun i =>
      if i = 0 then ⟨some 3, .ok ⟨.running, some ⟨"CF-Busy", "in progress"⟩⟩⟩ else ⟨some latency, .ok ⟨.failed, none⟩⟩
    let line := await (answering (answers 0)) ⟨"job-1", none⟩ {} 5 0 0
    let other := await (answering (answers 60000)) ⟨"job-1", some .zero⟩ { backoff := .exponential (.ofSecs 5) } 5 7 0
    (∀ i, (answers 0 i).latency.isSome = true) ∧ (answers 0 0).IsOpen ∧
      line.outcome = .error (.failure (.jobFailed "job-1" "UnknownError" "job failed")) ∧
      line.requests.map (·.2) = ["job-1", "job-1"] ∧
      other.outcome = line.outcome ∧ other.requests.map (·.2) = line.requests.map (·.2) := by
  intro answers line other
  have hall : ∀ latency i, (answers latency i).latency.isSome = true := by
    intro latency i
    simp only [answers]
    split <;> rfl
  have hsame : ∀ i, (answers 60000 i).result = (answers 0 i).result := by
    intro i
    simp only [answers]
    split <;> rfl
  have hopen : (answers 0 0).IsOpen := ⟨_, rfl, rfl⟩
  have hdecides : (answers 0 1).Decides "job-1" (.error (.failure (.jobFailed "job-1" "UnknownError" "job failed"))) :=
    .unexplained (show (answers 0 1).result = .ok ⟨.failed, none⟩ from rfl) rfl rfl
  obtain ⟨hfirst, hboth⟩ := await_follows_answers (answers 0) (hall 0) ⟨"job-1", none⟩ {} rfl 5 0
  obtain ⟨houtcome, hasked⟩ := hfirst 1 _ (by intro j hj; rw [Nat.lt_one_iff.mp hj]; exact hopen) hdecides (by decide)
  obtain ⟨hsameOutcome, hsameAsked⟩ := hboth (answers 60000) ⟨"job-1", some .zero⟩ { backoff := .exponential (.ofSecs 5) } 7
    (fun i => ⟨hsame i, hall 60000 i⟩) rfl rfl
  exact ⟨hall 0, hopen, houtcome, hasked, hsameOutcome, hsameAsked⟩

end ControlPlane.Job
