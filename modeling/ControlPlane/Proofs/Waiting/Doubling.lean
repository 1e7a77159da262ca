import Mathlib.Algebra.Group.Nat.Defs
import ControlPlane.Proofs.Lengths
import ControlPlane.Proofs.Waiting.Schedule

/-!
# Delays that double

A delay that doubles is cut twice: to the longest length of time, and to the limit of the settings. The first cut never shows behind the
second one, so that a delay doubled some times is the power of two of the first one, or the limit: that is `Backoff.doubles_exactly`, down
to the words in which seconds and nanoseconds are held. The first delay itself is not cut. How long a wait sleeps after each answer is told
by `await_doubles`; a wait whose first delay is longer than the limit sleeps that long once (`not_delaysDouble`).
-/

namespace ControlPlane

namespace Job

open Duration

/-! ## Delays -/

namespace Backoff

/-- A delay that doubles up to a limit is cut to that limit and no shorter. -/
@[simp] theorem nanos_next_exponential (max current : Duration) :
    ((exponential max).next current).nanos = min (2 * current.nanos) max.nanos := by
  have h := nanos_le_longest max
  rw [next, nanos_shorter, nanos_double]
  omega

/-- A delay doubled some times, at least once, is the power of two of the first one, or the limit. -/
theorem nanos_iterate_next (max first : Duration) (k : Nat) :
    ((exponential max).next^[k + 1] first).nanos = min (first.nanos * 2 ^ (k + 1)) max.nanos := by
  induction k with
  | zero => rw [Function.iterate_one, nanos_next_exponential, Nat.pow_one, Nat.mul_comm]
  | succ k ih =>
    rw [Function.iterate_succ_apply', nanos_next_exponential, ih, Nat.pow_succ 2 (k + 1), ← Nat.mul_assoc]
    omega

/-- A delay that doubles up to a limit it has not passed is followed by one that is no shorter. -/
theorem nanos_le_next {max current : Duration} (h : current.nanos ≤ max.nanos) :
    current.nanos ≤ ((exponential max).next current).nanos := by
  rw [nanos_next_exponential]
  omega

/-- A delay that has come to the limit stays there. -/
theorem next_limit (max : Duration) : (exponential max).next max = max := by
  apply Duration.ext
  rw [nanos_next_exponential]
  omega

/-- In words, a delay is doubled with a carry and compared from the seconds on. -/
theorem next_toDuration (max current : Parts) :
    (exponential max.toDuration).next current.toDuration = (current.double.shorter max).toDuration := by
  rw [next, Parts.toDuration_shorter, Parts.toDuration_double]

/-- Delays that double up to a limit, from any first one on. Each of them but the first is the first one times a power of two, or the
limit where that is less, exact to the nanosecond: that doubling is cut to the longest length of time never shows. So each is within the
limit, and no shorter than the one before it; and from the limit on they stay there. In two words, where nanoseconds carry into the
seconds and the seconds may leave their word, the delays are the same. -/
theorem doubles_exactly (first max : Parts) :
    let next := (exponential max.toDuration).next
    let delay (k : Nat) : Duration := next^[k] first.toDuration
    (∀ k, delay k = ((fun p : Parts => p.double.shorter max)^[k] first).toDuration ∧
        (delay (k + 1)).nanos = min (2 * (delay k).nanos) max.total) ∧
      (∀ k, (delay (k + 1)).nanos = min (2 ^ (k + 1) * first.total) max.total ∧ (delay (k + 1)).nanos ≤ max.total ∧
        (delay (k + 1)).secs < 2 ^ 64 ∧ (delay (k + 1)).subsecNanos < 1000000000 ∧
        (delay (k + 1)).nanos ≤ (delay (k + 2)).nanos) ∧
      ∀ k j, delay k = max.toDuration → delay (k + j) = max.toDuration := by
  intro next delay
  have hwords : Function.Semiconj Parts.toDuration (fun p => p.double.shorter max) next :=
    fun p => (next_toDuration max p).symm
  have hstep : ∀ k, delay (k + 1) = next (delay k) := fun k => Function.iterate_succ_apply' next k _
  have hclosed : ∀ k, (delay (k + 1)).nanos = min (2 ^ (k + 1) * first.total) max.total := by
    intro k
    rw [Nat.mul_comm]
    exact nanos_iterate_next max.toDuration first.toDuration k
  have hle : ∀ k, (delay (k + 1)).nanos ≤ max.total := by
    intro k
    rw [hclosed]
    exact Nat.min_le_right _ _
  refine ⟨fun k => ⟨?_, ?_⟩, fun k => ⟨hclosed k, hle k, secs_lt _, subsecNanos_lt _, ?_⟩, ?_⟩
  · exact (hwords.iterate_right k first).symm
  · rw [hstep]
    exact nanos_next_exponential max.toDuration (delay k)
  · rw [hstep (k + 1)]
    exact nanos_le_next (hle k)
  · intro k j hlimit
    have hfixed : next max.toDuration = max.toDuration := next_limit max.toDuration
    rw [Nat.add_comm]
    simp only [delay] at hlimit ⊢
    rw [Function.iterate_add_apply, hlimit]
    exact Function.iterate_fixed hfixed j

/-- Half of the seconds that a word can tell, and half a second: twice as long is more than the longest length of time, and the delay is
the limit from then on, one nanosecond below the longest. -/
theorem doubles_exactly_beyond :
    let first : Parts := ⟨0x8000000000000000, 500000000, by decide⟩
    let max : Parts := ⟨0xffffffffffffffff, 999999998, by decide⟩
    let next := (exponential max.toDuration).next
    first.double = Parts.longest ∧ next^[1] first.toDuration = max.toDuration ∧ ∀ j, next^[1 + j] first.toDuration = max.toDuration := by
  intro first max next
  obtain ⟨-, hclosed, hstays⟩ := doubles_exactly first max
  have hlimit : next^[1] first.toDuration = max.toDuration := by
    refine Duration.ext ((hclosed 0).1.trans ?_)
    decide
  exact ⟨by decide, hlimit, fun j => hstays 1 j hlimit⟩

end Backoff

namespace PollSettings

variable {settings : PollSettings} {max : Duration}

/-- The delay after an answer but the first is the first delay times a power of two, or the limit. -/
theorem nanos_delay (hb : settings.backoff = .exponential max) (handle : Handle) {k : Nat} (hk : 0 < k) :
    (settings.delay handle k).nanos = min ((settings.firstDelay handle).nanos * 2 ^ k) max.nanos := by
  obtain ⟨k, rfl⟩ := Nat.exists_eq_add_one_of_ne_zero (Nat.ne_of_gt hk)
  rw [delay, hb]
  exact Backoff.nanos_iterate_next max _ k

/-- Delays that double up to a limit never decrease, from one that has not passed the limit on. -/
theorem nanos_delay_le (hb : settings.backoff = .exponential max) {handle : Handle} {k : Nat}
    (h : (settings.delay handle k).nanos ≤ max.nanos) :
    (settings.delay handle k).nanos ≤ (settings.delay handle (k + 1)).nanos := by
  rw [delay_succ, hb]
  exact Backoff.nanos_le_next h

end PollSettings

/-! ## Waits for a job -/

/-- A wait whose answers all arrive makes the requests that its settings say, if the clock can tell its time limit, and else none. -/
theorem await_request_iff {answers : Nat → Answer} {latency : Nat → Nat} (hall : ∀ i, (answers i).latency = some (latency i))
    (handle : Handle) (settings : PollSettings) (allowed now : Nat) {i : Nat} {r : Nat × String} :
    (await (answering answers) handle settings allowed now 0).requests[i]? = some r ↔
      (∀ t ∈ settings.timeout, now * perMilli + t.nanos < clockLimit) ∧ i < allowed ∧
        (∀ j < i, settings.GoesOn handle answers latency j) ∧
        r = (now + askedAfter latency (settings.delay handle) i, handle.id) := by
  by_cases hclock : ∀ t ∈ settings.timeout, now * perMilli + t.nanos < clockLimit
  · rw [await_eq_run_of_lt (answering answers) handle settings allowed 0 hclock]
    exact (PollSettings.request_iff hall hclock).trans (and_iff_right hclock).symm
  · rw [await_of_overflow (answering answers) handle allowed 0 hclock]
    exact iff_of_false nofun fun h => hclock h.1

/-- What a wait does whose delays double, while it is told that the job is not done. It asks at its start. After each answer it sleeps for
the delay, if that is over within its limit, and asks again; else it does not. The delay after the first answer is the first delay of the
settings, whatever their limit for delays. Each delay after that is the first one times a power of two, or the limit where that is less,
exact to the nanosecond; so it does not pass the limit, and is no shorter than the one before it. Where the first delay does not pass the
limit, the same holds of all of them. -/
theorem await_doubles (answers : Nat → Answer) (latency : Nat → Nat) (hall : ∀ i, (answers i).latency = some (latency i))
    (hopen : ∀ i, (answers i).IsOpen) (handle : Handle) (settings : PollSettings) (max : Duration)
    (hb : settings.backoff = .exponential max) (allowed now : Nat) :
    let first := settings.firstDelay handle
    let delay := settings.delay handle
    let line := await (answering answers) handle settings allowed now 0
    ((∀ t ∈ settings.timeout, now * perMilli + t.nanos < clockLimit) → 0 < allowed → line.requests[0]? = some (now, handle.id)) ∧
      (∀ k r, line.requests[k]? = some r → k + 1 < allowed →
        (settings.HasRoom (r.1 + latency k - now) (delay k) →
          line.requests[k + 1]? = some (r.1 + latency k + sleepMillis (delay k), handle.id)) ∧
        (¬settings.HasRoom (r.1 + latency k - now) (delay k) → line.requests[k + 1]? = none)) ∧
      delay 0 = first ∧
      (∀ k > 0, (delay k).nanos = min (first.nanos * 2 ^ k) max.nanos ∧ (delay k).nanos ≤ max.nanos ∧
        (delay k).nanos ≤ (delay (k + 1)).nanos) ∧
      (first.nanos ≤ max.nanos → ∀ k, (delay k).nanos = min (first.nanos * 2 ^ k) max.nanos ∧ (delay k).nanos ≤ max.nanos ∧
        (delay k).nanos ≤ (delay (k + 1)).nanos) := by
  intro first delay line
  have hmade : ∀ {i r}, line.requests[i]? = some r ↔ _ := await_request_iff hall handle settings allowed now
  have hlater : ∀ k > 0, (delay k).nanos = min (first.nanos * 2 ^ k) max.nanos ∧ (delay k).nanos ≤ max.nanos ∧
      (delay k).nanos ≤ (delay (k + 1)).nanos := by
    intro k hk
    have hnanos := PollSettings.nanos_delay hb handle hk
    have hle : (delay k).nanos ≤ max.nanos := hnanos ▸ Nat.min_le_right _ _
    exact ⟨hnanos, hle, PollSettings.nanos_delay_le hb hle⟩
  refine ⟨?_, ?_, rfl, hlater, ?_⟩
  · intro hclock hallowed
    exact hmade.mpr ⟨hclock, hallowed, nofun, rfl⟩
  · intro k r hr hk
    obtain ⟨hclock, -, hbefore, rfl⟩ := hmade.mp hr
    have hpassed : now + askedAfter latency delay k + latency k - now = askedAfter latency delay k + latency k := by omega
    simp only [delay] at hpassed ⊢
    rw [hpassed]
    constructor
    · intro hroom
      refine hmade.mpr ⟨hclock, hk, ?_, ?_⟩
      · intro j hj
        rcases Nat.lt_succ_iff_lt_or_eq.mp hj with hj | rfl
        · exact hbefore j hj
        · exact ⟨hopen j, hroom⟩
      · simp only [askedAfter, Nat.add_assoc]
    · intro hroom
      refine Option.eq_none_iff_forall_ne_some.mpr fun next hnext => hroom ?_
      obtain ⟨-, -, hgone, -⟩ := hmade.mp hnext
      exact (hgone k (Nat.lt_succ_self k)).2
  · intro hle k
    rcases Nat.eq_zero_or_pos k with rfl | hk
    · have hfirst : (delay 0).nanos = first.nanos := rfl
      refine ⟨?_, hle, PollSettings.nanos_delay_le hb hle⟩
      rw [hfirst, Nat.pow_zero, Nat.mul_one, Nat.min_eq_left hle]
    · exact hlater k hk

/-- Delays of 3 s that double up to 5 s, within a limit of 20 s. -/
theorem await_doubles_cut :
    let settings : PollSettings :=
      { interval := some (.clamp 3000000000), timeout := some (.clamp 20000000000), backoff := .exponential (.clamp 5000000000) }
    let answers : Nat → Answer := fun _ => ⟨some 2, .ok ⟨.running, none⟩⟩
    let line := await (answering answers) ⟨"job-1", none⟩ settings 300 7 0
    ((∀ i, (answers i).latency = some 2) ∧ (∀ i, (answers i).IsOpen) ∧ settings.backoff = .exponential (.clamp 5000000000)) ∧
      line.requests[0]? = some (7, "job-1") ∧ line.requests[1]? = some (3009, "job-1") ∧ line.requests[2]? = some (8011, "job-1") ∧
      ∀ k, (settings.delay ⟨"job-1", none⟩ k).nanos = min (3000000000 * 2 ^ k) 5000000000 := by
  intro settings answers line
  have hopen : ∀ i, (answers i).IsOpen := fun i => ⟨_, rfl, rfl⟩
  obtain ⟨hstart, hnext, -, -, hnanos⟩ := await_doubles answers (fun _ => 2) (fun i => rfl) hopen ⟨"job-1", none⟩ settings
    (.clamp 5000000000) rfl 300 7
  have hclock : ∀ t ∈ settings.timeout, 7 * perMilli + t.nanos < clockLimit := by
    rintro t ⟨⟩
    decide
  have hroom : ∀ passed ∈ [2, 3004], ∀ k ∈ [0, 1], settings.HasRoom passed (settings.delay ⟨"job-1", none⟩ k) := by
    rintro passed hpassed k hk t ⟨⟩
    revert k
    revert passed
    decide
  have hsleeps : sleepMillis (settings.delay ⟨"job-1", none⟩ 0) = 3000 ∧ sleepMillis (settings.delay ⟨"job-1", none⟩ 1) = 5000 := by
    decide
  have hfirst := hstart hclock (by decide)
  have hsecond := (hnext 0 _ hfirst (by decide)).1 (hroom _ (by decide) _ (by decide))
  rw [hsleeps.1] at hsecond
  have hthird := (hnext 1 _ hsecond (by decide)).1 (hroom _ (by decide) _ (by decide))
  rw [hsleeps.2] at hthird
  exact ⟨⟨fun i => rfl, hopen, rfl⟩, hfirst, hsecond, hthird, fun k => (hnanos (by decide) k).1⟩

/-- Whether every delay of a wait, also the first one, is the first delay times a power of two, or the limit for delays. -/
def DelaysDouble {σ : Type} (line : Timeline σ Unit) (latency : Nat → Nat) (first max : Duration) : Prop :=
  ∀ k r next, line.requests[k]? = some r → line.requests[k + 1]? = some next →
    next.1 = r.1 + latency k + ceilMillis (min (first.nanos * 2 ^ k) max.nanos)

/-- A first delay of 10 s is not cut to a limit of 5 s, as the delays after it are. -/
theorem not_delaysDouble :
    ¬DelaysDouble
      (await (answering fun _ => ⟨some 0, .ok ⟨.running, none⟩⟩) ⟨"job-1", none⟩
        { interval := some (.clamp 10000000000), timeout := some (.clamp 12000000000), backoff := .exponential (.clamp 5000000000) } 300 0 0)
      (fun _ => 0) (.clamp 10000000000) (.clamp 5000000000) := by
  intro h
  exact absurd (h 0 (0, "job-1") (10000, "job-1") rfl rfl) (by decide)

end Job

end ControlPlane
