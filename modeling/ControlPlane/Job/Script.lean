import ControlPlane.Job.Wait

/-!
# Scripted statuses

A source of statuses that is written down beforehand: the requests get the answers of a list one after another. It serves
to say what a wait does against statuses that are known.
-/

namespace ControlPlane.Job

/-- The answers to the requests for a status, in their order. -/
structure Script where
  answers : List Answer
  /-- Whether the last answer is given again and again. -/
  repeatLast : Bool := false
  /-- After how many requests nothing is known of the job any more. -/
  limit : Nat := 300

namespace Script

/-- The answer to a request beyond the script. -/
def beyond : Answer := ⟨some 0, .error (.api "no status" (some 404) none)⟩

/-- The answer to the request with a number, counted from zero. -/
def answer (script : Script) (i : Nat) : Answer :=
  if script.limit ≤ i then beyond
  else
    match script.answers[i]?, script.repeatLast with
    | some a, _ => a
    | none, true => script.answers.getLast?.getD beyond
    | none, false => beyond

/-- The source that counts the requests made so far. -/
def source (script : Script) : StatusSource Nat := fun _ _ i => (script.answer i, i + 1)

end Script

end ControlPlane.Job
