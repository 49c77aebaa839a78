import BoxOffice.Rehearsal.Fixtures
import BoxOffice.Rehearsal.Stage
import BoxOffice.Retry.Loop
import BoxOffice.Text.Search

/-!
# Trials

An operation whose outcomes are laid out is tried again as a policy allows. Where the outcomes are
listed, the last one listed is the outcome of every further try.
-/

namespace BoxOffice.Rehearsal

variable {ε α : Type}

/-- An operation that can be tried. -/
def Operation (ε α : Type) : Interface where
  Call := Unit
  Reply _ := Except ε α

/-- An operation that waits between tries. -/
abbrev TrialWorld (ε α : Type) : Interface :=
  (Operation ε α).sum Surroundings

/-- A trial under way. -/
structure Trial (ε α : Type) where
  stage : Stage
  /-- The outcome of every try, counted from zero. -/
  script : Nat → Except ε α
  /-- When the operation was tried, the last try first. -/
  tries : List Delay

namespace Trial

/-- A trial in which nothing was tried yet. -/
def opening (stage : Stage) (script : Nat → Except ε α) : Trial ε α :=
  { stage, script, tries := [] }

/-- A trial whose outcomes are listed. -/
def start (next : Except ε α) (later : List (Except ε α)) : Trial ε α :=
  opening (.start t0) fun n => (next :: later).getD n (later.getLastD next)

/-- The outcome of the next try. -/
def next (t : Trial ε α) : Except ε α :=
  t.script t.tries.length

/-- The trial after a try. -/
def tried (t : Trial ε α) : Trial ε α :=
  { t with tries := t.stage.elapsed :: t.tries }

/-- Answers a call of a trial. -/
def answer (t : Trial ε α) :
    (c : (TrialWorld ε α).Call) → Except Breakdown ((TrialWorld ε α).Reply c) × Trial ε α
  | .inl () => (.ok t.next, t.tried)
  | .inr c =>
    let (reply, stage) := t.stage.answer c
    (reply, { t with stage })

/-- The operation, tried as a policy allows. -/
def program (policy : RetryPolicy) (isRetryable : ε → Bool) :
    Program (TrialWorld ε α) (Except ε α) :=
  policy.retry isRetryable (Offers.call (J := Operation ε α) ())

/-- Tries the operation as a policy allows. -/
def retry (policy : RetryPolicy) (isRetryable : ε → Bool) (t : Trial ε α) :
    Except Breakdown (Except ε α) × Trial ε α :=
  ((program policy isRetryable).run (m := Play (Trial ε α))
    fun c => ExceptT.mk fun t => t.answer c).run.run t

/-- Tries the operation as a policy allows; an error is worth another try if it contains a text. -/
def run (policy : RetryPolicy) (worthwhile : String) (t : Trial String Int) :
    Except Breakdown (Except String Int) × Trial String Int :=
  t.retry policy (Text.occursIn worthwhile)

end Trial

end BoxOffice.Rehearsal
