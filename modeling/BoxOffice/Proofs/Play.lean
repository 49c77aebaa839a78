import BoxOffice.Program.Service
import BoxOffice.Rehearsal.Stage

/-!
# Playing programs

A part of the world answers a call in a state, and the answer leaves a state behind. `play` puts such
answers behind a program: `play_ask` follows one call, `play_bind` says that programs are played one
after the other. A service is played on with what it ends with, unless that is an error. Which calls a
program may come to make is said by `Only`; what the answers to such calls keep of a state, the whole
program keeps (`Only.play`).
-/

namespace BoxOffice

open Rehearsal

variable {I : Interface} {ε σ α β : Type}

/-- Plays a program in a state, with answers that may break down: what comes of it, and the state
that is left behind. -/
def Program.play (answer : σ → (c : I.Call) → Except ε (I.Reply c) × σ)
    (p : Program I α) (w : σ) : Except ε α × σ :=
  (p.run (m := ExceptT ε (StateM σ)) fun c => ExceptT.mk fun w => answer w c).run.run w

namespace Program

variable {answer : σ → (c : I.Call) → Except ε (I.Reply c) × σ}

@[simp] theorem play_done (a : α) (w : σ) : (done a : Program I α).play answer w = (.ok a, w) := rfl

theorem play_ask (c : I.Call) (k : I.Reply c → Program I α) (w : σ) :
    (ask c k).play answer w =
      match answer w c with
      | (.ok reply, w) => (k reply).play answer w
      | (.error b, w) => (.error b, w) := by
  have replied : StateT.run (ExceptT.mk fun w => answer w c : ExceptT ε (StateM σ) _).run w =
      (pure (answer w c) : Id _) := rfl
  simp only [play, run, ExceptT.run_bind, StateT.run_bind, replied, pure_bind]
  rcases answer w c with ⟨b | reply, w⟩ <;> rfl

theorem play_ask_of_ok {c : I.Call} {k : I.Reply c → Program I α} {w w' : σ} {reply : I.Reply c}
    (h : answer w c = (.ok reply, w')) :
    (ask c k).play answer w = (k reply).play answer w' := by
  rw [play_ask, h]

theorem play_ask_of_error {c : I.Call} {k : I.Reply c → Program I α} {w w' : σ} {b : ε}
    (h : answer w c = (.error b, w')) : (ask c k).play answer w = (.error b, w') := by
  rw [play_ask, h]

theorem play_bind (p : Program I α) (k : α → Program I β) (w : σ) :
    (p.bind k).play answer w =
      match p.play answer w with
      | (.ok a, w) => (k a).play answer w
      | (.error b, w) => (.error b, w) := by
  induction p generalizing w with
  | done a => rfl
  | ask c next ih =>
    simp only [bind, play_ask]
    rcases answer w c with ⟨b | reply, w⟩
    · rfl
    · exact ih reply w

end Program

/-! ### The calls of a program -/

/-- Every call that a program may come to make, whatever it is answered, is of some kind. -/
def Program.Only (P : I.Call → Prop) : Program I α → Prop
  | .done _ => True
  | .ask c k => P c ∧ ∀ reply, (k reply).Only P

namespace Program.Only

variable {P Q : I.Call → Prop} {p : Program I α}
  {answer : σ → (c : I.Call) → Except ε (I.Reply c) × σ}

theorem mono (h : p.Only P) (le : ∀ c, P c → Q c) : p.Only Q := by
  induction p with
  | done a => trivial
  | ask c k ih => exact ⟨le c h.1, fun reply => ih reply (h.2 reply)⟩

theorem bind {k : α → Program I β} (first : p.Only P) (rest : ∀ a, (k a).Only P) :
    (p >>= k).Only P := by
  induction p with
  | done a => exact rest a
  | ask c next ih => exact ⟨first.1, fun reply => ih reply (first.2 reply)⟩

theorem any (p : Program I α) : p.Only fun _ => True := by
  induction p with
  | done a => trivial
  | ask c k ih => exact ⟨trivial, ih⟩

/-- What the answers to calls of some kind keep of a state, programs with only such calls keep. -/
theorem play {R : σ → Prop} (h : p.Only P) (step : ∀ w c, P c → R w → R (answer w c).2) {w : σ}
    (start : R w) : R (p.play answer w).2 := by
  induction p generalizing w with
  | done a => exact start
  | ask c k ih =>
    have kept := step w c h.1 start
    rw [play_ask]
    cases answered : answer w c with
    | mk reply w' =>
      rw [answered] at kept
      cases reply with
      | error b => exact kept
      | ok reply => exact ih reply (h.2 reply) kept

end Program.Only

/-- Every call that a program may come to make is of some kind, if it is answered as it may be. -/
def Program.OnlyIf (may : (c : I.Call) → I.Reply c → Prop) (P : I.Call → Prop) : Program I α → Prop
  | .done _ => True
  | .ask c k => P c ∧ ∀ reply, may c reply → (k reply).OnlyIf may P

theorem Program.OnlyIf.bind {may : (c : I.Call) → I.Reply c → Prop} {P : I.Call → Prop}
    {p : Program I α} {k : α → Program I β} (first : p.OnlyIf may P)
    (rest : ∀ a, (k a).OnlyIf may P) : (p >>= k).OnlyIf may P := by
  induction p with
  | done a => exact rest a
  | ask c next ih => exact ⟨first.1, fun reply may => ih reply (first.2 reply may)⟩

/-- What every answer keeps of a state, every program keeps. -/
theorem Program.play_keeps {answer : σ → (c : I.Call) → Except ε (I.Reply c) × σ}
    {R : σ → Prop} (step : ∀ w c, R w → R (answer w c).2) (p : Program I α) {w : σ}
    (start : R w) : R (p.play answer w).2 :=
  (Only.any p).play (fun w c _ => step w c) start

namespace Service

variable {answer : σ → (c : I.Call) → Except ε (I.Reply c) × σ}

@[simp] theorem play_pure (a : α) (w : σ) :
    (pure a : Service I α).run.play answer w = (.ok (.ok a), w) := rfl

@[simp] theorem play_throw (e : Error) (w : σ) :
    (throw e : Service I α).run.play answer w = (.ok (.error e), w) := rfl

theorem play_bind (s : Service I α) (k : α → Service I β) (w : σ) :
    (s >>= k).run.play answer w =
      match s.run.play answer w with
      | (.ok (.ok a), w) => (k a).run.play answer w
      | (.ok (.error e), w) => (.ok (.error e), w)
      | (.error b, w) => (.error b, w) := by
  rw [ExceptT.run_bind, Program.bind_eq, Program.play_bind]
  rcases s.run.play answer w with ⟨b | e | a, w⟩ <;> rfl

/-- A service whose answer is looked at is never ended by an error. -/
theorem play_outcome (s : Service I α) (w : σ) :
    s.outcome.run.play answer w =
      match s.run.play answer w with
      | (.ok r, w) => (.ok (.ok r), w)
      | (.error b, w) => (.error b, w) := by
  show (s.run.bind fun r => .done (Except.ok r)).play answer w = _
  rw [Program.play_bind]
  rcases s.run.play answer w with ⟨b | r, w⟩ <;> rfl

/-- A service makes only calls of some kind if each of its parts does. -/
theorem only_bind {P : I.Call → Prop} {s : Service I α} {k : α → Service I β}
    (first : s.run.Only P) (rest : ∀ a, (k a).run.Only P) : (s >>= k).run.Only P := by
  rw [ExceptT.run_bind]
  refine first.bind fun r => ?_
  cases r with
  | error e => trivial
  | ok a => exact rest a

theorem onlyIf_bind {may : (c : I.Call) → I.Reply c → Prop} {P : I.Call → Prop} {s : Service I α}
    {k : α → Service I β} (first : s.run.OnlyIf may P) (rest : ∀ a, (k a).run.OnlyIf may P) :
    (s >>= k).run.OnlyIf may P := by
  rw [ExceptT.run_bind]
  refine first.bind fun r => ?_
  cases r with
  | error e => trivial
  | ok a => exact rest a

theorem only_outcome {P : I.Call → Prop} {s : Service I α} (h : s.run.Only P) :
    s.outcome.run.Only P :=
  h.bind fun _ => trivial

end Service

/-- No call to the surroundings moves the clock of a stage. -/
theorem Rehearsal.Stage.answer_now (s : Stage) (c : Surroundings.Call) :
    (s.answer c).2.now = s.now := by
  -- the length of a wait is kept out of the comparison of the two stages
  have waited : ∀ elapsed, { s with elapsed }.now = s.now := fun _ => rfl
  cases c with
  | wait delay => exact waited _
  | now | record | draw | freshBooking | outOfTime => rfl

/-- A stage answers every call that has a reply. -/
theorem Rehearsal.Stage.answer_of_nonempty (s : Stage) (c : Surroundings.Call)
    (possible : Nonempty c.Reply) : ∃ reply, (s.answer c).1 = .ok reply := by
  cases c with
  | outOfTime => exact possible.elim fun nothing => nomatch nothing
  | now | record | wait | draw | freshBooking => exact ⟨_, rfl⟩

end BoxOffice
