import Mathlib.Data.List.Basic
import BoxOffice.Proofs.Desk.Course

/-!
# Sagas that are told anything

A saga is told outcomes by somebody else, and need not be told what it waits for. Each telling is a
`SagaTurn`; `Saga.turns` lists those of any outcomes in any order. An outcome that is waited for makes
one of the moves of `Saga.Moves`, every other one is refused (`handle_cases`). How a saga came to its
state can be told from the state: `Saga.Went` lists the ways, each with all that was heard and all that
was asked for, and every turn keeps to them (`Went.turn`). From this a saga is safe whatever it is told
(`turns_safe`).
-/

namespace BoxOffice

/-! ### What is waited for -/

/-- What an outcome may be the outcome of. -/
inductive SagaTask
  | check
  | reserve
  | persist
  | release
  deriving DecidableEq

/-- What a state waits for the outcome of. -/
def SagaState.task? : SagaState → Option SagaTask
  | validating => some .check
  | reserving => some .reserve
  | persisting _ => some .persist
  | compensating _ _ => some .release
  | committed | compensatedOk | compensatedFailed | rejected => none

namespace SagaEvent

/-- What an outcome is the outcome of. -/
def task : SagaEvent → SagaTask
  | validated | replayed _ | rejected _ => .check
  | reserved _ | reserveFailed _ => .reserve
  | persisted _ | duplicateAttempt _ | persistFailed _ => .persist
  | released | releaseFailed _ => .release

/-- The booking that an outcome brings. -/
def booking? : SagaEvent → Option Booking
  | replayed b | persisted b | duplicateAttempt b => some b
  | _ => none

/-- The token that an outcome brings. -/
def token? : SagaEvent → Option Token
  | reserved t => some t
  | _ => none

/-- The error for which a booking was not stored. -/
def cause? : SagaEvent → Option Error
  | persistFailed e => some e
  | _ => none

end SagaEvent

/-- An outcome fits a state that waits for it. -/
def SagaState.Awaits (state : SagaState) (event : SagaEvent) : Prop :=
  state.task? = some event.task

instance (state : SagaState) (event : SagaEvent) : Decidable (state.Awaits event) :=
  inferInstanceAs (Decidable (_ = _))

theorem SagaState.task?_of_isTerminal {state : SagaState} (terminal : state.isTerminal) :
    state.task? = none := by
  cases state with
  | committed | compensatedOk | compensatedFailed | rejected => rfl
  | validating | reserving | persisting | compensating => cases terminal

theorem SagaState.not_awaits_of_isTerminal {state : SagaState} (terminal : state.isTerminal)
    (event : SagaEvent) : ¬ state.Awaits event := by
  rw [Awaits, task?_of_isTerminal terminal]
  exact nofun

namespace SagaCommand

/-- The step that is asked for. -/
def step? : SagaCommand → Option SagaStep
  | perform step => some step
  | complete _ => none

/-- The booking that the caller is answered with. -/
def booking? : SagaCommand → Option Booking
  | complete (.ok b) => some b
  | _ => none

end SagaCommand

/-! ### Turns -/

/-- A saga was told an outcome. -/
structure SagaTurn where
  before : SagaState
  event : SagaEvent
  after : SagaState
  command : SagaCommand

namespace SagaTurn

/-- The outcome was waited for. -/
abbrev Accepted (t : SagaTurn) : Prop :=
  t.before.Awaits t.event

/-- The saga came to a state in which it was not before. -/
def Enters (t : SagaTurn) (state : SagaState) : Prop :=
  t.before ≠ state ∧ t.after = state

/-- The outcome, if it was waited for. -/
def heard? (t : SagaTurn) : Option SagaEvent :=
  if t.Accepted then some t.event else none

end SagaTurn

/-- What some turns come to. -/
structure SagaRecord where
  /-- The outcomes that were waited for. -/
  heard : List SagaEvent
  /-- The steps that were asked for. -/
  steps : List SagaStep
  /-- The bookings that the caller was answered with. -/
  bookings : List Booking

namespace SagaRecord

/-- What some turns come to. -/
def ofTurns (turns : List SagaTurn) : SagaRecord where
  heard := turns.filterMap SagaTurn.heard?
  steps := turns.filterMap fun t => t.command.step?
  bookings := turns.filterMap fun t => t.command.booking?

/-- The tokens that were waited for and came. -/
def tokens (r : SagaRecord) : List Token :=
  r.heard.filterMap SagaEvent.token?

/-- The errors for which the booking was not stored. -/
def causes (r : SagaRecord) : List Error :=
  r.heard.filterMap SagaEvent.cause?

end SagaRecord

namespace Saga

/-- The saga is told an outcome. -/
def turn (s : Saga) (event : SagaEvent) : SagaTurn where
  before := s.state
  event
  after := (s.handle event).1.state
  command := (s.handle event).2

/-- The saga after it was told some outcomes. -/
def tell (s : Saga) (events : List SagaEvent) : Saga :=
  events.foldl (fun s event => (s.handle event).1) s

/-- The turns in which a saga is told some outcomes. -/
def turns (s : Saga) : List SagaEvent → List SagaTurn
  | [] => []
  | event :: events => s.turn event :: (s.handle event).1.turns events

theorem tell_append (s : Saga) (events more : List SagaEvent) :
    s.tell (events ++ more) = (s.tell events).tell more :=
  List.foldl_append

/-- A turn is that of one of the outcomes, after those before it and before those after it. -/
theorem turns_eq_append_cons {s : Saga} {events : List SagaEvent} {before later : List SagaTurn}
    {t : SagaTurn} (h : s.turns events = before ++ t :: later) :
    ∃ earlier event rest, events = earlier ++ event :: rest ∧ before = s.turns earlier ∧
      t = (s.tell earlier).turn event ∧ later = (s.tell (earlier ++ [event])).turns rest := by
  induction before generalizing s events with
  | nil =>
    cases events with
    | nil => cases h
    | cons event rest =>
      obtain ⟨rfl, rfl⟩ := List.cons.inj h
      exact ⟨[], event, rest, rfl, rfl, rfl, rfl⟩
  | cons first before ih =>
    cases events with
    | nil => cases h
    | cons event rest =>
      obtain ⟨rfl, rest_eq⟩ := List.cons.inj h
      obtain ⟨earlier, told, more, rfl, rfl, rfl, rfl⟩ := ih rest_eq
      exact ⟨event :: earlier, told, more, rfl, rfl, rfl, rfl⟩

theorem exists_of_mem_turns {s : Saga} {events : List SagaEvent} {t : SagaTurn}
    (mem : t ∈ s.turns events) :
    ∃ earlier event rest, events = earlier ++ event :: rest ∧ t = (s.tell earlier).turn event := by
  obtain ⟨before, later, split⟩ := List.append_of_mem mem
  obtain ⟨earlier, event, rest, told, -, turn, -⟩ := turns_eq_append_cons split
  exact ⟨earlier, event, rest, told, turn⟩

/-! ### One turn -/

/-- The moves of a saga that hears what it waits for. -/
inductive Moves : SagaState → SagaEvent → SagaState → SagaCommand → Prop
  | validated : Moves .validating .validated .reserving (.perform .reserve)
  | replayed (b) : Moves .validating (.replayed b) .committed (.complete (.ok b))
  | rejected (e) : Moves .validating (.rejected e) .rejected (.complete (.error e))
  | reserved (t) : Moves .reserving (.reserved t) (.persisting t) (.perform (.persist t))
  | reserveFailed (e) : Moves .reserving (.reserveFailed e) .rejected (.complete (.error e))
  | persisted (t b) : Moves (.persisting t) (.persisted b) .committed (.complete (.ok b))
  | duplicateAttempt (t b) :
    Moves (.persisting t) (.duplicateAttempt b) .committed (.complete (.ok b))
  | persistFailed (t e) :
    Moves (.persisting t) (.persistFailed e) (.compensating t e) (.perform (.release t))
  | released (t e) :
    Moves (.compensating t e) .released .compensatedOk (.complete (.error e))
  | releaseFailed (t e e') :
    Moves (.compensating t e) (.releaseFailed e') .compensatedFailed (.complete (.error e))

/-- **A saga moves if it hears what it waits for, and refuses what it does not.** -/
theorem handle_cases (s : Saga) (event : SagaEvent) :
    (s.state.Awaits event ∧ Moves s.state event (s.handle event).1.state (s.handle event).2) ∨
      (¬ s.state.Awaits event ∧ s.Refuses event) := by
  obtain ⟨attempt, state⟩ := s
  cases state <;> cases event <;>
    first
    | exact .inr ⟨nofun, rfl⟩
    | exact .inl ⟨rfl, by constructor⟩

theorem Moves.awaits {state next : SagaState} {event : SagaEvent} {command : SagaCommand}
    (h : Moves state event next command) : state.Awaits event := by
  cases h <;> rfl

theorem Moves.ne {state next : SagaState} {event : SagaEvent} {command : SagaCommand}
    (h : Moves state event next command) : next ≠ state := by
  cases h <;> exact nofun

theorem turn_of_not_awaits {s : Saga} {event : SagaEvent} (stray : ¬ s.state.Awaits event) :
    s.Refuses event := by
  rcases s.handle_cases event with ⟨awaits, -⟩ | ⟨-, refuses⟩
  · exact absurd awaits stray
  · exact refuses

theorem moves_of_awaits {s : Saga} {event : SagaEvent} (awaits : s.state.Awaits event) :
    Moves s.state event (s.handle event).1.state (s.handle event).2 := by
  rcases s.handle_cases event with ⟨-, moves⟩ | ⟨stray, -⟩
  · exact moves
  · exact absurd awaits stray

theorem turn_stays_of_refuses {s : Saga} {event : SagaEvent} (refuses : s.Refuses event) :
    (s.turn event).after = (s.turn event).before :=
  congrArg (fun told => told.1.state) refuses

/-- A turn that leads to another state is a move. -/
theorem moves_of_enters {s : Saga} {event : SagaEvent} {state : SagaState}
    (enters : (s.turn event).Enters state) :
    Moves s.state event (s.handle event).1.state (s.handle event).2 := by
  rcases s.handle_cases event with ⟨-, moves⟩ | ⟨-, refuses⟩
  · exact moves
  · exact absurd ((turn_stays_of_refuses refuses).symm.trans enters.2) enters.1

/-- A turn that ends with a booking is a move. -/
theorem moves_of_booking {s : Saga} {event : SagaEvent} {b : Booking}
    (answered : (s.turn event).command = .complete (.ok b)) :
    Moves s.state event (s.handle event).1.state (s.handle event).2 := by
  rcases s.handle_cases event with ⟨-, moves⟩ | ⟨-, refuses⟩
  · exact moves
  · cases (congrArg Prod.snd refuses).symm.trans answered

/-- A saga in a last state stays as it is. -/
theorem tell_of_isTerminal {s : Saga} (terminal : s.state.isTerminal) (events : List SagaEvent) :
    s.tell events = s := by
  induction events with
  | nil => rfl
  | cons event events ih =>
    have refuses := turn_of_not_awaits (s.state.not_awaits_of_isTerminal terminal event)
    show (s.handle event).1.tell events = s
    rw [refuses]
    exact ih

theorem after_of_isTerminal {s : Saga} (terminal : s.state.isTerminal) {events : List SagaEvent}
    {t : SagaTurn} (mem : t ∈ s.turns events) : t.after = s.state := by
  obtain ⟨earlier, event, rest, -, rfl⟩ := exists_of_mem_turns mem
  rw [tell_of_isTerminal terminal]
  exact turn_stays_of_refuses
    (turn_of_not_awaits (SagaState.not_awaits_of_isTerminal terminal event))

/-! ### The ways to a state -/

/-- **The ways to a state**, each with what was heard, asked for and answered on it. -/
inductive Went : SagaState → SagaRecord → Prop
  | begun : Went .validating ⟨[], [], []⟩
  | replayed (b) : Went .committed ⟨[.replayed b], [], [b]⟩
  | rejected (e) : Went .rejected ⟨[.rejected e], [], []⟩
  | validated : Went .reserving ⟨[.validated], [.reserve], []⟩
  | reserveFailed (e) : Went .rejected ⟨[.validated, .reserveFailed e], [.reserve], []⟩
  | reserved (t) :
    Went (.persisting t) ⟨[.validated, .reserved t], [.reserve, .persist t], []⟩
  | persisted (t b) :
    Went .committed ⟨[.validated, .reserved t, .persisted b], [.reserve, .persist t], [b]⟩
  | duplicateAttempt (t b) :
    Went .committed ⟨[.validated, .reserved t, .duplicateAttempt b], [.reserve, .persist t], [b]⟩
  | persistFailed (t e) :
    Went (.compensating t e)
      ⟨[.validated, .reserved t, .persistFailed e], [.reserve, .persist t, .release t], []⟩
  | released (t e) :
    Went .compensatedOk
      ⟨[.validated, .reserved t, .persistFailed e, .released],
        [.reserve, .persist t, .release t], []⟩
  | releaseFailed (t e e') :
    Went .compensatedFailed
      ⟨[.validated, .reserved t, .persistFailed e, .releaseFailed e'],
        [.reserve, .persist t, .release t], []⟩

/-- A move goes on with every way to the state before it. -/
theorem Went.moves {state next : SagaState} {r : SagaRecord} {event : SagaEvent}
    {command : SagaCommand} (h : Went state r) (moves : Moves state event next command) :
    Went next ⟨r.heard ++ [event], r.steps ++ command.step?.toList,
      r.bookings ++ command.booking?.toList⟩ := by
  cases moves <;> cases h <;> constructor

/-- Each turn adds what was heard, asked for and answered in it. -/
theorem ofTurns_append_singleton (turns : List SagaTurn) (t : SagaTurn) :
    SagaRecord.ofTurns (turns ++ [t]) =
      ⟨(SagaRecord.ofTurns turns).heard ++ t.heard?.toList,
        (SagaRecord.ofTurns turns).steps ++ t.command.step?.toList,
        (SagaRecord.ofTurns turns).bookings ++ t.command.booking?.toList⟩ := by
  simp only [SagaRecord.ofTurns, List.filterMap_eq_flatMap_toList, List.flatMap_append,
    List.flatMap_singleton]

theorem Went.turn {s : Saga} {before : List SagaTurn} (h : Went s.state (.ofTurns before))
    (event : SagaEvent) : Went (s.handle event).1.state (.ofTurns (before ++ [s.turn event])) := by
  rw [ofTurns_append_singleton]
  rcases s.handle_cases event with ⟨awaits, moves⟩ | ⟨stray, refuses⟩
  · have heard : (s.turn event).heard? = some event := if_pos awaits
    rw [heard]
    exact h.moves moves
  · have heard : (s.turn event).heard? = none := if_neg stray
    have command : (s.turn event).command = _ := congrArg Prod.snd refuses
    rw [heard, command, refuses]
    simpa [SagaCommand.step?, SagaCommand.booking?, refuse] using h

/-- However it is told, a saga came to its state in one of the ways. -/
theorem Went.turns {s : Saga} {before : List SagaTurn} (h : Went s.state (.ofTurns before))
    (events : List SagaEvent) :
    Went (s.tell events).state (.ofTurns (before ++ s.turns events)) := by
  induction events generalizing s before with
  | nil =>
    rw [Saga.turns, List.append_nil]
    exact h
  | cons event events ih =>
    have rest := ih (h.turn event)
    rwa [List.append_assoc] at rest

theorem went (attempt : HoldId) (events : List SagaEvent) :
    Went ((start attempt).tell events).state (.ofTurns ((start attempt).turns events)) := by
  have opening : Went (start attempt).state (.ofTurns []) := .begun
  exact opening.turns events

/-! ### Safety -/

/-- What is promised of the turns of a saga. -/
structure Safe (turns : List SagaTurn) : Prop where
  /-- An outcome that was not waited for leaves the state as it is, and is answered with an internal
  error. -/
  refused : ∀ t ∈ turns, ¬ t.Accepted →
    t.after = t.before ∧ ∃ e, t.command = .complete (.error e) ∧ e.kind = .internal
  /-- An outcome that was waited for leads on. -/
  accepted : ∀ t ∈ turns, t.Accepted → t.after ≠ t.before
  /-- A last state stays. -/
  last : ∀ before t later, turns = before ++ t :: later → t.after.isTerminal →
    ∀ t' ∈ later, t'.after = t.after
  /-- A reservation, a booking and a release are asked for in this order and once at most, the last
  two with the one token that came when it was waited for. -/
  steps : ((SagaRecord.ofTurns turns).tokens = [] ∧ (SagaRecord.ofTurns turns).steps <+: [.reserve]) ∨
    ∃ token, (SagaRecord.ofTurns turns).tokens = [token] ∧
      [.reserve, .persist token] <+: (SagaRecord.ofTurns turns).steps ∧
      (SagaRecord.ofTurns turns).steps <+: [.reserve, .persist token, .release token]
  /-- The caller gets a booking once at most, -/
  once : (SagaRecord.ofTurns turns).bookings.length ≤ 1
  /-- exactly when the attempt is committed, -/
  committed : ∀ t ∈ turns, (∃ b, t.command = .complete (.ok b)) ↔ t.Enters .committed
  /-- and it is the booking that the outcome brought. -/
  booking : ∀ t ∈ turns, ∀ b, t.command = .complete (.ok b) →
    t.Accepted ∧ t.event.booking? = some b
  /-- After compensation the caller gets the error for which the booking was not stored, however the
  release went. -/
  compensated : ∀ t ∈ turns, t.Enters .compensatedOk ∨ t.Enters .compensatedFailed →
    ∃ cause, (SagaRecord.ofTurns turns).causes = [cause] ∧ t.command = .complete (.error cause)

theorem Went.steps {state : SagaState} {r : SagaRecord} (h : Went state r) :
    (r.tokens = [] ∧ r.steps <+: [.reserve]) ∨
    ∃ token, r.tokens = [token] ∧ [.reserve, .persist token] <+: r.steps ∧
      r.steps <+: [.reserve, .persist token, .release token] := by
  cases h with
  | begun | replayed | rejected => exact .inl ⟨rfl, List.nil_prefix⟩
  | validated | reserveFailed => exact .inl ⟨rfl, List.prefix_rfl⟩
  | reserved t | persisted t | duplicateAttempt t =>
    exact .inr ⟨t, rfl, List.prefix_rfl, ⟨[.release t], rfl⟩⟩
  | persistFailed t | released t | releaseFailed t =>
    exact .inr ⟨t, rfl, ⟨[.release t], rfl⟩, List.prefix_rfl⟩

theorem Went.bookings {state : SagaState} {r : SagaRecord} (h : Went state r) :
    r.bookings.length ≤ 1 := by
  cases h <;> simp

theorem Went.causes {state : SagaState} {r : SagaRecord} (h : Went state r) :
    r.causes.length ≤ 1 := by
  cases h with
  | persistFailed | released | releaseFailed => exact Nat.le_refl 1
  | _ => exact Nat.zero_le 1

theorem Went.causes_of_compensating {t : Token} {e : Error} {r : SagaRecord}
    (h : Went (.compensating t e) r) : r.causes = [e] := by
  cases h
  rfl

/-- What was heard first remains heard. -/
theorem causes_prefix (turns more : List SagaTurn) :
    (SagaRecord.ofTurns turns).causes <+: (SagaRecord.ofTurns (turns ++ more)).causes := by
  unfold SagaRecord.causes SagaRecord.ofTurns
  rw [List.filterMap_append, List.filterMap_append]
  exact List.prefix_append _ _

/-- The caller gets a booking exactly on the moves to the end of a committed attempt. -/
theorem Moves.committed_iff {state next : SagaState} {event : SagaEvent} {command : SagaCommand}
    (h : Moves state event next command) :
    (∃ b, command = .complete (.ok b)) ↔ next = .committed := by
  cases h <;> simp

theorem Moves.booking {state next : SagaState} {event : SagaEvent} {command : SagaCommand}
    (h : Moves state event next command) {b : Booking} (answered : command = .complete (.ok b)) :
    event.booking? = some b := by
  cases h <;> cases answered <;> rfl

/-- After compensation the caller gets the error that the saga kept. -/
theorem Moves.compensated {state next : SagaState} {event : SagaEvent} {command : SagaCommand}
    (h : Moves state event next command) (ends : next = .compensatedOk ∨ next = .compensatedFailed) :
    ∃ t cause, state = .compensating t cause ∧ command = .complete (.error cause) := by
  cases h with
  | released t e | releaseFailed t e => exact ⟨t, e, rfl, rfl⟩
  | _ => simp at ends

/-- The error that a saga keeps is the only one for which a booking was not stored, before and after. -/
theorem causes_of_compensating {attempt : HoldId} {earlier events : List SagaEvent} {t : Token}
    {cause : Error} (waiting : ((start attempt).tell earlier).state = .compensating t cause)
    {more : List SagaTurn}
    (split : (start attempt).turns events = (start attempt).turns earlier ++ more) :
    (SagaRecord.ofTurns ((start attempt).turns events)).causes = [cause] := by
  have way := went attempt earlier
  rw [waiting] at way
  have kept := causes_prefix ((start attempt).turns earlier) more
  rw [way.causes_of_compensating, ← split] at kept
  exact (kept.eq_of_length_le (went attempt events).causes).symm

/-- **A saga is safe whatever it is told.** -/
theorem turns_safe (attempt : HoldId) (events : List SagaEvent) :
    Safe ((start attempt).turns events) where
  refused := by
    intro t mem stray
    obtain ⟨earlier, event, rest, -, rfl⟩ := exists_of_mem_turns mem
    have refuses := turn_of_not_awaits (s := (start attempt).tell earlier) stray
    exact ⟨turn_stays_of_refuses refuses, _, congrArg Prod.snd refuses, rfl⟩
  accepted := by
    intro t mem awaits
    obtain ⟨earlier, event, rest, -, rfl⟩ := exists_of_mem_turns mem
    exact (moves_of_awaits awaits).ne
  last := by
    intro before t later split terminal t' mem
    obtain ⟨earlier, event, rest, -, -, rfl, rfl⟩ := turns_eq_append_cons split
    have ended : ((start attempt).tell (earlier ++ [event])).state =
        (((start attempt).tell earlier).turn event).after := by
      rw [tell_append]
      rfl
    rw [← ended] at terminal ⊢
    exact after_of_isTerminal terminal mem
  steps := (went attempt events).steps
  once := (went attempt events).bookings
  committed := by
    intro t mem
    obtain ⟨earlier, event, rest, -, rfl⟩ := exists_of_mem_turns mem
    constructor
    · rintro ⟨b, answered⟩
      have moves := moves_of_booking answered
      have ends := moves.committed_iff.1 ⟨b, answered⟩
      exact ⟨fun here => moves.ne (ends.trans here.symm), ends⟩
    · intro enters
      exact (moves_of_enters enters).committed_iff.2 enters.2
  booking := by
    intro t mem b answered
    obtain ⟨earlier, event, rest, -, rfl⟩ := exists_of_mem_turns mem
    have moves := moves_of_booking answered
    exact ⟨moves.awaits, moves.booking answered⟩
  compensated := by
    intro t mem enters
    obtain ⟨before, later, split⟩ := List.append_of_mem mem
    obtain ⟨earlier, event, rest, -, rfl, rfl, -⟩ := turns_eq_append_cons split
    have moves := enters.elim moves_of_enters moves_of_enters
    obtain ⟨token, cause, waiting, answered⟩ := moves.compensated (enters.imp And.right And.right)
    exact ⟨cause, causes_of_compensating waiting split, answered⟩

end Saga

end BoxOffice
