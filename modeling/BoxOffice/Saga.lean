import BoxOffice.Cause

/-!
# The booking saga

One booking attempt as a state machine. It consumes the outcome of the last step and names the next
one; it does nothing itself, so every path can be followed without a ledger or a store.

    validating → reserving → persisting → committed
        ↓            ↓            ↓
    rejected     rejected    compensating → compensated or left to expire

Every step but a last one brings the saga nearer to its end: `rank_handle_lt`.
-/

namespace BoxOffice

/-- Where a booking attempt stands. -/
inductive SagaState
  /-- The request is checked and an earlier booking of the attempt looked for. -/
  | validating
  /-- A reservation is asked for. -/
  | reserving
  /-- A unit is held and the booking about to be stored. -/
  | persisting (token : Token)
  /-- The booking is stored, now or earlier. -/
  | committed
  /-- The booking was not stored for this cause, and the hold is given back. -/
  | compensating (token : Token) (cause : Error)
  /-- The hold was given back. -/
  | compensatedOk
  /-- The hold could not be given back and is left to expire. -/
  | compensatedFailed
  /-- Nothing was ever held. -/
  | rejected
  deriving DecidableEq

namespace SagaState

/-- The name of a state in logs and errors. -/
def name : SagaState → String
  | validating => "validating"
  | reserving => "reserving"
  | persisting _ => "persisting"
  | committed => "committed"
  | compensating _ _ => "compensating"
  | compensatedOk => "compensated_ok"
  | compensatedFailed => "compensated_failed"
  | rejected => "rejected"

/-- No step follows. -/
def isTerminal : SagaState → Bool
  | committed | compensatedOk | compensatedFailed | rejected => true
  | _ => false

/-- The greatest number of steps that may follow. -/
def rank : SagaState → Nat
  | validating => 4
  | reserving => 3
  | persisting _ => 2
  | compensating _ _ => 1
  | _ => 0

end SagaState

/-- The outcome of the step that a saga asked for. -/
inductive SagaEvent
  /-- The request is in order and the attempt has no booking yet. -/
  | validated
  /-- The attempt has a booking already. -/
  | replayed (booking : Booking)
  /-- The request is not in order. -/
  | rejected (error : Error)
  /-- A unit is held. -/
  | reserved (token : Token)
  /-- No unit is held. -/
  | reserveFailed (error : Error)
  /-- The booking is stored. -/
  | persisted (booking : Booking)
  /-- Another request of the same attempt stored its booking first. -/
  | duplicateAttempt (booking : Booking)
  /-- The booking is not stored. -/
  | persistFailed (error : Error)
  /-- The hold is given back. -/
  | released
  /-- The hold is not given back. -/
  | releaseFailed (error : Error)
  deriving DecidableEq

/-- The name of an outcome in errors. -/
def SagaEvent.name : SagaEvent → String
  | validated => "validated"
  | replayed _ => "replayed"
  | rejected _ => "rejected"
  | reserved _ => "reserved"
  | reserveFailed _ => "reserve_failed"
  | persisted _ => "persisted"
  | duplicateAttempt _ => "duplicate_attempt"
  | persistFailed _ => "persist_failed"
  | released => "released"
  | releaseFailed _ => "release_failed"

/-- A step that a saga asks for. -/
inductive SagaStep
  /-- Ask for a reservation. -/
  | reserve
  /-- Store a pending booking for what is held. -/
  | persist (token : Token)
  /-- Give back what is held. -/
  | release (token : Token)
  deriving DecidableEq

/-- What a saga asks for next: a step, or to answer the caller. -/
inductive SagaCommand
  | perform (step : SagaStep)
  | complete (answer : Result Booking)

/-- A booking attempt under way. -/
structure Saga where
  attempt : HoldId
  state : SagaState
  deriving DecidableEq

namespace Saga

/-- A new attempt. -/
def start (attempt : HoldId) : Saga :=
  { attempt, state := .validating }

/-- The state and the command that follow an outcome. An outcome that was not asked for leaves the
state as it is and answers with an internal error. -/
def transition (attempt : HoldId) : SagaState → SagaEvent → SagaState × SagaCommand
  | .validating, .validated => (.reserving, .perform .reserve)
  | .validating, .replayed booking => (.committed, .complete (.ok booking))
  | .validating, .rejected error => (.rejected, .complete (.error error))
  | .reserving, .reserveFailed error => (.rejected, .complete (.error error))
  | .reserving, .reserved token => (.persisting token, .perform (.persist token))
  | .persisting _, .persisted booking => (.committed, .complete (.ok booking))
  | .persisting _, .duplicateAttempt booking => (.committed, .complete (.ok booking))
  | .persisting token, .persistFailed cause =>
    (.compensating token cause, .perform (.release token))
  | .compensating _ cause, .released => (.compensatedOk, .complete (.error cause))
  | .compensating _ cause, .releaseFailed _ => (.compensatedFailed, .complete (.error cause))
  | state, event =>
    (state, .complete (refuse (.outOfOrder attempt event.name state.name)))

/-- Applies an outcome. -/
def handle (s : Saga) (event : SagaEvent) : Saga × SagaCommand :=
  let (state, command) := transition s.attempt s.state event
  ({ s with state }, command)

/-- A saga that asks for a further step is nearer to its end. -/
theorem rank_handle_lt {s next : Saga} {event : SagaEvent} {step : SagaStep}
    (h : s.handle event = (next, .perform step)) : next.state.rank < s.state.rank := by
  obtain ⟨attempt, state⟩ := s
  cases state <;> cases event <;>
    simp [handle, transition, Prod.ext_iff, SagaState.rank, refuse] at h ⊢ <;>
    obtain ⟨rfl, _⟩ := h <;> simp

end Saga

end BoxOffice
