import BoxOffice.Desk
import BoxOffice.Proofs.Play

/-!
# The calls of the front desk

Booking asks the inventory for holds and gives them back, and looks into the store and adds to it; it
neither sells nor changes a booking (`only_book`). Confirming and cancelling change no booking but the
one they are about, and only from pending (`only_confirm`, `only_cancel`).
-/

namespace BoxOffice.Desk

/-- The calls that booking makes. -/
inductive BookCall : DeskWorld.Call → Prop
  | reserve (request) : BookCall (.inl (.reserve request))
  | release (token) : BookCall (.inl (.release token))
  | findByAttempt (attempt) : BookCall (.inr (.inl (.findByAttempt attempt)))
  | create (token user) : BookCall (.inr (.inl (.create (BookingDraft.ofToken token user))))
  | surroundings (c) : BookCall (.inr (.inr c))

/-- The calls that confirming a booking makes. -/
inductive ConfirmCall (id : BookingId) : DeskWorld.Call → Prop
  | get : ConfirmCall id (.inr (.inl (.get id)))
  | confirm (token) : ConfirmCall id (.inl (.confirm token))
  | transition (target) (decided : target ≠ .pending) :
    ConfirmCall id (.inr (.inl (.transition id .pending target)))
  | surroundings (c) : ConfirmCall id (.inr (.inr c))

/-- The calls that cancelling a booking makes. -/
inductive CancelCall (id : BookingId) : DeskWorld.Call → Prop
  | get : CancelCall id (.inr (.inl (.get id)))
  | release (token) : CancelCall id (.inl (.release token))
  | transition : CancelCall id (.inr (.inl (.transition id .pending .cancelled)))
  | surroundings (c) : CancelCall id (.inr (.inr c))

section Parts

variable {P : DeskWorld.Call → Prop} (around : ∀ c, P (.inr (.inr c)))

include around

theorem only_note (n : Notice) : (Surroundings.note n : Program DeskWorld Unit).Only P :=
  ⟨around _, fun _ => trivial⟩

theorem only_count (c : Counter) : (Surroundings.count c : Program DeskWorld Unit).Only P :=
  ⟨around _, fun _ => trivial⟩

theorem only_service_note (n : Notice) : (Surroundings.note n : Service DeskWorld Unit).run.Only P :=
  ⟨around _, fun _ => trivial⟩

theorem only_service_count (c : Counter) :
    (Surroundings.count c : Service DeskWorld Unit).run.Only P :=
  ⟨around _, fun _ => trivial⟩

theorem only_pause (policy : RetryPolicy) (attempt : Nat) :
    (policy.pause attempt : Program DeskWorld Unit).Only P := by
  unfold RetryPolicy.pause
  cases policy.jitter with
  | true => exact ⟨around _, fun _ => ⟨around _, fun _ => trivial⟩⟩
  | false => exact ⟨around _, fun _ => trivial⟩

theorem only_succeed {α : Type} (attempt : Nat) (a : α) :
    (RetryPolicy.succeed attempt a : Program DeskWorld (Result α)).Only P := by
  unfold RetryPolicy.succeed
  split
  · exact ⟨around _, fun _ => ⟨around _, fun _ => trivial⟩⟩
  · trivial

/-- Trying again makes no other calls than the operation and calls to the surroundings. -/
theorem only_retryTransient {α : Type} (policy : RetryPolicy) {call : Service DeskWorld α}
    (once : call.run.Only P) : (retryTransient policy call).run.Only P := by
  suffices ∀ remaining attempt,
      (policy.retryAfter Error.isTransient call.run attempt remaining).Only P from this _ _
  -- by induction on the tries that are left
  intro remaining
  induction remaining with
  | zero =>
    intro attempt
    unfold RetryPolicy.retryAfter
    refine once.bind fun r => ?_
    cases r with
    | ok a => exact only_succeed around attempt a
    | error e =>
      dsimp only
      split
      · exact ⟨around _, fun _ => trivial⟩
      · exact ⟨around _, fun _ => ⟨around _, fun _ => trivial⟩⟩
  | succ remaining ih =>
    intro attempt
    unfold RetryPolicy.retryAfter
    refine once.bind fun r => ?_
    cases r with
    | ok a => exact only_succeed around attempt a
    | error e =>
      dsimp only
      split
      · exact ⟨around _, fun _ => trivial⟩
      · refine (only_count around _).bind fun _ => (only_note around _).bind fun _ => ?_
        exact (only_pause around policy attempt).bind fun _ => ih _

end Parts

/-! ### Booking -/

theorem only_validate (request : BookingRequest) : (validate request).Only BookCall := by
  unfold validate
  split
  · trivial
  refine ⟨.findByAttempt _, fun reply => ?_⟩
  rcases reply with e | _ | existing
  · trivial
  · trivial
  · exact (only_note .surroundings _).bind fun _ => trivial

theorem only_reserve (request : BookingRequest) : (reserve request).Only BookCall := by
  refine ⟨.reserve _, fun reply => ?_⟩
  rcases reply with e | token
  · exact (only_note .surroundings _).bind fun _ => trivial
  · trivial

theorem only_persist (token : Token) (user : UserId) : (persist token user).Only BookCall := by
  have once : (BookingStore.create (BookingDraft.ofToken token user) :
      Service DeskWorld Booking).run.Only BookCall := ⟨.create token user, fun _ => trivial⟩
  refine once.bind fun reply => ?_
  rcases reply with e | booking
  · dsimp only
    split
    · refine ⟨.findByAttempt _, fun found => ?_⟩
      rcases found with _ | _ | existing
      · trivial
      · trivial
      · exact (only_note .surroundings _).bind fun _ => trivial
    · trivial
  · trivial

theorem only_compensate (policy : RetryPolicy) (token : Token) :
    (compensate policy token).Only BookCall := by
  have once : (Reservations.askRelease token : Service DeskWorld Unit).run.Only BookCall :=
    ⟨.release token, fun _ => trivial⟩
  refine (only_note .surroundings _).bind fun _ => ?_
  refine (only_retryTransient .surroundings policy once).bind fun r => ?_
  rcases r with e | _
  · refine (only_count .surroundings _).bind fun _ => (only_note .surroundings _).bind fun _ => ?_
    trivial
  · exact (only_count .surroundings _).bind fun _ => trivial

theorem only_perform (policy : RetryPolicy) (request : BookingRequest) (step : SagaStep) :
    (perform policy request step).Only BookCall := by
  cases step with
  | reserve => exact only_reserve request
  | persist token => exact only_persist token request.user
  | release token => exact only_compensate policy token

theorem only_conclude (saga : Saga) (answer : Result Booking) :
    (conclude saga answer).Only BookCall := by
  unfold conclude
  split
  · exact (only_count .surroundings _).bind fun _ => only_note .surroundings _
  · exact only_note .surroundings _
  · exact only_note .surroundings _

theorem only_drive (policy : RetryPolicy) (request : BookingRequest) (saga : Saga)
    (step : SagaStep) : (drive policy request saga step).Only BookCall := by
  -- every step that the saga asks for lowers its rank
  induction rank : saga.state.rank using Nat.strongRecOn generalizing saga step with
  | ind n ih =>
  unfold drive
  refine (only_perform policy request step).bind fun event => ?_
  split
  · next next step handled => exact ih _ (rank ▸ Saga.rank_handle_lt handled) _ _ rfl
  · exact (only_conclude _ _).bind fun _ => trivial

/-- **Booking neither sells nor changes a booking.** -/
theorem only_book (policy : RetryPolicy) (request : BookingRequest) :
    (book policy request).Only BookCall := by
  unfold book
  refine (only_validate _).bind fun event => ?_
  split
  · exact only_drive _ _ _ _
  · exact (only_conclude _ _).bind fun _ => trivial

/-! ### Confirming and cancelling -/

section Parts

variable {P : DeskWorld.Call → Prop} (around : ∀ c, P (.inr (.inr c))) {id : BookingId}
  (look : P (.inr (.inl (.get id))))

include look in
theorem only_load : (load id).run.Only P := by
  refine Service.only_bind ⟨look, fun _ => trivial⟩ fun found => ?_
  cases found with
  | none => trivial
  | some booking => trivial

include around look in
/-- Settling a booking tries one change of it, and looks it up. -/
theorem only_settle (policy : RetryPolicy) {target : BookingStatus}
    (change : P (.inr (.inl (.transition id .pending target)))) :
    (settle policy id target).run.Only P := by
  have once : (BookingStore.transition id .pending target : Service DeskWorld Booking).run.Only P :=
    ⟨change, fun _ => trivial⟩
  refine Service.only_bind (Service.only_outcome (only_retryTransient around policy once))
    fun r => ?_
  rcases r with e | booking
  · dsimp only
    split
    · refine Service.only_bind (only_load look) fun booking => ?_
      split
      · trivial
      · trivial
    · trivial
  · trivial

end Parts

/-- **Confirming a booking changes it only from pending**, and no other booking. -/
theorem only_confirm (policy : RetryPolicy) (id : BookingId) :
    (confirm policy id).run.Only (ConfirmCall id) := by
  refine Service.only_bind (only_load .get) fun booking => ?_
  cases booking.status with
  | confirmed => trivial
  | cancelled => trivial
  | pending =>
    refine Service.only_bind (Service.only_outcome ⟨.confirm _, fun _ => trivial⟩) fun r => ?_
    rcases r with e | _
    · dsimp only
      split
      · refine Service.only_bind (only_service_note .surroundings _) fun _ => ?_
        refine Service.only_bind (Service.only_outcome
          (only_settle .surroundings .get policy (.transition _ (by decide)))) fun r => ?_
        rcases r with e | booking
        · exact Service.only_bind (only_service_note .surroundings _) fun _ => trivial
        · exact Service.only_bind (only_service_count .surroundings _) fun _ => trivial
      · trivial
    · refine Service.only_bind
        (only_settle .surroundings .get policy (.transition _ (by decide))) fun confirmed => ?_
      refine Service.only_bind (only_service_count .surroundings _) fun _ => ?_
      exact Service.only_bind (only_service_note .surroundings _) fun _ => trivial

/-- **Cancelling a booking sells nothing and changes the booking only from pending to cancelled.** -/
theorem only_cancel (policy : RetryPolicy) (id : BookingId) :
    (cancel policy id).run.Only (CancelCall id) := by
  refine Service.only_bind (only_load .get) fun booking => ?_
  cases booking.status with
  | cancelled => trivial
  | confirmed => trivial
  | pending =>
    have once : (Reservations.askRelease booking.token : Service DeskWorld Unit).run.Only
        (CancelCall id) := ⟨.release _, fun _ => trivial⟩
    refine Service.only_bind (only_retryTransient .surroundings policy once) fun _ => ?_
    refine Service.only_bind (only_settle .surroundings .get policy .transition) fun cancelled => ?_
    refine Service.only_bind (only_service_count .surroundings _) fun _ => ?_
    exact Service.only_bind (only_service_note .surroundings _) fun _ => trivial

/-! ### Errands -/

/-- What a caller comes to the front desk for. -/
inductive Errand
  | book (request : BookingRequest)
  | confirm (id : BookingId)
  | cancel (id : BookingId)

/-- The program of an errand. -/
def Errand.program (policy : RetryPolicy) : Errand → Program DeskWorld (Result Booking)
  | .book request => Desk.book policy request
  | .confirm id => (Desk.confirm policy id).run
  | .cancel id => (Desk.cancel policy id).run

/-- A call that changes a booking changes it from pending to something else. -/
def Lawful : DeskWorld.Call → Prop
  | .inr (.inl (.transition _ expected target)) => expected = .pending ∧ target ≠ .pending
  | _ => True

/-- **An errand changes bookings only from pending.** -/
theorem Errand.only_lawful (policy : RetryPolicy) (e : Errand) :
    (e.program policy).Only Lawful := by
  cases e with
  | book request =>
    refine (only_book policy request).mono fun c h => ?_
    cases h <;> trivial
  | confirm id =>
    refine (only_confirm policy id).mono fun c h => ?_
    cases h with
    | transition target decided => exact ⟨rfl, decided⟩
    | _ => trivial
  | cancel id =>
    refine (only_cancel policy id).mono fun c h => ?_
    cases h with
    | transition => exact ⟨rfl, by decide⟩
    | _ => trivial

end BoxOffice.Desk
