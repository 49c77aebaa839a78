import BoxOffice.Desk
import BoxOffice.Proofs.Trying

/-!
# The course of a booking

What the front desk says to the store and to the inventory while it carries out an attempt, whatever
they reply, and what the saga is told meanwhile. `Course` lists the ways that an attempt can go, each
with its whole conversation; `ensures_undertake` says that there are no others. From this list all
promises of `book_drives_saga` are read.
-/

namespace BoxOffice

/-- An outcome that a saga did not ask for: it is told so, and stays where it is. -/
def Saga.Refuses (s : Saga) (event : SagaEvent) : Prop :=
  s.handle event = (s, .complete (refuse (.outOfOrder s.attempt event.name s.state.name)))

/-- An outcome that leads to another state was asked for. -/
theorem Saga.not_refuses_of_moves {s : Saga} {event : SagaEvent}
    (moves : (s.handle event).1.state ≠ s.state) : ¬ s.Refuses event :=
  fun refuses => moves (by rw [refuses])

/-- A saga is told some outcomes one after the other. It asked for each of them, asks for a step after
each but the last, and answers after the last. -/
inductive Saga.Hears : Saga → List SagaEvent → Saga → Result Booking → Prop
  | ends {s next : Saga} {event : SagaEvent} {answer : Result Booking}
    (asked : ¬ s.Refuses event) (handled : s.handle event = (next, .complete answer)) :
    Hears s [event] next answer
  | goesOn {s next last : Saga} {event : SagaEvent} {step : SagaStep} {events : List SagaEvent}
    {answer : Result Booking} (asked : ¬ s.Refuses event)
    (handled : s.handle event = (next, .perform step)) (rest : Hears next events last answer) :
    Hears s (event :: events) last answer

namespace Desk

/-! ### Deals -/

/-- A call of the front desk to the store or to the inventory, and the reply. -/
inductive Deal
  /-- The store is asked for the booking of an attempt. -/
  | look (attempt : HoldId) (reply : Result (Option Booking))
  /-- The inventory is asked for a unit. -/
  | ask (request : ReserveRequest) (reply : Result Token)
  /-- The store is asked to keep a booking. -/
  | store (draft : BookingDraft) (reply : Result Booking)
  /-- The inventory is asked to take back what a token holds. -/
  | giveBack (token : Token) (reply : Result Unit)
  /-- Any other call. -/
  | other

/-- The kinds of deals. -/
inductive Deal.Kind
  | look
  | ask
  | store
  | giveBack
  | other
  deriving DecidableEq

/-- The kind of a deal. -/
def Deal.kind : Deal → Kind
  | look _ _ => .look
  | ask _ _ => .ask
  | store _ _ => .store
  | giveBack _ _ => .giveBack
  | other => .other

/-- An exchange with the store or the inventory as a deal. What is said to the surroundings is none. -/
def deal? : Exchange DeskWorld → Option Deal
  | ⟨.inl (.reserve request), reply⟩ => some (.ask request reply)
  | ⟨.inl (.release token), reply⟩ => some (.giveBack token reply)
  | ⟨.inl _, _⟩ => some .other
  | ⟨.inr (.inl (.findByAttempt attempt)), reply⟩ => some (.look attempt reply)
  | ⟨.inr (.inl (.create draft)), reply⟩ => some (.store draft reply)
  | ⟨.inr (.inl _), _⟩ => some .other
  | ⟨.inr (.inr _), _⟩ => none

/-- A program that comes to its end without a deal. -/
abbrev Silent {α : Type} (p : Program DeskWorld α) : Prop :=
  p.Ensures deal? fun said _ => said = []

/-- One call to the store. -/
theorem ensures_askStore (c : BookingStore.Call) :
    (BookingStore.ask c : Service DeskWorld _).run.Ensures deal? fun said reply =>
      said = (deal? ⟨.inr (.inl c), reply⟩).toList :=
  ⟨⟨.error ⟨.internal, ""⟩⟩, fun _ => List.append_nil _⟩

/-- One call to the inventory. -/
theorem ensures_askInventory (c : Reservations.Call) :
    (Reservations.ask c : Service DeskWorld _).run.Ensures deal? fun said reply =>
      said = (deal? ⟨.inl c, reply⟩).toList :=
  ⟨⟨.error ⟨.internal, ""⟩⟩, fun _ => List.append_nil _⟩

theorem silent_note (n : Notice) : Silent (Surroundings.note n) :=
  ⟨⟨()⟩, fun _ => rfl⟩

theorem silent_count (c : Counter) : Silent (Surroundings.count c) :=
  ⟨⟨()⟩, fun _ => rfl⟩

theorem silent_conclude (saga : Saga) (answer : Result Booking) : Silent (conclude saga answer) := by
  unfold conclude
  split
  · exact .bind_of_silent (silent_count _) fun _ => silent_note _
  · exact silent_note _
  · exact silent_note _

/-! ### The steps -/

/-- The ways to check a request, each with what is said and the outcome. -/
inductive Validates (request : BookingRequest) : List Deal → SagaEvent → Prop
  | invalid (h : request.user.value ≤ 0) :
    Validates request [] (.rejected (Cause.invalidUser request.user).error)
  | unknown (e : Error) : Validates request [.look request.attempt (.error e)] (.rejected e)
  | replayed (b : Booking) : Validates request [.look request.attempt (.ok (some b))] (.replayed b)
  | fresh : Validates request [.look request.attempt (.ok none)] .validated

theorem ensures_validate (request : BookingRequest) :
    (validate request).Ensures deal? (Validates request) := by
  unfold validate
  split
  · next invalid => exact .invalid invalid
  refine (ensures_askStore _).bind ?_
  rintro _ (e | _ | b) rfl
  · exact .unknown e
  · exact .fresh
  · exact .bind_of_silent (silent_note _) fun _ => .replayed b

/-- The ways to ask for a unit. -/
inductive Reserves (request : BookingRequest) : List Deal → SagaEvent → Prop
  | refused (e : Error) : Reserves request [.ask request.reservation (.error e)] (.reserveFailed e)
  | reserved (t : Token) : Reserves request [.ask request.reservation (.ok t)] (.reserved t)

theorem ensures_reserve (request : BookingRequest) :
    (reserve request).Ensures deal? (Reserves request) := by
  refine (ensures_askInventory _).bind ?_
  rintro _ (e | t) rfl
  · exact .bind_of_silent (silent_note _) fun _ => .refused e
  · exact .reserved t

/-- No booking of the attempt is found after the store refused one for a cause: it is not looked for,
or it is not there, or the store does not tell. -/
inductive NoneFound (t : Token) (cause : Error) : List Deal → Prop
  | passed (h : cause.kind ≠ .invalidArgument) : NoneFound t cause []
  | missing (h : cause.kind = .invalidArgument) : NoneFound t cause [.look t.hold (.ok none)]
  | unknown (h : cause.kind = .invalidArgument) (e : Error) :
    NoneFound t cause [.look t.hold (.error e)]

/-- The ways to store a booking. -/
inductive Persists (t : Token) (user : UserId) : List Deal → SagaEvent → Prop
  | stored (b : Booking) :
    Persists t user [.store (BookingDraft.ofToken t user) (.ok b)] (.persisted b)
  | elsewhere (e : Error) (b : Booking) (h : e.kind = .invalidArgument) :
    Persists t user
      [.store (BookingDraft.ofToken t user) (.error e), .look t.hold (.ok (some b))]
      (.duplicateAttempt b)
  | refused (e : Error) (looks : List Deal) (h : NoneFound t e looks) :
    Persists t user (.store (BookingDraft.ofToken t user) (.error e) :: looks) (.persistFailed e)

theorem ensures_persist (t : Token) (user : UserId) :
    (persist t user).Ensures deal? (Persists t user) := by
  refine (ensures_askStore _).bind ?_
  rintro _ (e | b) rfl
  · show Program.Ensures deal? (if e.kind = .invalidArgument then _ else _) _
    by_cases invalid : e.kind = .invalidArgument
    · rw [if_pos invalid]
      refine (ensures_askStore _).bind ?_
      rintro _ (e' | _ | b) rfl
      · exact .refused e _ (.unknown invalid e')
      · exact .refused e _ (.missing invalid)
      · exact .bind_of_silent (silent_note _) fun _ => .elsewhere e b invalid
    · rw [if_neg invalid]
      exact .refused e _ (.passed invalid)
  · exact .stored b

/-- The ways to give back what a token holds, with a number of further tries allowed: only a passing
failure is followed by another try, and the last reply is the outcome. -/
inductive GivesBack (t : Token) : Nat → List Deal → Result Unit → Prop
  | given (n : Nat) : GivesBack t n [.giveBack t (.ok ())] (.ok ())
  | refused (n : Nat) (e : Error) (h : e.isTransient = false) :
    GivesBack t n [.giveBack t (.error e)] (.error e)
  | exhausted (e : Error) (h : e.isTransient = true) :
    GivesBack t 0 [.giveBack t (.error e)] (.error e)
  | again (n : Nat) (e : Error) (h : e.isTransient = true) (gives : List Deal)
    (outcome : Result Unit) (rest : GivesBack t n gives outcome) :
    GivesBack t (n + 1) (.giveBack t (.error e) :: gives) outcome

namespace GivesBack

variable {t : Token} {n : Nat} {gives : List Deal} {outcome : Result Unit}

/-- There is one try at least. -/
theorem first (h : GivesBack t n gives outcome) : ∃ reply, .giveBack t reply ∈ gives := by
  cases h with
  | given | refused | exhausted | again => exact ⟨_, .head _⟩

/-- Every try is about the same token. -/
theorem eq_of_mem (h : GivesBack t n gives outcome) {d : Deal} (mem : d ∈ gives) :
    ∃ reply, d = .giveBack t reply := by
  induction h with
  | given | refused | exhausted => exact ⟨_, List.mem_singleton.mp mem⟩
  | again n e transient gives outcome rest ih =>
    rcases List.mem_cons.mp mem with rfl | mem
    · exact ⟨_, rfl⟩
    · exact ih mem

/-- There are no more tries than one and the further ones that are allowed. -/
theorem length_le (h : GivesBack t n gives outcome) : gives.length ≤ n + 1 := by
  induction h with
  | given | refused | exhausted => simp
  | again n e transient gives outcome rest ih => simpa using ih

theorem kinds (h : GivesBack t n gives outcome) :
    (gives.map Deal.kind).Sublist (List.replicate (n + 1) .giveBack) := by
  have all : gives.map Deal.kind = List.replicate gives.length .giveBack := by
    rw [← List.length_map Deal.kind]
    refine List.eq_replicate_of_mem fun kind found => ?_
    obtain ⟨d, mem, rfl⟩ := List.mem_map.mp found
    obtain ⟨reply, rfl⟩ := h.eq_of_mem mem
    rfl
  rw [all]
  exact (List.replicate_sublist_replicate _).mpr h.length_le

/-- Tries to give back are deals about the same token, one after the other. -/
theorem of_tries
    (h : RetryPolicy.Tries Error.isTransient (fun said reply => said = [.giveBack t reply]) n gives
      outcome) : GivesBack t n gives outcome := by
  induction h with
  | answered n once =>
    subst once
    exact .given n
  | refused n once final =>
    subst once
    exact .refused n _ final
  | exhausted once worth =>
    subst once
    exact .exhausted _ worth
  | again once worth rest ih =>
    subst once
    exact .again _ _ worth _ _ ih

end GivesBack

theorem ensures_retryAfter (policy : RetryPolicy) (t : Token) (attempt remaining : Nat) :
    (policy.retryAfter Error.isTransient (Reservations.askRelease t : Service DeskWorld Unit).run
      attempt remaining).Ensures deal? (GivesBack t remaining) := by
  have unseen : Surroundings.Unseen DeskWorld deal? := fun _ possible => ⟨possible, fun _ => rfl⟩
  have once : (Reservations.askRelease t : Service DeskWorld Unit).run.Ensures deal?
      fun said reply => said = [.giveBack t reply] := ensures_askInventory (.release t)
  refine (RetryPolicy.ensures_retryAfter unseen policy once attempt remaining).mono ?_
  intro gives outcome tries
  exact .of_tries tries

/-- What a saga is told when what is held was to be given back. -/
def compensation : Result Unit → SagaEvent
  | .ok _ => .released
  | .error e => .releaseFailed e

theorem ensures_compensate (policy : RetryPolicy) (t : Token) :
    (compensate policy t).Ensures deal? fun gives event =>
      ∃ outcome, GivesBack t policy.maxRetries.toNat gives outcome ∧
        event = compensation outcome := by
  refine .bind_of_silent (silent_note _) fun _ => ?_
  refine (ensures_retryAfter policy t 0 policy.maxRetries.toNat).bind fun gives outcome given => ?_
  rcases outcome with e | _
  · refine .bind_of_silent (silent_count _) fun _ => .bind_of_silent (silent_note _) fun _ => ?_
    exact ⟨.error e, by simpa using given, rfl⟩
  · exact .bind_of_silent (silent_count _) fun _ => ⟨.ok (), by simpa using given, rfl⟩

/-! ### The whole -/

/-- A carried out attempt: what its saga was told, where that left it, and the answer to the caller. -/
structure Undertaking where
  events : List SagaEvent
  saga : Saga
  answer : Result Booking

/-- An undertaking whose saga was told some outcomes before. -/
def Undertaking.after (events : List SagaEvent) (u : Undertaking) : Undertaking :=
  { u with events := events ++ u.events }

/-- Carries out a step and all that follow, like `drive`, and keeps what the saga is told. -/
def pursue (policy : RetryPolicy) (request : BookingRequest) (saga : Saga) (step : SagaStep) :
    Program DeskWorld Undertaking := do
  let event ← perform policy request step
  match _h : saga.handle event with
  | (next, .perform step) =>
    let u ← pursue policy request next step
    return u.after [event]
  | (next, .complete answer) => return { events := [event], saga := next, answer }
termination_by saga.state.rank
decreasing_by exact Saga.rank_handle_lt _h

/-- Carries out an attempt, like `book`, and keeps what the saga is told. -/
def undertake (policy : RetryPolicy) (request : BookingRequest) :
    Program DeskWorld Undertaking := do
  let request := request.normalized
  let event ← validate request
  match (Saga.start request.attempt).handle event with
  | (next, .perform step) =>
    let u ← pursue policy request next step
    return u.after [event]
  | (next, .complete answer) => return { events := [event], saga := next, answer }

/-- Writes down how an attempt ended, and answers the caller. -/
def Undertaking.close (u : Undertaking) : Program DeskWorld (Result Booking) := do
  conclude u.saga u.answer
  return u.answer

theorem ensures_close (u : Undertaking) :
    u.close.Ensures deal? fun said answer => said = [] ∧ answer = u.answer :=
  .bind_of_silent (silent_conclude u.saga u.answer) fun _ => ⟨rfl, rfl⟩

theorem drive_eq (policy : RetryPolicy) (request : BookingRequest) (saga : Saga)
    (step : SagaStep) :
    drive policy request saga step =
      (pursue policy request saga step).bind Undertaking.close := by
  -- every step that the saga asks for lowers its rank
  induction rank : saga.state.rank using Nat.strongRecOn generalizing saga step with
  | ind n ih =>
  rw [drive, pursue, Program.bind_eq, Program.bind_eq, Program.bind_bind]
  congr 1
  funext event
  rcases handled : saga.handle event with ⟨next, step | answer⟩
  · dsimp only
    rw [ih _ (rank ▸ Saga.rank_handle_lt handled) next step rfl, Program.bind_eq, Program.bind_bind]
    rfl
  · rfl

/-- Booking is an undertaking of which only the answer is kept. -/
theorem book_eq (policy : RetryPolicy) (request : BookingRequest) :
    book policy request = (undertake policy request).bind Undertaking.close := by
  rw [book, undertake, Program.bind_eq, Program.bind_eq, Program.bind_bind]
  congr 1
  funext event
  rcases (Saga.start request.normalized.attempt).handle event with ⟨next, step | answer⟩
  · dsimp only
    rw [drive_eq, Program.bind_eq, Program.bind_bind]
    rfl
  · rfl

/-- Where a saga is left when what is held was to be given back. -/
def compensated : Result Unit → SagaState
  | .ok _ => .compensatedOk
  | .error _ => .compensatedFailed

/-- The ways that an attempt can go, each with all that is said and how it ends. -/
inductive Course (tries : Nat) (r : BookingRequest) : List Deal → Undertaking → Prop
  /-- The request is not in order. -/
  | invalid (h : r.user.value ≤ 0) :
    Course tries r []
      { events := [.rejected (Cause.invalidUser r.user).error]
        saga := ⟨r.attempt, .rejected⟩
        answer := .error (Cause.invalidUser r.user).error }
  /-- The store does not tell whether the attempt has a booking. -/
  | unknown (e : Error) :
    Course tries r [.look r.attempt (.error e)]
      { events := [.rejected e], saga := ⟨r.attempt, .rejected⟩, answer := .error e }
  /-- The attempt has a booking already. -/
  | replayed (b : Booking) :
    Course tries r [.look r.attempt (.ok (some b))]
      { events := [.replayed b], saga := ⟨r.attempt, .committed⟩, answer := .ok b }
  /-- There is no unit for the request. -/
  | refused (e : Error) :
    Course tries r [.look r.attempt (.ok none), .ask r.reservation (.error e)]
      { events := [.validated, .reserveFailed e]
        saga := ⟨r.attempt, .rejected⟩
        answer := .error e }
  /-- The booking is stored. -/
  | stored (t : Token) (b : Booking) :
    Course tries r
      [.look r.attempt (.ok none), .ask r.reservation (.ok t),
        .store (BookingDraft.ofToken t r.user) (.ok b)]
      { events := [.validated, .reserved t, .persisted b]
        saga := ⟨r.attempt, .committed⟩
        answer := .ok b }
  /-- The store refuses the booking since the attempt has one by now. -/
  | elsewhere (t : Token) (e : Error) (b : Booking) (h : e.kind = .invalidArgument) :
    Course tries r
      [.look r.attempt (.ok none), .ask r.reservation (.ok t),
        .store (BookingDraft.ofToken t r.user) (.error e), .look t.hold (.ok (some b))]
      { events := [.validated, .reserved t, .duplicateAttempt b]
        saga := ⟨r.attempt, .committed⟩
        answer := .ok b }
  /-- The booking is not stored, and what is held is to be given back. -/
  | undone (t : Token) (e : Error) (looks gives : List Deal) (outcome : Result Unit)
    (none : NoneFound t e looks) (given : GivesBack t tries gives outcome) :
    Course tries r
      (.look r.attempt (.ok .none) :: .ask r.reservation (.ok t) ::
        .store (BookingDraft.ofToken t r.user) (.error e) :: (looks ++ gives))
      { events := [.validated, .reserved t, .persistFailed e, compensation outcome]
        saga := ⟨r.attempt, compensated outcome⟩
        answer := .error e }

section Course

variable (policy : RetryPolicy) (r : BookingRequest)

theorem ensures_pursue_release (t : Token) (e : Error) {looks : List Deal}
    (none : NoneFound t e looks) :
    (pursue policy r ⟨r.attempt, .compensating t e⟩ (.release t)).Ensures deal? fun gives u =>
      Course policy.maxRetries.toNat r
        (.look r.attempt (.ok .none) :: .ask r.reservation (.ok t) ::
          .store (BookingDraft.ofToken t r.user) (.error e) :: (looks ++ gives))
        (u.after [.validated, .reserved t, .persistFailed e]) := by
  unfold pursue
  refine (ensures_compensate policy t).bind ?_
  rintro gives _ ⟨outcome, given, rfl⟩
  rcases outcome with e' | _
  · show Course _ r (_ :: _ :: _ :: (looks ++ (gives ++ []))) _
    rw [List.append_nil]
    exact .undone t e looks gives (.error e') none given
  · show Course _ r (_ :: _ :: _ :: (looks ++ (gives ++ []))) _
    rw [List.append_nil]
    exact .undone t e looks gives (.ok ()) none given

theorem ensures_pursue_persist (t : Token) :
    (pursue policy r ⟨r.attempt, .persisting t⟩ (.persist t)).Ensures deal? fun more u =>
      Course policy.maxRetries.toNat r
        (.look r.attempt (.ok none) :: .ask r.reservation (.ok t) :: more)
        (u.after [.validated, .reserved t]) := by
  unfold pursue
  refine (ensures_persist t r.user).bind ?_
  intro said event persists
  cases persists with
  | stored b => exact .stored t b
  | elsewhere e b invalid => exact .elsewhere t e b invalid
  | refused e looks none =>
    show Program.Ensures deal? (do
      let u ← pursue policy r ⟨r.attempt, .compensating t e⟩ (.release t)
      return u.after [.persistFailed e]) _
    refine .map ?_
    exact ensures_pursue_release policy r t e none

theorem ensures_pursue_reserve :
    (pursue policy r ⟨r.attempt, .reserving⟩ .reserve).Ensures deal? fun more u =>
      Course policy.maxRetries.toNat r (.look r.attempt (.ok none) :: more)
        (u.after [.validated]) := by
  unfold pursue
  refine (ensures_reserve r).bind ?_
  intro said event reserves
  cases reserves with
  | refused e => exact .refused e
  | reserved t =>
    show Program.Ensures deal? (do
      let u ← pursue policy r ⟨r.attempt, .persisting t⟩ (.persist t)
      return u.after [.reserved t]) _
    refine .map ?_
    exact ensures_pursue_persist policy r t

/-- An attempt goes one of the listed ways. -/
theorem ensures_undertake (request : BookingRequest) :
    (undertake policy request).Ensures deal?
      (Course policy.maxRetries.toNat request.normalized) := by
  unfold undertake
  refine (ensures_validate request.normalized).bind ?_
  intro said event validates
  cases validates with
  | invalid h => exact .invalid h
  | unknown e => exact .unknown e
  | replayed b => exact .replayed b
  | fresh => exact (ensures_pursue_reserve policy request.normalized).map

/-- The answer to a request is that of an attempt which went one of the listed ways. -/
theorem ensures_book (request : BookingRequest) :
    (book policy request).Ensures deal? fun deals answer =>
      ∃ u, Course policy.maxRetries.toNat request.normalized deals u ∧ u.answer = answer := by
  rw [book_eq, Program.ensures_bind]
  refine (ensures_undertake policy request).mono fun deals u course => ?_
  refine (ensures_close u).mono fun said answer h => ?_
  obtain ⟨rfl, rfl⟩ := h
  exact ⟨u, by rwa [List.append_nil], rfl⟩

end Course

/-! ### What is promised -/

/-- The undertaking of a request is as it has to be, given all deals that were made for it. -/
structure Driven (policy : RetryPolicy) (request : BookingRequest) (deals : List Deal)
    (u : Undertaking) : Prop where
  /-- The saga asked for everything that it was told, and the last time it gave the answer. -/
  hears : (Saga.start request.attempt).Hears u.events u.saga u.answer
  terminal : u.saga.state.isTerminal = true
  /-- At most these calls are made, and in this order. -/
  calls : (deals.map Deal.kind).Sublist
    ([.look, .ask, .store, .look] ++ List.replicate (policy.maxRetries.toNat + 1) .giveBack)
  /-- What is held is to be given back exactly if its booking is not stored, unless the store refused
  it and then tells the booking that the attempt has. -/
  givesBack_iff : (∃ t reply, .giveBack t reply ∈ deals) ↔
    ∃ t e, deals[1]? = some (.ask request.normalized.reservation (.ok t)) ∧
      deals[2]? = some (.store (BookingDraft.ofToken t request.user) (.error e)) ∧
      ¬ (e.kind = .invalidArgument ∧ ∃ b, deals[3]? = some (.look t.hold (.ok (some b))))
  /-- Nothing is given back but what is held. -/
  givesBack : ∀ t reply, .giveBack t reply ∈ deals →
    deals[1]? = some (.ask request.normalized.reservation (.ok t))
  /-- A booking that is answered with is the store's, and what it holds stays held. -/
  ok : ∀ b, u.answer = .ok b →
    (deals[0]? = some (.look request.attempt (.ok (some b))) ∨
      ∃ t, deals[1]? = some (.ask request.normalized.reservation (.ok t)) ∧
        (deals[2]? = some (.store (BookingDraft.ofToken t request.user) (.ok b)) ∨
          deals[3]? = some (.look t.hold (.ok (some b))))) ∧
    ∀ t reply, .giveBack t reply ∉ deals
  /-- An error that is answered with says what went wrong first. -/
  error : ∀ e, u.answer = .error e →
    (request.user.value ≤ 0 ∧ e = (Cause.invalidUser request.user).error ∧ deals = []) ∨
      deals[0]? = some (.look request.attempt (.error e)) ∨
      deals[1]? = some (.ask request.normalized.reservation (.error e)) ∨
      ∃ t, deals[1]? = some (.ask request.normalized.reservation (.ok t)) ∧
        deals[2]? = some (.store (BookingDraft.ofToken t request.user) (.error e))

section NoneFound

variable {t : Token} {e : Error} {looks : List Deal} (h : NoneFound t e looks)

include h

theorem NoneFound.kinds : (looks.map Deal.kind).Sublist [.look] := by
  cases h <;> simp [Deal.kind]

theorem NoneFound.not_giveBack (t' : Token) (reply : Result Unit) : .giveBack t' reply ∉ looks := by
  cases h <;> simp

/-- After the store refused a booking, the next deal shows none. -/
theorem NoneFound.no_booking (gives : List Deal) :
    ¬ (e.kind = .invalidArgument ∧
      ∃ b, (looks ++ gives)[0]? = some (.look t.hold (.ok (some b)))) := by
  rintro ⟨invalid, b, found⟩
  cases h with
  | passed valid => exact valid invalid
  | missing | unknown => simp at found

end NoneFound

theorem Course.hears {tries : Nat} {request : BookingRequest} {deals : List Deal} {u : Undertaking}
    (h : Course tries request.normalized deals u) :
    (Saga.start request.attempt).Hears u.events u.saga u.answer := by
  have asked {state : SagaState} {event : SagaEvent}
      (moves : (Saga.transition request.attempt state event).1 ≠ state) :
      ¬ (⟨request.attempt, state⟩ : Saga).Refuses event :=
    Saga.not_refuses_of_moves moves
  cases h with
  | invalid => exact .ends (asked nofun) rfl
  | unknown e => exact .ends (asked nofun) rfl
  | replayed b => exact .ends (asked nofun) rfl
  | refused e => exact .goesOn (asked nofun) rfl (.ends (asked nofun) rfl)
  | stored t b =>
    exact .goesOn (asked nofun) rfl (.goesOn (asked nofun) rfl (.ends (asked nofun) rfl))
  | elsewhere t e b =>
    exact .goesOn (asked nofun) rfl (.goesOn (asked nofun) rfl (.ends (asked nofun) rfl))
  | undone t e looks gives outcome =>
    have last : (⟨request.attempt, .compensating t e⟩ : Saga).Hears [compensation outcome]
        ⟨request.attempt, compensated outcome⟩ (.error e) := by
      cases outcome with
      | ok => exact .ends (asked nofun) rfl
      | error e' => exact .ends (asked nofun) rfl
    exact .goesOn (asked nofun) rfl (.goesOn (asked nofun) rfl (.goesOn (asked nofun) rfl last))

/-- What is promised of an attempt, from the way that it went. -/
theorem Course.driven {policy : RetryPolicy} {request : BookingRequest} {deals : List Deal}
    {u : Undertaking} (h : Course policy.maxRetries.toNat request.normalized deals u) :
    Driven policy request deals u where
  hears := h.hears
  terminal := by
    cases h with
    | undone t e looks gives outcome => cases outcome <;> rfl
    | _ => rfl
  calls := by
    cases h with
    | undone t e looks gives outcome none given =>
      have more : ((looks ++ gives).map Deal.kind).Sublist
          ([.look] ++ List.replicate (policy.maxRetries.toNat + 1) .giveBack) := by
        rw [List.map_append]
        exact none.kinds.append given.kinds
      exact ((more.cons_cons _).cons_cons _).cons_cons _
    | _ => simp [Deal.kind]
  givesBack_iff := by
    cases h with
    | undone t e looks gives outcome none given =>
      refine iff_of_true ?_ ⟨t, e, rfl, rfl, none.no_booking gives⟩
      obtain ⟨reply, mem⟩ := given.first
      exact ⟨t, reply, by simp [mem]⟩
    | elsewhere t e b invalid => simp [invalid]
    | _ => simp
  givesBack := by
    cases h with
    | undone t e looks gives outcome none given =>
      intro t' reply mem
      have given' : .giveBack t' reply ∈ gives := by
        simpa [none.not_giveBack] using mem
      obtain ⟨_, same⟩ := given.eq_of_mem given'
      cases same
      rfl
    | _ => simp
  ok := by
    cases h with
    | replayed b =>
      rintro _ ⟨rfl⟩
      exact ⟨.inl rfl, by simp⟩
    | stored t b =>
      rintro _ ⟨rfl⟩
      exact ⟨.inr ⟨t, rfl, .inl rfl⟩, by simp⟩
    | elsewhere t e b =>
      rintro _ ⟨rfl⟩
      exact ⟨.inr ⟨t, rfl, .inr rfl⟩, by simp⟩
    | _ => exact nofun
  error := by
    cases h with
    | invalid h =>
      rintro _ ⟨rfl⟩
      exact .inl ⟨h, rfl, rfl⟩
    | unknown e =>
      rintro _ ⟨rfl⟩
      exact .inr (.inl rfl)
    | refused e =>
      rintro _ ⟨rfl⟩
      exact .inr (.inr (.inl rfl))
    | undone t e =>
      rintro _ ⟨rfl⟩
      exact .inr (.inr (.inr ⟨t, rfl, rfl⟩))
    | _ => exact nofun

/-- **Whatever the store and the inventory reply, booking drives its saga to an end as it has to.** -/
theorem book_drives_saga (policy : RetryPolicy) (request : BookingRequest)
    (E : Environment DeskWorld) :
    ∃ said before u,
      (undertake policy request).converse E [] = (before, some u) ∧ before <+: said ∧
      (book policy request).converse E [] = (said, some u.answer) ∧
      Driven policy request (said.filterMap deal?) u := by
  obtain ⟨before, u, undertaken, course⟩ := (ensures_undertake policy request).converse E []
  obtain ⟨rest, _, closed, silent, rfl⟩ := (ensures_close u).converse E ([] ++ before)
  refine ⟨before ++ rest, before, u, undertaken, before.prefix_append rest, ?_, ?_⟩
  · rw [book_eq]
    exact Program.converse_bind undertaken closed
  · rw [List.filterMap_append, silent, List.append_nil]
    exact course.driven

end Desk

end BoxOffice
