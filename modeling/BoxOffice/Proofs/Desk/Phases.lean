import BoxOffice.Proofs.Desk.Calls

/-!
# The phases of a booking

A protocol says which calls a program may make in each phase of a conversation, and to which phase the
reply to a call leads. Booking follows one (`follows_book`): the attempt's booking is looked for, a
unit is asked for, its booking is stored. Only if it is not stored what is held is given back, and
before that nothing else can happen any more (`Phase.failing`).
-/

namespace BoxOffice

/-- Rules for a conversation: the calls that may be made in a phase, and the phase that a reply leads
to. -/
structure Protocol (I : Interface) (σ : Type) where
  Allows : σ → I.Call → Prop
  next : σ → (c : I.Call) → I.Reply c → σ

/-- A call that may be made in a phase, and does not end it. -/
def Protocol.Stays {I : Interface} {σ : Type} (P : Protocol I σ) (s : σ) (c : I.Call) : Prop :=
  P.Allows s c ∧ ∀ reply, P.next s c reply = s

/-- A program keeps to the rules from a phase on, and ends in a phase that suits its result. -/
def Program.Follows {I : Interface} {σ α : Type} (P : Protocol I σ) (Ends : σ → α → Prop) :
    Program I α → σ → Prop
  | .done a, s => Ends s a
  | .ask c k, s => P.Allows s c ∧ ∀ reply, (k reply).Follows P Ends (P.next s c reply)

namespace Program.Follows

variable {I : Interface} {σ α β : Type} {P : Protocol I σ} {Ends : σ → α → Prop}
  {Ends' : σ → β → Prop} {p : Program I α} {s : σ}

/-- Programs that follow each other's phases follow the rules together. -/
theorem bind {k : α → Program I β} (first : p.Follows P Ends s)
    (rest : ∀ a s', Ends s' a → (k a).Follows P Ends' s') : (p >>= k).Follows P Ends' s := by
  induction p generalizing s with
  | done a => exact rest a s first
  | ask c next ih => exact ⟨first.1, fun reply => ih reply (first.2 reply)⟩

/-- Calls that do not end the phase may be made in any number. -/
theorem of_stays (h : p.Only (P.Stays s)) : p.Follows P (fun s' _ => s' = s) s := by
  induction p with
  | done a => rfl
  | ask c k ih =>
    refine ⟨h.1.1, fun reply => ?_⟩
    rw [h.1.2 reply]
    exact ih reply (h.2 reply)

theorem bind_of_stays {k : α → Program I β} (first : p.Only (P.Stays s))
    (rest : ∀ a, (k a).Follows P Ends' s) : (p >>= k).Follows P Ends' s := by
  refine (of_stays first).bind ?_
  rintro a _ rfl
  exact rest a

end Program.Follows

namespace Desk

/-- Where a booking stands. -/
inductive Phase
  /-- A booking of the attempt is looked for. -/
  | looking
  /-- A unit is to be asked for. -/
  | asking
  /-- A unit is held, and its booking is to be stored. -/
  | holding (t : Token)
  /-- The store refused the booking, and the one that the attempt has is looked for. -/
  | refused (t : Token) (cause : Error)
  /-- The booking is not stored, and what is held is to be given back. -/
  | failing (t : Token) (cause : Error)
  /-- What was held was given back, or at least that was tried. -/
  | giving (t : Token) (cause : Error)
  /-- The answer is known. -/
  | closed (answer : Result Booking)

namespace Phase

/-- The phase in which a booking begins. -/
def start (request : BookingRequest) : Phase :=
  if request.user.value ≤ 0 then .closed (.error (Cause.invalidUser request.user).error) else .looking

/-- The calls that a booking may make. -/
inductive Allows (request : BookingRequest) : Phase → DeskWorld.Call → Prop
  | look : Allows request .looking (.inr (.inl (.findByAttempt request.attempt)))
  | ask : Allows request .asking (.inl (.reserve request.reservation))
  | store (t) :
    Allows request (.holding t) (.inr (.inl (.create (BookingDraft.ofToken t request.user))))
  | lookAgain (t cause) : Allows request (.refused t cause) (.inr (.inl (.findByAttempt t.hold)))
  | lament (t cause entry) : Allows request (.failing t cause) (.inr (.inr (.record entry)))
  | giveBack (t cause) : Allows request (.failing t cause) (.inl (.release t))
  | giveBackAgain (t cause) : Allows request (.giving t cause) (.inl (.release t))
  | giving (t cause c) : Allows request (.giving t cause) (.inr (.inr c))
  | closed (answer c) : Allows request (.closed answer) (.inr (.inr c))

/-- The phase after the first look into the store. -/
def afterLook : Result (Option Booking) → Phase
  | .ok (some b) => .closed (.ok b)
  | .ok none => .asking
  | .error e => .closed (.error e)

/-- The phase after a unit was asked for. -/
def afterAsk : Result Token → Phase
  | .ok t => .holding t
  | .error e => .closed (.error e)

/-- The phase after a booking was to be stored. -/
def afterStore (t : Token) : Result Booking → Phase
  | .ok b => .closed (.ok b)
  | .error e => if e.kind = .invalidArgument then .refused t e else .failing t e

/-- The phase after the second look into the store. -/
def afterLookAgain (t : Token) (cause : Error) : Result (Option Booking) → Phase
  | .ok (some b) => .closed (.ok b)
  | _ => .failing t cause

/-- The phase that a reply leads to. -/
def next : Phase → (c : DeskWorld.Call) → DeskWorld.Reply c → Phase
  | .looking, .inr (.inl (.findByAttempt _)), reply => afterLook reply
  | .asking, .inl (.reserve _), reply => afterAsk reply
  | .holding t, .inr (.inl (.create _)), reply => afterStore t reply
  | .refused t cause, .inr (.inl (.findByAttempt _)), reply => afterLookAgain t cause reply
  | .failing t cause, .inl (.release _), _ => .giving t cause
  | s, _, _ => s

/-- What may be answered at the end of a phase. -/
inductive Ends : Phase → Result Booking → Prop
  | closed (answer) : Ends (.closed answer) answer
  | giving (t cause) : Ends (.giving t cause) (.error cause)

end Phase

/-- The protocol of a booking. -/
def protocol (request : BookingRequest) : Protocol DeskWorld Phase where
  Allows := Phase.Allows request
  next := Phase.next

/-- The outcomes of the steps of a saga, and the phases in which they are told. -/
inductive Tells : SagaState → SagaEvent → Phase → Prop
  | validated : Tells .validating .validated .asking
  | replayed (b) : Tells .validating (.replayed b) (.closed (.ok b))
  | rejected (e) : Tells .validating (.rejected e) (.closed (.error e))
  | reserved (t) : Tells .reserving (.reserved t) (.holding t)
  | reserveFailed (e) : Tells .reserving (.reserveFailed e) (.closed (.error e))
  | persisted (t b) : Tells (.persisting t) (.persisted b) (.closed (.ok b))
  | duplicateAttempt (t b) : Tells (.persisting t) (.duplicateAttempt b) (.closed (.ok b))
  | persistFailed (t e) : Tells (.persisting t) (.persistFailed e) (.failing t e)
  | released (t e) : Tells (.compensating t e) .released (.giving t e)
  | releaseFailed (t e e') : Tells (.compensating t e) (.releaseFailed e') (.giving t e)

/-- The steps that a saga asks for, and the phases in which they are taken. -/
inductive Takes : SagaState → SagaStep → Phase → Prop
  | reserve : Takes .reserving .reserve .asking
  | persist (t) : Takes (.persisting t) (.persist t) (.holding t)
  | release (t e) : Takes (.compensating t e) (.release t) (.failing t e)

/-! ### The steps -/

/-- The surroundings may be called when the answer is known. -/
theorem stays_closed (request : BookingRequest) (answer : Result Booking) (c : Surroundings.Call) :
    (protocol request).Stays (.closed answer) (.inr (.inr c)) :=
  ⟨.closed answer c, fun _ => rfl⟩

/-- The surroundings may be called between two tries to give back what is held. -/
theorem stays_giving (request : BookingRequest) (t : Token) (cause : Error) (c : Surroundings.Call) :
    (protocol request).Stays (.giving t cause) (.inr (.inr c)) :=
  ⟨.giving t cause c, fun _ => rfl⟩

/-- One call to the store. -/
theorem follows_askStore {request : BookingRequest} {s : Phase} {c : BookingStore.Call}
    (allowed : Phase.Allows request s (.inr (.inl c))) :
    (BookingStore.ask c : Service DeskWorld _).run.Follows (protocol request)
      (fun s' reply => s' = s.next (.inr (.inl c)) reply) s :=
  ⟨allowed, fun _ => rfl⟩

/-- One call to the inventory. -/
theorem follows_askInventory {request : BookingRequest} {s : Phase} {c : Reservations.Call}
    (allowed : Phase.Allows request s (.inl c)) :
    (Reservations.ask c : Service DeskWorld _).run.Follows (protocol request)
      (fun s' reply => s' = s.next (.inl c) reply) s :=
  ⟨allowed, fun _ => rfl⟩

theorem follows_validate (request : BookingRequest) :
    (validate request).Follows (protocol request) (fun s event => Tells .validating event s)
      (.start request) := by
  unfold validate Phase.start
  split
  · exact .rejected _
  refine (follows_askStore .look).bind ?_
  rintro (e | _ | b) _ rfl
  · exact .rejected e
  · exact .validated
  · exact Program.Follows.bind_of_stays (only_note (stays_closed request (.ok b)) _)
      fun _ => .replayed b

theorem follows_reserve (request : BookingRequest) :
    (reserve request).Follows (protocol request) (fun s event => Tells .reserving event s)
      .asking := by
  refine (follows_askInventory .ask).bind ?_
  rintro (e | t) _ rfl
  · exact Program.Follows.bind_of_stays (only_note (stays_closed request (.error e)) _)
      fun _ => .reserveFailed e
  · exact .reserved t

theorem follows_persist (request : BookingRequest) (t : Token) :
    (persist t request.user).Follows (protocol request)
      (fun s event => Tells (.persisting t) event s) (.holding t) := by
  refine (follows_askStore (.store t)).bind ?_
  rintro (e | b) s rfl
  · by_cases invalid : e.kind = .invalidArgument
    · have phase : Phase.afterStore t (.error e) = .refused t e := if_pos invalid
      show Program.Follows _ _ (if _ then _ else _) (Phase.afterStore t (.error e))
      rw [if_pos invalid, phase]
      refine (follows_askStore (.lookAgain t e)).bind ?_
      rintro (_ | _ | b) _ rfl
      · exact .persistFailed t e
      · exact .persistFailed t e
      · exact Program.Follows.bind_of_stays (only_note (stays_closed request (.ok b)) _)
          fun _ => .duplicateAttempt t b
    · have phase : Phase.afterStore t (.error e) = .failing t e := if_neg invalid
      show Program.Follows _ _ (if _ then _ else _) (Phase.afterStore t (.error e))
      rw [if_neg invalid, phase]
      exact .persistFailed t e
  · exact .persisted t b

/-- Whoever tries again to give back what is held has tried it once at least in the end. -/
theorem follows_retryAfter (request : BookingRequest) (policy : RetryPolicy) (t : Token)
    (cause : Error) (remaining attempt : Nat) {s : Phase}
    (failing : s = .failing t cause ∨ s = .giving t cause) :
    (policy.retryAfter Error.isTransient (Reservations.askRelease t : Service DeskWorld Unit).run
      attempt remaining).Follows (protocol request) (fun s' _ => s' = .giving t cause) s := by
  have once : (Reservations.askRelease t : Service DeskWorld Unit).run.Follows (protocol request)
      (fun s' _ => s' = .giving t cause) s := by
    rcases failing with rfl | rfl
    · exact ⟨.giveBack t cause, fun _ => rfl⟩
    · exact ⟨.giveBackAgain t cause, fun _ => rfl⟩
  have around := stays_giving request t cause
  -- by induction on the tries that are left
  induction remaining generalizing attempt s with
  | zero =>
    unfold RetryPolicy.retryAfter
    refine once.bind ?_
    rintro (e | a) _ rfl
    · dsimp only
      split
      · exact .of_stays (only_note around _)
      · refine .of_stays ((only_count around _).bind fun _ => ?_)
        exact (only_note around _).bind fun _ => trivial
    · exact .of_stays (only_succeed around attempt a)
  | succ remaining ih =>
    unfold RetryPolicy.retryAfter
    refine once.bind ?_
    rintro (e | a) _ rfl
    · dsimp only
      split
      · exact .of_stays (only_note around _)
      · refine Program.Follows.bind_of_stays (only_count around _) fun _ => ?_
        refine Program.Follows.bind_of_stays (only_note around _) fun _ => ?_
        refine Program.Follows.bind_of_stays (only_pause around policy attempt) fun _ => ?_
        exact ih (attempt + 1) (.inr rfl) ⟨.giveBackAgain t cause, fun _ => rfl⟩
    · exact .of_stays (only_succeed around attempt a)

theorem follows_compensate (request : BookingRequest) (policy : RetryPolicy) (t : Token)
    (cause : Error) :
    (compensate policy t).Follows (protocol request)
      (fun s event => Tells (.compensating t cause) event s) (.failing t cause) := by
  have lament : (Surroundings.note .insertFailed : Program DeskWorld Unit).Only
      ((protocol request).Stays (.failing t cause)) :=
    ⟨⟨.lament t cause _, fun _ => rfl⟩, fun _ => trivial⟩
  have around := stays_giving request t cause
  refine Program.Follows.bind_of_stays lament fun _ => ?_
  refine (follows_retryAfter request policy t cause _ _ (.inl rfl)).bind ?_
  rintro (e | _) _ rfl
  · refine Program.Follows.bind_of_stays (only_count around _) fun _ => ?_
    exact Program.Follows.bind_of_stays (only_note around _) fun _ => .releaseFailed t cause e
  · exact Program.Follows.bind_of_stays (only_count around _) fun _ => .released t cause

/-! ### The whole -/

theorem follows_perform (request : BookingRequest) (policy : RetryPolicy) {state : SagaState}
    {step : SagaStep} {s : Phase} (takes : Takes state step s) :
    (perform policy request step).Follows (protocol request)
      (fun s' event => Tells state event s') s := by
  cases takes with
  | reserve => exact follows_reserve request
  | persist t => exact follows_persist request t
  | release t e => exact follows_compensate request policy t e

theorem follows_conclude (request : BookingRequest) (saga : Saga) (answer : Result Booking)
    {s : Phase} (ends : s.Ends answer) :
    (do conclude saga answer; return answer : Program DeskWorld (Result Booking)).Follows
      (protocol request) Phase.Ends s := by
  have around : ∀ c, (protocol request).Stays s (.inr (.inr c)) := by
    cases ends with
    | closed => exact stays_closed request answer
    | giving t cause => exact stays_giving request t cause
  refine Program.Follows.bind_of_stays ?_ fun _ => ends
  unfold conclude
  split
  · exact (only_count around _).bind fun _ => only_note around _
  · exact only_note around _
  · exact only_note around _

/-- What a saga makes of an outcome: an answer that suits the phase, or a step that is taken in it. -/
theorem handle_cases {saga : Saga} {event : SagaEvent} {s : Phase}
    (tells : Tells saga.state event s) :
    (∃ next answer, saga.handle event = (next, .complete answer) ∧ s.Ends answer) ∨
    (∃ next step, saga.handle event = (next, .perform step) ∧ Takes next.state step s) := by
  obtain ⟨attempt, state⟩ := saga
  cases tells with
  | validated => exact .inr ⟨_, _, rfl, .reserve⟩
  | reserved t => exact .inr ⟨_, _, rfl, .persist t⟩
  | persistFailed t e => exact .inr ⟨_, _, rfl, .release t e⟩
  | replayed | rejected | reserveFailed | persisted | duplicateAttempt =>
    exact .inl ⟨_, _, rfl, .closed _⟩
  | released | releaseFailed => exact .inl ⟨_, _, rfl, .giving _ _⟩

theorem follows_drive (request : BookingRequest) (policy : RetryPolicy) {saga : Saga}
    {step : SagaStep} {s : Phase} (takes : Takes saga.state step s) :
    (drive policy request saga step).Follows (protocol request) Phase.Ends s := by
  -- every step that the saga asks for lowers its rank
  induction rank : saga.state.rank using Nat.strongRecOn generalizing saga step s with
  | ind n ih =>
  unfold drive
  refine (follows_perform request policy takes).bind fun event s' tells => ?_
  rcases handle_cases tells with ⟨next, answer, handled, ends⟩ | ⟨next, step, handled, takes'⟩
  · split
    · next handled' => cases handled.symm.trans handled'
    · next handled' =>
      cases handled.symm.trans handled'
      exact follows_conclude request next answer ends
  · split
    · next handled' =>
      cases handled.symm.trans handled'
      exact ih _ (rank ▸ Saga.rank_handle_lt handled) takes' rfl
    · next handled' => cases handled.symm.trans handled'

/-- **Booking follows its protocol.** -/
theorem follows_book (policy : RetryPolicy) (request : BookingRequest) :
    (book policy request).Follows (protocol request.normalized) Phase.Ends (.start request) := by
  unfold book
  refine (follows_validate request.normalized).bind fun event s tells => ?_
  rcases @handle_cases (Saga.start request.attempt) event s tells with
    ⟨next, answer, handled, ends⟩ | ⟨next, step, handled, takes⟩
  · rw [show (Saga.start request.normalized.attempt).handle event = _ from handled]
    exact follows_conclude _ next answer ends
  · rw [show (Saga.start request.normalized.attempt).handle event = _ from handled]
    exact follows_drive _ policy takes

end Desk

end BoxOffice
