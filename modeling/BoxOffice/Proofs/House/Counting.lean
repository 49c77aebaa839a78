import BoxOffice.Proofs.Bookings.History
import BoxOffice.Proofs.House.Coupling
import BoxOffice.Proofs.Inventory.Reserve

/-!
# Counting bookings

Every booking is pending at first, and a status that it reaches later it keeps; so the store tells how
many bookings reached each status so far (`MemoryStore.reached`). A turn lets one booking reach a
status and counts that, or it changes nothing; but an attempt that has a booking already is answered
with it, and its status is counted again (`Coupled.turn_adds`). So the counters are right as long as
no attempt is repeated (`counters_right_iff`).
-/

namespace BoxOffice

open Rehearsal

/-- A number for every status. -/
abbrev Tally := BookingStatus → Nat

/-- On the way to another tally the number of a status grew by one, and the others stayed. -/
def Tally.Grows (before : Tally) (news : Option BookingStatus) (after : Tally) : Prop :=
  ∀ s, after s = before s + if news = some s then 1 else 0

theorem Tally.grows_refl (t : Tally) : t.Grows none t :=
  fun _ => by simp

/-- How a booking goes on after an outcome was applied to its saga. -/
def Desk.goOn (policy : RetryPolicy) (request : BookingRequest) :
    Saga × SagaCommand → Program DeskWorld (Result Booking)
  | (next, .perform step) => drive policy request next step
  | (next, .complete answer) => do
    conclude next answer
    return answer

/-! ### Reached and counted -/

namespace MemoryStore

/-- How many bookings reached each status so far. -/
def reached (s : MemoryStore) : Tally
  | .pending => s.bookings.size
  | decided => s.bookings.values.countP fun b => b.status = decided

theorem reached_of_decided (s : MemoryStore) {status : BookingStatus} (decided : status ≠ .pending) :
    s.reached status = s.bookings.values.countP fun b => b.status = status := by
  cases status with
  | pending => exact absurd rfl decided
  | confirmed | cancelled => rfl

/-- A booking that is stored is pending. -/
theorem reached_stored {s : MemoryStore} {id : BookingId} (lacks : s.Lacks id)
    (draft : BookingDraft) (now : Instant) (byAttempt : Registry HoldId BookingId) :
    s.reached.Grows (some .pending)
      (reached { bookings := s.bookings.set id (.ofDraft id draft now), byAttempt }) := by
  intro status
  by_cases decided : status = .pending
  · subst decided
    exact Registry.size_set_of_none lacks _
  · have absent : s.bookings.get? id = none := lacks
    have elsewhere : ¬ (Booking.ofDraft id draft now).status = status := Ne.symm decided
    rw [reached_of_decided _ decided, reached_of_decided _ decided,
      Registry.countP_set (by simp [absent])]
    simp [elsewhere, Ne.symm decided]

/-- A pending booking that is settled reaches the status in which it is settled. -/
theorem reached_settled {s : MemoryStore} {id : BookingId} {b : Booking}
    (there : s.bookings.get? id = some b) (pending : b.status = .pending) (now : Instant)
    {target : BookingStatus} (decided : target ≠ .pending) :
    s.reached.Grows (some target) (s.transition id now .pending target).2.reached := by
  rw [transition_eq there pending now target]
  intro status
  by_cases first : status = .pending
  · subst first
    rw [if_neg (by simpa using decided)]
    exact Registry.size_modify ..
  · have changed := Registry.countP_modify there
      (fun _ => { b with status := target, updatedAt := now }) fun b => b.status = status
    have elsewhere : ¬ b.status = status := pending ▸ Ne.symm first
    rw [reached_of_decided _ first, reached_of_decided _ first]
    simpa [elsewhere] using changed

/-- Whatever a call does to the store, its index goes on leading to bookings. -/
theorem Indexed.answer {s : MemoryStore} (h : s.Indexed) {fresh : BookingId} {now : Instant}
    {c : BookingStore.Call} (lacks : ∀ draft, c = .create draft → s.Lacks fresh) :
    (s.answer fresh now c).2.Indexed := by
  refine h.act (a := ⟨c, now, fresh⟩) fun id generated => ?_
  cases c with
  | create draft =>
    cases generated
    exact lacks draft rfl
  | get | findByAttempt | transition => cases generated

end MemoryStore

namespace Inventory

/-- The inventory counts no bookings. -/
theorem total_serve {w : Inventory} (reach : w.ledger.Reachable) (c : Reservations.Call)
    (s : BookingStatus) : (w.serve c).2.total (.booking s) = w.total (.booking s) := by
  have same {a : Except Breakdown (Result c.Answer)} {w' : Inventory} {counted : Option Counter}
      (served : w.serve c = (a, w')) (counts : w.Counts w' counted)
      (other : counted ≠ some (.booking s)) :
      (w.serve c).2.total (.booking s) = w.total (.booking s) := by
    rw [served, counts, if_neg other, Nat.add_zero]
  cases c with
  | reserve r =>
    obtain ⟨a, w', served, -, counts⟩ := serve_reserve_counted reach r
    refine same served counts ?_
    unfold ReserveRequest.counted
    split
    · simp
    · split <;> simp
    · simp
  | confirm t =>
    by_cases sells : w.ledger.Sells t w.stage.now
    · obtain ⟨w', served, -, counts⟩ := serve_confirm_of_sells_counted sells
      exact same served counts (by split <;> simp)
    · obtain ⟨e, w', served, -, -, counts⟩ := serve_confirm_of_not_sells_counted sells
      exact same served counts (by simp)
  | release t =>
    obtain ⟨w', served, -, counts⟩ := w.serve_release_counted t
    exact same served counts (by split <;> simp)
  | availability category => rw [serve_availability_same]

theorem total_sweep (w : Inventory) (s : BookingStatus) :
    w.sweep.2.total (.booking s) = w.total (.booking s) := by
  obtain ⟨w', swept, -, grown⟩ := w.sweep_counted
  rw [swept, grown]
  simp [Measurement.ofSweep, Journal.growth]

end Inventory

namespace House

/-- What the counters say about how many bookings reached each status. -/
def counted (w : House) : Tally :=
  fun s => w.inventory.total (.booking s)

/-- The status of the booking that a turn is to make but finds to be there: it is not made again, and
the errand is answered with it. -/
def replayed? (w : House) : Turn → Option BookingStatus
  | .errand (.book request) _ =>
    if request.user.value ≤ 0 then none
    else (w.store.findByAttempt? request.attempt).map Booking.status
  | .errand (.confirm _) _ | .errand (.cancel _) _ | .sweep | .clock _ => none

/-- How often bookings of a status are replayed in the course of some turns. -/
def replays (w : House) (s : BookingStatus) : List Turn → Nat
  | [] => 0
  | t :: turns => (if w.replayed? t = some s then 1 else 0) + (w.turn t).replays s turns

/-- **What a turn adds**, given the status of the booking that it replays: what it lets a booking reach
it counts, and a replay is counted though nothing is reached. -/
inductive Adds (w w' : House) : Option BookingStatus → Prop
  | news (status : Option BookingStatus) (reached : w.store.reached.Grows status w'.store.reached)
      (counted : w.counted.Grows status w'.counted) : Adds w w' none
  | again (status : BookingStatus) (store : w'.store = w.store)
      (counted : w.counted.Grows (some status) w'.counted) : Adds w w' (some status)

theorem adds_nothing {w w' : House} (store : w'.store = w.store) (counted : w'.counted = w.counted) :
    w.Adds w' none :=
  .news none (store ▸ w.store.reached.grows_refl) (counted ▸ w.counted.grows_refl)

theorem Adds.of_eq {w₀ w w' : House} {replayed : Option BookingStatus} (h : w.Adds w' replayed)
    (store : w.store = w₀.store) (counted : w.counted = w₀.counted) : w₀.Adds w' replayed := by
  cases h with
  | news status reached counts => exact .news status (store ▸ reached) (counted ▸ counts)
  | again status same counts => exact .again status (same.trans store) (counted ▸ counts)

/-- A counter runs ahead of the store by one when a booking of its status is replayed. -/
theorem Adds.ahead {w w' : House} {replayed : Option BookingStatus} (h : w.Adds w' replayed)
    (s : BookingStatus) :
    w'.counted s + w.store.reached s =
      w.counted s + w'.store.reached s + if replayed = some s then 1 else 0 := by
  cases h with
  | news status reached counted =>
    rw [counted s, reached s]
    simp only [reduceCtorEq, if_false]
    omega
  | again status store counted =>
    rw [counted s, store]
    omega

section Play

variable {fresh : BookingId} {w : House}

theorem counted_note (w : House) (n : Notice) : (w.record (.notice n)).counted = w.counted :=
  funext fun _ => Nat.zero_add _

theorem counted_count (w : House) (s : BookingStatus) :
    w.counted.Grows (some s) (w.record (.measured (.count (.booking s) 1))).counted := by
  intro status
  show Journal.growth _ _ + w.counted status = _
  rw [Journal.growth, Nat.add_comm]
  simp

/-- The inventory was called for. -/
theorem counted_served (reach : w.inventory.ledger.Reachable) {c : Reservations.Call}
    {a : Except Breakdown (Result c.Answer)} {inventory : Inventory}
    (served : w.inventory.serve c = (a, inventory)) :
    House.counted { w with inventory } = w.counted := by
  funext s
  have same := Inventory.total_serve reach c s
  rwa [served] at same

/-! ### Booking -/

variable (fresh w) in
theorem play_find (attempt : HoldId) :
    (BookingStore.findByAttempt attempt : Service DeskWorld _).run.play (answer fresh) w =
      (.ok (.ok (w.store.findByAttempt? attempt)), w) := rfl

variable (fresh w) in
/-- A request is refused, or its booking is found, or it is in order. -/
theorem play_validate (request : BookingRequest) :
    (Desk.validate request).play (answer fresh) w =
      if request.user.value ≤ 0 then
        (.ok (.rejected (Cause.invalidUser request.user).error), w)
      else match w.store.findByAttempt? request.attempt with
        | some b => (.ok (.replayed b), w.record (.notice .bookingReplayed))
        | none => (.ok .validated, w) := by
  unfold Desk.validate
  split
  · rfl
  · rw [Program.bind_eq, Program.play_bind, play_find]
    cases w.store.findByAttempt? request.attempt <;> rfl

theorem play_askReserve {r : ReserveRequest} {a : Except Breakdown (Result Token)}
    {inventory : Inventory} (served : w.inventory.serve (.reserve r) = (a, inventory)) :
    (Reservations.askReserve r : Service DeskWorld _).run.play (answer fresh) w =
      (a.mapError .breakdown, { w with inventory }) :=
  play_askInventory served

variable (fresh) in
/-- What comes of asking for a unit. -/
theorem play_reserve {request : BookingRequest} {a : Except Breakdown (Result Token)}
    {inventory : Inventory}
    (served : w.inventory.serve (.reserve request.reservation) = (a, inventory)) :
    (Desk.reserve request).play (answer fresh) w =
      match a with
      | .ok (.ok t) => (.ok (.reserved t), { w with inventory })
      | .ok (.error e) =>
        (.ok (.reserveFailed e), House.record { w with inventory } (.notice .reservationRefused))
      | .error b => (.error (.breakdown b), { w with inventory }) := by
  unfold Desk.reserve
  rw [Program.bind_eq, Program.play_bind, play_askReserve served]
  rcases a with b | e | t <;> rfl

/-- A booking cannot be stored under an identifier that is not fresh. -/
theorem play_create_of_taken (taken : w.store.bookings.contains fresh) (draft : BookingDraft) :
    (BookingStore.create draft : Service DeskWorld _).run.play (answer fresh) w =
      (.error .identifierTaken, w) := by
  have halted : w.answer fresh (.inr (.inl (.create draft))) = (.error .identifierTaken, w) :=
    if_pos taken
  exact Program.play_ask_of_error (I := DeskWorld) (c := .inr (.inl (.create draft))) halted

theorem play_create (new : ¬ w.store.bookings.contains fresh) (draft : BookingDraft) :
    (BookingStore.create draft : Service DeskWorld _).run.play (answer fresh) w =
      (.ok (w.store.create fresh w.now draft).1,
        { w with store := (w.store.create fresh w.now draft).2 }) := by
  have stored : w.answer fresh (.inr (.inl (.create draft))) =
      (.ok (w.store.create fresh w.now draft).1,
        { w with store := (w.store.create fresh w.now draft).2 }) := if_neg new
  exact Program.play_ask_of_ok (I := DeskWorld) (c := .inr (.inl (.create draft))) stored

/-- A booking goes on from what its validation says. -/
theorem play_book {request : BookingRequest} {event : SagaEvent} {w' : House}
    (validated : (Desk.validate request.normalized).play (answer fresh) w = (.ok event, w')) :
    (Desk.book w.policy request).play (answer fresh) w =
      (Desk.goOn w.policy request.normalized
        ((Saga.start request.attempt).handle event)).play (answer fresh) w' := by
  unfold Desk.book
  rw [Program.bind_eq, Program.play_bind, validated]
  rfl

/-- A booking goes on from the outcome of a step. -/
theorem play_drive {policy : RetryPolicy} {request : BookingRequest} {step : SagaStep}
    {event : SagaEvent} {w' : House}
    (performed : (Desk.perform policy request step).play (answer fresh) w = (.ok event, w'))
    (saga : Saga) :
    (Desk.drive policy request saga step).play (answer fresh) w =
      (Desk.goOn policy request (saga.handle event)).play (answer fresh) w' := by
  rw [Desk.drive, Program.bind_eq, Program.play_bind, performed]
  dsimp only
  split <;> rename_i handled <;> rw [handled] <;> rfl

/-- Nothing goes on when a step breaks down. -/
theorem play_drive_of_halt {policy : RetryPolicy} {request : BookingRequest} {step : SagaStep}
    {halt : Halt} {w' : House}
    (performed : (Desk.perform policy request step).play (answer fresh) w = (.error halt, w'))
    (saga : Saga) :
    (Desk.drive policy request saga step).play (answer fresh) w = (.error halt, w') := by
  rw [Desk.drive, Program.bind_eq, Program.play_bind, performed]

variable (fresh w) in
/-- A booking that is committed is counted in the status that it has. -/
theorem counted_committed (policy : RetryPolicy) (request : BookingRequest) (attempt : HoldId)
    (b : Booking) :
    w.counted.Grows (some b.status)
      ((Desk.goOn policy request ({ attempt, state := .committed }, .complete (.ok b))).play
        (answer fresh) w).2.counted := by
  show w.counted.Grows _
    (House.record (w.record (.measured (.count (.booking b.status) 1)))
      (.notice .bookingCommitted)).counted
  rw [counted_note]
  exact w.counted_count b.status

/-- Storing the booking of a new attempt is news, unless the identifier that was drawn is not fresh. -/
theorem persist_adds {policy : RetryPolicy} {request : BookingRequest} {t : Token}
    (new : w.store.byAttempt.get? t.hold = none) (attempt : HoldId) :
    w.Adds ((Desk.drive policy request { attempt, state := .persisting t } (.persist t)).play
      (answer fresh) w).2 none := by
  let draft := BookingDraft.ofToken t request.user
  by_cases taken : w.store.bookings.contains fresh
  · have performed : (Desk.perform policy request (.persist t)).play (answer fresh) w =
        (.error .identifierTaken, w) := by
      show (Desk.persist t request.user).play (answer fresh) w = _
      rw [Desk.persist, Program.bind_eq, Program.play_bind, play_create_of_taken taken]
    rw [play_drive_of_halt performed]
    exact adds_nothing rfl rfl
  · have lacks : w.store.Lacks fresh := MemoryStore.lacks_iff.2 taken
    have stored : w.store.create fresh w.now draft = (.ok (.ofDraft fresh draft w.now),
        { bookings := w.store.bookings.set fresh (.ofDraft fresh draft w.now)
          byAttempt := w.store.byAttempt.set t.hold fresh }) := by
      refine ((w.store.create_cases fresh w.now draft).resolve_left fun taken => ?_).2
      have known : (w.store.byAttempt.get? t.hold).isSome := by
        rw [← Registry.contains_eq_isSome]
        exact taken.1
      simp [new] at known
    have performed : (Desk.perform policy request (.persist t)).play (answer fresh) w =
        (.ok (.persisted (.ofDraft fresh draft w.now)),
          { w with store := (w.store.create fresh w.now draft).2 }) := by
      have created := play_create taken draft
      rw [stored] at created ⊢
      show (Desk.persist t request.user).play (answer fresh) w = _
      rw [Desk.persist, Program.bind_eq, Program.play_bind, created]
      rfl
    rw [play_drive performed]
    refine .news (some .pending) ?_ ?_
    · show w.store.reached.Grows _ (w.store.create fresh w.now draft).2.reached
      rw [stored]
      exact MemoryStore.reached_stored lacks draft w.now _
    · exact counted_committed fresh { w with store := (w.store.create fresh w.now draft).2 } policy
        request attempt (.ofDraft fresh draft w.now)

/-- A booking of a new attempt becomes pending, or there is none. -/
theorem drive_adds (reach : w.inventory.ledger.Reachable) (request : BookingRequest)
    (new : w.store.byAttempt.get? request.attempt = none) (attempt : HoldId) :
    w.Adds ((Desk.drive w.policy request { attempt, state := .reserving } .reserve).play
      (answer fresh) w).2 none := by
  obtain ⟨a, inventory, served, way⟩ := Inventory.serve_reserve reach request.reservation
  have same := counted_served reach served
  have reserved := play_reserve fresh served
  rcases a with b | e | t
  · rw [play_drive_of_halt reserved]
    exact adds_nothing rfl same
  · rw [play_drive reserved]
    refine adds_nothing rfl (Eq.trans ?_ same)
    exact (counted_note _ _).trans (counted_note _ _)
  · have mine : t.hold = request.attempt := way.granted.2.1
    rw [play_drive reserved]
    exact (persist_adds (w := { w with inventory }) (mine ▸ new) attempt).of_eq rfl same

theorem book_adds (h : w.Coupled) (indexed : w.store.Indexed) (request : BookingRequest) :
    w.Adds ((Desk.book w.policy request).play (answer fresh) w).2
      (w.replayed? (.errand (.book request) fresh)) := by
  have validated := play_validate fresh w request.normalized
  show w.Adds _ (if request.user.value ≤ 0 then _ else _)
  by_cases invalid : request.user.value ≤ 0
  · rw [if_pos (show request.normalized.user.value ≤ 0 from invalid)] at validated
    rw [play_book validated, if_pos invalid]
    exact adds_nothing rfl (counted_note ..)
  rw [if_neg (show ¬ request.normalized.user.value ≤ 0 from invalid)] at validated
  rw [if_neg invalid]
  cases found : w.store.findByAttempt? request.attempt with
  | some b =>
    rw [show w.store.findByAttempt? request.normalized.attempt = _ from found] at validated
    rw [play_book validated]
    refine .again b.status rfl ?_
    have counted := counted_committed fresh (w.record (.notice .bookingReplayed)) w.policy
      request.normalized request.attempt b
    rwa [counted_note] at counted
  | none =>
    rw [show w.store.findByAttempt? request.normalized.attempt = _ from found] at validated
    rw [play_book validated]
    exact drive_adds h.reach request.normalized (indexed.findByAttempt?_eq_none.1 found) _

/-! ### Confirming and cancelling -/

/-- A pending booking that is settled is news if it is counted then. -/
theorem settle_adds {w₀ w' w'' : House} {id : BookingId} {b : Booking} {now : Instant}
    {target : BookingStatus} (there : w₀.store.bookings.get? id = some b)
    (pending : b.status = .pending) (decided : target ≠ .pending)
    (store : w'.store = (w₀.store.transition id now .pending target).2)
    (same : w'.counted = w₀.counted) (kept : w''.store = w'.store)
    (counted : w'.counted.Grows (some target) w''.counted) : w₀.Adds w'' none := by
  refine .news (some target) ?_ (same ▸ counted)
  rw [kept, store]
  exact MemoryStore.reached_settled there pending now decided

theorem confirm_adds (h : w.Coupled) (id : BookingId) :
    w.Adds ((Desk.confirm w.policy id).run.play (answer fresh) w).2 none := by
  unfold Desk.confirm Desk.load
  simp only [Service.play_bind, play_get]
  cases there : w.store.bookings.get? id with
  | none => exact adds_nothing rfl rfl
  | some b =>
  simp only [Service.play_pure]
  cases status : b.status with
  | confirmed => exact adds_nothing rfl rfl
  | cancelled => exact adds_nothing rfl rfl
  | pending =>
  simp only [Service.play_bind, Service.play_outcome]
  by_cases sells : w.inventory.ledger.Sells b.token w.inventory.stage.now
  · obtain ⟨inventory, served, -⟩ := Inventory.serve_confirm_of_sells sells
    have same := counted_served h.reach served
    rw [play_askConfirm served]
    obtain ⟨w', settled, kept, store⟩ := play_settle fresh (w := { w with inventory })
      there status w.policy .confirmed
    simp only [settled, play_count, play_note, Service.play_bind, Service.play_pure]
    refine settle_adds there status (by decide) store (same ▸ ?_) rfl ?_
    · exact congrArg (fun i s => Inventory.total i (.booking s)) kept
    · rw [counted_note]
      exact w'.counted_count .confirmed
  · obtain ⟨e, inventory, served, conflict, -⟩ := Inventory.serve_confirm_of_not_sells sells
    have same := counted_served h.reach served
    rw [play_askConfirm served]
    simp only [conflict, if_true, Service.play_bind, play_note, Service.play_outcome]
    obtain ⟨w', settled, kept, store⟩ := play_settle fresh
      (w := House.record { w with inventory } (.notice .holdLost)) there status w.policy .cancelled
    rw [settled]
    refine settle_adds there status (by decide) store (same ▸ ?_) rfl (w'.counted_count .cancelled)
    rw [← counted_note { w with inventory } .holdLost]
    exact congrArg (fun i s => Inventory.total i (.booking s)) kept

theorem cancel_adds (h : w.Coupled) (id : BookingId) :
    w.Adds ((Desk.cancel w.policy id).run.play (answer fresh) w).2 none := by
  unfold Desk.cancel Desk.load
  simp only [Service.play_bind, play_get]
  cases there : w.store.bookings.get? id with
  | none => exact adds_nothing rfl rfl
  | some b =>
  simp only [Service.play_pure]
  cases status : b.status with
  | confirmed => exact adds_nothing rfl rfl
  | cancelled => exact adds_nothing rfl rfl
  | pending =>
  obtain ⟨inventory, served, -⟩ := w.inventory.serve_release b.token
  have same := counted_served h.reach served
  obtain ⟨w', settled, kept, store⟩ := play_settle fresh (w := { w with inventory })
    there status w.policy .cancelled
  simp only [Service.play_bind, play_retryTransient (play_askRelease served), settled, play_count,
    play_note, Service.play_pure]
  refine settle_adds there status (by decide) store (same ▸ ?_) rfl ?_
  · exact congrArg (fun i s => Inventory.total i (.booking s)) kept
  · rw [counted_note]
    exact w'.counted_count .cancelled

end Play

/-! ### Turns -/

/-- The index of the store goes on leading to bookings, whatever call is answered. -/
theorem indexed_answer (fresh : BookingId) (w : House) (c : DeskWorld.Call)
    (h : w.store.Indexed) : (w.answer fresh c).2.store.Indexed := by
  rcases w.answer_cases fresh c with ⟨-, store⟩ | ⟨call, -, -, store⟩ |
    ⟨call, -, lacks, -, store⟩
  · rwa [store]
  · rwa [store]
  · rw [store]
    exact h.answer lacks

theorem indexed_turn {w : House} (h : w.store.Indexed) (t : Turn) : (w.turn t).store.Indexed := by
  cases t with
  | errand e fresh =>
    exact (e.program w.policy).play_keeps (R := fun w : House => w.store.Indexed)
      (fun w c => indexed_answer fresh w c) h
  | sweep | clock time => exact h

/-- A turn adds what it says. -/
theorem Coupled.turn_adds {w : House} (h : w.Coupled) (indexed : w.store.Indexed) (t : Turn) :
    w.Adds (w.turn t) (w.replayed? t) := by
  cases t with
  | errand e fresh =>
    cases e with
    | book request => exact book_adds h indexed request
    | confirm id => exact confirm_adds h id
    | cancel id => exact cancel_adds h id
  | sweep => exact adds_nothing rfl (funext fun s => w.inventory.total_sweep s)
  | clock time => exact adds_nothing rfl rfl

/-- The counters run ahead of the store by what is replayed. -/
theorem Coupled.counted_run {w : House} (h : w.Coupled) (indexed : w.store.Indexed)
    (turns : List Turn) (s : BookingStatus) :
    (w.run turns).counted s + w.store.reached s =
      w.counted s + (w.run turns).store.reached s + w.replays s turns := by
  induction turns generalizing w with
  | nil => simp [House.run, replays]
  | cons t turns ih =>
    have step := (h.turn_adds indexed t).ahead s
    have rest := ih (h.turn t) (indexed_turn indexed t)
    show ((w.turn t).run turns).counted s + _ = _ + ((w.turn t).run turns).store.reached s + _
    rw [replays]
    omega

/-- No turn asks for a booking that is there already. -/
def NeverReplays (w : House) : List Turn → Prop
  | [] => True
  | t :: turns => w.replayed? t = none ∧ (w.turn t).NeverReplays turns

theorem replays_eq_zero_iff {w : House} {turns : List Turn} :
    (∀ s, w.replays s turns = 0) ↔ w.NeverReplays turns := by
  induction turns generalizing w with
  | nil => exact iff_of_true (fun _ => rfl) trivial
  | cons t turns ih =>
    constructor
    · intro none_replayed
      constructor
      · refine Option.eq_none_iff_forall_ne_some.2 fun s replayed => ?_
        have zero := none_replayed s
        rw [replays, if_pos replayed] at zero
        omega
      · refine ih.1 fun s => ?_
        have zero := none_replayed s
        rw [replays] at zero
        omega
    · rintro ⟨first, rest⟩ s
      rw [replays, first, ih.2 rest s]
      rfl

/-- **The counters are right unless a booking is asked for again.** In a house that begins with an
empty store and with no booking counted, the counter of a status is ahead of the number of bookings
that reached the status by how often such a booking was replayed. -/
theorem counters_right_iff {inventory : Inventory} (laid_out : inventory.ledger.Provisioned)
    (zero : ∀ s, inventory.total (.booking s) = 0) (policy : RetryPolicy) (turns : List Turn) :
    let house : House := { policy, inventory, store := .empty }
    (∀ s, (house.run turns).counted s =
      (house.run turns).store.reached s + house.replays s turns) ∧
    ((∀ s, (house.run turns).counted s = (house.run turns).store.reached s) ↔
      house.NeverReplays turns) := by
  intro house
  have ahead (s : BookingStatus) : (house.run turns).counted s =
      (house.run turns).store.reached s + house.replays s turns := by
    have run := (coupled_of_provisioned laid_out policy).counted_run
      MemoryStore.indexed_empty turns s
    have start : house.counted s = 0 := zero s
    have nothing : house.store.reached s = 0 := by
      cases s <;> rfl
    rwa [start, nothing, Nat.add_zero, Nat.zero_add] at run
  refine ⟨ahead, ?_⟩
  rw [← replays_eq_zero_iff]
  constructor
  · intro right s
    have counted := ahead s
    rw [right s] at counted
    omega
  · intro none_replayed s
    rw [ahead s, none_replayed s, Nat.add_zero]

/-- The only seat is booked, and asked for again; then it is bought, and asked for once more. -/
theorem counters_right_asked_again :
    let house : House := { policy := .none, inventory := .oneSeat, store := .empty }
    let request : BookingRequest :=
      { attempt := ⟨.random 1⟩, event := ⟨1⟩, category := ⟨10⟩, seatLabel := some "A1", user := ⟨42⟩ }
    let book : Turn := .errand (.book request) ⟨.random 7⟩
    let turns := [book, book, .errand (.confirm ⟨.random 7⟩) ⟨.random 8⟩, book]
    Inventory.oneSeat.ledger.Provisioned ∧ (∀ s, Inventory.oneSeat.total (.booking s) = 0) ∧
      (house.run turns).counted .pending = 1 + 1 ∧
      (house.run turns).counted .confirmed = 1 + 1 ∧
      (house.run turns).counted .cancelled = 0 ∧ ¬ house.NeverReplays turns := by
  have laid_out : Inventory.oneSeat.ledger.Provisioned := ⟨[.addSeated _ _], by decide, rfl⟩
  have zero : ∀ s, Inventory.oneSeat.total (.booking s) = 0 := fun _ => rfl
  intro house request book turns
  obtain ⟨ahead, right_iff⟩ := counters_right_iff laid_out zero .none turns
  have pending : (house.run turns).store.reached .pending = 1 ∧ house.replays .pending turns = 1 := by
    decide +kernel
  have confirmed : (house.run turns).store.reached .confirmed = 1 ∧
      house.replays .confirmed turns = 1 := by
    decide +kernel
  have cancelled : (house.run turns).store.reached .cancelled = 0 ∧
      house.replays .cancelled turns = 0 := by
    decide +kernel
  refine ⟨laid_out, zero, ?_, ?_, ?_, fun never => ?_⟩
  · rw [ahead .pending, pending.1, pending.2]
  · rw [ahead .confirmed, confirmed.1, confirmed.2]
  · rw [ahead .cancelled, cancelled.1, cancelled.2]
  · have right := right_iff.2 never .pending
    rw [ahead .pending, pending.1, pending.2] at right
    omega

/-- A booking that is asked for twice is counted twice. -/
theorem replay_counted_again :
    let house : House := { policy := .none, inventory := .oneSeat, store := .empty }
    let request : BookingRequest :=
      { attempt := ⟨.random 1⟩, event := ⟨1⟩, category := ⟨10⟩, seatLabel := some "A1", user := ⟨42⟩ }
    let book : Turn := .errand (.book request) ⟨.random 7⟩
    (house.run [book, book]).store.bookings.size = 1 ∧
      (house.run [book, book]).counted .pending = 2 := by
  decide +kernel

end House

end BoxOffice
