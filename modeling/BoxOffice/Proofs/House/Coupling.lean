import BoxOffice.Proofs.House.Basic

/-!
# The coupling of bookings and inventory

Between two errands a booking is confirmed exactly if its share is sold, and what is sold is sold to a
booking (`Coupled`). Every call but a sale and the change of status that follows it keeps that
(`Coupled.answer`), and so do the two together (`Coupled.confirm`); so whatever happens in the house,
one errand after the other, keeps it as well (`Coupled.run`).
-/

namespace BoxOffice

open Rehearsal

/-- The share that a booking is about. -/
def Booking.share (b : Booking) : Share :=
  b.token.share

namespace House

/-- The coupling of the ledger and the store, between two errands. -/
structure Coupled (w : House) : Prop where
  reach : w.inventory.ledger.Reachable
  sound : w.store.Sound
  labelled : ∀ id b, w.store.bookings.get? id = some b → b.token.seatLabel = b.seatLabel
  confirmed_iff : ∀ id b, w.store.bookings.get? id = some b →
    (b.status = .confirmed ↔ w.inventory.ledger.Sold b.share)
  /-- What is sold is sold to a booking. -/
  owned : ∀ share, w.inventory.ledger.Sold share →
    ∃ id b, w.store.bookings.get? id = some b ∧ b.share = share

/-- The calls of the front desk that neither sell nor confirm, and cancel only what is pending. -/
inductive Calm : DeskWorld.Call → Prop
  | reserve (request) : Calm (.inl (.reserve request))
  | release (token) : Calm (.inl (.release token))
  | get (id) : Calm (.inr (.inl (.get id)))
  | findByAttempt (attempt) : Calm (.inr (.inl (.findByAttempt attempt)))
  | create (token user) : Calm (.inr (.inl (.create (BookingDraft.ofToken token user))))
  | cancel (id) : Calm (.inr (.inl (.transition id .pending .cancelled)))
  | surroundings (c) : Calm (.inr (.inr c))

theorem calm_of_bookCall {c : DeskWorld.Call} (h : Desk.BookCall c) : Calm c := by
  cases h with
  | reserve request => exact .reserve request
  | release token => exact .release token
  | findByAttempt attempt => exact .findByAttempt attempt
  | create token user => exact .create token user
  | surroundings c => exact .surroundings c

theorem calm_of_cancelCall {id : BookingId} {c : DeskWorld.Call} (h : Desk.CancelCall id c) :
    Calm c := by
  cases h with
  | get => exact .get id
  | release token => exact .release token
  | transition => exact .cancel id
  | surroundings c => exact .surroundings c

namespace Coupled

variable {w w' : House}

/-- The coupling does not depend on what is held. -/
theorem of_sold_iff (h : w.Coupled) (reach : w'.inventory.ledger.Reachable)
    (store : w'.store = w.store)
    (sold : ∀ share, w'.inventory.ledger.Sold share ↔ w.inventory.ledger.Sold share) :
    w'.Coupled where
  reach := reach
  sound := store ▸ h.sound
  labelled := store ▸ h.labelled
  confirmed_iff := by
    intro id b there
    rw [store] at there
    rw [sold]
    exact h.confirmed_iff id b there
  owned := by
    intro share bought
    rw [store]
    exact h.owned share ((sold share).1 bought)

/-- A pending booking has bought nothing. -/
theorem not_sold_of_pending (h : w.Coupled) {id : BookingId} {b : Booking}
    (there : w.store.bookings.get? id = some b) (pending : b.status = .pending) :
    ¬ w.inventory.ledger.Sold b.share := by
  rw [← h.confirmed_iff id b there, pending]
  decide

/-- Where a booking comes from that the store has after a calm call. -/
theorem booking_cases (h : w.Coupled) {call : BookingStore.Call} (calm : Calm (.inr (.inl call)))
    {fresh : BookingId} {now : Instant} {id : BookingId} {b : Booking}
    (there : (w.store.answer fresh now call).2.bookings.get? id = some b) :
    w.store.bookings.get? id = some b ∨
    (b.token.seatLabel = b.seatLabel ∧ b.status = .pending ∧ ¬ w.inventory.ledger.Sold b.share) ∨
    ∃ b₀, w.store.bookings.get? id = some b₀ ∧ b₀.status = .pending ∧
      b = { b₀ with status := .cancelled, updatedAt := now } := by
  rcases MemoryStore.booking_cases there with before | ⟨draft, rfl, new, -, rfl⟩ |
    ⟨target, b₀, rfl, before, rfl⟩
  · exact .inl before
  · refine .inr (.inl ⟨?_, rfl, fun sold => ?_⟩)
    · cases calm with
      | create token user =>
        obtain ⟨hold, event, category, unit, last⟩ := token
        cases unit <;> rfl
    -- what is sold belongs to a booking of its attempt, but a new booking's attempt had none
    · obtain ⟨id', b', there', same⟩ := h.owned _ sold
      have indexed := (h.sound id' b' there').2
      have attempt : b'.attempt = draft.attempt := congrArg Share.hold same
      simp [attempt, new] at indexed
  · generalize status : b₀.status = expected at calm
    cases calm
    exact .inr (.inr ⟨b₀, before, status, rfl⟩)

/-- A calm call to the store keeps the coupling. -/
theorem stored (h : w.Coupled) {call : BookingStore.Call} (calm : Calm (.inr (.inl call)))
    {fresh : BookingId} (lacks : ∀ draft, call = .create draft → w.store.Lacks fresh)
    (inventory : w'.inventory = w.inventory)
    (store : w'.store = (w.store.answer fresh w.now call).2) : w'.Coupled where
  reach := inventory ▸ h.reach
  sound := by
    rw [store]
    exact h.sound.answer fresh w.now call
  labelled := by
    intro id b there
    rw [store] at there
    rcases h.booking_cases calm there with before | ⟨labelled, -⟩ | ⟨b₀, before, -, rfl⟩
    · exact h.labelled id b before
    · exact labelled
    · exact h.labelled id b₀ before
  confirmed_iff := by
    intro id b there
    rw [store] at there
    rw [inventory]
    rcases h.booking_cases calm there with before | ⟨-, pending, unsold⟩ | ⟨b₀, before, pending, rfl⟩
    · exact h.confirmed_iff id b before
    · simp [pending, unsold]
    · have unsold := h.not_sold_of_pending before pending
      exact iff_of_false (by simp) unsold
  owned := by
    intro share sold
    rw [inventory] at sold
    obtain ⟨id, b, there, rfl⟩ := h.owned share sold
    rw [store]
    rcases MemoryStore.booking_stays lacks w.now there with same | ⟨target, -, changed⟩
    · exact ⟨id, b, same, rfl⟩
    · exact ⟨id, _, changed, rfl⟩

/-- A calm call keeps the coupling. -/
theorem answer (h : w.Coupled) {c : DeskWorld.Call} (calm : Calm c) (fresh : BookingId) :
    (w.answer fresh c).2.Coupled := by
  rcases w.answer_cases fresh c with ⟨ledger, store⟩ | ⟨call, rfl, inventory, store⟩ |
    ⟨call, rfl, lacks, inventory, store⟩
  · exact h.of_sold_iff (ledger ▸ h.reach) store fun share => by rw [ledger]
  · refine h.of_sold_iff ?_ store fun share => ?_
    · rw [inventory]
      exact Inventory.play_reachable _ h.reach
    · rw [inventory]
      constructor
      · intro sold
        rcases Inventory.serve_sold_cases h.reach sold with before | ⟨t, _, rfl, -⟩
        · exact before
        · cases calm
      · intro sold
        exact Inventory.serve_keeps_sold sold call
  · exact h.stored calm lacks inventory store

/-- A pending booking whose unit was just sold to it becomes confirmed. -/
theorem confirmed (h : w.Coupled) {id : BookingId} {b : Booking}
    (there : w.store.bookings.get? id = some b) (pending : b.status = .pending)
    (reach : w'.inventory.ledger.Reachable)
    (sold : ∀ share, w'.inventory.ledger.Sold share ↔
      w.inventory.ledger.Sold share ∨ share = b.share) {now : Instant}
    (store : w'.store = (w.store.transition id now .pending .confirmed).2) : w'.Coupled := by
  have origin {id' : BookingId} {b' : Booking} (there' : w'.store.bookings.get? id' = some b') :
      (id' ≠ id ∧ w.store.bookings.get? id' = some b') ∨
      (id' = id ∧ b' = { b with status := .confirmed, updatedAt := now }) := by
    rw [store, MemoryStore.get?_transition there pending] at there'
    split at there'
    · next here => exact .inr ⟨here, (Option.some.inj there').symm⟩
    · next other => exact .inl ⟨other, there'⟩
  have stays {id' : BookingId} {b' : Booking} (there' : w.store.bookings.get? id' = some b') :
      ∃ b'', w'.store.bookings.get? id' = some b'' ∧ b''.share = b'.share := by
    rw [store, MemoryStore.get?_transition there pending]
    split
    · next here =>
      subst here
      obtain rfl := Option.some.inj (there.symm.trans there')
      exact ⟨_, rfl, rfl⟩
    · exact ⟨b', there', rfl⟩
  refine ⟨reach, ?_, ?_, ?_, ?_⟩
  · rw [store]
    exact h.sound.answer id now (.transition id .pending .confirmed)
  · intro id' b' there'
    rcases origin there' with ⟨-, before⟩ | ⟨rfl, rfl⟩
    · exact h.labelled id' b' before
    · exact h.labelled id' b there
  · intro id' b' there'
    rw [sold]
    rcases origin there' with ⟨other, before⟩ | ⟨rfl, rfl⟩
    · rw [h.confirmed_iff id' b' before, or_iff_left]
      -- another booking has another attempt, so what was sold is not its share
      intro same
      have := h.sound.unique before there (congrArg Share.hold same)
      subst this
      exact other ((h.sound id' b' before).1.symm.trans (h.sound id b' there).1)
    · exact iff_of_true rfl (.inr rfl)
  · intro share bought
    rcases (sold share).1 bought with before | rfl
    · obtain ⟨id', b', there', rfl⟩ := h.owned share before
      exact ⟨id', stays there'⟩
    · exact ⟨id, stays there⟩

end Coupled

/-! ### Confirming -/

section Play

variable {fresh : BookingId} {w : House}

/-- The house after an entry was written into the journal. -/
def record (w : House) (entry : Entry) : House :=
  { w with inventory := w.inventory.record entry }

theorem play_get (id : BookingId) :
    (BookingStore.get id : Service DeskWorld _).run.play (answer fresh) w =
      (.ok (.ok (w.store.bookings.get? id)), w) := rfl

variable (fresh w) in
theorem play_transition (id : BookingId) (expected target : BookingStatus) :
    (BookingStore.transition id expected target : Service DeskWorld _).run.play (answer fresh) w =
      (.ok (w.store.transition id w.now expected target).1,
        { w with store := (w.store.transition id w.now expected target).2 }) := rfl

/-- A call to the inventory leaves the store alone. -/
theorem play_askInventory {c : Reservations.Call} {a : Except Breakdown (Result c.Answer)}
    {inventory : Inventory} (served : w.inventory.serve c = (a, inventory)) :
    (Reservations.ask c : Service DeskWorld _).run.play (answer fresh) w =
      (a.mapError .breakdown, { w with inventory }) := by
  have answered := congrArg (fun p : Except Breakdown (Result c.Answer) × Inventory =>
    ((p.1.mapError Halt.breakdown, { w with inventory := p.2 }) :
      Except Halt (Result c.Answer) × House)) served
  cases a with
  | ok r => exact Program.play_ask_of_ok (I := DeskWorld) (c := .inl c) answered
  | error b => exact Program.play_ask_of_error (I := DeskWorld) (c := .inl c) answered

theorem play_askConfirm {t : Token} {r : Result Unit} {inventory : Inventory}
    (served : w.inventory.serve (.confirm t) = (.ok r, inventory)) :
    (Reservations.askConfirm t : Service DeskWorld _).run.play (answer fresh) w =
      (.ok r, { w with inventory }) :=
  play_askInventory served

theorem play_askRelease {t : Token} {r : Result Unit} {inventory : Inventory}
    (served : w.inventory.serve (.release t) = (.ok r, inventory)) :
    (Reservations.askRelease t : Service DeskWorld _).run.play (answer fresh) w =
      (.ok r, { w with inventory }) :=
  play_askInventory served

theorem play_note (n : Notice) :
    (Surroundings.note n : Service DeskWorld Unit).run.play (answer fresh) w =
      (.ok (.ok ()), w.record (.notice n)) := rfl

theorem play_count (c : Counter) :
    (Surroundings.count c : Service DeskWorld Unit).run.play (answer fresh) w =
      (.ok (.ok ()), w.record (.measured (.count c 1))) := rfl

/-- A first try that succeeds is not repeated. -/
theorem play_retryTransient {α : Type} {policy : RetryPolicy} {call : Service DeskWorld α} {a : α}
    {w' : House} (once : call.run.play (answer fresh) w = (.ok (.ok a), w')) :
    (Desk.retryTransient policy call).run.play (answer fresh) w = (.ok (.ok a), w') := by
  show (policy.retryAfter Error.isTransient call.run 0 policy.maxRetries.toNat).play
    (answer fresh) w = _
  unfold RetryPolicy.retryAfter
  rw [Program.bind_eq, Program.play_bind, once]
  rfl

variable (fresh) in
/-- A booking that stands as expected is settled at the first try. -/
theorem play_settle {id : BookingId} {b : Booking} (there : w.store.bookings.get? id = some b)
    (pending : b.status = .pending) (policy : RetryPolicy) (target : BookingStatus) :
    ∃ w', (Desk.settle policy id target).run.play (answer fresh) w =
        (.ok (.ok { b with status := target, updatedAt := w.now }), w') ∧
      w'.inventory = w.inventory ∧
      w'.store = (w.store.transition id w.now .pending target).2 := by
  have once := play_transition fresh w id .pending target
  rw [congrArg Prod.fst (MemoryStore.transition_eq there pending w.now target)] at once
  unfold Desk.settle
  simp only [Service.play_bind, Service.play_outcome, play_retryTransient once, Service.play_pure]
  exact ⟨_, rfl, rfl, rfl⟩

end Play

/-- Confirming a booking keeps the coupling: what it sells it makes confirmed. -/
theorem Coupled.confirm {w : House} (h : w.Coupled) (fresh : BookingId) (id : BookingId) :
    ((Desk.confirm w.policy id).run.play (House.answer fresh) w).2.Coupled := by
  unfold Desk.confirm Desk.load
  simp only [Service.play_bind, play_get]
  cases there : w.store.bookings.get? id with
  | none => exact h
  | some b =>
  simp only [Service.play_pure]
  cases status : b.status with
  | confirmed => exact h
  | cancelled => exact h
  | pending =>
  simp only [Service.play_bind, Service.play_outcome]
  by_cases sells : w.inventory.ledger.Sells b.token w.inventory.stage.now
  · obtain ⟨inventory, served, after⟩ := Inventory.serve_confirm_of_sells sells
    rw [play_askConfirm served]
    obtain ⟨w', settled, same, store⟩ := play_settle fresh (w := { w with inventory })
      there status w.policy .confirmed
    simp only [settled, play_count, play_note, Service.play_bind]
    have ledger : w'.inventory.ledger = w.inventory.ledger.after (b.token.sell w.now) := by
      rw [same]
      exact after
    refine h.confirmed there status ?_ (fun share => ?_) store
    · show w'.inventory.ledger.Reachable
      rw [ledger]
      exact h.reach.after _
    · show w'.inventory.ledger.Sold share ↔ _
      rw [ledger]
      constructor
      · intro sold
        rcases MemoryLedger.sold_after_cases sold with before | sale
        · exact .inl before
        · rw [MemoryLedger.sale?_sell] at sale
          exact .inr (Option.some.inj sale).symm
      · rintro (before | rfl)
        · exact before.after _
        · exact sells.sold
  · obtain ⟨e, inventory, served, conflict, same⟩ := Inventory.serve_confirm_of_not_sells sells
    rw [play_askConfirm served]
    -- nothing was sold, and what follows neither sells nor confirms
    refine Program.Only.play (P := Calm) (R := Coupled) ?_
      (fun w c calm coupled => coupled.answer calm fresh)
      (h.of_sold_iff (same ▸ h.reach) rfl fun share => by rw [same])
    dsimp only
    split
    · refine Service.only_bind (Desk.only_service_note .surroundings _) fun _ => ?_
      refine Service.only_bind (Service.only_outcome
        (Desk.only_settle .surroundings (.get id) w.policy (.cancel id))) fun r => ?_
      rcases r with e | booking
      · exact Service.only_bind (Desk.only_service_note .surroundings _) fun _ => trivial
      · exact Service.only_bind (Desk.only_service_count .surroundings _) fun _ => trivial
    · trivial

/-! ### Runs -/

/-- Something happens in the house, from its beginning to its end. -/
inductive Turn
  /-- An errand is done; a booking that it stores gets the identifier `fresh`. -/
  | errand (e : Desk.Errand) (fresh : BookingId)
  | sweep
  | clock (time : Instant)

/-- The house after a turn. -/
def turn (w : House) : Turn → House
  | .errand e fresh => ((e.program w.policy).play (answer fresh) w).2
  | .sweep => { w with inventory := w.inventory.sweep.2 }
  | .clock time => { w with inventory := w.inventory.atTime time }

/-- The house after some turns. -/
def run (w : House) (turns : List Turn) : House :=
  turns.foldl turn w

theorem Coupled.turn {w : House} (h : w.Coupled) (t : Turn) : (w.turn t).Coupled := by
  cases t with
  | errand e fresh =>
    cases e with
    | book request =>
      exact ((Desk.only_book w.policy request).mono fun _ => calm_of_bookCall).play
        (fun w c calm coupled => coupled.answer calm fresh) h
    | confirm id => exact h.confirm fresh id
    | cancel id =>
      exact ((Desk.only_cancel w.policy id).mono fun _ => calm_of_cancelCall).play
        (fun w c calm coupled => coupled.answer calm fresh) h
  | sweep =>
    obtain ⟨inventory, swept, after⟩ := w.inventory.sweep_ledger
    have ledger : (w.turn .sweep).inventory.ledger =
        w.inventory.ledger.after (.reclaim w.inventory.stage.now) := by
      simp only [House.turn, swept, after]
    refine h.of_sold_iff (ledger ▸ h.reach.after _) rfl fun share => ?_
    rw [ledger]
    constructor
    · intro sold
      exact (MemoryLedger.sold_after_cases sold).resolve_right (by simp [Ledger.Call.sale?])
    · intro sold
      exact sold.after _
  | clock time => exact h.of_sold_iff h.reach rfl fun _ => Iff.rfl

theorem Coupled.run {w : House} (h : w.Coupled) (turns : List Turn) : (w.run turns).Coupled := by
  induction turns generalizing w with
  | nil => exact h
  | cons t turns ih => exact ih (h.turn t)

theorem coupled_of_provisioned {inventory : Inventory} (laid_out : inventory.ledger.Provisioned)
    (policy : RetryPolicy) :
    Coupled { policy, inventory, store := .empty } where
  reach := laid_out.reachable
  sound := MemoryStore.sound_empty
  labelled := by simp [MemoryStore.empty]
  confirmed_iff := by simp [MemoryStore.empty]
  owned := fun share sold => absurd sold (laid_out.not_sold share)

end House

end BoxOffice
