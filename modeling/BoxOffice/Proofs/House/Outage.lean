import BoxOffice.Proofs.Desk.Calls
import BoxOffice.Proofs.Desk.Course
import BoxOffice.Proofs.Inventory.Visit
import BoxOffice.Proofs.Ledger.Share
import BoxOffice.Proofs.Ledger.Snapshot

/-!
# Outages

A booking that is not stored gives its unit back, at once or by expiry. The front desk works with an
inventory and with a store that refuses every booking, and the inventory may fail to take units back
(`Outage`). What the deals of an attempt do to the ledger is followed one by one (`Effect`). If a unit
was given back, or none was reserved, the ledger looks as before from then on; if not, one unit is held
until its expiry, and from then on the ledger looks as before, swept or not
(`failed_booking_gives_back`). A hold that lasts for less than no time has lapsed when it is taken;
then the ledger looks as before from the time of the request on, but not from the expiry on
(`negative_hold_shows`).
-/

namespace BoxOffice

open Rehearsal

/-! ### What a new reservation does -/

namespace MemoryLedger

/-- No seat of the category is reserved by the hold, and it has no live place there. -/
structure Idle (l : MemoryLedger) (hold : HoldId) (category : CategoryId) (now : Instant) : Prop where
  seat : ∀ label s, l.seat? category label = some s → ¬ s.isHeldBy hold now
  stock : ∀ h, l.stock? category hold = some h → ¬ h.isLive now

/-- A hold that the ledger does not know has nothing in any category. -/
theorem Unknown.idle {l : MemoryLedger} {hold : HoldId} (h : l.Unknown hold) (category : CategoryId)
    (now : Instant) : l.Idle hold category now where
  seat label s there held := h.1 category label s there (Seat.isHeldBy_iff.1 held).2.1
  stock _ there := by simp [h.2] at there

/-- A ledger after the unit of a token was reserved. -/
structure Lends (l l' : MemoryLedger) (t : Token) (now : Instant) : Prop where
  holds : l'.Holds t
  sameBut : l.SameBut l' t.share
  returned : ∀ time, now ≤ time → (l'.after t.giveBack).LooksLike l time
  lapsed : ∀ time, now ≤ time → t.expiresAt < time →
    l'.LooksLike l time ∧ (l'.after (.reclaim time)).LooksLike l time

end MemoryLedger

/-- A hold that has nothing in a category gets a unit that is then its own until the expiry. -/
theorem Reserving.lends {l l' : MemoryLedger} (reach : l.Reachable) {hold : Span} {now : Instant}
    {r : ReserveRequest} {t : Token} (way : Reserving l hold now r (.ok (.ok t)) l')
    (idle : l.Idle r.hold r.category now) :
    now.add? hold = some t.expiresAt ∧ l.Lends l' t now := by
  have holds := way.granted.1
  -- a sweep after the expiry shows no more than the expiry itself
  have swept {l' : MemoryLedger} (reach' : l'.Reachable) {time : Instant}
      (alike : l'.LooksLike l time) :
      l'.LooksLike l time ∧ (l'.after (.reclaim time)).LooksLike l time :=
    ⟨alike, (reach'.looksLike_reclaim time).trans alike⟩
  cases way with
  | seatReserved suits named due there claimable =>
    rename_i label last seat
    refine ⟨due, holds, reach.sameBut rfl, fun time later => ?_, fun time later past => ?_⟩
    · refine MemoryLedger.looksLike_releaseSeat (r.claim label now last) later fun s there' => ?_
      obtain rfl := Option.some.inj (there.symm.trans there')
      exact claimable
    · exact swept (reach.after _)
        (MemoryLedger.looksLike_reserveSeat (r.claim label now last) later past)
  | seatReplayed suits named due there held => exact absurd held (idle.seat _ _ there)
  | stockTaken suits unnamed due there taken =>
    obtain ⟨-, -, until_last⟩ := Pool.take_taken taken
    refine ⟨by rw [due, ← until_last]; rfl, holds, reach.sameBut rfl, fun time later => ?_,
      fun time later past => ?_⟩
    · exact reach.looksLike_returnStock there taken later
    · exact swept (reach.after _)
        (MemoryLedger.looksLike_takeStock there taken later (until_last ▸ past))
  | stockReplayed suits unnamed due there live => exact absurd live (idle.stock _ there)

/-! ### The outage -/

/-- A booking store that refuses every booking and finds only bookings that it has. -/
structure ClosedStore (σ : Type) where
  answer : σ → (c : BookingStore.Call) → Result c.Answer × σ
  bookings : σ → List Booking
  refuses : ∀ s draft, ∃ e s', answer s (.create draft) = (.error e, s') ∧ bookings s' = bookings s
  finds : ∀ s attempt, ∃ reply s', answer s (.findByAttempt attempt) = (reply, s') ∧
    bookings s' = bookings s ∧ ∀ b, reply = .ok (some b) → b ∈ bookings s ∧ b.attempt = attempt

/-- A store that has some bookings and is down: nothing is stored or changed. -/
def ClosedStore.down : ClosedStore (List Booking) where
  answer bookings
    | .create _ => (.error ⟨.internal, "booking database unavailable"⟩, bookings)
    | .get id => (.ok (bookings.find? fun b => b.id = id), bookings)
    | .findByAttempt attempt => (.ok (bookings.find? fun b => b.attempt = attempt), bookings)
    | .transition _ _ _ => (.error ⟨.internal, "booking database unavailable"⟩, bookings)
  bookings bookings := bookings
  refuses bookings _ := ⟨_, bookings, rfl, rfl⟩
  finds bookings attempt := by
    refine ⟨_, bookings, rfl, rfl, fun b found => ?_⟩
    have found := Except.ok.inj found
    exact ⟨List.mem_of_find?_eq_some found, by simpa using List.find?_some found⟩

/-- An inventory of one seat, whose hold ended two seconds ago. -/
def Inventory.lapsedSeat (hold : Span) : Inventory :=
  { Inventory.oneSeat with
    hold
    ledger := Inventory.oneSeat.ledger.after (.reserveSeat
      { category := ⟨10⟩, label := "A1", hold := ⟨.random 2⟩, now := .ofParts 980 0,
        expiresAt := .ofParts 998 0 }) }

/-- An inventory at work and a store that is out of order. -/
structure Outage (σ : Type) where
  inventory : Inventory
  store : σ
  /-- How many units the inventory was asked to take back. -/
  asked : Nat

namespace Outage

variable {σ : Type} (store : ClosedStore σ) (fails : Nat → Option String)

/-- Answers a call of the front desk. The inventory fails to take back a unit when `fails` says so of
the number of units that it was asked to take back before. -/
def answer (w : Outage σ) :
    (c : DeskWorld.Call) → Except Breakdown (DeskWorld.Reply c) × Outage σ
  | .inl (.release t) =>
    match fails w.asked with
    | some message => (.ok (.error ⟨.internal, message⟩), { w with asked := w.asked + 1 })
    | none =>
      let (reply, inventory) := w.inventory.serve (.release t)
      (reply, { w with inventory, asked := w.asked + 1 })
  | .inl c =>
    let (reply, inventory) := w.inventory.serve c
    (reply, { w with inventory })
  | .inr (.inl c) =>
    let (reply, s) := store.answer w.store c
    (.ok reply, { w with store := s })
  | .inr (.inr c) =>
    let (reply, stage) := w.inventory.stage.answer c
    (reply, { w with inventory := { w.inventory with stage } })

/-- What an outage leaves of interest: the units that are held, and the bookings. -/
structure Stock where
  ledger : MemoryLedger
  bookings : List Booking

/-- **What a deal does to what is there.** -/
inductive Effect (hold : Span) (now : Instant) (s : Stock) : Desk.Deal → Stock → Prop
  | look {attempt reply} (found : ∀ b, reply = .ok (some b) → b ∈ s.bookings ∧ b.attempt = attempt) :
    Effect hold now s (.look attempt reply) s
  | ask {request reply ledger} (way : Reserving s.ledger hold now request (.ok reply) ledger) :
    Effect hold now s (.ask request reply) { s with ledger }
  | store {draft e} : Effect hold now s (.store draft (.error e)) s
  | failed {t message} : Effect hold now s (.giveBack t (.error ⟨.internal, message⟩)) s
  | given {t} : Effect hold now s (.giveBack t (.ok ())) { s with ledger := s.ledger.after t.giveBack }
  | other {s'} : Effect hold now s .other s'

/-- What some deals do one after the other. -/
inductive Effects (hold : Span) (now : Instant) : Stock → List Desk.Deal → Stock → Prop
  | nil {s} : Effects hold now s [] s
  | cons {s s' s'' d deals} (first : Effect hold now s d s') (rest : Effects hold now s' deals s'') :
    Effects hold now s (d :: deals) s''

/-- What is there. -/
def stock (w : Outage σ) : Stock where
  ledger := w.inventory.ledger
  bookings := store.bookings w.store

variable {store fails} {w w' : Outage σ}

/-- An answer makes the deal that it is part of, if it is part of one, and changes nothing otherwise.
The clock stands still meanwhile. -/
theorem answer_effect (reach : w.inventory.ledger.Reachable) {c : DeskWorld.Call}
    {reply : DeskWorld.Reply c} (answered : w.answer store fails c = (.ok reply, w')) :
    (match Desk.deal? ⟨c, reply⟩ with
      | none => w'.stock store = w.stock store
      | some d => Effect w.inventory.hold w.inventory.stage.now (w.stock store) d (w'.stock store)) ∧
    w'.inventory.ledger.Reachable ∧ w'.inventory.hold = w.inventory.hold ∧
    w'.inventory.stage.now = w.inventory.stage.now := by
  have serves (c : Reservations.Call) :
      (w.inventory.serve c).2.ledger.Reachable ∧ (w.inventory.serve c).2.hold = w.inventory.hold ∧
        (w.inventory.serve c).2.stage.now = w.inventory.stage.now :=
    ⟨Inventory.play_reachable _ reach, (Inventory.play_now _ _).2, (Inventory.play_now _ _).1⟩
  rcases c with (c | t | t | id) | (draft | id | attempt | ⟨id, expected, target⟩) | c
  -- a unit is asked for
  · obtain ⟨a, inventory, served, way⟩ := Inventory.serve_reserve reach c
    have kept := serves (.reserve c)
    have same : w.answer store fails (.inl (.reserve c)) = (a, { w with inventory }) := by
      simp only [answer, served]
      rfl
    rw [served] at kept
    cases same.symm.trans answered
    exact ⟨.ask way, kept⟩
  -- a unit is given back
  · obtain ⟨inventory, served, after⟩ := w.inventory.serve_release t
    have kept := serves (.release t)
    rw [served] at kept
    simp only [answer, served] at answered
    split at answered
    · cases answered
      exact ⟨.failed, reach, rfl, rfl⟩
    · cases answered
      refine ⟨?_, kept⟩
      have given : Stock.mk inventory.ledger (store.bookings w.store) =
          { w.stock store with ledger := w.inventory.ledger.after t.giveBack } := by
        rw [after]
        rfl
      show Effect _ _ _ (.giveBack t (.ok ())) (.mk inventory.ledger (store.bookings w.store))
      rw [given]
      exact .given
  · obtain rfl := congrArg Prod.snd answered
    exact ⟨.other, serves (.confirm t)⟩
  · obtain rfl := congrArg Prod.snd answered
    exact ⟨.other, serves (.availability id)⟩
  -- a booking is to be stored
  · obtain ⟨e, s', refused, same⟩ := store.refuses w.store draft
    simp only [answer, refused] at answered
    cases answered
    refine ⟨?_, reach, rfl, rfl⟩
    show Effect _ _ _ (.store draft (.error e)) (.mk w.inventory.ledger (store.bookings s'))
    rw [same]
    exact .store
  · cases answered
    exact ⟨.other, reach, rfl, rfl⟩
  -- a booking is looked for
  · obtain ⟨r, s', found, same, mine⟩ := store.finds w.store attempt
    simp only [answer, found] at answered
    cases answered
    refine ⟨?_, reach, rfl, rfl⟩
    show Effect _ _ _ (.look attempt _) (.mk w.inventory.ledger (store.bookings s'))
    rw [same]
    exact .look mine
  · cases answered
    exact ⟨.other, reach, rfl, rfl⟩
  · obtain rfl := congrArg Prod.snd answered
    exact ⟨rfl, reach, rfl, w.inventory.stage.answer_now c⟩

/-- The deals of a program that is played have their effects one after the other. -/
theorem effects_of_play {α : Type} {p : Program DeskWorld α} {a : α}
    (reach : w.inventory.ledger.Reachable) (played : p.play (answer store fails) w = (.ok a, w')) :
    Effects w.inventory.hold w.inventory.stage.now (w.stock store)
      ((p.transcript (answer store fails) w).filterMap Desk.deal?) (w'.stock store) := by
  refine Program.play_follows Desk.deal?
    (T := fun w deals w' => w.inventory.ledger.Reachable →
      Effects w.inventory.hold w.inventory.stage.now (w.stock store) deals (w'.stock store))
    (fun _ _ => .nil) ?_ played reach
  intro w c reply w₁ deals w' answered rest reach
  obtain ⟨effect, reach₁, hold, now⟩ := answer_effect reach answered
  have rest := rest reach₁
  rw [hold, now] at rest
  cases shown : Desk.deal? ⟨c, reply⟩ with
  | none =>
    rw [shown] at effect
    simp only at effect
    rw [effect] at rest
    simpa using rest
  | some d =>
    rw [shown] at effect
    exact .cons effect rest

/-- A booking that is asked for is answered, unless the clock does not know the end of its hold. -/
theorem book_answers (policy : RetryPolicy) (request : BookingRequest)
    (reach : w.inventory.ledger.Reachable)
    (due : (w.inventory.stage.now.add? w.inventory.hold).isSome) :
    ∃ r w', (Desk.book policy request).play (answer store fails) w = (.ok r, w') := by
  refine (Desk.ensures_book policy request).plays (Desk.only_book policy request)
    (R := fun w : Outage σ => w.inventory.ledger.Reachable ∧
      (w.inventory.stage.now.add? w.inventory.hold).isSome) ?_ ⟨reach, due⟩
  rintro w c call possible ⟨reach, due⟩
  -- whatever is answered, the ledger stays reachable and the clock stands still
  suffices ∃ reply w', w.answer store fails c = (.ok reply, w') by
    obtain ⟨reply, w', answered⟩ := this
    obtain ⟨-, reach', hold, now⟩ := answer_effect reach answered
    exact ⟨reply, w', answered, reach', by rwa [hold, now]⟩
  cases call with
  | reserve request =>
    obtain ⟨a, inventory, served, way⟩ := Inventory.serve_reserve reach request
    cases a with
    | ok reply =>
      refine ⟨reply, { w with inventory }, ?_⟩
      simp only [answer, served]
      rfl
    | error b =>
      generalize inventory.ledger = l' at way
      cases way with
      | outOfTime _ _ unknown => simp [unknown] at due
  | release t =>
    obtain ⟨inventory, served, -⟩ := w.inventory.serve_release t
    simp only [answer, served]
    cases fails w.asked with
    | none => exact ⟨_, _, rfl⟩
    | some message => exact ⟨_, _, rfl⟩
  | findByAttempt attempt => exact ⟨_, _, rfl⟩
  | create t user => exact ⟨_, _, rfl⟩
  | surroundings c =>
    cases c with
    | outOfTime => exact possible.elim nofun
    | now | record | wait | draw | freshBooking => exact ⟨_, _, rfl⟩

/-! ### What becomes of the unit -/

/-- What is promised of an attempt that ends with an error, given all its deals. -/
structure Restores (hold : Span) (now : Instant) (request : BookingRequest) (deals : List Desk.Deal)
    (s s' : Stock) (e : Error) : Prop where
  /-- The error is that of the first refusal. -/
  error : (request.user.value ≤ 0 ∧ e = (Cause.invalidUser request.user).error ∧ deals = []) ∨
    deals[0]? = some (.look request.attempt (.error e)) ∨
    deals[1]? = some (.ask request.reservation (.error e)) ∨
    ∃ t, deals[1]? = some (.ask request.reservation (.ok t)) ∧
      deals[2]? = some (.store (BookingDraft.ofToken t request.user) (.error e))
  bookings : s'.bookings = s.bookings
  unbooked : ∀ b ∈ s'.bookings, b.attempt ≠ request.attempt
  /-- If nothing had to be given back, or it was, snapshots show nothing of the attempt. -/
  atOnce : ((∀ t reply, .giveBack t reply ∉ deals) ∨ ∃ t, .giveBack t (.ok ()) ∈ deals) →
    ∀ time, now ≤ time → s'.ledger.LooksLike s.ledger time
  /-- If nothing could be given back, one unit is held by the attempt, and after the expiry snapshots
  show nothing of it, swept or not; a hold that lasts for less than no time shows before it was taken. -/
  byExpiry : (∃ t reply, .giveBack t reply ∈ deals) → (∀ t, .giveBack t (.ok ()) ∉ deals) →
    ∃ t, deals[1]? = some (.ask request.reservation (.ok t)) ∧ t.hold = request.attempt ∧
      now.add? hold = some t.expiresAt ∧ s'.ledger.Holds t ∧ s.ledger.SameBut s'.ledger t.share ∧
      ∀ time, t.expiresAt < time → 0 ≤ hold.nanos ∨ now ≤ time →
        s'.ledger.LooksLike s.ledger time ∧ (s'.ledger.after (.reclaim time)).LooksLike s.ledger time

section Effects

variable {hold : Span} {now : Instant} {s s' : Stock} {deals : List Desk.Deal} {t : Token}

theorem Effects.append {first rest : List Desk.Deal}
    (h : Effects hold now s (first ++ rest) s') :
    ∃ between, Effects hold now s first between ∧ Effects hold now between rest s' := by
  induction first generalizing s with
  | nil => exact ⟨s, .nil, h⟩
  | cons d first ih =>
    obtain _ | ⟨effect, more⟩ := h
    obtain ⟨between, before, after⟩ := ih more
    exact ⟨between, .cons effect before, after⟩

/-- Looking for a booking in vain changes nothing. -/
theorem Effects.noneFound {cause : Error} (none : Desk.NoneFound t cause deals)
    (h : Effects hold now s deals s') : s' = s := by
  cases none with
  | passed =>
    cases h
    rfl
  | missing | unknown =>
    obtain _ | ⟨⟨-⟩, ⟨⟩⟩ := h
    rfl

/-- The tries to give back a unit change nothing until one succeeds, and that is the last. -/
theorem Effects.givesBack {tries : Nat} {outcome : Result Unit}
    (given : Desk.GivesBack t tries deals outcome) (h : Effects hold now s deals s') :
    s'.bookings = s.bookings ∧
    ((.giveBack t (.ok ()) ∈ deals ∧ s'.ledger = s.ledger.after t.giveBack) ∨
      ((∀ t, .giveBack t (.ok ()) ∉ deals) ∧ s'.ledger = s.ledger)) := by
  induction given generalizing s with
  | given =>
    obtain _ | ⟨⟨-⟩, ⟨⟩⟩ := h
    exact ⟨rfl, .inl ⟨by simp, rfl⟩⟩
  | refused | exhausted =>
    obtain _ | ⟨⟨-⟩, ⟨⟩⟩ := h
    exact ⟨rfl, .inr ⟨by simp, rfl⟩⟩
  | again n e transient gives outcome rest ih =>
    obtain _ | ⟨⟨-⟩, more⟩ := h
    obtain ⟨bookings, ⟨mem, ledger⟩ | ⟨never, ledger⟩⟩ := ih more
    · exact ⟨bookings, .inl ⟨.tail _ mem, ledger⟩⟩
    · exact ⟨bookings, .inr ⟨by simpa using never, ledger⟩⟩

/-- An attempt without a unit and without a booking ends with an error, and its unit goes back. -/
theorem Effects.restores {tries : Nat} {request : BookingRequest} {u : Desk.Undertaking}
    (h : Effects hold now s deals s') (course : Desk.Course tries request deals u)
    (reach : s.ledger.Reachable) (idle : s.ledger.Idle request.attempt request.category now)
    (unbooked : ∀ b ∈ s.bookings, b.attempt ≠ request.attempt) :
    ∃ e, u.answer = .error e ∧ Restores hold now request deals s s' e := by
  cases course with
  | invalid invalid =>
    cases h
    exact ⟨_, rfl, .inl ⟨invalid, rfl, rfl⟩, rfl, unbooked, fun _ _ _ => .refl _ _, by simp⟩
  | unknown e =>
    obtain _ | ⟨⟨-⟩, ⟨⟩⟩ := h
    exact ⟨e, rfl, .inr (.inl rfl), rfl, unbooked, fun _ _ _ => .refl _ _, by simp⟩
  | replayed b =>
    obtain _ | ⟨⟨found⟩, -⟩ := h
    obtain ⟨mem, mine⟩ := found b rfl
    exact absurd mine (unbooked b mem)
  | refused e =>
    obtain _ | ⟨⟨-⟩, _ | ⟨_ | ⟨way⟩, ⟨⟩⟩⟩ := h
    -- a refusal leaves the ledger as it is
    obtain same | ⟨_, _, ⟨⟩, -⟩ := way.ledger_cases
    refine ⟨e, rfl, .inr (.inr (.inl rfl)), rfl, unbooked, fun _ time _ => ?_, by simp⟩
    rw [same]
    exact .refl _ time
  | stored t b => obtain _ | ⟨⟨-⟩, _ | ⟨_ | ⟨way⟩, _ | ⟨⟨⟩, -⟩⟩⟩ := h
  | elsewhere t e b =>
    obtain _ | ⟨⟨-⟩, _ | ⟨_ | ⟨way⟩, _ | ⟨⟨⟩, _ | ⟨⟨found⟩, -⟩⟩⟩⟩ := h
    obtain ⟨mem, mine⟩ := found b rfl
    exact absurd (mine.trans way.granted.2.1) (unbooked b mem)
  | undone t e looks gives outcome none given =>
    obtain _ | ⟨⟨-⟩, _ | ⟨_ | ⟨way⟩, _ | ⟨⟨⟩, more⟩⟩⟩ := h
    obtain ⟨_, looked, gave⟩ := more.append
    obtain rfl := looked.noneFound none
    obtain ⟨bookings, went⟩ := gave.givesBack given
    obtain ⟨due, lends⟩ := way.lends reach idle
    have given_iff (t' : Token) (reply : Result Unit) : .giveBack t' reply ∈
        .look request.attempt (.ok .none) :: .ask request.reservation (.ok t) ::
          .store (BookingDraft.ofToken t request.user) (.error e) :: (looks ++ gives) ↔
        .giveBack t' reply ∈ gives := by
      simp [none.not_giveBack]
    refine ⟨e, rfl, .inr (.inr (.inr ⟨t, rfl, rfl⟩)), bookings, bookings ▸ unbooked, ?_, ?_⟩ <;>
      simp only [given_iff]
    · rintro (nothing | ⟨t', mem⟩) time later
      · obtain ⟨reply, mem⟩ := given.first
        exact absurd mem (nothing t reply)
      · obtain ⟨-, ledger⟩ | ⟨never, -⟩ := went
        · rw [ledger]
          exact lends.returned time later
        · exact absurd mem (never t')
    · intro _ never
      obtain ⟨mem, -⟩ | ⟨-, ledger⟩ := went
      · exact absurd mem (never t)
      rw [ledger]
      refine ⟨t, rfl, way.granted.2.1, due, lends.holds, lends.sameBut, fun time past late => ?_⟩
      refine lends.lapsed time (late.elim (fun forwards => ?_) id) past
      have := Instant.le_of_add? forwards due
      simp only [Instant.le_def, Instant.lt_def] at *
      omega

end Effects

/-- **A booking that is not stored gives its unit back, at once or by expiry**, whichever of the tries to
give it back fail. -/
theorem failed_booking_gives_back (store : ClosedStore σ) (fails : Nat → Option String)
    (policy : RetryPolicy) (request : BookingRequest) {w : Outage σ}
    (reach : w.inventory.ledger.Reachable)
    (idle : w.inventory.ledger.Idle request.attempt request.category w.inventory.stage.now)
    (unbooked : ∀ b ∈ store.bookings w.store, b.attempt ≠ request.attempt) :
    ((w.inventory.stage.now.add? w.inventory.hold).isSome →
      ∃ r w', (Desk.book policy request).play (answer store fails) w = (.ok r, w')) ∧
    ∀ r w', (Desk.book policy request).play (answer store fails) w = (.ok r, w') →
      ∃ e, r = .error e ∧
        Restores w.inventory.hold w.inventory.stage.now request.normalized
          (((Desk.book policy request).transcript (answer store fails) w).filterMap Desk.deal?)
          (w.stock store) (w'.stock store) e := by
  refine ⟨book_answers policy request reach, fun r w' played => ?_⟩
  obtain ⟨u, course, rfl⟩ := (Desk.ensures_book policy request).play played
  exact (effects_of_play reach played).restores course reach idle unbooked

/-- The store and the inventory are down while somebody asks for a seat whose last hold has lapsed: the
seat is held then until its expiry, though nothing is booked. -/
theorem failed_booking_gives_back_seat :
    let w : Outage (List Booking) := { inventory := .lapsedSeat (.ofSeconds 10), store := [], asked := 0 }
    let request : BookingRequest :=
      { attempt := ⟨.random 1⟩, event := ⟨1⟩, category := ⟨10⟩, seatLabel := some "A1", user := ⟨42⟩ }
    let fails : Nat → Option String := fun _ => some "inventory unavailable"
    let run := (Desk.book .none request).play (answer .down fails) w
    (w.inventory.ledger.Reachable ∧
      w.inventory.ledger.Idle request.attempt request.category w.inventory.stage.now ∧
      ∀ b ∈ ClosedStore.down.bookings w.store, b.attempt ≠ request.attempt) ∧
    (run.2.inventory.ledger.seat? ⟨10⟩ "A1").bind Seat.reservedUntil = some (.ofParts 1010 0) ∧
    ∃ e, run.1 = .ok (.error e) ∧
      Restores w.inventory.hold w.inventory.stage.now request.normalized
        (((Desk.book .none request).transcript (answer .down fails) w).filterMap Desk.deal?)
        (w.stock .down) (run.2.stock .down) e := by
  intro w request fails run
  have reach : w.inventory.ledger.Reachable := MemoryLedger.Reachable.after ⟨[.addSeated _ _], rfl⟩ _
  have unknown : w.inventory.ledger.Unknown request.attempt := by decide
  have idle := unknown.idle request.category w.inventory.stage.now
  have unbooked : ∀ b ∈ ClosedStore.down.bookings w.store, b.attempt ≠ request.attempt := nofun
  obtain ⟨answers, restores⟩ :=
    failed_booking_gives_back .down fails .none request reach idle unbooked
  obtain ⟨r, w', played⟩ := answers (by decide)
  obtain ⟨e, rfl, restored⟩ := restores r w' played
  refine ⟨⟨reach, idle, unbooked⟩, by decide +kernel, e, congrArg Prod.fst played, ?_⟩
  have left : run.2 = w' := congrArg Prod.snd played
  rwa [left]

/-- Holds of an inventory that last for eight seconds less than no time: a seat whose last hold ended at
998 is held at 1000 until 992, and since it is not given back, it is shown as available at 995. -/
theorem negative_hold_shows :
    let w : Outage (List Booking) :=
      { inventory := .lapsedSeat (.ofSeconds (-8)), store := [], asked := 0 }
    let request : BookingRequest :=
      { attempt := ⟨.random 1⟩, event := ⟨1⟩, category := ⟨10⟩, seatLabel := some "A1", user := ⟨42⟩ }
    let fails : Nat → Option String := fun _ => some "inventory unavailable"
    let run := (Desk.book .none request).play (answer .down fails) w
    let shown (l : MemoryLedger) : Option UInt32 :=
      (l.sections.get? ⟨10⟩).map fun s => (s.availability (.ofParts 995 0)).available
    (w.inventory.ledger.Reachable ∧
      w.inventory.ledger.Idle request.attempt request.category w.inventory.stage.now ∧
      ∀ b ∈ ClosedStore.down.bookings w.store, b.attempt ≠ request.attempt) ∧
    (match run.1 with | .ok (.error e) => some e | _ => none) =
      some ⟨.internal, "booking database unavailable"⟩ ∧
    run.2.asked = 1 ∧
    (run.2.inventory.ledger.seat? ⟨10⟩ "A1").bind Seat.reservedUntil = some (.ofParts 992 0) ∧
    shown w.inventory.ledger = some 0 ∧ shown run.2.inventory.ledger = some 1 := by
  intro w request fails run shown
  have reach : w.inventory.ledger.Reachable := MemoryLedger.Reachable.after ⟨[.addSeated _ _], rfl⟩ _
  have unknown : w.inventory.ledger.Unknown request.attempt := by decide
  refine ⟨⟨reach, unknown.idle _ _, nofun⟩, ?_⟩
  decide +kernel

end Outage

end BoxOffice
