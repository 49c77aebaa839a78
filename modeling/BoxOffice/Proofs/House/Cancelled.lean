import BoxOffice.Proofs.House.Coupling
import BoxOffice.Proofs.House.Floor

/-!
# Cancelled bookings that own something

A sale and the change of status that follows it are two calls, so a booking may become cancelled
though its attempt has bought its place. It happens in two ways only (`Breaks`), and it is never put
right again (`broken_run_iff`). No failure is needed where errands overlap; where each is finished
before the next begins it takes a failure of the store (`not_broken_run`), after which cancelling the
booking, or confirming it once more if it is about a seat, does the damage (`cancel_half_sold`,
`confirm_half_sold_seat`).
-/

namespace BoxOffice

/-- The attempt of a booking has bought something in the booking's category, a seat or a place. -/
def MemoryLedger.Owns (l : MemoryLedger) (b : Booking) : Prop :=
  (∃ label s, l.seat? b.category label = some s ∧ s.status = .sold ∧ s.hold = some b.attempt) ∨
  ∃ h, l.stock? b.category b.attempt = some h ∧ h.state = .confirmed

theorem MemoryLedger.owns_iff {l : MemoryLedger} {b : Booking} :
    l.Owns b ↔ ∃ label, l.Sold ⟨b.attempt, b.category, label⟩ := by
  constructor
  · rintro (⟨label, seat⟩ | place)
    · exact ⟨some label, seat⟩
    · exact ⟨none, place⟩
  · rintro ⟨_ | label, sold⟩
    · exact .inr sold
    · exact .inl ⟨label, sold⟩

instance (l : MemoryLedger) (b : Booking) : Decidable (l.Owns b) :=
  decidable_of_iff
    ((∃ s ∈ l.sections.get? b.category, ∃ seat ∈ s.seats.values,
        seat.status = .sold ∧ seat.hold = some b.attempt) ∨
      ∃ h ∈ l.stock? b.category b.attempt, h.state = .confirmed) <| by
    refine or_congr ?_ Iff.rfl
    constructor
    · rintro ⟨s, found, seat, mem, sold⟩
      -- the seats of a section are those that it has under some label
      obtain ⟨label, there⟩ := Registry.mem_values.1 mem
      exact ⟨label, seat, Option.bind_eq_some_iff.2 ⟨s, found, there⟩, sold⟩
    · rintro ⟨label, seat, there, sold⟩
      obtain ⟨s, found, there⟩ := Option.bind_eq_some_iff.1 there
      exact ⟨s, found, seat, Registry.mem_values.2 ⟨label, there⟩, sold⟩

namespace House

/-- A cancelled booking owns something. -/
def Broken (w : House) : Prop :=
  ∃ b ∈ w.store.bookings.values, b.status = .cancelled ∧ w.inventory.ledger.Owns b

instance (w : House) : Decidable w.Broken :=
  inferInstanceAs (Decidable (∃ b ∈ w.store.bookings.values, _))

/-! ### One errand after the other -/

/-- Where bookings and inventory are coupled no cancelled booking owns anything. -/
theorem Coupled.not_broken {w : House} (h : w.Coupled) : ¬ w.Broken := by
  rintro ⟨b, mem, cancelled, owns⟩
  obtain ⟨id, there⟩ := Registry.mem_values.1 mem
  obtain ⟨label, sold⟩ := MemoryLedger.owns_iff.1 owns
  obtain ⟨id', b', there', share⟩ := h.owned _ sold
  obtain rfl := h.sound.unique there' there (congrArg Share.hold share)
  have confirmed := (h.confirmed_iff id' b' there').2 (share ▸ sold)
  simp [cancelled] at confirmed

/-- **Without failures and overlaps no cancelled booking owns anything.** -/
theorem not_broken_run {inventory : Inventory} (laid_out : inventory.ledger.Provisioned)
    (policy : RetryPolicy) (turns : List Turn) :
    ¬ (run { policy, inventory, store := .empty } turns).Broken :=
  ((coupled_of_provisioned laid_out policy).run turns).not_broken

/-- A booking that is made cancelled while its attempt has bought something. -/
theorem broken_of_cancelled {w w' : House} {id : BookingId} {b : Booking} {label : Option String}
    {now : Instant} (there : w.store.bookings.get? id = some b) (pending : b.status = .pending)
    (sold : w'.inventory.ledger.Sold ⟨b.attempt, b.category, label⟩)
    (store : w'.store = (w.store.transition id now .pending .cancelled).2) : w'.Broken := by
  refine ⟨{ b with status := .cancelled, updatedAt := now }, Registry.mem_values.2 ⟨id, ?_⟩, rfl,
    MemoryLedger.owns_iff.2 ⟨label, sold⟩⟩
  rw [store, MemoryStore.get?_transition there pending, if_pos rfl]

section HalfSold

/-! A booking is half sold if its share is sold to it while it is still pending. -/

variable {w : House} {id : BookingId} {b : Booking}
  (there : w.store.bookings.get? id = some b) (pending : b.status = .pending)

include there pending

/-- **Cancelling a half sold booking** gives nothing back, and cancels it all the same. -/
theorem cancel_half_sold (owns : w.inventory.ledger.Owns b) (fresh : BookingId) :
    ((Desk.cancel w.policy id).run.play (answer fresh) w).2.Broken := by
  obtain ⟨label, sold⟩ := MemoryLedger.owns_iff.1 owns
  obtain ⟨inventory, served, after⟩ := w.inventory.serve_release b.token
  obtain ⟨w', settled, same, store⟩ := play_settle fresh (w := { w with inventory })
    there pending w.policy .cancelled
  unfold Desk.cancel Desk.load
  simp only [Service.play_bind, play_get, there, Service.play_pure, pending,
    play_retryTransient (play_askRelease served), settled, play_count, play_note]
  have stays : w'.inventory.ledger.Sold ⟨b.attempt, b.category, label⟩ := by
    rw [same]
    exact after ▸ sold.after _
  exact broken_of_cancelled there pending stays store

variable (sold : w.inventory.ledger.Sold b.share)

include sold

/-- **Confirming a half sold booking of a seat** finds the seat sold, takes its hold for lost, and
cancels the booking. -/
theorem confirm_half_sold_seat (seated : b.token.unit ≠ .stock) (fresh : BookingId) :
    ((Desk.confirm w.policy id).run.play (answer fresh) w).2.Broken := by
  -- a sold seat is not held any more, not even by the hold that bought it
  have stuck : ¬ w.inventory.ledger.Sells b.token w.inventory.stage.now :=
    mt (sold.sells_iff _).1 seated
  obtain ⟨e, inventory, served, conflict, same⟩ := Inventory.serve_confirm_of_not_sells stuck
  obtain ⟨w', settled, unmoved, store⟩ := play_settle fresh
    (w := House.record { w with inventory } (.notice .holdLost)) there pending w.policy .cancelled
  unfold Desk.confirm Desk.load
  simp only [Service.play_bind, play_get, there, Service.play_pure, pending, Service.play_outcome,
    play_askConfirm served, conflict, if_true, play_note, settled, play_count, Service.play_throw]
  have stays : w'.inventory.ledger.Sold b.share := by
    rw [unmoved]
    show inventory.ledger.Sold _
    rw [same]
    exact sold
  exact broken_of_cancelled there pending stays store

/-- **Confirming a half sold booking of a place** makes it confirmed. -/
theorem confirm_half_sold_stock (standing : b.token.unit = .stock) (fresh : BookingId) :
    ((Desk.confirm w.policy id).run.play (answer fresh) w).1 =
      .ok (.ok { b with status := .confirmed, updatedAt := w.now }) := by
  have sells := (sold.sells_iff w.inventory.stage.now).2 standing
  obtain ⟨inventory, served, after⟩ := Inventory.serve_confirm_of_sells sells
  obtain ⟨w', settled, -, -⟩ := play_settle fresh (w := { w with inventory }) there pending
    w.policy .confirmed
  have now : House.now { w with inventory } = w.now := by
    have kept := (Inventory.play_now (Reservations.answer w.inventory.hold (.confirm b.token))
      w.inventory).1
    exact (congrArg (·.2.stage.now) served).symm.trans kept
  rw [now] at settled
  unfold Desk.confirm Desk.load
  simp only [Service.play_bind, play_get, there, Service.play_pure, pending, Service.play_outcome,
    play_askConfirm served, settled, play_count, play_note]

end HalfSold

end House

namespace Floor

/-- The ways to a cancelled booking that owns something. -/
inductive Breaks (f : Floor) : Move → Prop
  /-- A pending booking is cancelled though it owns something. -/
  | cancels {place fresh id b}
    (asks : f.Asks place (.inr (.inl (.transition id .pending .cancelled))))
    (there : f.house.store.bookings.get? id = some b) (pending : b.status = .pending)
    (owns : f.house.inventory.ledger.Owns b) : Breaks f (.proceed place fresh none)
  /-- Something is sold to the attempt of a booking that is cancelled already. -/
  | sells {place fresh fault t inventory b} (asks : f.Asks place (.inl (.confirm t)))
    (served : f.house.inventory.serve (.confirm t) = (.ok (.ok ()), inventory))
    (mem : b ∈ f.house.store.bookings.values) (cancelled : b.status = .cancelled)
    (attempt : t.hold = b.attempt) (category : t.category = b.category) :
    Breaks f (.proceed place fresh fault)

variable {f : Floor}

/-! ### One move -/

/-- What is sold stays sold. -/
theorem sold_move {share : Share} (sold : f.house.inventory.ledger.Sold share) (m : Move) :
    (f.move m).house.inventory.ledger.Sold share := by
  rcases f.ledger_move_cases m with same | swept | ⟨_, _, _, call, -, -, served, -⟩
  · rwa [same]
  · rw [swept]
    exact sold.after _
  · rw [served]
    exact Inventory.serve_keeps_sold sold call

/-- Only a successful confirmation sells. -/
theorem Orderly.sold_move_cases (h : f.Orderly) {m : Move} {share : Share}
    (sold : (f.move m).house.inventory.ledger.Sold share) :
    f.house.inventory.ledger.Sold share ∨
    ∃ place fresh fault t inventory, m = .proceed place fresh fault ∧
      f.Asks place (.inl (.confirm t)) ∧
      f.house.inventory.serve (.confirm t) = (.ok (.ok ()), inventory) ∧
      (f.move m).house.store = f.house.store ∧ share = t.share := by
  rcases f.ledger_move_cases m with same | swept |
    ⟨place, fresh, fault, call, rfl, asks, served, store⟩
  · rw [same] at sold
    exact .inl sold
  · rw [swept] at sold
    exact .inl ((MemoryLedger.sold_after_cases sold).resolve_right (by simp [Ledger.Call.sale?]))
  · rw [served] at sold
    rcases Inventory.serve_sold_cases h.reach sold with before | ⟨t, inventory, rfl, granted, rfl⟩
    · exact .inl before
    · exact .inr ⟨place, fresh, fault, t, inventory, rfl, asks, granted, store, rfl⟩

/-- A booking that is not pending any more stays as it is. -/
theorem Orderly.decided_stays (h : f.Orderly) {id : BookingId} {b : Booking}
    (there : f.house.store.bookings.get? id = some b) (decided : b.status ≠ .pending) (m : Move) :
    (f.move m).house.store.bookings.get? id = some b := by
  rcases f.store_move_cases m with same | ⟨place, fresh, call, rfl, asks, lacks, store⟩
  · rwa [same]
  · rw [store]
    rcases MemoryStore.booking_stays lacks f.house.now there with same | ⟨target, rfl, -⟩
    · exact same
    · exact absurd (h.call asks).1 decided

/-- A booking becomes decided by a change from pending. -/
theorem Orderly.decided_move_cases (h : f.Orderly) {m : Move} {id : BookingId} {b : Booking}
    (there : (f.move m).house.store.bookings.get? id = some b) (decided : b.status ≠ .pending) :
    f.house.store.bookings.get? id = some b ∨
    ∃ place fresh b₀, m = .proceed place fresh none ∧
      f.Asks place (.inr (.inl (.transition id .pending b.status))) ∧
      f.house.store.bookings.get? id = some b₀ ∧ b₀.status = .pending ∧
      b = { b₀ with status := b.status, updatedAt := f.house.now } := by
  rcases f.store_move_cases m with same | ⟨place, fresh, call, rfl, asks, -, store⟩
  · rw [same] at there
    exact .inl there
  · rw [store] at there
    rcases MemoryStore.booking_cases there with before | ⟨draft, -, -, -, rfl⟩ |
      ⟨target, b₀, rfl, before, rfl⟩
    · exact .inl before
    · exact absurd rfl decided
    · have pending : b₀.status = .pending := (h.call asks).1
      refine .inr ⟨place, fresh, b₀, rfl, ?_, before, pending, rfl⟩
      rw [← pending]
      exact asks

/-- Once a cancelled booking owns something, it does so for good. -/
theorem Orderly.broken_move (h : f.Orderly) (broken : f.house.Broken) (m : Move) :
    (f.move m).house.Broken := by
  obtain ⟨b, mem, cancelled, owns⟩ := broken
  obtain ⟨id, there⟩ := Registry.mem_values.1 mem
  obtain ⟨label, sold⟩ := MemoryLedger.owns_iff.1 owns
  have decided : b.status ≠ .pending := by rw [cancelled]; decide
  exact ⟨b, Registry.mem_values.2 ⟨id, h.decided_stays there decided m⟩, cancelled,
    MemoryLedger.owns_iff.2 ⟨label, sold_move sold m⟩⟩

theorem Breaks.broken {m : Move} (h : f.Breaks m) : (f.move m).house.Broken := by
  cases h with
  | @cancels place fresh id b asks there pending owns =>
    have house : (f.move (.proceed place fresh none)).house =
        { f.house with store := (f.house.store.transition id f.house.now .pending .cancelled).2 } :=
      house_proceed asks fresh none
    obtain ⟨label, sold⟩ := MemoryLedger.owns_iff.1 owns
    rw [house]
    exact House.broken_of_cancelled there pending sold rfl
  | @sells place fresh fault t inventory b asks served mem cancelled attempt category =>
    have house : (f.move (.proceed place fresh fault)).house =
        { f.house with inventory := (f.house.inventory.serve (.confirm t)).2 } :=
      house_proceed asks fresh fault
    rw [served] at house
    rw [House.Broken, house]
    refine ⟨b, mem, cancelled, MemoryLedger.owns_iff.2 ⟨t.seatLabel, ?_⟩⟩
    rw [← attempt, ← category]
    exact Inventory.sold_of_confirm_ok served

/-- **There is no third way.** -/
theorem Orderly.broken_move_iff (h : f.Orderly) (m : Move) :
    (f.move m).house.Broken ↔ f.house.Broken ∨ f.Breaks m := by
  constructor
  · rintro ⟨b, mem, cancelled, owns⟩
    obtain ⟨id, there⟩ := Registry.mem_values.1 mem
    obtain ⟨label, sold⟩ := MemoryLedger.owns_iff.1 owns
    have decided : b.status ≠ .pending := by rw [cancelled]; decide
    -- a move makes one call only, so the sale and the cancellation are not both new
    rcases h.sold_move_cases sold with
      before | ⟨place, fresh, fault, t, inventory, rfl, asks, served, store, share⟩
    · rcases h.decided_move_cases there decided with
        there | ⟨place, fresh, b₀, rfl, asks, there, pending, e⟩
      · exact .inl ⟨b, Registry.mem_values.2 ⟨id, there⟩, cancelled,
          MemoryLedger.owns_iff.2 ⟨label, before⟩⟩
      · rw [cancelled] at asks
        rw [e] at before
        exact .inr (.cancels asks there pending (MemoryLedger.owns_iff.2 ⟨label, before⟩))
    · rw [store] at mem
      obtain ⟨attempt, category, -⟩ := Share.mk.inj share
      exact .inr (.sells asks served mem cancelled attempt.symm category.symm)
  · rintro (broken | breaks)
    · exact h.broken_move broken m
    · exact breaks.broken

/-! ### Runs -/

theorem Orderly.broken_run_iff (h : f.Orderly) (moves : List Move) :
    (f.run moves).house.Broken ↔
      f.house.Broken ∨
        ∃ before m after, moves = before ++ m :: after ∧ (f.run before).Breaks m := by
  -- by induction on the moves: the first breaks the house, or what comes after it does
  induction moves generalizing f with
  | nil =>
    have same : f.run [] = f := rfl
    simp [same]
  | cons m moves ih =>
    have rest := ih (h.move m)
    constructor
    · intro broken
      rcases rest.1 broken with broken | ⟨before, m', after, rfl, breaks⟩
      · rcases (h.broken_move_iff m).1 broken with broken | breaks
        · exact .inl broken
        · exact .inr ⟨[], m, moves, rfl, breaks⟩
      · exact .inr ⟨m :: before, m', after, rfl, breaks⟩
    · rintro (broken | ⟨before, m', after, moves_eq, breaks⟩)
      · exact rest.2 (.inl ((h.broken_move_iff m).2 (.inl broken)))
      · cases before with
        | nil =>
          obtain ⟨rfl, rfl⟩ := List.cons.inj moves_eq
          exact rest.2 (.inl ((h.broken_move_iff m).2 (.inr breaks)))
        | cons m'' before =>
          obtain ⟨rfl, rfl⟩ := List.cons.inj moves_eq
          exact rest.2 (.inr ⟨before, m', after, rfl, breaks⟩)

/-- **When a cancelled booking owns something.** A run that begins without bookings ends in such a
state exactly if one of its moves cancels a pending booking that owns something, or sells something to
the attempt of a cancelled booking. -/
theorem cancelled_owns_iff {inventory : Inventory} (reach : inventory.ledger.Reachable)
    (policy : RetryPolicy) (moves : List Move) :
    ((opening policy inventory).run moves).house.Broken ↔
      ∃ before m after, moves = before ++ m :: after ∧
        ((opening policy inventory).run before).Breaks m := by
  have whole : ¬ (opening policy inventory).house.Broken := by
    rintro ⟨b, mem, -⟩
    obtain ⟨id, there⟩ := Registry.mem_values.1 mem
    simp [opening, MemoryStore.empty] at there
  rw [(orderly_opening reach policy).broken_run_iff, or_iff_right whole]

/-- The wish for the only seat there is. -/
def seatWish : BookingRequest where
  attempt := ⟨.random 1⟩
  event := ⟨1⟩
  category := ⟨10⟩
  seatLabel := some "A1"
  user := ⟨42⟩

/-- The errand at a place makes its next call. -/
def next (place : Nat) : Move :=
  .proceed place ⟨.random 7⟩ none

/-- The errand at a place makes all the calls that are left. -/
def finish (place : Nat) : List Move :=
  List.replicate 8 (next place)

/-- Two confirmations of a booking overlap, and nothing fails: the second finds the seat sold by the
first, and cancels the booking. -/
theorem cancelled_owns_overlap :
    let floor := opening .none .oneSeat
    let moves := .enter (.book seatWish) :: finish 0 ++
      [.enter (.confirm ⟨.random 7⟩), .enter (.confirm ⟨.random 7⟩), next 1, next 2, next 1] ++
      finish 2
    Inventory.oneSeat.ledger.Reachable ∧
      ∃ before m after, moves = before ++ m :: after ∧ (floor.run before).Breaks m := by
  have reach : Inventory.oneSeat.ledger.Reachable := ⟨[.addSeated _ _], rfl⟩
  exact ⟨reach, (cancelled_owns_iff reach _ _).1 (by decide +kernel)⟩

-- The second way is open too: a repeated wish reserves the seat again after it was given back, and a
-- confirmation that had looked up the booking before it was cancelled sells it.
example :
    let moves := [.enter (.book seatWish), .enter (.book seatWish), next 0, next 1] ++ finish 0 ++
      [.enter (.confirm ⟨.random 7⟩), next 2, .enter (.cancel ⟨.random 7⟩)] ++ finish 3 ++
      [next 1, next 2]
    ((opening .none .oneSeat).run moves).house.Broken := by
  decide +kernel

/-- The store fails once, when the booking of a sold seat is to become confirmed. Confirming the
booking again cancels it, and so does cancelling it. -/
theorem cancelled_owns_after_fault :
    let floor := opening .none .oneSeat
    let half := .enter (.book seatWish) :: finish 0 ++
      [.enter (.confirm ⟨.random 7⟩), next 1, next 1,
        .proceed 1 ⟨.random 7⟩ (some "store unavailable")] ++ finish 1
    Inventory.oneSeat.ledger.Provisioned ∧ ¬ (floor.run half).house.Broken ∧
      (floor.run (half ++ .enter (.confirm ⟨.random 7⟩) :: finish 2)).house.Broken ∧
      (floor.run (half ++ .enter (.cancel ⟨.random 7⟩) :: finish 2)).house.Broken := by
  have laid_out : Inventory.oneSeat.ledger.Provisioned := ⟨[.addSeated _ _], by decide, rfl⟩
  exact ⟨laid_out, by decide +kernel, by decide +kernel, by decide +kernel⟩

end Floor

end BoxOffice
