import BoxOffice.Proofs.House.Coupling

/-!
# Bookings and inventory agree

As long as no call of the store fails and every errand of the front desk is finished before the next
one begins, the bookings and the ledger tell the same story (`Agrees`): confirmed bookings are those
whose seat or place is sold to them, and there are no more of them than the category has room for.
-/

namespace BoxOffice

/-- The seat of a booking, or a place in its category, is sold to the booking's attempt. -/
def MemoryLedger.SoldTo (l : MemoryLedger) (b : Booking) : Prop :=
  (∃ label s, b.seatLabel = some label ∧ l.seat? b.category label = some s ∧ s.status = .sold ∧
    s.hold = some b.attempt) ∨
  ∃ h, l.stock? b.category b.attempt = some h ∧ h.state = .confirmed

namespace House

/-- The ledger and the store of a house tell the same story. -/
structure Agrees (w : House) : Prop where
  confirmed_iff : ∀ b ∈ w.store.bookings.values,
    b.status = .confirmed ↔ w.inventory.ledger.SoldTo b
  /-- A sold seat belongs to the one booking of its hold. -/
  seat_owned : ∀ category label s, w.inventory.ledger.seat? category label = some s →
    s.status = .sold → ∃ b ∈ w.store.bookings.values, b.category = category ∧
      b.seatLabel = some label ∧ s.hold = some b.attempt ∧
      ∀ b' ∈ w.store.bookings.values, s.hold = some b'.attempt → b' = b
  /-- So does a sold place. -/
  stock_owned : ∀ category hold h, w.inventory.ledger.stock? category hold = some h →
    h.state = .confirmed → ∃ b ∈ w.store.bookings.values, b.category = category ∧
      b.seatLabel = none ∧ b.attempt = hold ∧
      ∀ b' ∈ w.store.bookings.values, b'.attempt = hold → b' = b
  /-- No seat has two confirmed bookings. -/
  seat_once : ∀ b ∈ w.store.bookings.values, ∀ b' ∈ w.store.bookings.values,
    b.status = .confirmed → b'.status = .confirmed → b.category = b'.category →
    b.seatLabel.isSome → b.seatLabel = b'.seatLabel → b = b'
  within_capacity : ∀ id s, w.inventory.ledger.sections.get? id = some s →
    (w.store.bookings.values.countP fun b => b.status = .confirmed ∧ b.category = id) ≤
      s.category.total.toNat

namespace Coupled

variable {w : House}

theorem share_eq (h : w.Coupled) {id : BookingId} {b : Booking}
    (there : w.store.bookings.get? id = some b) : b.share = ⟨b.attempt, b.category, b.seatLabel⟩ := by
  rw [← h.labelled id b there]
  rfl

theorem unique (h : w.Coupled) {b b' : Booking} (m : b ∈ w.store.bookings.values)
    (m' : b' ∈ w.store.bookings.values) (same : b.attempt = b'.attempt) : b = b' := by
  obtain ⟨id, there⟩ := Registry.mem_values.1 m
  obtain ⟨id', there'⟩ := Registry.mem_values.1 m'
  exact h.sound.unique there there' same

/-- What is sold to a booking is its share. -/
theorem sold_iff_soldTo (h : w.Coupled) {id : BookingId} {b : Booking}
    (there : w.store.bookings.get? id = some b) :
    w.inventory.ledger.Sold b.share ↔ w.inventory.ledger.SoldTo b := by
  rw [h.share_eq there]
  constructor
  · intro sold
    cases label : b.seatLabel with
    | some name =>
      rw [label] at sold
      obtain ⟨s, seat, status, own⟩ := sold
      exact .inl ⟨name, s, label, seat, status, own⟩
    | none =>
      rw [label] at sold
      exact .inr sold
  · rintro (⟨name, s, label, seat, status, own⟩ | place)
    · rw [label]
      exact ⟨s, seat, status, own⟩
    · have sold : w.inventory.ledger.Sold ⟨b.attempt, b.category, none⟩ := place
      obtain ⟨id', b', there', share⟩ := h.owned _ sold
      obtain rfl := h.sound.unique there' there (congrArg Share.hold share)
      rw [h.share_eq there'] at share
      rwa [share]

/-- A confirmed booking has its seat, or its place in the pool. -/
theorem sold_cases (h : w.Coupled) {b : Booking} (m : b ∈ w.store.bookings.values)
    (confirmed : b.status = .confirmed) :
    (∃ label s, b.seatLabel = some label ∧ w.inventory.ledger.seat? b.category label = some s ∧
      s.hold = some b.attempt) ∨
    (b.seatLabel = none ∧
      ∃ p, w.inventory.ledger.stock? b.category b.attempt = some p ∧ p.state = .confirmed) := by
  obtain ⟨id, there⟩ := Registry.mem_values.1 m
  have sold := (h.confirmed_iff id b there).1 confirmed
  rw [h.share_eq there] at sold
  cases label : b.seatLabel with
  | some name =>
    rw [label] at sold
    obtain ⟨s, seat, -, own⟩ := sold
    exact .inl ⟨name, s, rfl, seat, own⟩
  | none =>
    rw [label] at sold
    exact .inr ⟨rfl, sold⟩

theorem seat_once (h : w.Coupled) {b b' : Booking} (m : b ∈ w.store.bookings.values)
    (m' : b' ∈ w.store.bookings.values) (confirmed : b.status = .confirmed)
    (confirmed' : b'.status = .confirmed) (category : b.category = b'.category)
    (labelled : b.seatLabel.isSome) (label : b.seatLabel = b'.seatLabel) : b = b' := by
  rcases h.sold_cases m confirmed with ⟨name, s, named, seat, own⟩ | ⟨nameless, -⟩
  · rcases h.sold_cases m' confirmed' with ⟨name', s', named', seat', own'⟩ | ⟨nameless, -⟩
    · obtain rfl : name = name' := Option.some.inj (named.symm.trans (label.trans named'))
      rw [category, seat'] at seat
      obtain rfl := Option.some.inj seat
      exact h.unique m m' (Option.some.inj (own.symm.trans own'))
    · simp [label, nameless] at labelled
  · simp [nameless] at labelled

/-- The confirmed bookings of a category are no more than its capacity. -/
theorem within_capacity (h : w.Coupled) {id : CategoryId} {s : Section}
    (there : w.inventory.ledger.sections.get? id = some s) :
    (w.store.bookings.values.countP fun b => b.status = .confirmed ∧ b.category = id) ≤
      s.category.total.toNat := by
  have sound := h.reach.sound there
  have mem {k : BookingId} {b : Booking} (at_key : w.store.bookings.get? k = some b) :
      b ∈ w.store.bookings.values := Registry.mem_values.2 ⟨k, at_key⟩
  have key {k k' : BookingId} {b : Booking} (at_key : w.store.bookings.get? k = some b)
      (at_key' : w.store.bookings.get? k' = some b) : k = k' :=
    (h.sound k b at_key).1.symm.trans (h.sound k' b at_key').1
  rcases sound.kinds with ⟨-, -, size, pool⟩ | ⟨-, -, seats, fits⟩
  · rw [← size]
    -- bookings of a category of seats are told apart by their seats
    have le := Registry.countP_values_le (r := w.store.bookings)
      (p := fun b => b.status = .confirmed ∧ b.category = id) (f := Booking.seatLabel)
      (l := s.seats.entries.map fun e => some e.1) ?_ ?_
    · rwa [List.length_map] at le
    · intro k b k' b' at_key at_key' counted counted' label
      obtain ⟨confirmed, category⟩ := of_decide_eq_true counted
      obtain ⟨confirmed', category'⟩ := of_decide_eq_true counted'
      have labelled : b.seatLabel.isSome := by
        rcases h.sold_cases (mem at_key) confirmed with ⟨name, -, named, -⟩ | ⟨-, place, found, -⟩
        · simp [named]
        · simp [MemoryLedger.stock?, category, there, pool, Pool.empty] at found
      obtain rfl := h.seat_once (mem at_key) (mem at_key') confirmed confirmed'
        (category.trans category'.symm) labelled label
      exact key at_key at_key'
    · intro k b at_key counted
      obtain ⟨confirmed, category⟩ := of_decide_eq_true counted
      rcases h.sold_cases (mem at_key) confirmed with
        ⟨name, seat, named, found, -⟩ | ⟨-, place, found, -⟩
      · simp only [MemoryLedger.seat?, category, there, Option.bind_some] at found
        obtain ⟨before, after, entries, -⟩ := Registry.entries_eq found
        simp [named, entries]
      · simp [MemoryLedger.stock?, category, there, pool, Pool.empty] at found
  · -- bookings of a pool are told apart by their attempts
    have le := Registry.countP_values_le (r := w.store.bookings)
      (p := fun b => b.status = .confirmed ∧ b.category = id) (f := Booking.attempt)
      (l := (s.pool.holds.entries.filter fun e => e.2.state == .confirmed).map Prod.fst) ?_ ?_
    · have sold : s.pool.countState .confirmed ≤ s.pool.units := by
        unfold Pool.units
        omega
      rw [List.length_map, ← List.countP_eq_length_filter] at le
      have count : s.pool.countState .confirmed =
          s.pool.holds.entries.countP fun e => e.2.state == .confirmed := by
        rw [Pool.countState, Registry.values, List.countP_map]
        rfl
      omega
    · intro k b k' b' at_key at_key' counted counted' attempt
      obtain rfl := h.unique (mem at_key) (mem at_key') attempt
      exact key at_key at_key'
    · intro k b at_key counted
      obtain ⟨confirmed, category⟩ := of_decide_eq_true counted
      rcases h.sold_cases (mem at_key) confirmed with
        ⟨name, seat, -, found, -⟩ | ⟨-, place, found, sold⟩
      · simp [MemoryLedger.seat?, category, there, seats] at found
      · simp only [MemoryLedger.stock?, category, there, Option.bind_some] at found
        obtain ⟨before, after, entries, -⟩ := Registry.entries_eq found
        refine List.mem_map.2 ⟨(b.attempt, place), ?_, rfl⟩
        simp [entries, sold]

theorem agrees (h : w.Coupled) : w.Agrees where
  confirmed_iff := by
    intro b m
    obtain ⟨id, there⟩ := Registry.mem_values.1 m
    exact (h.confirmed_iff id b there).trans (h.sold_iff_soldTo there)
  seat_owned := by
    intro category label s seat sold
    obtain ⟨sect, found, on_seat⟩ := Option.bind_eq_some_iff.1 seat
    have well := ((h.reach.sound found).seats label s on_seat).2.2
    simp only [Seat.WellFormed, sold] at well
    obtain ⟨hold, own⟩ := Option.isSome_iff_exists.1 well.1
    obtain ⟨id, b, there, share⟩ := h.owned ⟨hold, category, some label⟩ ⟨s, seat, sold, own⟩
    rw [h.share_eq there] at share
    obtain ⟨rfl, rfl, labelled⟩ := Share.mk.inj share
    refine ⟨b, Registry.mem_values.2 ⟨id, there⟩, rfl, labelled, own, fun b' m own' => ?_⟩
    exact h.unique m (Registry.mem_values.2 ⟨id, there⟩) (Option.some.inj (own'.symm.trans own))
  stock_owned := by
    intro category hold place found sold
    obtain ⟨id, b, there, share⟩ := h.owned ⟨hold, category, none⟩ ⟨place, found, sold⟩
    rw [h.share_eq there] at share
    obtain ⟨rfl, rfl, labelled⟩ := Share.mk.inj share
    refine ⟨b, Registry.mem_values.2 ⟨id, there⟩, rfl, labelled, rfl, fun b' m same => ?_⟩
    exact h.unique m (Registry.mem_values.2 ⟨id, there⟩) same
  seat_once := by
    intro b m b' m' confirmed confirmed' category labelled label
    exact h.seat_once m m' confirmed confirmed' category labelled label
  within_capacity := fun id s there => h.within_capacity there

end Coupled

/-- **Bookings and inventory agree.** Whatever errands, sweeps and settings of the clock follow each
other in a house that begins with a ledger that was only laid out and with an empty store, its
bookings and its ledger tell the same story. -/
theorem bookings_agree {inventory : Inventory} (laid_out : inventory.ledger.Provisioned)
    (policy : RetryPolicy) (turns : List Turn) :
    (run { policy, inventory, store := .empty } turns).Agrees :=
  ((coupled_of_provisioned laid_out policy).run turns).agrees

/-- One seat is booked and paid for; a second attempt at it comes too late. -/
theorem bookings_agree_one_seat :
    let house := { policy := .none, inventory := .oneSeat, store := .empty : House }
    let request (attempt : Nat) : BookingRequest :=
      { attempt := ⟨.random attempt⟩, event := ⟨1⟩, category := ⟨10⟩, seatLabel := some "A1",
        user := ⟨42⟩ }
    let turns := [.errand (.book (request 1)) ⟨.random 7⟩, .errand (.confirm ⟨.random 7⟩) ⟨.random 8⟩,
      .clock (.ofParts 1020 0), .sweep, .errand (.book (request 2)) ⟨.random 8⟩]
    Inventory.oneSeat.ledger.Provisioned ∧ (house.run turns).Agrees ∧
      (house.run turns).store.bookings.values.map Booking.status = [.confirmed] := by
  have laid_out : Inventory.oneSeat.ledger.Provisioned := ⟨[.addSeated _ _], by decide, rfl⟩
  exact ⟨laid_out, bookings_agree laid_out _ _, by decide +kernel⟩

end House

end BoxOffice
