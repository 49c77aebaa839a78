import BoxOffice.Proofs.Ledger.Sound

/-!
# The life of a seat

What is done to a ledger moves a seat along few lines only: `Seat.Moves` lists them, each with who may
do it and when. A seat of a reachable ledger is well formed, so nothing else can come of it
(`WellFormed.moves`), and by induction on what is done it is always the same seat, and the same sale
once it is sold (`seat?_run`).
-/

namespace BoxOffice

open MemoryLedger (Act)

/-- **The moves of a seat**: what something that is done to the ledger may make of it. -/
inductive Seat.Moves (s : Seat) : Act → Seat → Prop
  | stays (a) : Moves s a s
  | reserved {claim : SeatClaim} (category : claim.category = s.category)
      (label : claim.label = s.label) (free : s.status = .available) :
    Moves s (.call (.reserveSeat claim))
      { s with status := .reserved, reservedUntil := some claim.expiresAt, hold := some claim.hold }
  /-- Another hold, or the same one again, takes over from a hold that lapsed. -/
  | takenOver {claim : SeatClaim} {last} (category : claim.category = s.category)
      (label : claim.label = s.label) (reserved : s.status = .reserved)
      (until_last : s.reservedUntil = some last) (late : last < claim.now) :
    Moves s (.call (.reserveSeat claim))
      { s with status := .reserved, reservedUntil := some claim.expiresAt, hold := some claim.hold }
  /-- The hold that has the seat gives it back. -/
  | released {hold} (reserved : s.status = .reserved) (mine : s.hold = some hold) :
    Moves s (.call (.releaseSeat s.category s.label hold))
      { s with status := .available, reservedUntil := none, hold := none }
  /-- A sweep comes after the hold lapsed. -/
  | swept {now last} (reserved : s.status = .reserved) (until_last : s.reservedUntil = some last)
      (late : last < now) :
    Moves s (.call (.reclaim now))
      { s with status := .available, reservedUntil := none, hold := none }
  /-- The hold that has the seat buys it in time. -/
  | sold {hold now last} (reserved : s.status = .reserved) (mine : s.hold = some hold)
      (until_last : s.reservedUntil = some last) (early : now ≤ last) :
    Moves s (.call (.sellSeat s.category s.label hold now))
      { s with status := .sold, reservedUntil := none }

namespace Seat

variable {s t : Seat} {a : Act}

/-- A call moves a well formed seat along one of the lines. -/
theorem WellFormed.moves (h : s.WellFormed) (c : Ledger.Call) :
    s.Moves (.call c) (s.after s.category s.label c) := by
  rcases s.after_cases s.category s.label c with
    e | ⟨claim, rfl, category, label, claimable, e⟩ | ⟨hold, rfl, reserved, mine, e⟩ |
    ⟨hold, now, rfl, held, e⟩ | ⟨now, rfl, lapsed, e⟩ <;> rw [e]
  · exact .stays _
  · rcases isClaimable_iff.1 claimable with free | ⟨reserved, past⟩
    · exact .reserved category label free
    -- without an instant any claim would do, but a reserved seat has one
    · simp only [WellFormed, reserved] at h
      obtain ⟨last, until_last⟩ := Option.isSome_iff_exists.1 h.2
      exact .takenOver category label reserved until_last (past last until_last)
  · exact .released reserved mine
  · obtain ⟨reserved, mine, last, until_last, early⟩ := isHeldBy_iff.1 held
    exact .sold reserved mine until_last early
  · obtain ⟨reserved, last, until_last, late⟩ := isLapsed_iff.1 lapsed
    exact .swept reserved until_last late

/-- No move changes what a seat is called and where it stands. -/
theorem Moves.place (h : s.Moves a t) :
    t.id = s.id ∧ t.label = s.label ∧ t.category = s.category := by
  cases h <;> exact ⟨rfl, rfl, rfl⟩

/-- A sold seat is not moved any more. -/
theorem Moves.of_sold (h : s.Moves a t) (sold : s.status = .sold) : t = s := by
  cases h with
  | stays => rfl
  | reserved _ _ free => simp [sold] at free
  | takenOver _ _ reserved | released reserved | swept reserved | sold reserved =>
    simp [sold] at reserved

end Seat

namespace MemoryLedger

variable {l : MemoryLedger} {category : CategoryId} {label : String} {s : Seat}

/-- Whatever is done to a reachable ledger, its seats stay and are moved along the lines. -/
theorem Reachable.seat?_act (reach : l.Reachable) (there : l.seat? category label = some s)
    (a : Act) : ∃ t, (l.act a).seat? category label = some t ∧ s.Moves a t := by
  obtain ⟨sect, found, on_seat⟩ := Option.bind_eq_some_iff.1 there
  have after := get?_act found a
  cases a with
  | call c =>
    obtain ⟨rfl, rfl, well⟩ := reach.seat there
    refine ⟨_, ?_, well.moves c⟩
    rw [act, answer_eq, seat?_after, there, Option.map_some]
  | addSeated | addStanding =>
    exact ⟨s, Option.bind_eq_some_iff.2 ⟨sect, after, on_seat⟩, .stays _⟩

/-- Whatever is done, a seat remains the same seat, and a sold seat remains as it is. -/
theorem Reachable.seat?_run (reach : l.Reachable) (there : l.seat? category label = some s)
    (acts : List Act) :
    ∃ t, (l.run acts).seat? category label = some t ∧ t.id = s.id ∧ t.label = s.label ∧
      t.category = s.category ∧ (s.status = .sold → t = s) := by
  induction acts generalizing l s with
  | nil => exact ⟨s, there, rfl, rfl, rfl, fun _ => rfl⟩
  | cons a acts ih =>
    obtain ⟨next, there', moves⟩ := reach.seat?_act there a
    obtain ⟨id, label_eq, category_eq⟩ := moves.place
    obtain ⟨t, last, id', label_eq', category_eq', sold'⟩ := ih (reach.run [a]) there'
    refine ⟨t, last, id'.trans id, label_eq'.trans label_eq, category_eq'.trans category_eq, ?_⟩
    intro sold
    obtain rfl := moves.of_sold sold
    exact sold' sold

/-- The seats of a ledger are in order now, and whatever is done, each of them will be moved along the
lines, remain what it is, and be sold once at most. -/
structure SeatsInOrder (l : MemoryLedger) : Prop where
  wellFormed : ∀ category label s, l.seat? category label = some s → s.WellFormed
  moves : ∀ category label s, l.seat? category label = some s → ∀ a,
    ∃ t, (l.act a).seat? category label = some t ∧ s.Moves a t
  stays : ∀ category label s, l.seat? category label = some s → ∀ acts,
    ∃ t, (l.run acts).seat? category label = some t ∧
      t.id = s.id ∧ t.label = s.label ∧ t.category = s.category
  sold_stays : ∀ category label s, l.seat? category label = some s → s.status = .sold →
    ∀ acts, (l.run acts).seat? category label = some s
  sold_once : ∀ category label s t acts, l.seat? category label = some s → s.status = .sold →
    (l.run acts).seat? category label = some t → t.status = .sold → t.hold = s.hold

/-- **The life of a seat.** In every ledger that an empty one may become, whatever is called with
whatever arguments and at whatever times, the seats are in order. -/
theorem Reachable.seatsInOrder (reach : l.Reachable) : l.SeatsInOrder := by
  have sold_stays : ∀ category label s, l.seat? category label = some s → s.status = .sold →
      ∀ acts, (l.run acts).seat? category label = some s := by
    intro category label s there sold acts
    obtain ⟨t, last, -, -, -, same⟩ := reach.seat?_run there acts
    rwa [same sold] at last
  refine
    { wellFormed := fun category label s there => (reach.seat there).2.2
      moves := fun category label s there a => reach.seat?_act there a
      stays := fun category label s there acts => ?_
      sold_stays
      sold_once := fun category label s t acts there sold last _ => ?_ }
  · obtain ⟨t, last, id, label_eq, category_eq, -⟩ := reach.seat?_run there acts
    exact ⟨t, last, id, label_eq, category_eq⟩
  · obtain rfl := Option.some.inj ((sold_stays category label s there sold acts).symm.trans last)
    rfl

/-- One of two seats was reserved, taken over by another hold a nanosecond after its expiry and sold to
that one. -/
theorem seatsInOrder_sold :
    let claim (hold : Nat) (now last : Int) : SeatClaim :=
      { category := ⟨10⟩, label := "A1", hold := ⟨.random hold⟩, now := ⟨now⟩, expiresAt := ⟨last⟩ }
    let l := empty.run
      [.addSeated (.seated ⟨10⟩ ⟨1⟩ "Stalls" ⟨9900⟩ 0) ["A1", "A2"],
        .call (.reserveSeat (claim 1 0 10)), .call (.reserveSeat (claim 2 11 20)),
        .call (.sellSeat ⟨10⟩ "A1" ⟨.random 2⟩ ⟨20⟩)]
    l.Reachable ∧ l.SeatsInOrder ∧
      (l.seat? ⟨10⟩ "A1").map (fun s => (s.status, s.hold)) = some (.sold, some ⟨.random 2⟩) ∧
      (l.seat? ⟨10⟩ "A2").map Seat.status = some .available :=
  ⟨⟨_, rfl⟩, Reachable.seatsInOrder ⟨_, rfl⟩, by decide +kernel, by decide +kernel⟩

end MemoryLedger

end BoxOffice
