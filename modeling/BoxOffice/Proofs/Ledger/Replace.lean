import BoxOffice.Proofs.Ledger.Sound

/-!
# Ledgers with one part replaced

A ledger with another seat under a label (`withSeat`) or with another pool in a category
(`withPool`) reads as before everywhere else. A call that does something to one unit leaves such a
ledger behind, and the equations at the end say which.
-/

namespace BoxOffice.MemoryLedger

/-- The ledger with another seat under a label of a category. -/
def withSeat (l : MemoryLedger) (category : CategoryId) (label : String) (seat : Seat) :
    MemoryLedger :=
  { l with sections := l.sections.modify category fun s =>
    { s with seats := s.seats.modify label fun _ => seat } }

/-- The ledger with another pool in a category. -/
def withPool (l : MemoryLedger) (category : CategoryId) (pool : Pool) : MemoryLedger :=
  { l with sections := l.sections.modify category fun s => { s with pool } }

section Reading

variable {l : MemoryLedger} {category : CategoryId}

theorem seat?_withSeat {label : String} {before : Seat}
    (there : l.seat? category label = some before) (seat : Seat) (id : CategoryId) (name : String) :
    (l.withSeat category label seat).seat? id name =
      if id = category ∧ name = label then some seat else l.seat? id name := by
  simp only [seat?, withSeat, Registry.get?_modify] at there ⊢
  by_cases here : id = category
  · subst here
    obtain ⟨s, found, on_seat⟩ := Option.bind_eq_some_iff.1 there
    simp [found, Registry.get?_modify_of_some on_seat]
  · simp [here]

theorem get?_withPool {s : Section} (there : l.sections.get? category = some s) (pool : Pool)
    (id : CategoryId) :
    (l.withPool category pool).sections.get? id =
      if id = category then some { s with pool } else l.sections.get? id :=
  Registry.get?_modify_of_some there _ id

theorem stock?_withPool {s : Section} (there : l.sections.get? category = some s) (pool : Pool)
    (id : CategoryId) (hold : HoldId) :
    (l.withPool category pool).stock? id hold =
      if id = category then pool.holds.get? hold else l.stock? id hold := by
  unfold stock?
  rw [get?_withPool there]
  split <;> rfl

end Reading

/-! ### Calls that change one unit -/

theorem changeSeat_of_some {l : MemoryLedger} {category : CategoryId} {label : String}
    {seat changed : Seat} {change : Seat → Option Seat} (there : l.seat? category label = some seat)
    (may : change seat = some changed) :
    l.changeSeat category label change = (some changed, l.withSeat category label changed) := by
  have found : ((l.sections.get? category).bind fun s => s.seats.get? label).bind change =
      some changed := by
    rw [← may]
    exact congrArg (·.bind change) there
  rw [changeSeat, found]
  rfl

/-- A claim on a seat that may be claimed reserves it. -/
theorem after_reserveSeat_eq {l : MemoryLedger} {claim : SeatClaim} {seat : Seat}
    (there : l.seat? claim.category claim.label = some seat)
    (claimable : seat.isClaimable claim.now) :
    l.after (.reserveSeat claim) =
      l.withSeat claim.category claim.label (seat.reserve claim.hold claim.expiresAt) := by
  have may : seat.claim? claim = some (seat.reserve claim.hold claim.expiresAt) :=
    Seat.claim?_eq_some_iff.2 ⟨claimable, rfl⟩
  rw [← answer_eq, answer, changeSeat_of_some there may]

/-- A seat that its hold has reserved is freed when the hold gives it back. -/
theorem after_releaseSeat_eq {l : MemoryLedger} {category : CategoryId} {label : String}
    {hold : HoldId} {seat : Seat} (there : l.seat? category label = some seat)
    (reserved : seat.status = .reserved) (mine : seat.hold = some hold) :
    l.after (.releaseSeat category label hold) = l.withSeat category label seat.free := by
  have may : seat.release? hold = some seat.free :=
    Seat.release?_eq_some_iff.2 ⟨reserved, mine, rfl⟩
  rw [← answer_eq, answer, changeSeat_of_some there may]

/-- A pool is asked for a place. -/
theorem after_takeStock_eq {l : MemoryLedger} {category : CategoryId} {s : Section}
    (there : l.sections.get? category = some s) (hold : HoldId) (now last : Instant) :
    l.after (.takeStock category hold now last) =
      l.withPool category (s.pool.take category hold now last).2 := by
  rw [← answer_eq, answer, takeStock, there]
  rfl

/-- A place that is held goes back to what is left of the pool when its hold gives it back. -/
theorem after_returnStock_eq {l : MemoryLedger} {category : CategoryId} {hold : HoldId}
    {s : Section} (there : l.sections.get? category = some s) {q : Pool}
    (back : s.pool.giveBack? hold s.category.total = some q) :
    l.after (.returnStock category hold) = l.withPool category q := by
  rw [← answer_eq, answer, changePool, there, Option.bind_some, back]
  rfl

end BoxOffice.MemoryLedger
