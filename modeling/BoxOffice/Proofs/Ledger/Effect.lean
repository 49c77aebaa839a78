import BoxOffice.Ledger.Memory
import BoxOffice.Proofs.Registry

/-!
# What a call makes of the ledger

A call changes every seat and every pool by itself: `Seat.after` and `Pool.after` say how, and
`answer_eq` says that the ledger after a call is the ledger with each of its parts so changed.
-/

namespace BoxOffice

/-- What a call makes of the seat with a label in a category. -/
def Seat.after (seat : Seat) (id : CategoryId) (label : String) : Ledger.Call → Seat
  | .reserveSeat claim =>
    if id = claim.category ∧ label = claim.label then (seat.claim? claim).getD seat else seat
  | .releaseSeat category name hold =>
    if id = category ∧ label = name then (seat.release? hold).getD seat else seat
  | .sellSeat category name hold now =>
    if id = category ∧ label = name then (seat.sell? hold now).getD seat else seat
  | .reclaim now => if seat.isLapsed now then seat.free else seat
  | _ => seat

/-- What a call makes of the pool of a category with some capacity. -/
def Pool.after (p : Pool) (id : CategoryId) (total : UInt32) : Ledger.Call → Pool
  | .takeStock category hold now expiresAt =>
    if id = category then (p.take id hold now expiresAt).2 else p
  | .returnStock category hold => if id = category then (p.giveBack? hold total).getD p else p
  | .settleStock category hold now => if id = category then (p.settle? hold now).getD p else p
  | .reclaim now => p.reclaim now total
  | _ => p

/-- What a call makes of the section with an identifier. -/
def Section.after (s : Section) (id : CategoryId) (c : Ledger.Call) : Section :=
  { s with
    seats := s.seats.mapEntries fun label seat => seat.after id label c
    pool := s.pool.after id s.category.total c }

namespace Section

variable (s : Section) (id : CategoryId) (c : Ledger.Call)

@[simp] theorem after_category : (s.after id c).category = s.category := rfl

@[simp] theorem after_pool : (s.after id c).pool = s.pool.after id s.category.total c := rfl

theorem get?_after_seats (label : String) :
    (s.after id c).seats.get? label =
      (s.seats.get? label).map fun seat => seat.after id label c := by
  simp [after, Registry.get?_mapEntries]

theorem after_eq_self {s : Section} {id : CategoryId} {c : Ledger.Call}
    (seats : ∀ label seat, s.seats.get? label = some seat → seat.after id label c = seat)
    (pool : s.pool.after id s.category.total c = s.pool) : s.after id c = s := by
  simp [after, pool, Registry.mapEntries_eq_self seats]

end Section

namespace MemoryLedger

/-- The seat with a label in a category. -/
def seat? (l : MemoryLedger) (category : CategoryId) (label : String) : Option Seat :=
  (l.sections.get? category).bind fun s => s.seats.get? label

/-- What a hold has in the pool of a category. -/
def stock? (l : MemoryLedger) (category : CategoryId) (hold : HoldId) : Option StockHold :=
  (l.sections.get? category).bind fun s => s.pool.holds.get? hold

/-- The ledger after a call. -/
def after (l : MemoryLedger) (c : Ledger.Call) : MemoryLedger :=
  { l with sections := l.sections.mapEntries fun id s => s.after id c }

theorem get?_after (l : MemoryLedger) (c : Ledger.Call) (id : CategoryId) :
    (l.after c).sections.get? id = (l.sections.get? id).map fun s => s.after id c := by
  simp [after, Registry.get?_mapEntries]

theorem seat?_after (l : MemoryLedger) (c : Ledger.Call) (id : CategoryId) (label : String) :
    (l.after c).seat? id label = (l.seat? id label).map fun seat => seat.after id label c := by
  simp only [seat?, get?_after]
  cases l.sections.get? id with
  | none => rfl
  | some s => simp [Section.get?_after_seats]

theorem after_eq_self {l : MemoryLedger} {c : Ledger.Call}
    (h : ∀ id s, l.sections.get? id = some s → s.after id c = s) : l.after c = l := by
  simp [after, Registry.mapEntries_eq_self h]

/-- A call that changes at most one seat changes nothing if that seat may not be changed so. -/
theorem after_eq_self_of_seat {l : MemoryLedger} {c : Ledger.Call} {category : CategoryId}
    {name : String} {change : Seat → Option Seat}
    (seats : ∀ id label (seat : Seat), seat.after id label c =
      if id = category ∧ label = name then (change seat).getD seat else seat)
    (pools : ∀ id total (p : Pool), p.after id total c = p)
    (nothing : (l.seat? category name).bind change = none) : l.after c = l := by
  refine after_eq_self fun id s hs => Section.after_eq_self (fun label seat hseat => ?_)
    (pools _ _ _)
  rw [seats]
  split
  · next at_name =>
    obtain ⟨rfl, rfl⟩ := at_name
    simp only [seat?, hs, Option.bind_some, hseat] at nothing
    simp [nothing]
  · rfl

/-- A call that changes at most one pool changes nothing if that pool may not be changed so. -/
theorem after_eq_self_of_pool {l : MemoryLedger} {c : Ledger.Call} {category : CategoryId}
    {change : Section → Option Pool}
    (pools : ∀ id (s : Section), s.pool.after id s.category.total c =
      if id = category then (change s).getD s.pool else s.pool)
    (seats : ∀ id label (seat : Seat), seat.after id label c = seat)
    (nothing : (l.sections.get? category).bind change = none) : l.after c = l := by
  refine after_eq_self fun id s hs => Section.after_eq_self (fun _ _ _ => seats _ _ _) ?_
  rw [pools]
  split
  · next here =>
    subst here
    simp only [hs, Option.bind_some] at nothing
    simp [nothing]
  · rfl

/-- A call that changes at most one seat changes the ledger as it changes that seat. -/
theorem changeSeat_eq {l : MemoryLedger} {c : Ledger.Call} {category : CategoryId} {name : String}
    {change : Seat → Option Seat}
    (seats : ∀ id label (seat : Seat), seat.after id label c =
      if id = category ∧ label = name then (change seat).getD seat else seat)
    (pools : ∀ id total (p : Pool), p.after id total c = p) :
    l.changeSeat category name change = ((l.seat? category name).bind change, l.after c) := by
  have looked_up : ((l.sections.get? category).bind fun s => s.seats.get? name) =
      l.seat? category name := rfl
  rw [changeSeat, looked_up]
  cases h : (l.seat? category name).bind change with
  | none => rw [after_eq_self_of_seat seats pools h]
  | some changed =>
    -- both sides change the sections one by one, and the seats of each one by one
    simp only [Prod.mk.injEq, true_and, after, Registry.modify_eq]
    congr 1
    refine Registry.mapEntries_congr fun id s hs => ?_
    simp only [Section.after, pools, seats]
    by_cases hid : id = category
    · subst hid
      simp only [if_true, true_and]
      congr 1
      refine Registry.mapEntries_congr fun label seat hseat => ?_
      by_cases hl : label = name
      · subst hl
        simp only [seat?, hs, Option.bind_some, hseat] at h
        simp [h]
      · simp [hl]
    · simp [hid, Registry.mapEntries_eq_self]

/-- A call that changes at most one pool changes the ledger as it changes that pool. -/
theorem changePool_eq {l : MemoryLedger} {c : Ledger.Call} {category : CategoryId}
    {change : Section → Option Pool}
    (pools : ∀ id (s : Section), s.pool.after id s.category.total c =
      if id = category then (change s).getD s.pool else s.pool)
    (seats : ∀ id label (seat : Seat), seat.after id label c = seat) :
    l.changePool category change =
      (((l.sections.get? category).bind change).isSome, l.after c) := by
  unfold changePool
  cases h : (l.sections.get? category).bind change with
  | none => rw [after_eq_self_of_pool pools seats h, Option.isSome_none]
  | some changed =>
    simp only [Option.isSome_some, Prod.mk.injEq, true_and, after, Registry.modify_eq]
    congr 1
    refine Registry.mapEntries_congr fun id s hs => ?_
    simp only [Section.after, pools, seats, Registry.mapEntries_eq_self fun _ _ _ => rfl]
    by_cases hid : id = category
    · subst hid
      simp only [hs, Option.bind_some] at h
      simp [h]
    · simp [hid]

theorem takeStock_eq (l : MemoryLedger) (category : CategoryId) (hold : HoldId)
    (now expiresAt : Instant) :
    l.takeStock category hold now expiresAt =
      ((match l.sections.get? category with
        | none => refuse (.poolMissing category)
        | some s => .ok (s.pool.take category hold now expiresAt).1),
        l.after (.takeStock category hold now expiresAt)) := by
  -- a pool is its own section's, so the other sections stay as they are
  have frame : ∀ id (s : Section), id ≠ category →
      s.after id (.takeStock category hold now expiresAt) = s := fun id s hid =>
    Section.after_eq_self (fun _ _ _ => rfl) (by simp [Pool.after, hid])
  unfold takeStock
  cases hc : l.sections.get? category with
  | none =>
    simp only [Prod.mk.injEq, true_and]
    refine (after_eq_self fun id s hs => frame id s ?_).symm
    rintro rfl
    simp [hc] at hs
  | some s =>
    simp only [Prod.mk.injEq, true_and, after, Registry.modify_eq]
    congr 1
    refine Registry.mapEntries_congr fun id t ht => ?_
    by_cases hid : id = category
    · subst hid
      obtain rfl : s = t := by simpa [hc] using ht
      simp [Section.after, Pool.after, Seat.after, Registry.mapEntries_eq_self]
    · simp [hid, frame id t hid]

/-- A claim takes the seat, if it is claimable. -/
theorem answer_reserveSeat (l : MemoryLedger) (claim : SeatClaim) :
    l.answer (.reserveSeat claim) =
      (.ok ((l.seat? claim.category claim.label).bind fun s => s.claim? claim),
        l.after (.reserveSeat claim)) := by
  rw [answer, changeSeat_eq (c := .reserveSeat claim) (fun _ _ _ => rfl) fun _ _ _ => rfl]

theorem answer_releaseSeat (l : MemoryLedger) (category : CategoryId) (label : String)
    (hold : HoldId) :
    l.answer (.releaseSeat category label hold) =
      (.ok ((l.seat? category label).bind fun s => s.release? hold).isSome,
        l.after (.releaseSeat category label hold)) := by
  rw [answer, changeSeat_eq (c := .releaseSeat category label hold) (fun _ _ _ => rfl)
    fun _ _ _ => rfl]

theorem answer_sellSeat (l : MemoryLedger) (category : CategoryId) (label : String)
    (hold : HoldId) (now : Instant) :
    l.answer (.sellSeat category label hold now) =
      (.ok ((l.seat? category label).bind fun s => s.sell? hold now).isSome,
        l.after (.sellSeat category label hold now)) := by
  rw [answer, changeSeat_eq (c := .sellSeat category label hold now) (fun _ _ _ => rfl)
    fun _ _ _ => rfl]

theorem answer_returnStock (l : MemoryLedger) (category : CategoryId) (hold : HoldId) :
    l.answer (.returnStock category hold) =
      (.ok ((l.sections.get? category).bind fun s =>
          s.pool.giveBack? hold s.category.total).isSome,
        l.after (.returnStock category hold)) := by
  rw [answer, changePool_eq (c := .returnStock category hold) (fun _ _ => rfl) fun _ _ _ => rfl]

theorem answer_settleStock (l : MemoryLedger) (category : CategoryId) (hold : HoldId)
    (now : Instant) :
    l.answer (.settleStock category hold now) =
      (.ok ((l.sections.get? category).bind fun s => s.pool.settle? hold now).isSome,
        l.after (.settleStock category hold now)) := by
  rw [answer, changePool_eq (c := .settleStock category hold now) (fun _ _ => rfl)
    fun _ _ _ => rfl]

theorem after_reserveSeat_eq_self {l : MemoryLedger} {claim : SeatClaim}
    (nothing : (l.seat? claim.category claim.label).bind (fun s => s.claim? claim) = none) :
    l.after (.reserveSeat claim) = l :=
  after_eq_self_of_seat (c := .reserveSeat claim) (fun _ _ _ => rfl) (fun _ _ _ => rfl) nothing

theorem after_sellSeat_eq_self {l : MemoryLedger} {category : CategoryId} {label : String}
    {hold : HoldId} {now : Instant}
    (nothing : (l.seat? category label).bind (fun s => s.sell? hold now) = none) :
    l.after (.sellSeat category label hold now) = l :=
  after_eq_self_of_seat (c := .sellSeat category label hold now) (fun _ _ _ => rfl)
    (fun _ _ _ => rfl) nothing

theorem after_settleStock_eq_self {l : MemoryLedger} {category : CategoryId} {hold : HoldId}
    {now : Instant}
    (nothing : (l.sections.get? category).bind (fun s => s.pool.settle? hold now) = none) :
    l.after (.settleStock category hold now) = l :=
  after_eq_self_of_pool (c := .settleStock category hold now) (fun _ _ => rfl)
    (fun _ _ _ => rfl) nothing

theorem after_takeStock_eq_self {l : MemoryLedger} {category : CategoryId} {hold : HoldId}
    {now expiresAt : Instant}
    (nothing : ∀ s, l.sections.get? category = some s →
      (s.pool.take category hold now expiresAt).2 = s.pool) :
    l.after (.takeStock category hold now expiresAt) = l := by
  refine after_eq_self fun id s hs => Section.after_eq_self (fun _ _ _ => rfl) ?_
  simp only [Pool.after]
  split
  · next here =>
    subst here
    exact nothing s hs
  · rfl

/-- **A call changes each part of the ledger by itself.** -/
theorem answer_eq (l : MemoryLedger) (c : Ledger.Call) : (l.answer c).2 = l.after c := by
  cases c with
  | reserveSeat claim => rw [answer_reserveSeat]
  | releaseSeat category label hold => rw [answer_releaseSeat]
  | sellSeat category label hold now => rw [answer_sellSeat]
  | takeStock category hold now expiresAt => rw [answer, takeStock_eq]
  | returnStock category hold => rw [answer_returnStock]
  | settleStock category hold now => rw [answer_settleStock]
  | reclaim now =>
    simp only [answer, reclaim, after, Registry.mapValues_eq]
    rfl
  | category | seat | stockHold | availability =>
    exact (after_eq_self fun _ _ _ => Section.after_eq_self (fun _ _ _ => rfl) rfl).symm

end MemoryLedger

end BoxOffice
