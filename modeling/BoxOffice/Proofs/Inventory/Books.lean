import BoxOffice.Proofs.Inventory.Visit
import BoxOffice.Proofs.Ledger.Count

/-!
# The books of the inventory

For each kind of unit the counters say how many were reserved, given back, swept up and bought, and the
ledger says how many are held and sold. A visit makes one of six entries in these books
(`visit_entry`), and none of them upsets the balance: what was bought is sold, and what was reserved is
still held, or was bought, given back or swept up, or was taken over from a lapsed hold.
-/

namespace BoxOffice

open Rehearsal Reservations

/-- What the counters and the ledger say about the units of a kind. -/
@[ext] structure Books where
  /-- How often a unit was reserved. -/
  reserved : Nat
  /-- How often a unit was given back. -/
  released : Nat
  /-- How many units were swept up. -/
  reclaimed : Nat
  /-- How often a unit was bought. -/
  bought : Nat
  /-- How many units are held now. -/
  held : Nat
  /-- How many units are sold now. -/
  sold : Nat

/-- The kind of units in whose books a counter stands. -/
def Counter.booked? : Counter → Option UnitKind
  | .reservation kind .reserved | .release kind | .reclaimed kind | .confirmation kind true =>
    some kind
  | _ => none

namespace Books

/-- **The entries of the books**, each with the number of units that are taken over by it. -/
inductive Entry (b : Books) : Nat → Books → Prop
  | nothing : Entry b 0 b
  | reserve : Entry b 0 { b with reserved := b.reserved + 1, held := b.held + 1 }
  /-- A lapsed hold had the unit, so no more units are held than before. -/
  | takeOver : Entry b 1 { b with reserved := b.reserved + 1 }
  | release {rest : Nat} (held : b.held = rest + 1) :
    Entry b 0 { b with released := b.released + 1, held := rest }
  | sell {rest : Nat} (held : b.held = rest + 1) :
    Entry b 0 { b with bought := b.bought + 1, held := rest, sold := b.sold + 1 }
  | sweep {rest units : Nat} (held : b.held = rest + units) :
    Entry b 0 { b with reclaimed := b.reclaimed + units, held := rest }

/-- The books balance when so many units were taken over. -/
structure Balance (b : Books) (takeovers : Nat) : Prop where
  bought : b.bought = b.sold
  reserved : b.reserved = b.held + b.sold + b.released + b.reclaimed + takeovers

/-- No entry upsets the balance. -/
theorem Balance.entry {b b' : Books} {before more : Nat} (balance : b.Balance before)
    (entry : b.Entry more b') : b'.Balance (before + more) := by
  obtain ⟨bought, reserved⟩ := balance
  cases entry with
  | nothing => exact ⟨bought, reserved⟩
  | reserve | takeOver =>
    refine ⟨bought, ?_⟩
    simp only
    omega
  | release held | sweep held =>
    refine ⟨bought, ?_⟩
    simp only
    omega
  | sell held =>
    refine ⟨?_, ?_⟩ <;> simp only <;> omega

end Books

/-- The unit of a token is kept by a hold that has lapsed. -/
def MemoryLedger.keptByLapsed (l : MemoryLedger) (t : Token) (now : Instant) : Bool :=
  match t.unit with
  | .seat _ label => (l.seat? t.category label).any fun s => s.isLapsed now
  | .stock => (l.stock? t.category t.hold).any fun h => h.isLapsed now

theorem Seat.not_isLapsed_of_isHeldBy {s : Seat} {hold : HoldId} {now : Instant}
    (held : s.isHeldBy hold now) : s.isLapsed now = false := by
  rw [← Bool.not_eq_true]
  intro lapsed
  obtain ⟨-, -, last, at_last, early⟩ := Seat.isHeldBy_iff.1 held
  obtain ⟨-, last', at_last', late⟩ := Seat.isLapsed_iff.1 lapsed
  obtain rfl := Option.some.inj (at_last.symm.trans at_last')
  exact Instant.not_le.2 late early

theorem StockHold.not_isLapsed_of_isLive {h : StockHold} {now : Instant} (live : h.isLive now) :
    h.isLapsed now = false := by
  rw [← Bool.not_eq_true]
  exact fun lapsed =>
    Instant.not_le.2 (StockHold.isLapsed_iff.1 lapsed).2 (StockHold.isLive_iff.1 live).2

namespace Inventory

/-- The books about the units of a kind. -/
def books (w : Inventory) (kind : UnitKind) : Books where
  reserved := w.total (.reservation kind .reserved)
  released := w.total (.release kind)
  reclaimed := w.total (.reclaimed kind)
  bought := w.total (.confirmation kind true)
  held := w.ledger.held kind
  sold := w.ledger.sold kind

/-- The number of units of a kind that a visit takes over: one, if it is a request that is answered with
a token of a unit which a lapsed hold kept. -/
def takeover (w : Inventory) (kind : UnitKind) (v : Visit) : Nat :=
  match v.errand with
  | .call (.reserve request) =>
    match (w.atTime v.time).serve (.reserve request) with
    | (.ok (.ok t), _) => if t.unit.kind = kind ∧ w.ledger.keptByLapsed t v.time then 1 else 0
    | _ => 0
  | _ => 0

/-- The number of units of a kind that are taken over in the course of some visits. -/
def takeovers (w : Inventory) (kind : UnitKind) : List Visit → Nat
  | [] => 0
  | v :: visits => w.takeover kind v + (w.visit v).takeovers kind visits

/-! ### Entries -/

section Entries

variable {w w' : Inventory} {moved : UnitKind} {counted : Option Counter}

/-- At most one counter has grown. -/
theorem books_eq (counts : w.Counts w' counted) (kind : UnitKind) :
    w'.books kind =
      { reserved := (w.books kind).reserved +
          if counted = some (.reservation kind .reserved) then 1 else 0
        released := (w.books kind).released + if counted = some (.release kind) then 1 else 0
        reclaimed := (w.books kind).reclaimed + if counted = some (.reclaimed kind) then 1 else 0
        bought := (w.books kind).bought + if counted = some (.confirmation kind true) then 1 else 0
        held := w'.ledger.held kind
        sold := w'.ledger.sold kind } := by
  simp only [books, counts _]

/-- Nothing is entered in the books of a kind if no counter of theirs grows and no unit moves. -/
theorem entry_nothing (counts : w.Counts w' counted) {kind : UnitKind}
    (unbooked : counted.bind Counter.booked? ≠ some kind)
    (held : w'.ledger.held kind = w.ledger.held kind)
    (sold : w'.ledger.sold kind = w.ledger.sold kind) : (w.books kind).Entry 0 (w'.books kind) := by
  have still (c : Counter) (booked : c.booked? = some kind) : counted ≠ some c := by
    rintro rfl
    exact unbooked booked
  have same : w'.books kind = w.books kind := by
    rw [books_eq counts, held, sold, if_neg (still _ rfl), if_neg (still _ rfl),
      if_neg (still _ rfl), if_neg (still _ rfl)]
    rfl
  rw [same]
  exact .nothing

section Turnover

variable {come gone bought : Nat} {c : Counter} (counts : w.Counts w' (some c))

include counts

/-- Nothing is entered in the books of a kind if units of the other kind move. -/
theorem entry_other (booked : c.booked? = some moved)
    (turnover : w.ledger.Turnover w'.ledger moved come gone bought) {kind : UnitKind}
    (other : kind ≠ moved) : (w.books kind).Entry 0 (w'.books kind) := by
  obtain ⟨held, sold⟩ := turnover kind
  simp only [other, if_false, Nat.add_zero] at held sold
  refine entry_nothing counts (fun same => other ?_) held sold
  exact Option.some.inj (same.symm.trans booked)

end Turnover

variable (kind : UnitKind)

theorem entry_reserve (counts : w.Counts w' (some (.reservation moved .reserved))) {lapsed : Prop}
    [Decidable lapsed] (turnover : w.ledger.Turnover w'.ledger moved (if lapsed then 0 else 1) 0 0) :
    (w.books kind).Entry (if moved = kind ∧ lapsed then 1 else 0) (w'.books kind) := by
  by_cases here : kind = moved
  · subst here
    obtain ⟨held, sold⟩ := turnover kind
    simp only [if_true, Nat.add_zero] at held sold
    by_cases late : lapsed
    · have e : w'.books kind = { w.books kind with reserved := (w.books kind).reserved + 1 } := by
        rw [books_eq counts, held, sold, if_pos late]
        simp [books]
      rw [e, if_pos ⟨rfl, late⟩]
      exact .takeOver
    · have e : w'.books kind = { w.books kind with
          reserved := (w.books kind).reserved + 1, held := (w.books kind).held + 1 } := by
        rw [books_eq counts, held, sold, if_neg late]
        simp [books]
      rw [e, if_neg fun both => late both.2]
      exact .reserve
  · rw [if_neg fun both => here both.1.symm]
    exact entry_other counts rfl turnover here

theorem entry_release (counts : w.Counts w' (some (.release moved)))
    (turnover : w.ledger.Turnover w'.ledger moved 0 1 0) :
    (w.books kind).Entry 0 (w'.books kind) := by
  by_cases here : kind = moved
  · subst here
    obtain ⟨held, sold⟩ := turnover kind
    simp only [if_true, Nat.add_zero] at held sold
    have e : w'.books kind = { w.books kind with
        released := (w.books kind).released + 1, held := w'.ledger.held kind } := by
      rw [books_eq counts, sold]
      simp [books]
    rw [e]
    exact .release held.symm
  · exact entry_other counts rfl turnover here

theorem entry_sell (counts : w.Counts w' (some (.confirmation moved true)))
    (turnover : w.ledger.Turnover w'.ledger moved 0 0 1) :
    (w.books kind).Entry 0 (w'.books kind) := by
  by_cases here : kind = moved
  · subst here
    obtain ⟨held, sold⟩ := turnover kind
    simp only [if_true, Nat.add_zero, Nat.zero_add] at held sold
    have e : w'.books kind = { w.books kind with
        bought := (w.books kind).bought + 1, held := w'.ledger.held kind
        sold := (w.books kind).sold + 1 } := by
      rw [books_eq counts, sold]
      simp [books]
    rw [e]
    exact .sell held.symm
  · exact entry_other counts rfl turnover here

end Entries

/-! ### Visits -/

/-- How a request is refused does not stand in the books. -/
theorem booked?_counted_error (r : ReserveRequest) (l : MemoryLedger) (now : Instant) (e : Error) :
    (r.counted l now (.ok (.error e))).bind Counter.booked? = none := by
  by_cases conflict : e.kind = .conflict
  · rw [ReserveRequest.counted_conflict conflict]
    rfl
  · show Option.bind (if e.kind = .conflict then _ else none) _ = none
    rw [if_neg conflict]
    rfl

/-- A token that is given again does not stand in the books. -/
theorem booked?_counted_again {r : ReserveRequest} {l : MemoryLedger} {now : Instant} {t : Token}
    (again : l.Sells t now) :
    (r.counted l now (.ok (.ok t))).bind Counter.booked? = none := by
  rw [ReserveRequest.counted_again again]
  rfl

section Visits

variable {w : Inventory} (reach : w.ledger.Reachable) (kind : UnitKind)

include reach

/-- A request that is given a token reserves a unit, unless it had it already, or takes it over. -/
theorem entry_of_granted {r : ReserveRequest} {t : Token} {w' : Inventory}
    (way : Reserving w.ledger w.hold w.stage.now r (.ok (.ok t)) w'.ledger)
    (counts : w.Counts w' (r.counted w.ledger w.stage.now (.ok (.ok t)))) :
    (w.books kind).Entry
      (if t.unit.kind = kind ∧ w.ledger.keptByLapsed t w.stage.now then 1 else 0)
      (w'.books kind) := by
  generalize ledger : w'.ledger = l' at way
  have again (sells : w.ledger.Sells t w.stage.now)
      (live : w.ledger.keptByLapsed t w.stage.now = false) (same : l' = w.ledger) :
      (w.books kind).Entry
        (if t.unit.kind = kind ∧ w.ledger.keptByLapsed t w.stage.now then 1 else 0)
        (w'.books kind) := by
    rw [live, if_neg (by simp)]
    exact entry_nothing counts (by simp [booked?_counted_again sells]) (by rw [ledger, same])
      (by rw [ledger, same])
  cases way with
  | seatReserved suits named due there claimable =>
    rename_i label last seat
    rw [ReserveRequest.counted_first (ReserveRequest.not_sells_of_claimable there claimable)]
      at counts
    have turnover := MemoryLedger.turnover_reserveSeat (r.claim label w.stage.now last)
      there (reach.seat there).2.2 claimable
    rw [← ledger] at turnover
    have kept : w.ledger.keptByLapsed (r.token (.seat seat.id label) last) w.stage.now =
        seat.isLapsed w.stage.now := by
      simp [MemoryLedger.keptByLapsed, ReserveRequest.token, there]
    rw [kept]
    exact entry_reserve kind counts turnover
  | seatReplayed suits named due there held =>
    rename_i label last seat
    refine again ((ReserveRequest.sells_seat_iff there).2 held) ?_ rfl
    rw [MemoryLedger.keptByLapsed, ReserveRequest.token]
    simp only [there, Option.any_some, Seat.not_isLapsed_of_isHeldBy held]
  | stockTaken suits unnamed due there taken =>
    rename_i last s h
    rw [ReserveRequest.counted_first (ReserveRequest.not_sells_of_taken there taken)] at counts
    have turnover := MemoryLedger.turnover_takeStock there taken
    rw [← ledger] at turnover
    have kept : w.ledger.keptByLapsed (r.token .stock h.expiresAt) w.stage.now =
        (s.pool.holds.get? r.hold).any fun h => h.isLapsed w.stage.now := by
      simp [MemoryLedger.keptByLapsed, ReserveRequest.token, MemoryLedger.stock?, there]
    rw [kept]
    exact entry_reserve kind counts turnover
  | stockReplayed suits unnamed due there live =>
    refine again (ReserveRequest.sells_stock_iff.2 ⟨_, there, .inl live⟩) ?_ rfl
    rw [MemoryLedger.keptByLapsed, ReserveRequest.token]
    simp only [there, Option.any_some, StockHold.not_isLapsed_of_isLive live]

theorem serve_reserve_entry (r : ReserveRequest) :
    (w.books kind).Entry
      (match w.serve (.reserve r) with
        | (.ok (.ok t), _) =>
          if t.unit.kind = kind ∧ w.ledger.keptByLapsed t w.stage.now then 1 else 0
        | _ => 0)
      ((w.serve (.reserve r)).2.books kind) := by
  obtain ⟨a, w', served, way, counts⟩ := serve_reserve_counted reach r
  rw [served]
  have refused (same : w'.ledger = w.ledger)
      (unbooked : (r.counted w.ledger w.stage.now a).bind Counter.booked? = none) :
      (w.books kind).Entry 0 (w'.books kind) :=
    entry_nothing counts (by simp [unbooked]) (by rw [same]) (by rw [same])
  match a, way with
  | .ok (.ok t), way => exact entry_of_granted reach kind way counts
  | .ok (.error e), way =>
    rcases way.ledger_cases with same | ⟨t, c, granted, -⟩
    · exact refused same (booked?_counted_error r _ _ e)
    · cases granted
  | .error b, way =>
    rcases way.ledger_cases with same | ⟨t, c, granted, -⟩
    · exact refused same rfl
    · cases granted

end Visits

section

variable (w : Inventory) (kind : UnitKind)

theorem serve_release_entry (t : Token) :
    (w.books kind).Entry 0 ((w.serve (.release t)).2.books kind) := by
  obtain ⟨w', served, after, counts⟩ := w.serve_release_counted t
  rw [served]
  rcases w.ledger.giveBack_cases t with ⟨returns, turnover⟩ | ⟨nothing, same⟩
  · rw [if_pos returns] at counts
    rw [← after] at turnover
    exact entry_release kind counts turnover
  · rw [if_neg (by simp [nothing])] at counts
    rw [same] at after
    exact entry_nothing counts (by simp) (by rw [after]) (by rw [after])

theorem serve_confirm_entry (t : Token) :
    (w.books kind).Entry 0 ((w.serve (.confirm t)).2.books kind) := by
  by_cases sells : w.ledger.Sells t w.stage.now
  · obtain ⟨w', served, after, counts⟩ := serve_confirm_of_sells_counted sells
    rw [served]
    rcases w.ledger.sell_cases t w.stage.now with ⟨settles, turnover⟩ | ⟨nothing, same⟩
    · rw [if_pos settles] at counts
      rw [← after] at turnover
      exact entry_sell kind counts turnover
    -- a place that was bought before is not bought again
    · rw [if_neg (by simp [nothing])] at counts
      rw [same] at after
      exact entry_nothing counts (by simp) (by rw [after]) (by rw [after])
  · obtain ⟨e, w', served, -, same, counts⟩ := serve_confirm_of_not_sells_counted sells
    rw [served]
    exact entry_nothing counts (by simp [Counter.booked?]) (by rw [same]) (by rw [same])

end

/-- What a sweep reports is entered. -/
theorem sweep_entry {w : Inventory} (reach : w.ledger.Reachable) (kind : UnitKind) :
    (w.books kind).Entry 0 (w.sweep.2.books kind) := by
  obtain ⟨w', swept, after, counts⟩ := w.sweep_counted
  rw [swept]
  have report := MemoryLedger.toNat_reported reach w.stage.now kind
  have e : w'.books kind = { w.books kind with
      reclaimed := (w.books kind).reclaimed + w.ledger.lapsed w.stage.now kind
      held := w'.ledger.held kind } := by
    simp only [books, counts, after, MemoryLedger.sold_reclaim, ← report]
    cases kind <;> simp [Measurement.ofSweep, Journal.growth, SweepReport.units]
  rw [e]
  refine .sweep ?_
  rw [after]
  exact (w.ledger.held_reclaim w.stage.now kind).symm

/-- **Every visit makes one entry in the books**, which is a takeover exactly if it takes a unit over. -/
theorem visit_entry {w : Inventory} (reach : w.ledger.Reachable) (kind : UnitKind) (v : Visit) :
    (w.books kind).Entry (w.takeover kind v) ((w.visit v).books kind) := by
  obtain ⟨time, errand⟩ := v
  have books_eq : (w.atTime time).books kind = w.books kind := rfl
  rw [← books_eq]
  cases errand with
  | sweep => exact sweep_entry (w := w.atTime time) reach kind
  | call c =>
    cases c with
    | reserve r => exact serve_reserve_entry (w := w.atTime time) reach kind r
    | release t => exact (w.atTime time).serve_release_entry kind t
    | confirm t => exact (w.atTime time).serve_confirm_entry kind t
    | availability category =>
      simp only [visit, serve_availability_same, takeover]
      exact .nothing

/-! ### Runs -/

theorem balance_run {w : Inventory} (reach : w.ledger.Reachable) (kind : UnitKind) {before : Nat}
    (balance : (w.books kind).Balance before) (visits : List Visit) :
    ((w.run visits).books kind).Balance (before + w.takeovers kind visits) := by
  induction visits generalizing w before with
  | nil => exact balance
  | cons v visits ih =>
    have next := ih (visit_reachable reach v) (balance.entry (visit_entry reach kind v))
    rwa [Nat.add_assoc] at next

end Inventory

/-- In a ledger that has only been laid out no unit is held or sold. -/
theorem MemoryLedger.Provisioned.held_sold {l : MemoryLedger} (fresh : l.Provisioned)
    (kind : UnitKind) : l.held kind = 0 ∧ l.sold kind = 0 := by
  have none_seat (p : Seat → Bool) (never : ∀ s : Seat, s.status = .available → p s = false) :
      l.countSeats p = 0 := by
    refine List.sum_eq_zero fun n mem => ?_
    obtain ⟨s, there, rfl⟩ := List.mem_map.1 mem
    obtain ⟨id, found⟩ := Registry.mem_values.1 there
    refine List.countP_eq_zero.2 fun seat mem => ?_
    obtain ⟨label, on_seat⟩ := Registry.mem_values.1 mem
    simp [never seat ((fresh.unsold id s found).1 label seat on_seat)]
  have none_hold (p : StockHold → Bool) : l.countHolds p = 0 := by
    refine List.sum_eq_zero fun n mem => ?_
    obtain ⟨s, there, rfl⟩ := List.mem_map.1 mem
    obtain ⟨id, found⟩ := Registry.mem_values.1 there
    rw [(fresh.unsold id s found).2]
    rfl
  cases kind with
  | seat => exact ⟨none_seat _ (by simp_all), none_seat _ (by simp_all)⟩
  | stock => exact ⟨none_hold _, none_hold _⟩

namespace Inventory

/-- **The counters account for every unit.** An inventory begins with a ledger that has only been laid
out and with counters at zero. After any visits, at any times, what the counters say was sold is sold,
and for either kind of units, what they say was reserved is held or sold, or was given back or swept up,
or was taken over from a lapsed hold. -/
theorem counters_account_for_units {w : Inventory} (fresh : w.ledger.Provisioned)
    (zero : ∀ c, w.total c = 0) (visits : List Visit) (kind : UnitKind) :
    (w.run visits).total (.confirmation kind true) = (w.run visits).ledger.sold kind ∧
    (w.run visits).total (.reservation kind .reserved) =
      (w.run visits).ledger.held kind + (w.run visits).ledger.sold kind +
        (w.run visits).total (.release kind) + (w.run visits).total (.reclaimed kind) +
        w.takeovers kind visits := by
  obtain ⟨held, sold⟩ := fresh.held_sold kind
  have start : (w.books kind).Balance 0 := by
    constructor <;> simp [books, zero, held, sold]
  obtain ⟨bought, reserved⟩ := balance_run fresh.reachable kind start visits
  rw [Nat.zero_add] at reserved
  exact ⟨bought, reserved⟩

/-- An inventory of one seat and one place, whose holds last for ten seconds. -/
def oneOfEach : Inventory :=
  { oneSeat with
    ledger := MemoryLedger.empty.run
      [.addSeated (.seated ⟨10⟩ ⟨1⟩ "Stalls" ⟨9900⟩ 0) ["A1"],
        .addStanding (.standing ⟨20⟩ ⟨1⟩ "Standing" ⟨4500⟩ 1)] }

/-- The first hold lets the seat lapse and the second takes it over and buys it, a third hold lets a
place lapse, and a sweep comes. -/
def oneOfEachVisits : List Visit :=
  [⟨.ofParts 1000 0, .call (.reserve (.seated ⟨.random 1⟩ ⟨1⟩ ⟨10⟩ "A1"))⟩,
    ⟨.ofParts 1011 0, .call (.reserve (.seated ⟨.random 2⟩ ⟨1⟩ ⟨10⟩ "A1"))⟩,
    ⟨.ofParts 1012 0,
      .call (.confirm ⟨⟨.random 2⟩, ⟨1⟩, ⟨10⟩, .seat ⟨1⟩ "A1", .ofParts 1021 0⟩)⟩,
    ⟨.ofParts 1012 0, .call (.reserve ⟨⟨.random 3⟩, ⟨1⟩, ⟨20⟩, none⟩)⟩,
    ⟨.ofParts 1100 0, .sweep⟩]

/-- The seat was reserved twice, one of which was a takeover, and is sold; the place was reserved once and
swept up. -/
theorem counters_account_for_one_of_each :
    oneOfEach.ledger.Provisioned ∧ (∀ c, oneOfEach.total c = 0) ∧
    (oneOfEach.run oneOfEachVisits).total (.confirmation .seat true) = 1 ∧
    oneOfEach.takeovers .seat oneOfEachVisits = 1 ∧
    (oneOfEach.run oneOfEachVisits).total (.reservation .seat .reserved) =
      (oneOfEach.run oneOfEachVisits).ledger.held .seat + 1 +
        (oneOfEach.run oneOfEachVisits).total (.release .seat) +
        (oneOfEach.run oneOfEachVisits).total (.reclaimed .seat) + 1 ∧
    (oneOfEach.run oneOfEachVisits).total (.reservation .stock .reserved) =
      (oneOfEach.run oneOfEachVisits).ledger.held .stock +
        (oneOfEach.run oneOfEachVisits).ledger.sold .stock +
        (oneOfEach.run oneOfEachVisits).total (.release .stock) + 1 + 0 := by
  have fresh : oneOfEach.ledger.Provisioned := ⟨_, by decide, rfl⟩
  have zero : ∀ c, oneOfEach.total c = 0 := fun _ => rfl
  have seat := counters_account_for_units fresh zero oneOfEachVisits .seat
  have stock := counters_account_for_units fresh zero oneOfEachVisits .stock
  have bought : (oneOfEach.run oneOfEachVisits).total (.confirmation .seat true) = 1 := by
    decide +kernel
  have takeover : oneOfEach.takeovers .seat oneOfEachVisits = 1 := by decide +kernel
  have no_takeover : oneOfEach.takeovers .stock oneOfEachVisits = 0 := by decide +kernel
  have swept : (oneOfEach.run oneOfEachVisits).total (.reclaimed .stock) = 1 := by decide +kernel
  rw [← seat.1, bought, takeover] at seat
  rw [swept, no_takeover] at stock
  exact ⟨fresh, zero, bought, takeover, seat.2, stock.2⟩

end Inventory

end BoxOffice
