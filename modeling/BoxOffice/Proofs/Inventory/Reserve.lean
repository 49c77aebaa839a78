import BoxOffice.Proofs.Inventory.Serve
import BoxOffice.Proofs.Ledger.Sold

/-!
# Requests

The ways in which a request to the inventory may end (`Reserving`), each with what it is answered and
the ledger it leaves behind: `serve_reserve` says that there are no others. A request that is not
answered with a token leaves the ledger as it was. What is counted can be told from the answer and from
what the ledger was before (`counted`).
-/

namespace BoxOffice

open Rehearsal Reservations

namespace ReserveRequest

/-- The request is about a category of its event that has a layout. -/
def Suits (r : ReserveRequest) (l : MemoryLedger) (layout : Layout) : Prop :=
  ∃ s, l.sections.get? r.category = some s ∧ s.category.event = r.event ∧ s.category.layout = layout

theorem Suits.unique {r : ReserveRequest} {l : MemoryLedger} {a b : Layout} (h : r.Suits l a)
    (h' : r.Suits l b) : a = b := by
  obtain ⟨s, there, -, rfl⟩ := h
  obtain ⟨s', there', -, rfl⟩ := h'
  obtain rfl : s = s' := Option.some.inj (there.symm.trans there')
  rfl

theorem Suits.after {r : ReserveRequest} {l : MemoryLedger} {a : Layout} (h : r.Suits l a)
    (c : Ledger.Call) : r.Suits (l.after c) a := by
  obtain ⟨s, there, event, layout⟩ := h
  exact ⟨s.after r.category c, by rw [MemoryLedger.get?_after, there, Option.map_some], event,
    layout⟩

/-- The claim that a request makes on a seat. -/
def claim (r : ReserveRequest) (label : String) (now last : Instant) : SeatClaim where
  category := r.category
  label
  hold := r.hold
  now
  expiresAt := last

/-- The receipt that a request gets. -/
def token (r : ReserveRequest) (unit : HeldUnit) (last : Instant) : Token where
  hold := r.hold
  event := r.event
  category := r.category
  unit
  expiresAt := last

/-- What is counted when a request is answered. A token counts as a repetition if it could have been
sold already before, and a conflict is counted as well. -/
def counted (r : ReserveRequest) (l : MemoryLedger) (now : Instant) :
    Except Breakdown (Result Token) → Option Counter
  | .ok (.ok t) => some (.reservation t.unit.kind (if l.Sells t now then .replayed else .reserved))
  | .ok (.error e) =>
    if e.kind = .conflict then
      some (.reservation (if (namedSeat r).isSome then .seat else .stock) .conflict)
    else none
  | .error _ => none

variable {r : ReserveRequest} {l : MemoryLedger} {now last : Instant}

theorem sells_seat_iff {label : String} {seat : Seat} {id : SeatId}
    (there : l.seat? r.category label = some seat) :
    l.Sells (r.token (.seat id label) last) now ↔ seat.isHeldBy r.hold now := by
  simp [MemoryLedger.Sells, token, there]

/-- The token of a seat that may be claimed could not be sold before. -/
theorem not_sells_of_claimable {label : String} {seat : Seat} {id : SeatId}
    (there : l.seat? r.category label = some seat) (claimable : seat.isClaimable now) :
    ¬ l.Sells (r.token (.seat id label) last) now := by
  rw [sells_seat_iff there, Seat.not_isHeldBy_of_claimable claimable]
  exact Bool.false_ne_true

theorem sells_stock_iff : l.Sells (r.token .stock last) now ↔
    ∃ h, l.stock? r.category r.hold = some h ∧ (h.isLive now ∨ h.state = .confirmed) :=
  Iff.rfl

/-- The token of a place that is taken could not be sold before. -/
theorem not_sells_of_taken {s : Section} {h : StockHold} {till : Instant}
    (there : l.sections.get? r.category = some s)
    (taken : (s.pool.take r.category r.hold now till).1 = .taken h) :
    ¬ l.Sells (r.token .stock last) now := by
  rintro ⟨h', mine, sells⟩
  replace mine : s.pool.holds.get? r.hold = some h' := by
    rwa [MemoryLedger.stock?, token, there, Option.bind_some] at mine
  rcases s.pool.take_cases r.category r.hold now till with
    ⟨_, -, -, e⟩ | ⟨h₀, mine₀, lapsed, -⟩ | ⟨gone, -⟩
  · rw [e] at taken
    cases taken
  · obtain rfl := Option.some.inj (mine.symm.trans mine₀)
    obtain ⟨held, past⟩ := StockHold.isLapsed_iff.1 lapsed
    rcases sells with live | confirmed
    · exact Instant.not_le.2 past (StockHold.isLive_iff.1 live).2
    · simp [held] at confirmed
  · rcases gone h' mine with state | state <;> simp [state] at sells

theorem counted_first {t : Token} (first : ¬ l.Sells t now) :
    r.counted l now (.ok (.ok t)) = some (.reservation t.unit.kind .reserved) := by
  rw [counted, if_neg first]

theorem counted_again {t : Token} (again : l.Sells t now) :
    r.counted l now (.ok (.ok t)) = some (.reservation t.unit.kind .replayed) := by
  rw [counted, if_pos again]

theorem counted_conflict {e : Error} (kind : e.kind = .conflict) :
    r.counted l now (.ok (.error e)) =
      some (.reservation (if (namedSeat r).isSome then .seat else .stock) .conflict) :=
  if_pos kind

end ReserveRequest

namespace Token

/-- The request that a token answers. -/
def request (t : Token) : ReserveRequest where
  hold := t.hold
  event := t.event
  category := t.category
  seatLabel := t.seatLabel

/-- The layout of categories with units like that of a token. -/
def layout (t : Token) : Layout :=
  if t.seatLabel.isSome then .seated else .standing

end Token

/-- **The ways in which a request may end**: what it is answered with, and the ledger that is left
behind. The holds of the inventory last for `hold`. -/
inductive Reserving (l : MemoryLedger) (hold : Span) (now : Instant) (r : ReserveRequest) :
    Except Breakdown (Result Token) → MemoryLedger → Prop
  | categoryMissing (missing : l.sections.get? r.category = none) :
    Reserving l hold now r (.ok (refuse (.categoryMissing r.category))) l
  | foreignEvent {s} (there : l.sections.get? r.category = some s)
      (foreign : s.category.event ≠ r.event) :
    Reserving l hold now r (.ok (refuse (.foreignEvent r.category r.event))) l
  | seatLabelRequired (suits : r.Suits l .seated) (unnamed : namedSeat r = none) :
    Reserving l hold now r (.ok (refuse (.seatLabelRequired r.category))) l
  | seatLabelRefused {label} (suits : r.Suits l .standing) (named : namedSeat r = some label) :
    Reserving l hold now r (.ok (refuse (.seatLabelRefused r.category))) l
  /-- The clock does not know the instant at which the hold would end. -/
  | outOfTime {layout} (suits : r.Suits l layout)
      (fits : (namedSeat r).isSome = true ↔ layout = .seated) (unknown : now.add? hold = none) :
    Reserving l hold now r (.error .outOfTime) l
  | seatMissing {label last} (suits : r.Suits l .seated) (named : namedSeat r = some label)
      (due : now.add? hold = some last) (missing : l.seat? r.category label = none) :
    Reserving l hold now r (.ok (refuse (.seatMissing r.category label))) l
  | seatReserved {label last seat} (suits : r.Suits l .seated) (named : namedSeat r = some label)
      (due : now.add? hold = some last) (there : l.seat? r.category label = some seat)
      (claimable : seat.isClaimable now) :
    Reserving l hold now r (.ok (.ok (r.token (.seat seat.id label) last)))
      (l.after (.reserveSeat (r.claim label now last)))
  /-- The request has the seat already. -/
  | seatReplayed {label last seat} (suits : r.Suits l .seated) (named : namedSeat r = some label)
      (due : now.add? hold = some last) (there : l.seat? r.category label = some seat)
      (held : seat.isHeldBy r.hold now) :
    Reserving l hold now r
      (.ok (.ok (r.token (.seat seat.id label) (seat.reservedUntil.getD last)))) l
  | seatRefused {label last seat} (suits : r.Suits l .seated) (named : namedSeat r = some label)
      (due : now.add? hold = some last) (there : l.seat? r.category label = some seat)
      (taken : ¬ seat.isClaimable now) (other : ¬ seat.isHeldBy r.hold now) :
    Reserving l hold now r
      (.ok (refuse (if seat.status = .sold then .seatSold label else .seatReserved label))) l
  | stockTaken {last s h} (suits : r.Suits l .standing) (unnamed : namedSeat r = none)
      (due : now.add? hold = some last) (there : l.sections.get? r.category = some s)
      (taken : (s.pool.take r.category r.hold now last).1 = .taken h) :
    Reserving l hold now r (.ok (.ok (r.token .stock h.expiresAt)))
      (l.after (.takeStock r.category r.hold now last))
  /-- The request has its place already. -/
  | stockReplayed {last h} (suits : r.Suits l .standing) (unnamed : namedSeat r = none)
      (due : now.add? hold = some last) (there : l.stock? r.category r.hold = some h)
      (live : h.isLive now) :
    Reserving l hold now r (.ok (.ok (r.token .stock h.expiresAt))) l
  /-- The request had its place and bought it. -/
  | stockSpent {last h} (suits : r.Suits l .standing) (unnamed : namedSeat r = none)
      (due : now.add? hold = some last) (there : l.stock? r.category r.hold = some h)
      (sold : h.state = .confirmed) :
    Reserving l hold now r (.ok (refuse (.holdSpent r.hold .confirmed))) l
  | stockSoldOut {last s} (suits : r.Suits l .standing) (unnamed : namedSeat r = none)
      (due : now.add? hold = some last) (there : l.sections.get? r.category = some s)
      (nothing : s.pool.available = 0)
      (gone : ∀ h, l.stock? r.category r.hold = some h → h.state = .released ∨ h.state = .expired) :
    Reserving l hold now r (.ok (refuse (.soldOut r.category))) l

namespace Reserving

variable {l l' : MemoryLedger} {hold : Span} {now : Instant} {r : ReserveRequest}
  {a : Except Breakdown (Result Token)}

/-- A request changes nothing, or it makes one call for a share and gets the token of that share. -/
theorem ledger_cases (way : Reserving l hold now r a l') :
    l' = l ∨ ∃ t c, a = .ok (.ok t) ∧ l' = l.after c ∧ c.hold? = some r.hold ∧
      c.time? = some now ∧ c.share? = some t.share ∧ c.sale? = none := by
  cases way with
  | seatReserved => exact .inr ⟨_, _, rfl, rfl, rfl, rfl, rfl, rfl⟩
  | stockTaken => exact .inr ⟨_, _, rfl, rfl, rfl, rfl, rfl, rfl⟩
  | _ => exact .inl rfl

/-- A token that a request gets is true, and it is about what the request asked for. -/
theorem granted {t : Token} (way : Reserving l hold now r (.ok (.ok t)) l') :
    l'.Holds t ∧ t.hold = r.hold ∧ t.category = r.category ∧ t.event = r.event ∧
      t.seatLabel = namedSeat r ∧ t.request.Suits l' t.layout := by
  cases way with
  | seatReserved suits named due there claimable =>
    rename_i label last seat
    refine ⟨⟨seat.reserve r.hold last, ?_, rfl, rfl, rfl, rfl⟩, rfl, rfl, rfl, named.symm,
      suits.after _⟩
    have claimed : seat.claim? (r.claim label now last) = some (seat.reserve r.hold last) :=
      Seat.claim?_eq_some_iff.2 ⟨claimable, rfl⟩
    show (l.after (.reserveSeat (r.claim label now last))).seat? r.category label = _
    rw [MemoryLedger.seat?_after, there, Option.map_some, Seat.after, if_pos ⟨rfl, rfl⟩, claimed]
    rfl
  | seatReplayed suits named due there held =>
    obtain ⟨reserved, mine, last, until_last, -⟩ := Seat.isHeldBy_iff.1 held
    refine ⟨⟨_, there, rfl, reserved, mine, ?_⟩, rfl, rfl, rfl, named.symm, suits⟩
    simp [until_last, ReserveRequest.token]
  | stockTaken suits unnamed due there taken =>
    obtain ⟨mine, held, -⟩ := Pool.take_taken taken
    refine ⟨⟨_, ?_, held, rfl⟩, rfl, rfl, rfl, unnamed.symm, suits.after _⟩
    show (l.after (.takeStock r.category r.hold now _)).stock? r.category r.hold = _
    simpa [MemoryLedger.stock?, MemoryLedger.get?_after, there, Pool.after] using mine
  | stockReplayed suits unnamed due there live =>
    exact ⟨⟨_, there, (StockHold.isLive_iff.1 live).1, rfl⟩, rfl, rfl, rfl, unnamed.symm, suits⟩

end Reserving

namespace Section

theorem current_event (s : Section) : s.current.event = s.category.event := by
  unfold current
  split <;> rfl

theorem current_layout (s : Section) : s.current.layout = s.category.layout := by
  unfold current
  split <;> rfl

variable {s : Section} {r : ReserveRequest}

theorem seatToken_eq (sound : s.Sound r.category) (event : s.category.event = r.event)
    {label : String} {seat : Seat} (there : s.seats.get? label = some seat) (last : Instant) :
    seatToken r s.current seat last = r.token (.seat seat.id label) last := by
  rw [seatToken, sound.current_id, current_event, event, (sound.seats label seat there).1]
  rfl

theorem stockToken_eq (sound : s.Sound r.category) (event : s.category.event = r.event)
    (h : StockHold) : stockToken r s.current h = r.token .stock h.expiresAt := by
  rw [stockToken, sound.current_id, current_event, event]
  rfl

end Section

namespace Inventory

theorem play_fail {α : Type} (c : Cause) (w : Inventory) :
    (fail c : Service InventoryWorld α).run.play answer w = (.ok (refuse c), w) := rfl

section

variable {w : Inventory} {r : ReserveRequest} {s : Section} (sound : s.Sound r.category)
  (there : w.ledger.sections.get? r.category = some s) (event : s.category.event = r.event)

include sound there event

/-- A request for a seat ends in one of the ways. -/
theorem play_reserveSeat_ways (seated : s.category.layout = .seated) :
    ∃ a w', (reserveSeat w.hold r s.current).run.play answer w = (a, w') ∧
      Reserving w.ledger w.hold w.stage.now r a w'.ledger ∧
      w.Counts w' (r.counted w.ledger w.stage.now a) := by
  have suits : r.Suits w.ledger .seated := ⟨s, there, event, seated⟩
  have seat_eq : ∀ label, w.ledger.seat? r.category label = s.seats.get? label := by
    simp [MemoryLedger.seat?, there]
  unfold reserveSeat
  rw [sound.current_id]
  cases named : namedSeat r with
  | none => exact ⟨_, _, rfl, .seatLabelRequired suits named, w.counts_refl⟩
  | some label =>
  simp only [Service.play_bind, play_clock, play_later]
  cases due : w.stage.now.add? w.hold with
  | none => exact ⟨_, _, rfl, .outOfTime suits (by simp [named]) due, w.counts_refl⟩
  | some last =>
  simp only [play_reserveSeat]
  cases claimed : (w.ledger.seat? r.category label).bind
      fun s => s.claim? (r.claim label w.stage.now last) with
  | some reserved =>
    obtain ⟨seat, found, claim⟩ := Option.bind_eq_some_iff.1 claimed
    obtain ⟨claimable, rfl⟩ := Seat.claim?_eq_some_iff.1 claim
    rw [ReserveRequest.claim] at claimed
    simp only [claimed, Service.play_bind, Surroundings.count, play_measure, play_note,
      Service.play_pure]
    refine ⟨_, _, rfl, ?_⟩
    have token : seatToken r s.current (seat.reserve r.hold last) last =
        r.token (.seat seat.id label) last := by
      rw [← Section.seatToken_eq sound event (seat_eq label ▸ found) last]
      rfl
    have first : ¬ w.ledger.Sells (r.token (.seat seat.id label) last) w.stage.now :=
      ReserveRequest.not_sells_of_claimable found claimable
    rw [token, ReserveRequest.counted_first first]
    exact ⟨.seatReserved suits named due found claimable, ((w.counts_after _).count _).note _⟩
  | none =>
    -- the claim changed nothing, and the seat is looked at again to say why
    have same : w.ledger.after (.reserveSeat (r.claim label w.stage.now last)) = w.ledger :=
      MemoryLedger.after_reserveSeat_eq_self claimed
    rw [ReserveRequest.claim] at claimed same
    simp only [claimed, explainSeat, sound.current_id, Service.play_bind, play_seat, after_ledger,
      same]
    cases found : w.ledger.seat? r.category label with
    | none =>
      refine ⟨_, _, rfl, ?_, w.counts_after _⟩
      rw [after_ledger, same]
      exact .seatMissing suits named due found
    | some seat =>
      simp only
      split
      · next held =>
        refine ⟨_, _, rfl, ?_⟩
        rw [Section.seatToken_eq sound event (seat_eq label ▸ found),
          ReserveRequest.counted_again ((ReserveRequest.sells_seat_iff found).2 held)]
        simp only [after_ledger, same]
        exact ⟨.seatReplayed suits named due found held, ((w.counts_after _).count _).note _⟩
      · next other =>
        refine ⟨_, _, rfl, ?_, ?_⟩
        · simp only [after_ledger, same]
          refine .seatRefused suits named due found (fun claimable => ?_) other
          simp [found, Seat.claim?, claimable] at claimed
        · have kind : (if seat.status = .sold then Cause.seatSold label
              else .seatReserved label).error.kind = .conflict := by
            split <;> rfl
          rw [ReserveRequest.counted_conflict kind, named]
          exact ((w.counts_after _).count _).note _

/-- A request for a place ends in one of the ways. -/
theorem play_reserveStock_ways (standing : s.category.layout = .standing) :
    ∃ a w', (reserveStock w.hold r s.current).run.play answer w = (a, w') ∧
      Reserving w.ledger w.hold w.stage.now r a w'.ledger ∧
      w.Counts w' (r.counted w.ledger w.stage.now a) := by
  have suits : r.Suits w.ledger .standing := ⟨s, there, event, standing⟩
  have stock_eq : w.ledger.stock? r.category r.hold = s.pool.holds.get? r.hold := by
    simp [MemoryLedger.stock?, there]
  unfold reserveStock
  rw [sound.current_id]
  cases named : namedSeat r with
  | some label => exact ⟨_, _, rfl, .seatLabelRefused suits named, w.counts_refl⟩
  | none =>
  simp only [Option.isSome_none, Bool.false_eq_true, if_false, Service.play_bind, play_clock,
    play_later]
  cases due : w.stage.now.add? w.hold with
  | none => exact ⟨_, _, rfl, .outOfTime suits (by simp [named]) due, w.counts_refl⟩
  | some last =>
  simp only [play_takeStock, there]
  -- where the pool is kept the ledger is
  have same (kept : (s.pool.take r.category r.hold w.stage.now last).2 = s.pool) :
      w.ledger.after (.takeStock r.category r.hold w.stage.now last) = w.ledger := by
    refine MemoryLedger.after_takeStock_eq_self fun t found => ?_
    obtain rfl : s = t := Option.some.inj (there.symm.trans found)
    exact kept
  -- a new hold and a renewed one are answered alike
  have took (h : StockHold)
      (taken : (s.pool.take r.category r.hold w.stage.now last).1 = .taken h) :
      ∃ a w', ((do
          Surroundings.count (.reservation .stock .reserved)
          Surroundings.note .stockReserved
          return stockToken r s.current h : Service InventoryWorld Token).run.play answer
            (w.after (.takeStock r.category r.hold w.stage.now last))) = (a, w') ∧
        Reserving w.ledger w.hold w.stage.now r a w'.ledger ∧
        w.Counts w' (r.counted w.ledger w.stage.now a) := by
    refine ⟨_, _, rfl, ?_⟩
    rw [Section.stockToken_eq sound event,
      ReserveRequest.counted_first (ReserveRequest.not_sells_of_taken there taken)]
    exact ⟨.stockTaken suits named due there taken, ((w.counts_after _).count _).note _⟩
  rcases s.pool.take_cases r.category r.hold w.stage.now last with
    ⟨h, mine, live | confirmed, e⟩ | ⟨h, mine, lapsed, e⟩ | ⟨gone, ⟨nothing, e⟩ | ⟨left, e⟩⟩
  · have same := same (by rw [e])
    simp only [e, (StockHold.isLive_iff.1 live).1, if_true]
    refine ⟨_, _, rfl, ?_⟩
    rw [Section.stockToken_eq sound event, ReserveRequest.counted_again
      (ReserveRequest.sells_stock_iff.2 ⟨h, stock_eq ▸ mine, .inl live⟩)]
    simp only [after_ledger, same]
    exact ⟨.stockReplayed suits named due (stock_eq ▸ mine) live,
      ((w.counts_after _).count _).note _⟩
  · have same := same (by rw [e])
    simp only [e, confirmed, reduceCtorEq, if_false]
    refine ⟨_, _, rfl, ?_, ?_⟩
    · simp only [after_ledger, same, (sound.holds r.hold h mine).1]
      exact .stockSpent suits named due (stock_eq ▸ mine) confirmed
    · have kind : (Cause.holdSpent h.hold .confirmed).error.kind = .conflict := rfl
      rw [ReserveRequest.counted_conflict kind, named]
      exact (w.counts_after _).count _
  · simp only [e]
    exact took _ (by rw [e])
  · have same := same (by rw [e])
    simp only [e]
    refine ⟨_, _, rfl, ?_, ?_⟩
    · simp only [after_ledger, same]
      exact .stockSoldOut suits named due there nothing (stock_eq ▸ gone)
    · have kind : (Cause.soldOut r.category).error.kind = .conflict := rfl
      rw [ReserveRequest.counted_conflict kind, named]
      exact ((w.counts_after _).count _).note _
  · simp only [e]
    exact took _ (by rw [e])

end

/-- A request ends in one of the ways, and what it says is counted. -/
theorem serve_reserve_counted {w : Inventory} (reach : w.ledger.Reachable) (r : ReserveRequest) :
    ∃ a w', w.serve (.reserve r) = (a, w') ∧
      Reserving w.ledger w.hold w.stage.now r a w'.ledger ∧
      w.Counts w' (r.counted w.ledger w.stage.now a) := by
  show ∃ a w', (Reservations.reserve w.hold r).run.play answer w = (a, w') ∧ _
  unfold Reservations.reserve requestedCategory
  simp only [Service.play_bind, play_category]
  cases there : w.ledger.sections.get? r.category with
  | none => exact ⟨_, _, rfl, .categoryMissing there, w.counts_refl⟩
  | some s =>
  have sound := reach.sound there
  simp only [Option.map_some, s.current_event, sound.current_id]
  by_cases event : s.category.event = r.event
  · simp only [event, if_true, Service.play_pure, s.current_layout]
    cases layout : s.category.layout with
    | seated => exact play_reserveSeat_ways sound there event layout
    | standing => exact play_reserveStock_ways sound there event layout
  · simp only [event, if_false, play_fail]
    exact ⟨_, _, rfl, .foreignEvent there event, w.counts_refl⟩

/-- **A request ends in one of the ways.** -/
theorem serve_reserve {w : Inventory} (reach : w.ledger.Reachable) (r : ReserveRequest) :
    ∃ a w', w.serve (.reserve r) = (a, w') ∧
      Reserving w.ledger w.hold w.stage.now r a w'.ledger := by
  obtain ⟨a, w', served, way, -⟩ := serve_reserve_counted reach r
  exact ⟨a, w', served, way⟩

end Inventory

end BoxOffice
