import Mathlib.Algebra.Order.BigOperators.Group.List
import Mathlib.Algebra.Order.Ring.Nat
import Mathlib.Data.Fintype.Card
import BoxOffice.Proofs.Ledger.Held

/-!
# Counting units

How many units of each kind are held and sold, over all categories of a ledger (`held`, `sold`). A call
about one seat or one pool moves units of its kind only (`turnover_of_seat`, `turnover_of_pool`), and a
sweep lets go those whose hold has lapsed (`held_reclaim`). There are so few categories that what a
sweep reports is what it has let go (`toNat_reported`).
-/

namespace BoxOffice

namespace Registry

variable {κ α : Type} [DecidableEq κ]

/-- In a sum over the values, a change of one value counts for that value alone. -/
theorem sum_mapEntries {r : Registry κ α} {key : κ} {a : α} (there : r.get? key = some a)
    {f : κ → α → α} {g : α → Nat}
    (others : ∀ k b, k ≠ key → r.get? k = some b → g (f k b) = g b) :
    ((r.mapEntries f).values.map g).sum + g a = (r.values.map g).sum + g (f key a) := by
  obtain ⟨before, after, entries, earlier, later⟩ := entries_eq there
  have kept (es : List (κ × α)) (sub : ∀ e ∈ es, e ∈ r.entries) (ne : ∀ e ∈ es, e.1 ≠ key) :
      (es.map fun e => g (f e.1 e.2)) = es.map fun e => g e.2 :=
    List.map_congr_left fun e mem => others e.1 e.2 (ne e mem) (get?_of_mem (sub e mem))
  have first := kept before (fun e mem => by simp [entries, mem]) earlier
  have last := kept after (fun e mem => by simp [entries, mem]) later
  have sum_eq : ((r.mapEntries f).values.map g).sum =
      (before.map fun e => g e.2).sum + (g (f key a) + (after.map fun e => g e.2).sum) := by
    rw [← first, ← last]
    simp [values, mapEntries, entries, Function.comp_def]
  have sum_eq' : (r.values.map g).sum =
      (before.map fun e => g e.2).sum + (g a + (after.map fun e => g e.2).sum) := by
    simp [values, entries, Function.comp_def]
  omega

/-- Sums over the values are added as their summands are. -/
theorem sum_mapEntries_add {r : Registry κ α} {f : κ → α → α} {g h total : α → Nat}
    (each : ∀ k b, r.get? k = some b → g (f k b) + h b = total b) :
    ((r.mapEntries f).values.map g).sum + (r.values.map h).sum = (r.values.map total).sum := by
  simp only [values, mapEntries, List.map_map]
  rw [← List.sum_map_add]
  congr 1
  exact List.map_congr_left fun e mem => each e.1 e.2 (get?_of_mem mem)

/-- A sum over the values stays the same if each of its summands does. -/
theorem sum_mapEntries_of_same {r : Registry κ α} {f : κ → α → α} {g : α → Nat}
    (same : ∀ k b, r.get? k = some b → g (f k b) = g b) :
    ((r.mapEntries f).values.map g).sum = (r.values.map g).sum := by
  have sum := sum_mapEntries_add (h := fun _ => 0) same
  simpa using sum

end Registry

namespace MemoryLedger

/-- The number of seats with a property. -/
def countSeats (l : MemoryLedger) (p : Seat → Bool) : Nat :=
  (l.sections.values.map fun s => s.seats.values.countP p).sum

/-- The number of holds with a property, in all pools. -/
def countHolds (l : MemoryLedger) (p : StockHold → Bool) : Nat :=
  (l.sections.values.map fun s => s.pool.holds.values.countP p).sum

/-- The number of units of a kind that are held, also by lapsed holds. -/
def held (l : MemoryLedger) : UnitKind → Nat
  | .seat => l.countSeats fun s => s.status == .reserved
  | .stock => l.countHolds fun h => h.state == .held

/-- The number of units of a kind that are sold. -/
def sold (l : MemoryLedger) : UnitKind → Nat
  | .seat => l.countSeats fun s => s.status == .sold
  | .stock => l.countHolds fun h => h.state == .confirmed

/-- The number of units of a kind that are kept by lapsed holds. -/
def lapsed (l : MemoryLedger) (now : Instant) : UnitKind → Nat
  | .seat => l.countSeats fun s => s.isLapsed now
  | .stock => l.countHolds fun h => h.isLapsed now

variable {l : MemoryLedger} {c : Ledger.Call} {category : CategoryId} {name : String}

/-! ### Calls about one unit -/

/-- A change of one seat counts for that seat alone. -/
theorem countSeats_after {change : Seat → Option Seat} {seat next : Seat}
    (seats : ∀ id label (s : Seat), s.after id label c =
      if id = category ∧ label = name then (change s).getD s else s)
    (there : l.seat? category name = some seat) (changed : change seat = some next)
    (p : Seat → Bool) :
    (l.after c).countSeats p + (if p seat then 1 else 0) =
      l.countSeats p + if p next then 1 else 0 := by
  obtain ⟨s, found, on_seat⟩ := Option.bind_eq_some_iff.1 there
  have here : (s.after category c).seats = s.seats.modify name fun _ => next := by
    show s.seats.mapEntries (fun label t => t.after category label c) = _
    rw [← Registry.mapEntries_at_of_some on_seat (f := fun _ => next) changed]
    refine Registry.mapEntries_congr fun label t _ => ?_
    simp [seats]
  have elsewhere (id : CategoryId) (t : Section) (other : id ≠ category) :
      (t.after id c).seats = t.seats := by
    show t.seats.mapEntries (fun label u => u.after id label c) = _
    exact Registry.mapEntries_eq_self fun label u _ => by simp [seats, other]
  have sum := Registry.sum_mapEntries found (f := fun id s => s.after id c)
    (g := fun s => s.seats.values.countP p) fun id t other _ => by rw [elsewhere id t other]
  have one := Registry.countP_modify on_seat (fun _ => next) p
  rw [← here] at one
  show ((l.after c).sections.values.map _).sum + _ = (l.sections.values.map _).sum + _
  simp only [after] at sum ⊢
  omega

/-- A change of one pool counts for that pool alone. -/
theorem countHolds_after {change : UInt32 → Pool → Pool} {s : Section}
    (pools : ∀ id total (q : Pool), q.after id total c = if id = category then change total q else q)
    (found : l.sections.get? category = some s) (p : StockHold → Bool) :
    (l.after c).countHolds p + s.pool.holds.values.countP p =
      l.countHolds p + (change s.category.total s.pool).holds.values.countP p := by
  have here : (s.after category c).pool = change s.category.total s.pool := by simp [pools]
  have sum := Registry.sum_mapEntries found (f := fun id s => s.after id c)
    (g := fun s => s.pool.holds.values.countP p) fun id t other _ => by simp [pools, other]
  rwa [here] at sum

theorem countSeats_after_of_same (seats : ∀ id label (s : Seat), s.after id label c = s)
    (p : Seat → Bool) : (l.after c).countSeats p = l.countSeats p :=
  Registry.sum_mapEntries_of_same fun id s _ => by
    rw [show (s.after id c).seats = s.seats from
      Registry.mapEntries_eq_self fun label t _ => seats id label t]

theorem countHolds_after_of_same (pools : ∀ id total (q : Pool), q.after id total c = q)
    (p : StockHold → Bool) : (l.after c).countHolds p = l.countHolds p :=
  Registry.sum_mapEntries_of_same fun id s _ => by rw [Section.after_pool, pools]

/-- From one ledger to another, units of one kind came to be held, and of those that were held some were
let go and some were bought. -/
def Turnover (l l' : MemoryLedger) (moved : UnitKind) (come gone bought : Nat) : Prop :=
  ∀ kind, l'.held kind + (if kind = moved then gone + bought else 0) =
      l.held kind + (if kind = moved then come else 0) ∧
    l'.sold kind = l.sold kind + if kind = moved then bought else 0

variable {come gone bought : Nat}

theorem turnover_of_seat {change : Seat → Option Seat} {seat next : Seat}
    (seats : ∀ id label (s : Seat), s.after id label c =
      if id = category ∧ label = name then (change s).getD s else s)
    (pools : ∀ id total (q : Pool), q.after id total c = q)
    (there : l.seat? category name = some seat) (changed : change seat = some next)
    (held : (if next.status = .reserved then 1 else 0) + (gone + bought) =
      (if seat.status = .reserved then 1 else 0) + come)
    (sold : (if next.status = .sold then 1 else 0) =
      (if seat.status = .sold then 1 else 0) + bought) :
    l.Turnover (l.after c) .seat come gone bought := by
  intro kind
  cases kind with
  | seat =>
    have reserved := countSeats_after seats there changed fun s => s.status == .reserved
    have bought := countSeats_after seats there changed fun s => s.status == .sold
    simp only [beq_iff_eq] at reserved bought
    simp only [MemoryLedger.held, MemoryLedger.sold, if_true]
    omega
  | stock =>
    simp only [MemoryLedger.held, MemoryLedger.sold, countHolds_after_of_same pools, reduceCtorEq,
      if_false, Nat.add_zero, and_self]

theorem turnover_of_pool (change : UInt32 → Pool → Pool) {s : Section}
    (seats : ∀ id label (s : Seat), s.after id label c = s)
    (pools : ∀ id total (q : Pool), q.after id total c = if id = category then change total q else q)
    (found : l.sections.get? category = some s)
    (held : (change s.category.total s.pool).countState .held + (gone + bought) =
      s.pool.countState .held + come)
    (sold : (change s.category.total s.pool).countState .confirmed =
      s.pool.countState .confirmed + bought) :
    l.Turnover (l.after c) .stock come gone bought := by
  intro kind
  cases kind with
  | seat =>
    simp only [MemoryLedger.held, MemoryLedger.sold, countSeats_after_of_same seats, reduceCtorEq,
      if_false, Nat.add_zero, and_self]
  | stock =>
    have waiting := countHolds_after pools found fun h => h.state == .held
    have bought := countHolds_after pools found fun h => h.state == .confirmed
    simp only [Pool.countState] at held sold
    simp only [MemoryLedger.held, MemoryLedger.sold, if_true]
    omega

/-- A seat that is claimed comes to be held, unless a lapsed hold had it before. -/
theorem turnover_reserveSeat (claim : SeatClaim) {seat : Seat}
    (there : l.seat? claim.category claim.label = some seat) (well : seat.WellFormed)
    (claimable : seat.isClaimable claim.now) :
    l.Turnover (l.after (.reserveSeat claim)) .seat (if seat.isLapsed claim.now then 0 else 1) 0 0 := by
  refine turnover_of_seat (fun _ _ _ => rfl) (fun _ _ _ => rfl) there
    (Seat.claim?_eq_some_iff.2 ⟨claimable, rfl⟩) ?_ ?_
  · rcases Seat.isClaimable_iff.1 claimable with free | ⟨reserved, past⟩
    · simp [Seat.reserve, free]
    · simp only [Seat.WellFormed, reserved] at well
      obtain ⟨last, until_last⟩ := Option.isSome_iff_exists.1 well.2
      have lapsed : seat.isLapsed claim.now :=
        Seat.isLapsed_iff.2 ⟨reserved, last, until_last, past last until_last⟩
      simp [Seat.reserve, reserved, lapsed]
  · rcases Seat.isClaimable_iff.1 claimable with free | ⟨reserved, -⟩
    · simp [Seat.reserve, free]
    · simp [Seat.reserve, reserved]

theorem turnover_releaseSeat {hold : HoldId} {seat : Seat}
    (there : l.seat? category name = some seat) (reserved : seat.status = .reserved)
    (mine : seat.hold = some hold) :
    l.Turnover (l.after (.releaseSeat category name hold)) .seat 0 1 0 :=
  turnover_of_seat (fun _ _ _ => rfl) (fun _ _ _ => rfl) there
    (Seat.release?_eq_some_iff.2 ⟨reserved, mine, rfl⟩) (by simp [Seat.free, reserved])
    (by simp [Seat.free, reserved])

theorem turnover_sellSeat {hold : HoldId} {now : Instant} {seat : Seat}
    (there : l.seat? category name = some seat) (mine : seat.isHeldBy hold now) :
    l.Turnover (l.after (.sellSeat category name hold now)) .seat 0 0 1 := by
  have reserved : seat.status = .reserved := (Seat.isHeldBy_iff.1 mine).1
  exact turnover_of_seat (fun _ _ _ => rfl) (fun _ _ _ => rfl) there
    (Seat.sell?_eq_some_iff.2 ⟨mine, rfl⟩) (by simp [Seat.sell, reserved])
    (by simp [Seat.sell, reserved])

/-- A place that is taken comes to be held, unless a lapsed hold is renewed. -/
theorem turnover_takeStock {hold : HoldId} {now last : Instant} {s : Section} {h : StockHold}
    (found : l.sections.get? category = some s)
    (taken : (s.pool.take category hold now last).1 = .taken h) :
    l.Turnover (l.after (.takeStock category hold now last)) .stock
      (if (s.pool.holds.get? hold).any fun h => h.isLapsed now then 0 else 1) 0 0 := by
  have pools : ∀ id total (q : Pool), q.after id total (.takeStock category hold now last) =
      if id = category then (q.take category hold now last).2 else q := by
    intro id total q
    by_cases here : id = category <;> simp [Pool.after, here]
  refine turnover_of_pool (fun _ q => (q.take category hold now last).2) (fun _ _ _ => rfl) pools
    found ?_ ?_ <;>
    rcases s.pool.take_cases category hold now last with
      ⟨_, -, -, e⟩ | ⟨h, there, lapsed, e⟩ | ⟨gone, ⟨-, e⟩ | ⟨-, e⟩⟩ <;> rw [e] at taken ⊢
  · cases taken
  · have held := Pool.countState_changeHold there (fun h => { h with expiresAt := last }) .held
    simp only [there, Option.any_some, lapsed, if_true]
    simpa using held
  · cases taken
  · have idle : ((s.pool.holds.get? hold).any fun h => h.isLapsed now) = false := by
      rw [← Bool.not_eq_true, Option.any_eq_true]
      rintro ⟨h, there, lapsed⟩
      rcases gone h there with state | state <;> simp [state] at lapsed
    rw [Pool.countState_set .held (fun h there => by rcases gone h there with e | e <;> simp [e])]
    simp [idle]
  · cases taken
  · have sold := Pool.countState_changeHold there (fun h => { h with expiresAt := last }) .confirmed
    simpa using sold
  · cases taken
  · rw [Pool.countState_set .confirmed
      (fun h there => by rcases gone h there with e | e <;> simp [e])]
    simp

theorem turnover_returnStock {hold : HoldId} {s : Section} {h : StockHold}
    (found : l.sections.get? category = some s) (there : s.pool.holds.get? hold = some h)
    (waiting : h.state = .held) :
    l.Turnover (l.after (.returnStock category hold)) .stock 0 1 0 := by
  have back : s.pool.giveBack? hold s.category.total = some
      ((s.pool.changeHold hold fun h => { h with state := .released }).putBack 1 s.category.total) :=
    Pool.giveBack?_eq_some_iff.2 ⟨h, there, waiting, rfl⟩
  have held := Pool.countState_changeHold there (fun h => { h with state := .released }) .held
  have sold := Pool.countState_changeHold there (fun h => { h with state := .released }) .confirmed
  refine turnover_of_pool (fun total q => (q.giveBack? hold total).getD q) (fun _ _ _ => rfl)
    (fun _ _ _ => rfl) found ?_ ?_ <;>
    rw [back, Option.getD_some, Pool.countState_putBack]
  · simpa [waiting] using held
  · simpa [waiting] using sold

theorem turnover_settleStock {hold : HoldId} {now : Instant} {s : Section} {h : StockHold}
    (found : l.sections.get? category = some s) (there : s.pool.holds.get? hold = some h)
    (live : h.isLive now) :
    l.Turnover (l.after (.settleStock category hold now)) .stock 0 0 1 := by
  have settled := Pool.settle?_eq_some_iff.2 ⟨h, there, live, rfl⟩
  have waiting : h.state = .held := (StockHold.isLive_iff.1 live).1
  have held := Pool.countState_changeHold there (fun h => { h with state := .confirmed }) .held
  have sold := Pool.countState_changeHold there (fun h => { h with state := .confirmed }) .confirmed
  refine turnover_of_pool (fun _ q => (q.settle? hold now).getD q) (fun _ _ _ => rfl)
    (fun _ _ _ => rfl) found ?_ ?_ <;>
    rw [settled, Option.getD_some]
  · simpa [waiting] using held
  · simpa [waiting] using sold

/-- What a token holds is let go, or the hold has nothing to give back and nothing changes. -/
theorem giveBack_cases (l : MemoryLedger) (t : Token) :
    (l.returns t = true ∧ l.Turnover (l.after t.giveBack) t.unit.kind 0 1 0) ∨
    (l.returns t = false ∧ l.after t.giveBack = l) := by
  unfold returns Token.giveBack
  cases t.unit with
  | seat id label =>
    dsimp only
    cases released : (l.seat? t.category label).bind fun s => s.release? t.hold with
    | none =>
      exact .inr ⟨rfl, after_eq_self_of_seat (c := .releaseSeat t.category label t.hold)
        (fun _ _ _ => rfl) (fun _ _ _ => rfl) released⟩
    | some next =>
      obtain ⟨seat, there, back⟩ := Option.bind_eq_some_iff.1 released
      obtain ⟨reserved, mine, -⟩ := Seat.release?_eq_some_iff.1 back
      exact .inl ⟨rfl, turnover_releaseSeat there reserved mine⟩
  | stock =>
    dsimp only
    cases back : (l.sections.get? t.category).bind
        fun s => s.pool.giveBack? t.hold s.category.total with
    | none =>
      exact .inr ⟨rfl, after_eq_self_of_pool (c := .returnStock t.category t.hold)
        (fun _ _ => rfl) (fun _ _ _ => rfl) back⟩
    | some q =>
      obtain ⟨s, found, back⟩ := Option.bind_eq_some_iff.1 back
      obtain ⟨h, there, waiting, -⟩ := Pool.giveBack?_eq_some_iff.1 back
      exact .inl ⟨rfl, turnover_returnStock found there waiting⟩

/-- What a token holds is bought, or the hold has nothing to buy and nothing changes. -/
theorem sell_cases (l : MemoryLedger) (t : Token) (now : Instant) :
    (l.settles t now = true ∧ l.Turnover (l.after (t.sell now)) t.unit.kind 0 0 1) ∨
    (l.settles t now = false ∧ l.after (t.sell now) = l) := by
  unfold settles Token.sell
  cases t.unit with
  | seat id label =>
    dsimp only
    cases sold : (l.seat? t.category label).bind fun s => s.sell? t.hold now with
    | none => exact .inr ⟨rfl, after_sellSeat_eq_self sold⟩
    | some next =>
      obtain ⟨seat, there, sale⟩ := Option.bind_eq_some_iff.1 sold
      exact .inl ⟨rfl, turnover_sellSeat there (Seat.sell?_eq_some_iff.1 sale).1⟩
  | stock =>
    dsimp only
    cases sold : (l.sections.get? t.category).bind fun s => s.pool.settle? t.hold now with
    | none => exact .inr ⟨rfl, after_settleStock_eq_self sold⟩
    | some q =>
      obtain ⟨s, found, sale⟩ := Option.bind_eq_some_iff.1 sold
      obtain ⟨h, there, live, -⟩ := Pool.settle?_eq_some_iff.1 sale
      exact .inl ⟨rfl, turnover_settleStock found there live⟩

/-! ### Sweeps -/

/-- A reserved seat stays reserved in a sweep, or it is lapsed and becomes free. -/
theorem countP_freed (seats : List Seat) (now : Instant) :
    ((seats.map fun s => if s.isLapsed now then s.free else s).countP
        fun s => s.status == .reserved) + (seats.countP fun s => s.isLapsed now) =
      seats.countP fun s => s.status == .reserved := by
  induction seats with
  | nil => rfl
  | cons s seats ih =>
    simp only [List.map_cons, List.countP_cons]
    by_cases lapsed : s.isLapsed now
    · have reserved : s.status = .reserved := (Seat.isLapsed_iff.1 lapsed).1
      have free : s.free.status = .available := rfl
      simp only [lapsed, if_true, reserved, free, beq_self_eq_true]
      simp only [beq_iff_eq, reduceCtorEq, if_false] at ih ⊢
      omega
    · rw [if_neg lapsed, if_neg lapsed]
      omega

/-- A sold seat stays sold in a sweep, and no other becomes so. -/
theorem countP_freed_sold (seats : List Seat) (now : Instant) :
    ((seats.map fun s => if s.isLapsed now then s.free else s).countP fun s => s.status == .sold) =
      seats.countP fun s => s.status == .sold := by
  rw [List.countP_map]
  refine List.countP_congr fun s _ => ?_
  rw [Function.comp_apply]
  by_cases lapsed : s.isLapsed now
  · rw [if_pos lapsed]
    simp [(Seat.isLapsed_iff.1 lapsed).1, Seat.free]
  · rw [if_neg lapsed]

theorem values_seats_reclaim (s : Section) (id : CategoryId) (now : Instant) :
    (s.after id (.reclaim now)).seats.values =
      s.seats.values.map fun seat => if seat.isLapsed now then seat.free else seat :=
  Registry.values_mapValues s.seats fun seat => if seat.isLapsed now then seat.free else seat

/-- A sweep lets go what lapsed holds keep. -/
theorem held_reclaim (l : MemoryLedger) (now : Instant) (kind : UnitKind) :
    (l.after (.reclaim now)).held kind + l.lapsed now kind = l.held kind := by
  cases kind with
  | seat =>
    refine Registry.sum_mapEntries_add fun id s _ => ?_
    rw [values_seats_reclaim]
    exact countP_freed s.seats.values now
  | stock =>
    refine Registry.sum_mapEntries_add fun id s _ => ?_
    exact s.pool.countState_reclaim_held now s.category.total

/-- A sweep leaves what is sold alone. -/
theorem sold_reclaim (l : MemoryLedger) (now : Instant) (kind : UnitKind) :
    (l.after (.reclaim now)).sold kind = l.sold kind := by
  cases kind with
  | seat =>
    refine Registry.sum_mapEntries_of_same fun id s _ => ?_
    rw [values_seats_reclaim]
    exact countP_freed_sold s.seats.values now
  | stock =>
    refine Registry.sum_mapEntries_of_same fun id s _ => ?_
    exact s.pool.countState_reclaim_confirmed now s.category.total

/-- There are no more categories than identifiers. -/
theorem length_sections_le (l : MemoryLedger) : l.sections.values.length ≤ 2 ^ 32 := by
  have distinct : (l.sections.entries.map fun e => e.1.value.toBitVec.toFin).Nodup := by
    have keys : (l.sections.entries.map Prod.fst).Nodup := l.sections.distinct
    have numbers : Function.Injective fun id : CategoryId => id.value.toBitVec.toFin := by
      rintro ⟨id⟩ ⟨id'⟩ same
      exact congrArg CategoryId.mk (Int32.toBitVec_inj.1 (BitVec.toFin_inj.1 same))
    simpa [List.map_map, Function.comp_def] using keys.map numbers
  have le := distinct.length_le_card
  simpa [Registry.values] using le

/-- What is counted in each section, at most once for each unit, is not too much for a report. -/
theorem sum_lt_of_le_total {g : Section → Nat}
    (each : ∀ id s, l.sections.get? id = some s → g s ≤ s.category.total.toNat) :
    (l.sections.values.map g).sum < UInt64.size := by
  have small : ∀ n ∈ l.sections.values.map g, n ≤ 2 ^ 32 - 1 := by
    intro n mem
    obtain ⟨s, there, rfl⟩ := List.mem_map.1 mem
    obtain ⟨id, found⟩ := Registry.mem_values.1 there
    have := each id s found
    have := s.category.total.toNat_lt
    omega
  have sum_le := List.sum_le_card_nsmul _ _ small
  have few := l.length_sections_le
  rw [List.length_map, nsmul_eq_mul, Nat.cast_id] at sum_le
  have : l.sections.values.length * (2 ^ 32 - 1) ≤ 2 ^ 32 * (2 ^ 32 - 1) :=
    Nat.mul_le_mul_right _ few
  have size : UInt64.size = 2 ^ 64 := rfl
  omega

end MemoryLedger

/-- The reports of the sections are added up. -/
theorem foldl_reports (sections : List Section) (now : Instant) (start : SweepReport) :
    (sections.map fun s => s.reclaimable now).foldl (· + ·) start =
      { seats := start.seats + .ofNat (sections.map fun s => s.lapsedSeats now).sum
        stock := start.stock + .ofNat (sections.map fun s => s.pool.lapsed now).sum } := by
  induction sections generalizing start with
  | nil => simp
  | cons s sections ih =>
    rw [List.map_cons, List.foldl_cons, ih]
    have seats : (start + s.reclaimable now).seats = start.seats + .ofNat (s.lapsedSeats now) := rfl
    have stock : (start + s.reclaimable now).stock = start.stock + .ofNat (s.pool.lapsed now) := rfl
    simp only [seats, stock, List.map_cons, List.sum_cons, UInt64.ofNat_add, UInt64.add_assoc]

/-- What a report says of the units of a kind. -/
def SweepReport.units (r : SweepReport) : UnitKind → UInt64
  | .seat => r.seats
  | .stock => r.stock

/-- A sweep reports as many units as it lets go. -/
theorem MemoryLedger.toNat_reported {l : MemoryLedger} (reach : l.Reachable) (now : Instant)
    (kind : UnitKind) : ((l.reclaim now).1.units kind).toNat = l.lapsed now kind := by
  have report : (l.reclaim now).1 = (l.sections.values.map fun s => s.reclaimable now).foldl
    (· + ·) .empty := rfl
  rw [report, foldl_reports]
  cases kind with
  | seat =>
    have small := sum_lt_of_le_total (l := l) (g := fun s => s.lapsedSeats now) fun id s there => ?_
    · simp only [SweepReport.units, SweepReport.empty, UInt64.zero_add]
      exact UInt64.toNat_ofNat_of_lt' small
    · have few : s.lapsedSeats now ≤ s.seats.size := by
        have le := List.countP_le_length (p := fun seat : Seat => seat.isLapsed now)
          (l := s.seats.values)
        simpa [Section.lapsedSeats, Registry.size, Registry.values] using le
      rcases (reach.sound there).kinds with ⟨-, -, size, -⟩ | ⟨-, -, none, -⟩
      · omega
      · rw [none] at few
        exact few.trans (Nat.zero_le _)
  | stock =>
    have small := sum_lt_of_le_total (l := l) (g := fun s => s.pool.lapsed now) fun id s there => ?_
    · simp only [SweepReport.units, SweepReport.empty, UInt64.zero_add]
      exact UInt64.toNat_ofNat_of_lt' small
    · have fits := (reach.sound there).fits
      have le := s.pool.available_add_lapsed_le_units now
      omega

end BoxOffice
