import BoxOffice.Proofs.Ledger.Held

/-!
# What snapshots show

A snapshot of a category is made of a few counts. Of a pool it shows how many places are left or kept
by lapsed holds, how many are kept by live holds and how many are sold; `Pool.Shifts` says how many
places go from the first number to the second, and a place that goes back undoes that. Two ledgers
whose counts agree at a time look alike then (`LooksLike`). So does a ledger after a sweep
(`looksLike_reclaim`), after a unit was reserved and given back (`looksLike_releaseSeat`,
`looksLike_returnStock`), and after the expiry of a unit that was reserved and not given back
(`looksLike_reserveSeat`, `looksLike_takeStock`).
-/

namespace BoxOffice

/-- Values that are changed one by one count the same if each of them does. -/
theorem Registry.countP_mapEntries {κ α β : Type} [DecidableEq κ] {r : Registry κ α} {f : κ → α → β}
    {p : α → Bool} {q : β → Bool} (h : ∀ key a, r.get? key = some a → q (f key a) = p a) :
    (r.mapEntries f).values.countP q = r.values.countP p := by
  have values : (r.mapEntries f).values = r.entries.map fun e => f e.1 e.2 := by
    simp [Registry.values, Registry.mapEntries, List.map_map, Function.comp_def]
  rw [values, Registry.values, List.countP_map, List.countP_map]
  refine List.countP_congr fun e mem => ?_
  simp [h e.1 e.2 (Registry.get?_of_mem mem)]

/-! ### Pools -/

namespace Pool

/-- Between two pools, a snapshot at a time sees a number of places go from those that are left to
those that live holds keep. -/
structure Shifts (p q : Pool) (time : Instant) (places : Nat) : Prop where
  left : q.available.toNat + q.lapsed time + places = p.available.toNat + p.lapsed time
  live : q.countState .held - q.lapsed time = p.countState .held - p.lapsed time + places
  sold : q.countState .confirmed = p.countState .confirmed

variable {p q r : Pool} {time : Instant} {places : Nat}

theorem Shifts.refl (p : Pool) (time : Instant) : p.Shifts p time 0 :=
  ⟨rfl, rfl, rfl⟩

/-- What went and came back did not go. -/
theorem Shifts.undone (h : p.Shifts q time places) (back : r.Shifts q time places) :
    p.Shifts r time 0 := by
  obtain ⟨left, live, sold⟩ := h
  obtain ⟨left', live', sold'⟩ := back
  exact ⟨by omega, by omega, sold'.symm.trans sold⟩

theorem lapsed_changeHold {hold : HoldId} {h : StockHold} (there : p.holds.get? hold = some h)
    (change : StockHold → StockHold) (time : Instant) :
    (p.changeHold hold change).lapsed time + (if h.isLapsed time then 1 else 0) =
      p.lapsed time + if (change h).isLapsed time then 1 else 0 :=
  Registry.countP_modify there change fun h => h.isLapsed time

theorem lapsed_set {hold : HoldId}
    (gone : ∀ h, p.holds.get? hold = some h → h.isLapsed time = false) (h : StockHold)
    (available : UInt32) :
    lapsed { available, holds := p.holds.set hold h } time =
      p.lapsed time + if h.isLapsed time then 1 else 0 :=
  Registry.countP_set (p := fun h : StockHold => h.isLapsed time) gone h

/-- A place that a hold takes is kept by it while it is live. -/
theorem shifts_take {category : CategoryId} {hold : HoldId} {now last : Instant} {h : StockHold}
    (taken : (p.take category hold now last).1 = .taken h) (later : now ≤ time) :
    p.Shifts (p.take category hold now last).2 time (if h.isLive time then 1 else 0) := by
  rcases p.take_cases category hold now last with
    ⟨_, -, -, e⟩ | ⟨h₀, there, lapsed, e⟩ | ⟨gone, ⟨-, e⟩ | ⟨some_left, e⟩⟩ <;> rw [e] at taken ⊢
  · cases taken
  -- a lapsed hold is renewed: its place was as good as left, and is kept now
  · cases taken
    obtain ⟨held, past⟩ := StockHold.isLapsed_iff.1 lapsed
    have before : h₀.isLapsed time := by
      simp only [StockHold.isLapsed_iff, held, true_and, Instant.lt_def, Instant.le_def] at *
      omega
    have lapses := lapsed_changeHold there (fun h => { h with expiresAt := last }) time
    have holds := countState_changeHold there (fun h => { h with expiresAt := last }) .held
    have sold := countState_changeHold there (fun h => { h with expiresAt := last }) .confirmed
    have split := lapsed_add_live (h := { h₀ with expiresAt := last }) held time
    have most := p.lapsed_le_held time
    have left : (p.changeHold hold fun h => { h with expiresAt := last }).available = p.available :=
      rfl
    simp only [before, if_true] at lapses
    dsimp only at holds sold
    refine ⟨?_, ?_, ?_⟩ <;> dsimp only
    · rw [left]
      omega
    · omega
    · omega
  · cases taken
  -- a place that was left is kept now
  · cases taken
    have gone_from {state : HoldState} (kept : state = .held ∨ state = .confirmed) :
        ∀ h, p.holds.get? hold = some h → h.state ≠ state := by
      intro h there
      rcases gone h there with e | e <;> rcases kept with rfl | rfl <;> simp [e]
    have unlapsed : ∀ h, p.holds.get? hold = some h → h.isLapsed time = false := by
      intro h there
      rcases gone h there with e | e <;> simp [StockHold.isLapsed, e]
    have lapses := lapsed_set unlapsed
      { hold, category, state := .held, expiresAt := last } (p.available - 1)
    have holds := countState_set .held (gone_from (.inl rfl))
      { hold, category, state := .held, expiresAt := last } (p.available - 1)
    have sold := countState_set .confirmed (gone_from (.inr rfl))
      { hold, category, state := .held, expiresAt := last } (p.available - 1)
    have split := lapsed_add_live
      (h := { hold, category, state := .held, expiresAt := last }) rfl time
    have left := available_sub_one some_left
    have most := p.lapsed_le_held time
    simp only [if_true, reduceCtorEq, if_false] at holds sold
    refine ⟨?_, ?_, ?_⟩ <;> dsimp only
    · omega
    · omega
    · omega

/-- Within the capacity, a held place that is given back is left again. -/
theorem shifts_giveBack {total : UInt32} (fits : p.units ≤ total.toNat) {hold : HoldId}
    (back : p.giveBack? hold total = some q) {h : StockHold} (there : p.holds.get? hold = some h)
    (time : Instant) : q.Shifts p time (if h.isLive time then 1 else 0) := by
  have left := available_giveBack fits back
  obtain ⟨h₀, there', held, rfl⟩ := giveBack?_eq_some_iff.1 back
  obtain rfl : h = h₀ := Option.some.inj (there.symm.trans there')
  have lapses := lapsed_changeHold there (fun h => { h with state := .released }) time
  have holds := countState_changeHold there (fun h => { h with state := .released }) .held
  have sold := countState_changeHold there (fun h => { h with state := .released }) .confirmed
  have split := lapsed_add_live held time
  have most := (p.changeHold hold fun h => { h with state := .released }).lapsed_le_held time
  have unseen : ({ h with state := .released } : StockHold).isLapsed time = false := by
    simp [StockHold.isLapsed]
  have same : ∀ places,
      ((p.changeHold hold fun h => { h with state := .released }).putBack places total).lapsed time =
        (p.changeHold hold fun h => { h with state := .released }).lapsed time := fun _ => rfl
  simp only [held, unseen, if_true, reduceCtorEq, Bool.false_eq_true, if_false] at lapses holds sold
  refine ⟨?_, ?_, ?_⟩ <;> simp only [countState_putBack, same]
  · omega
  · omega
  · omega

/-- A sweep makes room of what lapsed holds keep, and a snapshot counts that as room before. -/
theorem shifts_reclaim {total : UInt32} (fits : p.units ≤ total.toNat) (time : Instant) :
    p.Shifts (p.reclaim time total) time 0 := by
  have left := available_reclaim fits time
  have held := p.countState_reclaim_held time total
  have none := p.lapsed_reclaim time total
  exact ⟨by omega, by omega, p.countState_reclaim_confirmed time total⟩

end Pool

/-! ### Seats -/

namespace Seat

/-- A snapshot at a time does not tell the two seats apart. -/
structure Alike (s t : Seat) (time : Instant) : Prop where
  claimable : t.isClaimable time = s.isClaimable time
  sold : (t.status == .sold) = (s.status == .sold)

variable {s t : Seat} {now time : Instant}

theorem Alike.refl (s : Seat) (time : Instant) : s.Alike s time :=
  ⟨rfl, rfl⟩

/-- Seats that may be claimed look all the same. -/
theorem alike_of_claimable (h : s.isClaimable time) (h' : t.isClaimable time) :
    s.Alike t time where
  claimable := h'.trans h.symm
  sold := by
    have unsold {s : Seat} (h : s.isClaimable time) : (s.status == .sold) = false := by
      rcases isClaimable_iff.1 h with free | ⟨reserved, -⟩
      · rw [free]
        rfl
      · rw [reserved]
        rfl
    rw [unsold h, unsold h']

/-- A seat that may be claimed stays so as time goes on. -/
theorem isClaimable_later (claimable : s.isClaimable now) (later : now ≤ time) :
    s.isClaimable time := by
  rcases isClaimable_iff.1 claimable with free | ⟨reserved, past⟩
  · exact isClaimable_iff.2 (.inl free)
  · refine isClaimable_iff.2 (.inr ⟨reserved, fun last until_last => ?_⟩)
    have := past last until_last
    simp only [Instant.lt_def, Instant.le_def] at *
    omega

theorem isClaimable_free (s : Seat) (time : Instant) : s.free.isClaimable time := rfl

theorem isClaimable_reserve (s : Seat) (hold : HoldId) {last : Instant} (past : last < time) :
    (s.reserve hold last).isClaimable time := by
  simp [isClaimable, reserve, past]

theorem isClaimable_of_lapsed (lapsed : s.isLapsed time) : s.isClaimable time := by
  obtain ⟨reserved, last, until_last, past⟩ := isLapsed_iff.1 lapsed
  simp [isClaimable, reserved, until_last, past]

/-- A seat that is claimed and not given back may be claimed again after the expiry. -/
theorem alike_reserveSeat (s : Seat) (id : CategoryId) (label : String) {claim : SeatClaim}
    (later : claim.now ≤ time) (past : claim.expiresAt < time) :
    s.Alike (s.after id label (.reserveSeat claim)) time := by
  rcases s.after_cases id label (.reserveSeat claim) with
    e | ⟨_, ⟨⟩, -, -, claimable, e⟩ | ⟨_, ⟨⟩, -⟩ | ⟨_, _, ⟨⟩, -⟩ | ⟨_, ⟨⟩, -⟩ <;> rw [e]
  · exact .refl s time
  · exact alike_of_claimable (isClaimable_later claimable later)
      (s.isClaimable_reserve claim.hold past)

theorem alike_reclaim (s : Seat) (id : CategoryId) (label : String) (time : Instant) :
    s.Alike (s.after id label (.reclaim time)) time := by
  simp only [after]
  split
  · next lapsed => exact alike_of_claimable (isClaimable_of_lapsed lapsed) (s.isClaimable_free time)
  · exact .refl s time

/-- A claim and its return leave a seat as it is, or free where it could be claimed. -/
theorem alike_releaseSeat (s : Seat) (id : CategoryId) (label : String) {claim : SeatClaim}
    (later : claim.now ≤ time)
    (claimable : id = claim.category → label = claim.label → s.isClaimable claim.now) :
    s.Alike ((s.after id label (.reserveSeat claim)).after id label
      (.releaseSeat claim.category claim.label claim.hold)) time := by
  by_cases here : id = claim.category ∧ label = claim.label
  · have claimable := claimable here.1 here.2
    have claimed : s.claim? claim = some (s.reserve claim.hold claim.expiresAt) :=
      claim?_eq_some_iff.2 ⟨claimable, rfl⟩
    have released : (s.reserve claim.hold claim.expiresAt).release? claim.hold =
        some (s.reserve claim.hold claim.expiresAt).free := release?_eq_some_iff.2 ⟨rfl, rfl, rfl⟩
    simp only [after, here, and_self, if_true, claimed, Option.getD_some, released]
    exact alike_of_claimable (isClaimable_later claimable later) (isClaimable_free _ time)
  · simp only [after, here, if_false]
    exact .refl s time

end Seat

/-! ### Sections -/

namespace Section

/-- Snapshots of two sections at a time are made of the same counts. -/
structure Alike (s t : Section) (time : Instant) : Prop where
  category : t.category = s.category
  size : t.seats.size = s.seats.size
  claimable : t.claimable time = s.claimable time
  sold : t.soldSeats = s.soldSeats
  pool : s.pool.Shifts t.pool time 0

variable {s t : Section} {time : Instant}

theorem Alike.availability_eq (h : s.Alike t time) : t.availability time = s.availability time := by
  obtain ⟨left, live, sold⟩ := h.pool
  have places : t.pool.available + UInt32.ofNat (t.pool.lapsed time) =
      s.pool.available + UInt32.ofNat (s.pool.lapsed time) := by
    rw [← UInt32.toNat_inj]
    simp only [UInt32.toNat_add, UInt32.toNat_ofNat']
    omega
  simp only [availability, h.category, h.size, h.claimable, h.sold, places, live, sold,
    Nat.add_zero]

/-- Sections are alike if one has the seats of the other, each changed into one that looks like it,
and their pools are alike. -/
theorem alike_of_seats {f : String → Seat → Seat} (category : t.category = s.category)
    (seats : t.seats.entries = s.seats.entries.map fun e => (e.1, f e.1 e.2))
    (alike : ∀ label seat, s.seats.get? label = some seat → seat.Alike (f label seat) time)
    (pool : s.pool.Shifts t.pool time 0) : s.Alike t time := by
  have changed : t.seats = s.seats.mapEntries f := Registry.ext_entries seats
  refine ⟨category, ?_, ?_, ?_, pool⟩
  · simp [changed, Registry.size, Registry.mapEntries]
  · rw [claimable, changed]
    exact Registry.countP_mapEntries fun label seat there => (alike label seat there).claimable
  · rw [soldSeats, changed]
    exact Registry.countP_mapEntries fun label seat there => (alike label seat there).sold

end Section

/-! ### Ledgers -/

namespace MemoryLedger

/-- At a time, snapshots do not tell the two ledgers apart. -/
def LooksLike (l' l : MemoryLedger) (time : Instant) : Prop :=
  ∀ id, (l'.answer (.availability id time)).1 = (l.answer (.availability id time)).1

variable {l l' l'' : MemoryLedger} {time : Instant}

theorem LooksLike.refl (l : MemoryLedger) (time : Instant) : l.LooksLike l time :=
  fun _ => rfl

theorem LooksLike.symm (h : l'.LooksLike l time) : l.LooksLike l' time :=
  fun id => (h id).symm

theorem LooksLike.trans (h : l''.LooksLike l' time) (h' : l'.LooksLike l time) :
    l''.LooksLike l time :=
  fun id => (h id).trans (h' id)

theorem looksLike_of_alike {f : CategoryId → Section → Section}
    (sections : ∀ id, l'.sections.get? id = (l.sections.get? id).map (f id))
    (alike : ∀ id s, l.sections.get? id = some s → s.Alike (f id s) time) :
    l'.LooksLike l time := by
  intro id
  simp only [answer, sections]
  cases there : l.sections.get? id with
  | none => rfl
  | some s => simp [(alike id s there).availability_eq]

theorem get?_after_after (l : MemoryLedger) (c d : Ledger.Call) (id : CategoryId) :
    ((l.after c).after d).sections.get? id =
      (l.sections.get? id).map fun s => (s.after id c).after id d := by
  rw [get?_after, get?_after, Option.map_map]
  rfl

/-- **No snapshot tells whether lapsed holds were swept.** -/
theorem Reachable.looksLike_reclaim (reach : l.Reachable) (time : Instant) :
    (l.after (.reclaim time)).LooksLike l time :=
  looksLike_of_alike (l.get?_after _) fun id _ there =>
    Section.alike_of_seats rfl rfl (fun label seat _ => seat.alike_reclaim id label time)
      (Pool.shifts_reclaim (reach.sound there).fits time)

section Seat

variable (claim : SeatClaim) (later : claim.now ≤ time)

include later

/-- A seat that was claimed and is not given back looks unclaimed after the expiry. -/
theorem looksLike_reserveSeat (past : claim.expiresAt < time) :
    (l.after (.reserveSeat claim)).LooksLike l time :=
  looksLike_of_alike (l.get?_after _) fun id _ _ =>
    Section.alike_of_seats rfl rfl
      (fun label seat _ => seat.alike_reserveSeat id label later past) (.refl _ _)

/-- A seat that was claimed and given back looks as it did. -/
theorem looksLike_releaseSeat
    (claimable : ∀ s, l.seat? claim.category claim.label = some s → s.isClaimable claim.now) :
    ((l.after (.reserveSeat claim)).after
      (.releaseSeat claim.category claim.label claim.hold)).LooksLike l time := by
  refine looksLike_of_alike (l.get?_after_after _ _) fun id s there => ?_
  refine Section.alike_of_seats (f := fun label seat =>
    (seat.after id label (.reserveSeat claim)).after id label
      (.releaseSeat claim.category claim.label claim.hold)) rfl ?_ (fun label seat on_seat => ?_)
    (.refl _ _)
  · exact List.map_map
  · refine seat.alike_releaseSeat id label later ?_
    rintro rfl rfl
    exact claimable seat (Option.bind_eq_some_iff.2 ⟨s, there, on_seat⟩)

end Seat

section Place

variable {id : CategoryId} {hold : HoldId} {now last : Instant} {s : Section} {h : StockHold}
  (there : l.sections.get? id = some s) (taken : (s.pool.take id hold now last).1 = .taken h)
  (later : now ≤ time)

include there taken later

/-- A place that was taken and is not given back looks untaken after the expiry. -/
theorem looksLike_takeStock (past : last < time) :
    (l.after (.takeStock id hold now last)).LooksLike l time := by
  refine looksLike_of_alike (l.get?_after _) fun id' s' there' => ?_
  refine Section.alike_of_seats (f := fun _ seat => seat) rfl rfl (fun _ _ _ => .refl _ _) ?_
  show s'.pool.Shifts (if id' = id then (s'.pool.take id' hold now last).2 else s'.pool) time 0
  split
  · next here =>
    subst here
    obtain rfl := Option.some.inj (there.symm.trans there')
    have shifts := Pool.shifts_take taken later
    obtain ⟨-, -, until_last⟩ := Pool.take_taken taken
    have ended : h.isLive time = false := by
      simp [StockHold.isLive, until_last, Instant.not_le.2 past]
    simpa [ended] using shifts
  · exact .refl _ _

/-- A place that was taken and given back looks as it did. -/
theorem Reachable.looksLike_returnStock (reach : l.Reachable) :
    ((l.after (.takeStock id hold now last)).after (.returnStock id hold)).LooksLike l time := by
  refine looksLike_of_alike (l.get?_after_after _ _) fun id' s' there' => ?_
  refine Section.alike_of_seats (f := fun _ seat => seat) rfl ?_ (fun _ _ _ => .refl _ _) ?_
  · exact List.map_map
  show s'.pool.Shifts ((s'.pool.after id' s'.category.total (.takeStock id hold now last)).after id'
    s'.category.total (.returnStock id hold)) time 0
  by_cases here : id' = id
  · subst here
    obtain rfl := Option.some.inj (there.symm.trans there')
    obtain ⟨mine, held, -⟩ := Pool.take_taken taken
    have fits : (s.pool.take id' hold now last).2.units ≤ s.category.total.toNat := by
      rw [Pool.units_take]
      exact (reach.sound there).fits
    have back : (s.pool.take id' hold now last).2.giveBack? hold s.category.total = some _ :=
      Pool.giveBack?_eq_some_iff.2 ⟨h, mine, held, rfl⟩
    simp only [Pool.after, if_true, back, Option.getD_some]
    exact (Pool.shifts_take taken later).undone (Pool.shifts_giveBack fits back mine time)
  · simp only [Pool.after, here, if_false]
    exact .refl _ _

end Place

end MemoryLedger

end BoxOffice
