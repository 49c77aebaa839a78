import BoxOffice.Proofs.Database.Mirror

/-!
# Statements that change mirroring tables

Each statement that changes tables that mirror a ledger, and what it leaves behind: a seat is changed
(`changeSeat_eq`), a hold is changed (`changeHold_eq`) or made, places are taken from a category or put
back. Which call of the ledger does the same is for the statement's user to say, seat by seat and pool
by pool.
-/

namespace BoxOffice

open MemoryLedger

variable {l : MemoryLedger} {t : Tables} {c : Ledger.Call}

/-! ### Parts that a call leaves alone -/

theorem SeatsMirror.after_of_eq {rows : List SeatRow} (h : SeatsMirror l rows)
    (seats : ∀ id label (s : Seat), s.after id label c = s) : SeatsMirror (l.after c) rows := by
  have same := h.after (c := c) (g := id) (fun _ => rfl) (fun _ => rfl) fun id label s _ => by
    rw [seats, id_eq]
  rwa [List.map_id] at same

theorem HoldsMirror.after_of_eq {rows : List HoldRow} (h : HoldsMirror l rows)
    (pools : ∀ id s, l.sections.get? id = some s →
      (s.pool.after id s.category.total c).holds = s.pool.holds) : HoldsMirror (l.after c) rows := by
  have same := h.after (c := c) (g := id) (fun _ => rfl) fun id s there => by
    rw [pools id s there]
    rfl
  rwa [List.map_id] at same

theorem MemoryLedger.categoryRows_after_of_eq
    (pools : ∀ id s, l.sections.get? id = some s →
      (s.pool.after id s.category.total c).available = s.pool.available) :
    (l.after c).categoryRows = l.categoryRows := by
  have same := categoryRows_after (l := l) (c := c) (g := id) fun id s there => by
    rw [id_eq, Section.current, Section.current, Section.after_category, Section.after_pool,
      pools id s there]
  rwa [List.map_id, eq_comm] at same

/-! ### One row that is changed -/

section One

variable {ρ σ : Type} {write : σ → ρ} {x : σ} {x? : Option σ} {cond here : Prop} [Decidable cond]
  [Decidable here] {changed : ρ}

/-- A row that is changed where it should be, and on a condition. -/
theorem write_getD (agreed : x?.map write = if cond then some changed else none) :
    (if here ∧ cond then changed else write x) = write (if here then x?.getD x else x) := by
  by_cases at_key : here
  · by_cases holds : cond
    · rw [if_pos holds] at agreed
      obtain ⟨x', rfl, written⟩ := Option.map_eq_some_iff.1 agreed
      rw [if_pos ⟨at_key, holds⟩, if_pos at_key, Option.getD_some, written]
    · rw [if_neg holds, Option.map_eq_none_iff] at agreed
      rw [if_neg fun both => holds both.2, if_pos at_key, agreed, Option.getD_none]
  · rw [if_neg fun both => at_key both.1, if_neg at_key]

/-- The rows that are given for it. -/
theorem filter_map_singleton {row : ρ} {p : ρ → Prop} [DecidablePred p] {change : ρ → ρ}
    (agreed : x?.map write = if p row then some (change row) else none) :
    ([row].filter p).map change = x?.toList.map write := by
  by_cases holds : p row
  · rw [if_pos holds] at agreed
    obtain ⟨x', rfl, written⟩ := Option.map_eq_some_iff.1 agreed
    simp [holds, written]
  · rw [if_neg holds, Option.map_eq_none_iff] at agreed
    simp [holds, agreed]

end One

namespace Tables

/-! ### Seats -/

theorem changeSeats_eq (ok : l.Storable) (ids : t.categories.map CategoryRow.id = l.ids)
    (h : SeatsMirror l t.seats) (picks : SeatRow → Bool) (change : SeatRow → SeatRow)
    (blind : ∀ row, picks row.unnumbered = picks row ∧ (change row).unnumbered = change row.unnumbered)
    (stays : ∀ row, (change row).category = row.category)
    (agree : ∀ id label s, l.seat? id label = some s →
      (if picks (.write s) then change (.write s) else .write s) = .write (s.after id label c)) :
    t.changeSeats picks change =
        .ok (updated t.seats picks change, { t with seats := update t.seats picks change }) ∧
      SeatsMirror (l.after c) (update t.seats picks change) := by
  have mirrors : SeatsMirror (l.after c) (update t.seats picks change) := by
    refine h.after (fun row => ?_) (fun row => ?_) agree
    · split
      · exact stays row
      · rfl
    · rw [(blind row).1]
      split
      · exact (blind row).2
      · rfl
  refine ⟨?_, mirrors⟩
  rw [changeSeats, putSeats_eq (ok.after c) (ids.trans (ids_after c).symm) mirrors]
  rfl

/-- A condition on rows and a change of them do what a conditional change does to the seats that they
were written for, whatever their numbers. -/
structure ChangesAs (cond : SeatRow → Prop) [DecidablePred cond] (change : SeatRow → SeatRow)
    (change? : Seat → Option Seat) : Prop where
  blind : ∀ row, (cond row.unnumbered ↔ cond row) ∧ (change row).unnumbered = change row.unnumbered
  stays : ∀ row, (change row).category = row.category
  agree : ∀ s : Seat, s.WellFormed → (change? s).map SeatRow.write =
    if cond (.write s) then some (change (.write s)) else none

section Seats

variable {cond : SeatRow → Prop} [DecidablePred cond] {change : SeatRow → SeatRow}
  {change? : Seat → Option Seat} {category : CategoryId} {name : String}

/-- What is made of the row with a label stands for what is made of the seat. -/
theorem updated_isSeat (h : SeatsMirror l t.seats) (reach : l.Reachable)
    (as : ChangesAs cond change change?) :
    (updated t.seats (fun row => isSeat category name row ∧ cond row) change).map
        SeatRow.unnumbered =
      ((l.seat? category name).bind change?).toList.map fun s => (SeatRow.write s).unnumbered := by
  have parts : (fun row => decide (isSeat category name row = true ∧ cond row)) = fun row =>
      ((fun row => decide (cond row)) ∘ SeatRow.unnumbered) row && isSeat category name row :=
    funext fun row => by simp [(as.blind row).1, Bool.and_comm]
  have blind : SeatRow.unnumbered ∘ change = change ∘ SeatRow.unnumbered :=
    funext fun row => (as.blind row).2
  rw [updated, parts, ← List.filter_filter, List.map_map, blind, ← List.map_map, ← List.filter_map,
    h.filter_isSeat reach category name]
  cases found : l.seat? category name with
  | none => rfl
  | some s =>
    have agreed := congrArg (Option.map SeatRow.unnumbered)
      (as.agree s (reach.seat found).2.2)
    rw [Option.map_map, Option.map_if, (as.blind _).2] at agreed
    simp only [← (as.blind (.write s)).1] at agreed
    exact filter_map_singleton agreed

/-- A statement changes the seat with a label as a call changes it, and gives a row for the changed
seat, if there is one. -/
theorem changeSeat_eq (m : Mirrors l t) (ok : l.Storable) (category : CategoryId) (name : String)
    (as : ChangesAs cond change change?)
    (seats : ∀ id label (s : Seat), s.after id label c =
      if id = category ∧ label = name then (change? s).getD s else s)
    (pools : ∀ id total (p : Pool), p.after id total c = p) :
    ∃ rows t', t.changeSeats (fun row => isSeat category name row ∧ cond row) change =
        .ok (rows, t') ∧
      rows.map SeatRow.unnumbered =
        ((l.seat? category name).bind change?).toList.map (fun s => (SeatRow.write s).unnumbered) ∧
      Mirrors (l.after c) t' := by
  obtain ⟨changed, mirrors⟩ := changeSeats_eq (c := c) ok (m.ids ok.reach) m.seats
    (fun row => isSeat category name row ∧ cond row) change
    (fun row => ⟨decide_eq_decide.2 (and_congr_right fun _ => (as.blind row).1), (as.blind row).2⟩)
    as.stays fun id label s found => by
      obtain ⟨rfl, rfl, well⟩ := ok.reach.seat found
      simp only [seats, decide_eq_true_eq, SeatRow.isSeat_write]
      exact write_getD (as.agree s well)
  refine ⟨_, _, changed, updated_isSeat m.seats ok.reach as, ?_, mirrors, ?_⟩
  · rw [categoryRows_after_of_eq fun id s _ => by rw [pools], m.categories]
  · exact m.holds.after_of_eq fun id s _ => by rw [pools]

/-- What a claim asks for and does. -/
theorem changesAs_claim (claim : SeatClaim) :
    ChangesAs (fun row => row.status = "AVAILABLE" ∨ seatLapsed claim.now row)
      (fun row => { row with
        status := "RESERVED", reservedUntil := some claim.expiresAt, hold := some claim.hold.value })
      fun s => s.claim? claim where
  blind _ := ⟨Iff.rfl, rfl⟩
  stays _ := rfl
  agree s well := by
    have claimable : ((SeatRow.write s).status = "AVAILABLE" ∨ seatLapsed claim.now (.write s)) ↔
        s.isClaimable claim.now := by
      rw [SeatRow.available_write, SeatRow.seatLapsed_write, well.claimable_iff]
    simp only [claimable, Seat.claim?]
    split <;> rfl

/-- What giving back a seat asks for and does. -/
theorem changesAs_release (hold : HoldId) :
    ChangesAs (fun row => row.status = "RESERVED" ∧ row.hold = some hold.value)
      (fun row => { row with status := "AVAILABLE", reservedUntil := none, hold := none })
      fun s => s.release? hold where
  blind _ := ⟨Iff.rfl, rfl⟩
  stays _ := rfl
  agree s _ := by
    simp only [SeatRow.reserved_write, SeatRow.hold_write, Seat.release?]
    split <;> rfl

/-- What selling a seat asks for and does. -/
theorem changesAs_sell (hold : HoldId) (now : Instant) :
    ChangesAs (fun row => row.hold = some hold.value ∧ seatLive now row)
      (fun row => { row with status := "SOLD", reservedUntil := none })
      fun s => s.sell? hold now where
  blind _ := ⟨Iff.rfl, rfl⟩
  stays _ := rfl
  agree s _ := by
    have held : ((SeatRow.write s).hold = some hold.value ∧ seatLive now (.write s)) ↔
        s.isHeldBy hold now := by
      rw [SeatRow.hold_write, SeatRow.seatLive_write, Seat.isHeldBy_iff, and_left_comm]
    simp only [held, Seat.sell?]
    split <;> rfl

end Seats

/-! ### Holds -/

theorem changeHolds_eq (reach : l.Reachable) (ids : t.categories.map CategoryRow.id = l.ids)
    (h : HoldsMirror l t.holds) (picks : HoldRow → Bool) (change : HoldRow → HoldRow)
    (stays : ∀ row, (change row).category = row.category)
    (agree : ∀ id s, l.sections.get? id = some s →
      (s.pool.after id s.category.total c).holds.values.map HoldRow.write =
        s.pool.holds.values.map fun h => if picks (.write h) then change (.write h) else .write h) :
    t.changeHolds picks change =
        .ok (updated t.holds picks change, { t with holds := update t.holds picks change }) ∧
      HoldsMirror (l.after c) (update t.holds picks change) := by
  have mirrors : HoldsMirror (l.after c) (update t.holds picks change) := by
    refine h.after (fun row => ?_) agree
    split
    · exact stays row
    · rfl
  refine ⟨?_, mirrors⟩
  rw [changeHolds, putHolds_eq (reach.after c) (ids.trans (ids_after c).symm) mirrors]
  rfl

/-- A condition on rows and a change of them do what a conditional change does to the holds that they
were written for. -/
structure HoldChangesAs (cond : HoldRow → Prop) [DecidablePred cond] (change : HoldRow → HoldRow)
    (change? : StockHold → Option StockHold) : Prop where
  stays : ∀ row, (change row).category = row.category
  agree : ∀ h : StockHold, (change? h).map HoldRow.write =
    if cond (.write h) then some (change (.write h)) else none

section Holds

variable {cond : HoldRow → Prop} [DecidablePred cond] {change : HoldRow → HoldRow}
  {change? : StockHold → Option StockHold} {category : CategoryId} {hold : HoldId}

theorem updated_isHold (h : HoldsMirror l t.holds) (reach : l.Reachable)
    (as : HoldChangesAs cond change change?) :
    updated t.holds (fun row => isHold category hold row ∧ cond row) change =
      ((l.stock? category hold).bind change?).toList.map HoldRow.write := by
  have parts : (fun row => decide (isHold category hold row = true ∧ cond row)) = fun row =>
      decide (cond row) && isHold category hold row :=
    funext fun row => by simp [Bool.and_comm]
  rw [updated, parts, ← List.filter_filter, h.filter_isHold reach category hold]
  cases l.stock? category hold with
  | none => rfl
  | some h => exact filter_map_singleton (as.agree h)

/-- A statement changes a hold as a call changes it, and gives the row of the changed hold, if there is
one. -/
theorem changeHold_eq (reach : l.Reachable) (ids : t.categories.map CategoryRow.id = l.ids)
    (h : HoldsMirror l t.holds) (category : CategoryId) (hold : HoldId)
    (as : HoldChangesAs cond change change?)
    (holds : ∀ id s, l.sections.get? id = some s → (s.pool.after id s.category.total c).holds =
      s.pool.holds.mapEntries fun k h =>
        if id = category ∧ k = hold then (change? h).getD h else h) :
    ∃ given rows, t.changeHolds (fun row => isHold category hold row ∧ cond row) change =
        .ok (given, { t with holds := rows }) ∧
      given = ((l.stock? category hold).bind change?).toList.map HoldRow.write ∧
      HoldsMirror (l.after c) rows := by
  obtain ⟨changed, mirrors⟩ := changeHolds_eq (c := c) reach ids h
    (fun row => isHold category hold row ∧ cond row) change as.stays fun id s there => by
      rw [holds id s there]
      simp only [Registry.values, Registry.mapEntries, List.map_map]
      refine List.map_congr_left fun e mem => ?_
      obtain ⟨k, h⟩ := e
      obtain ⟨rfl, rfl⟩ := (reach.sound there).holds k h (Registry.get?_of_mem mem)
      simp only [Function.comp_apply, decide_eq_true_eq, HoldRow.isHold_write]
      exact (write_getD (as.agree h)).symm
  exact ⟨_, _, changed, updated_isHold h reach as, mirrors⟩

theorem HoldChangesAs.of_iff {may : StockHold → Prop} [DecidablePred may] {f : StockHold → StockHold}
    (stays : ∀ row, (change row).category = row.category) (iff : ∀ h, cond (.write h) ↔ may h)
    (written : ∀ h, change (.write h) = .write (f h)) :
    HoldChangesAs cond change fun h => if may h then some (f h) else none where
  stays := stays
  agree h := by
    simp only [iff]
    split
    · rw [Option.map_some, written]
    · rfl

/-- What selling a place asks for and does. -/
theorem holdChangesAs_settle (now : Instant) :
    HoldChangesAs (fun row => holdLive now row) (fun row => { row with state := "CONFIRMED" })
      fun h => if h.isLive now then some { h with state := .confirmed } else none :=
  .of_iff (fun _ => rfl) (fun h => by rw [HoldRow.holdLive_write]) fun _ => rfl

/-- What giving back a place asks for and does. -/
theorem holdChangesAs_return :
    HoldChangesAs (fun row => row.state = "HELD") (fun row => { row with state := "RELEASED" })
      fun h => if h.state = .held then some { h with state := .released } else none :=
  .of_iff (fun _ => rfl) (fun _ => HoldRow.held_write) fun _ => rfl

/-- What renewing a hold asks for and does. -/
theorem holdChangesAs_renew (expiresAt : Instant) :
    HoldChangesAs (fun row => row.state = "HELD") (fun row => { row with expiresAt })
      fun h => if h.state = .held then some { h with expiresAt } else none :=
  .of_iff (fun _ => rfl) (fun _ => HoldRow.held_write) fun _ => rfl

/-- What making anew a hold that was given back asks for and does. -/
theorem holdChangesAs_insert (expiresAt : Instant) :
    HoldChangesAs (fun row => row.state ∈ ["RELEASED", "EXPIRED"])
      (fun row => { row with state := "HELD", expiresAt })
      fun h => if h.state = .released ∨ h.state = .expired then
        some { h with state := .held, expiresAt } else none :=
  .of_iff (fun _ => rfl) (fun _ => HoldRow.free_write) fun _ => rfl

end Holds

end Tables

/-! ### What calls do to the holds of a pool -/

namespace Pool

variable (p : Pool) (id category : CategoryId) (total : UInt32) (hold : HoldId)

/-- A call to one pool changes one of its holds, on a condition, or nothing. -/
theorem holds_after_of_one {c : Ledger.Call} {may : StockHold → Prop} [DecidablePred may]
    {f : StockHold → StockHold} (elsewhere : id ≠ category → (p.after id total c).holds = p.holds)
    (changed : ∀ h, id = category → p.holds.get? hold = some h → may h →
      (p.after id total c).holds = p.holds.modify hold f)
    (unchanged : (∀ h, p.holds.get? hold = some h → ¬ may h) →
      (p.after id total c).holds = p.holds) :
    (p.after id total c).holds = p.holds.mapEntries fun k h =>
      if id = category ∧ k = hold then (if may h then some (f h) else none).getD h else h := by
  by_cases here : id = category
  · simp only [here, true_and]
    by_cases found : ∃ h, p.holds.get? hold = some h ∧ may h
    · obtain ⟨h, there, allowed⟩ := found
      rw [← here, changed h here there allowed]
      exact (Registry.mapEntries_at_of_some there (if_pos allowed)).symm
    · have not : ∀ h, p.holds.get? hold = some h → ¬ may h := fun h there allowed =>
        found ⟨h, there, allowed⟩
      rw [← here, unchanged not]
      refine (Registry.mapEntries_at_of_none (Option.bind_eq_none_iff.2 fun h there => ?_)).symm
      exact if_neg (not h there)
  · rw [elsewhere here]
    simp [here, Registry.mapEntries_eq_self]

theorem holds_after_settleStock (now : Instant) :
    (p.after id total (.settleStock category hold now)).holds = p.holds.mapEntries fun k h =>
      if id = category ∧ k = hold then
        (if h.isLive now then some { h with state := .confirmed } else none).getD h
      else h := by
  refine p.holds_after_of_one id category total hold (fun other => ?_) (fun h here there live => ?_)
    fun not => ?_
  · rw [after, if_neg other]
  · rw [after, if_pos here, settle?_eq_some_iff.2 ⟨h, there, live, rfl⟩]
    rfl
  · cases sold : p.settle? hold now with
    | none => simp [after, sold]
    | some q =>
      obtain ⟨h, there, live, -⟩ := settle?_eq_some_iff.1 sold
      exact absurd live (not h there)

theorem available_after_settleStock (now : Instant) :
    (p.after id total (.settleStock category hold now)).available = p.available := by
  simp only [after]
  split
  · cases sold : p.settle? hold now with
    | none => rfl
    | some q =>
      obtain ⟨h, -, -, rfl⟩ := settle?_eq_some_iff.1 sold
      rfl
  · rfl

theorem holds_after_returnStock :
    (p.after id total (.returnStock category hold)).holds = p.holds.mapEntries fun k h =>
      if id = category ∧ k = hold then
        (if h.state = .held then some { h with state := .released } else none).getD h
      else h := by
  refine p.holds_after_of_one id category total hold (fun other => ?_) (fun h here there held => ?_)
    fun not => ?_
  · rw [after, if_neg other]
  · rw [after, if_pos here, giveBack?_eq_some_iff.2 ⟨h, there, held, rfl⟩]
    rfl
  · cases back : p.giveBack? hold total with
    | none => simp [after, back]
    | some q =>
      obtain ⟨h, there, held, -⟩ := giveBack?_eq_some_iff.1 back
      exact absurd held (not h there)

end Pool

/-! ### Categories -/

/-- Where some places come back to the pool, the category has that many more left, and still no more
than there are. -/
theorem MemoryLedger.Reachable.current_after (reach : l.Reachable) {id : CategoryId} {s : Section}
    (there : l.sections.get? id = some s) {n : Nat}
    (more : (s.pool.after id s.category.total c).available.toNat = s.pool.available.toNat + n) :
    (s.after id c).current = { s.current with
      available := UInt32.ofNat (s.current.available.toNat + n) } ∧
      s.current.available.toNat + n ≤ s.current.total.toNat := by
  have within := (reach.after c).current_le (get?_after_of_some there c)
  rw [UInt32.le_iff_toNat_le] at within
  rcases (reach.sound there).kinds with ⟨-, fixed, -, empty⟩ | ⟨-, flexible, -⟩
  · rw [empty, Pool.after_empty] at more
    obtain rfl : n = 0 := by omega
    rw [Section.current_of_fixed fixed]
    rw [Section.current_of_fixed (s := s.after id c) fixed] at within ⊢
    exact ⟨by simp, within⟩
  · rw [Section.current_of_flexible flexible]
    rw [Section.current_of_flexible (s := s.after id c) flexible] at within ⊢
    simp only [Section.after_category, Section.after_pool, more] at within ⊢
    exact ⟨by rw [← more, UInt32.ofNat_toNat], within⟩

namespace Tables

theorem addPlaces_eq (ok : l.Storable) (same : t.categories = l.categoryRows)
    (places : CategoryRow → Option Nat)
    (agree : ∀ id s, l.sections.get? id = some s →
      (s.pool.after id s.category.total c).available.toNat =
        s.pool.available.toNat + (places (.write s.current)).getD 0) :
    t.addPlaces places = .ok { t with categories := (l.after c).categoryRows } := by
  have small : ¬ ∃ row ∈ t.categories, ∃ n ∈ places row, 2147483647 < row.available.toInt + n := by
    rintro ⟨row, mem, n, put, much⟩
    rw [same] at mem
    obtain ⟨s, on, rfl⟩ := List.mem_map.1 mem
    obtain ⟨id, there⟩ := Registry.mem_values.1 on
    obtain ⟨-, within⟩ := ok.reach.current_after there (agree id s there)
    have fits := ok.fits there
    have total := fits.total
    rw [Option.mem_def.1 put, Option.getD_some] at within
    rw [CategoryRow.toInt_available fits] at much
    omega
  rw [addPlaces, if_neg small, same, categoryRows_after (c := c) fun id s there => ?_,
    putCategories_eq (ok.after c)]
  obtain ⟨current, within⟩ := ok.reach.current_after there (agree id s there)
  have fits := ok.fits there
  have total := fits.total
  rw [current]
  split
  · next none =>
    rw [none, Option.getD_none, Nat.add_zero, UInt32.ofNat_toNat]
  · next n some =>
    rw [some, Option.getD_some] at within ⊢
    have more : (UInt32.ofNat (s.current.available.toNat + n)).toNat =
        s.current.available.toNat + n := UInt32.toNat_ofNat_of_lt' (by simp [UInt32.size]; omega)
    rw [CategoryRow.toInt_available fits, CategoryRow.toInt_total fits, Int.min_eq_left (by omega)]
    simp only [CategoryRow.write, more]
    push_cast
    rfl

section TakePlace

variable {category : CategoryId} {s : Section}

/-- A category has places left when its pool has. -/
theorem available_write_iff (ok : l.Storable) (there : l.sections.get? category = some s)
    (flexible : s.category.tracking = .flexible) :
    0 < (CategoryRow.write s.current).available.toInt ↔ s.pool.available ≠ 0 := by
  rw [CategoryRow.toInt_available (ok.fits there), Section.current_of_flexible flexible]
  show 0 < (s.pool.available.toNat : Int) ↔ _
  rw [ne_eq, ← UInt32.toNat_inj]
  show _ ↔ ¬ s.pool.available.toNat = 0
  omega

/-- The rows from which a place may be taken. -/
theorem filter_takePlace (ok : l.Storable) (there : l.sections.get? category = some s)
    (flexible : s.category.tracking = .flexible) :
    (l.categoryRows.filter fun row => row.id = category.value ∧ 0 < row.available.toInt) =
      if s.pool.available = 0 then [] else [.write s.current] := by
  have parts : (fun row : CategoryRow =>
      decide (row.id = category.value ∧ 0 < row.available.toInt)) = fun row =>
      decide (0 < row.available.toInt) && decide (row.id = category.value) :=
    funext fun row => (Bool.decide_and _ _).trans (Bool.and_comm _ _)
  rw [parts, ← List.filter_filter, filter_categoryRows ok.reach, there]
  have left := available_write_iff ok there flexible
  by_cases empty : s.pool.available = 0 <;> simp [left, empty]

theorem run_takePlace_of_empty (number : Tables → Nat → Int32) (ok : l.Storable)
    (same : t.categories = l.categoryRows)
    (there : l.sections.get? category = some s) (flexible : s.category.tracking = .flexible)
    (empty : s.pool.available = 0) :
    t.run number (.takePlace category) = .ok (ofIntegers "available" .int4 [], t) := by
  have none := filter_takePlace ok there flexible
  rw [if_pos empty, ← same] at none
  have unchanged (change : CategoryRow → CategoryRow) : update t.categories
      (fun row => row.id = category.value ∧ 0 < row.available.toInt) change = t.categories := by
    refine (List.map_congr_left fun row mem => ?_).trans (List.map_id _)
    exact if_neg (List.filter_eq_nil_iff.1 none row mem)
  simp only [run, unchanged, updated, none, List.map_nil]
  rw [same, putCategories_eq ok, ← same]
  rfl

theorem run_takePlace (number : Tables → Nat → Int32) (ok : l.Storable)
    (same : t.categories = l.categoryRows)
    (there : l.sections.get? category = some s) (flexible : s.category.tracking = .flexible)
    (left : s.pool.available ≠ 0)
    (less : (s.pool.after category s.category.total c).available = s.pool.available - 1)
    (elsewhere : ∀ id s, id ≠ category → l.sections.get? id = some s →
      (s.pool.after id s.category.total c).available = s.pool.available) :
    ∃ n, t.run number (.takePlace category) = .ok (ofIntegers "available" .int4 [n],
      { t with categories := (l.after c).categoryRows }) := by
  have found := filter_takePlace ok there flexible
  rw [if_neg left, ← same] at found
  have changed : update t.categories
      (fun row => row.id = category.value ∧ 0 < row.available.toInt)
      (fun row => { row with available := .ofInt (row.available.toInt - 1) }) =
        (l.after c).categoryRows := by
    rw [same]
    refine categoryRows_after fun id s' there' => ?_
    have id_eq : (CategoryRow.write s'.current).id = category.value ↔ id = category := by
      rw [ok.reach.id_write there', CategoryId.value_inj]
    simp only [id_eq, decide_eq_true_eq]
    by_cases here : id = category
    · subst here
      obtain rfl := Option.some.inj (there.symm.trans there')
      have one_less : (s.pool.available - 1).toNat + 1 = s.pool.available.toNat :=
        Pool.available_sub_one left
      rw [if_pos ⟨rfl, (available_write_iff ok there flexible).2 left⟩,
        CategoryRow.toInt_available (ok.fits there), Section.current_of_flexible flexible,
        Section.current_of_flexible (s := s.after id c) flexible, Section.after_pool, less]
      have written : (s.pool.available.toNat : Int) - 1 = (s.pool.available - 1).toNat := by omega
      simp only [CategoryRow.write, written]
      rfl
    · rw [if_neg fun both => here both.1, Section.current, Section.current, Section.after_category,
        Section.after_pool, elsewhere id s' here there']
  simp only [run, changed, updated, found, List.map_cons, List.map_nil]
  rw [putCategories_eq (ok.after c)]
  exact ⟨_, rfl⟩

end TakePlace

section InsertHold

variable {category : CategoryId} {s : Section} {hold : HoldId} {expiresAt : Instant}

theorem any_isHold (h : HoldsMirror l t.holds) (reach : l.Reachable) :
    t.holds.any (isHold category hold) = (l.stock? category hold).isSome := by
  have found := h.filter_isHold reach category hold
  have any : t.holds.any (isHold category hold) =
      !(t.holds.filter (isHold category hold)).isEmpty := by
    rw [Bool.eq_iff_iff, List.any_eq_true]
    simp [List.filter_eq_nil_iff]
  rw [any, found]
  cases l.stock? category hold <;> rfl

/-- A hold is made for a place that was taken, or the one that is there is made anew. -/
theorem run_insertHold (number : Tables → Nat → Int32) (reach : l.Reachable)
    (ids : t.categories.map CategoryRow.id = l.ids)
    (h : HoldsMirror l t.holds) (there : l.sections.get? category = some s)
    (gone : ∀ h, s.pool.holds.get? hold = some h → h.state = .released ∨ h.state = .expired)
    (held : (s.pool.after category s.category.total c).holds =
      s.pool.holds.set hold { hold, category, state := .held, expiresAt })
    (elsewhere : ∀ id s, id ≠ category → l.sections.get? id = some s →
      (s.pool.after id s.category.total c).holds = s.pool.holds) :
    ∃ rows, t.run number (.insertHold category hold expiresAt) =
        .ok (ofHolds [.write { hold, category, state := .held, expiresAt }],
          { t with holds := rows }) ∧
      HoldsMirror (l.after c) rows := by
  have stock : l.stock? category hold = s.pool.holds.get? hold := by rw [stock?, there]; rfl
  cases found : s.pool.holds.get? hold with
  | none =>
    have mirrors : HoldsMirror (l.after c) (t.holds ++
        [.write { hold, category, state := .held, expiresAt }]) := by
      intro id
      rw [List.filter_append, h id]
      unfold holdsOf
      rw [get?_after]
      by_cases here : id = category
      · subst here
        simp [there, held, Registry.values_set_of_none found, HoldRow.write]
      · have other : category.value ≠ id.value := fun same => here (congrArg CategoryId.mk same).symm
        cases there' : l.sections.get? id with
        | none => simp [HoldRow.write, other]
        | some s' => simp [HoldRow.write, other, elsewhere id s' here there']
    have new : t.holds.any (isHold category hold) = false := by
      rw [any_isHold h reach, stock, found, Option.isSome_none]
    refine ⟨_, ?_, mirrors⟩
    simp only [run, new, Bool.false_eq_true, if_false]
    show (t.putHolds (t.holds ++ [.write { hold, category, state := .held, expiresAt }]) >>= _) = _
    rw [putHolds_eq (reach.after c) (ids.trans (ids_after c).symm) mirrors]
    rfl
  | some old =>
    obtain ⟨hold_eq, category_eq⟩ := (reach.sound there).holds hold old found
    obtain ⟨_, rows, changed, rfl, mirrors⟩ := changeHold_eq (c := c) reach ids h category hold
      (holdChangesAs_insert expiresAt) fun id s' there' => by
          refine s'.pool.holds_after_of_one id category _ hold (fun other => elsewhere id s' other there')
            (fun h here found' _ => ?_) fun not => ?_
          · subst here
            obtain rfl := Option.some.inj (there.symm.trans there')
            rw [held, Registry.set_of_get? found, Registry.modify_eq, Registry.modify_eq]
            refine Registry.mapEntries_congr fun k h found => ?_
            obtain ⟨rfl, rfl⟩ := (reach.sound there).holds k h found
            split
            · next same => rw [same]
            · rfl
          · by_cases here : id = category
            · subst here
              obtain rfl := Option.some.inj (there.symm.trans there')
              exact absurd (gone old found) (not old found)
            · exact elsewhere id s' here there'
    have known : t.holds.any (isHold category hold) = true := by
      rw [any_isHold h reach, stock, found, Option.isSome_some]
    refine ⟨rows, ?_, mirrors⟩
    simp only [run, known, if_true]
    rw [changed, stock, found, Option.bind_some, if_pos (gone old found), ← hold_eq, ← category_eq]
    rfl

end InsertHold

end Tables

end BoxOffice
