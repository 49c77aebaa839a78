import Mathlib.Algebra.GroupWithZero.Nat
import BoxOffice.Proofs.Database.Change

/-!
# Counting in mirroring tables

Rows are counted category by category (`countP_eq_sum`), and in each category they are as many as what
they stand for. So a sweep of the tables frees as many seats and gives back as many places as a sweep of
the ledger (`run_freeLapsedSeats`, `run_expireLapsedHolds`).
-/

namespace BoxOffice

open MemoryLedger

/-- Rows are counted by their keys. -/
theorem countP_eq_sum {ρ κ : Type} [DecidableEq κ] (key : ρ → κ) (p : ρ → Bool) {keys : List κ}
    (nodup : keys.Nodup) {rows : List ρ} (known : ∀ row ∈ rows, key row ∈ keys) :
    rows.countP p = (keys.map fun k => (rows.filter fun row => key row = k).countP p).sum := by
  induction keys generalizing rows with
  | nil =>
    cases rows with
    | nil => rfl
    | cons row rows => exact absurd (known row (by simp)) (by simp)
  | cons k keys ih =>
    obtain ⟨fresh, nodup⟩ := List.nodup_cons.1 nodup
    have others := @ih nodup (rows.filter fun row => !decide (key row = k)) fun row mem => by
      obtain ⟨mem, other⟩ := List.mem_filter.1 mem
      exact (List.mem_cons.1 (known row mem)).resolve_left (by simpa using other)
    rw [List.countP_eq_countP_filter_add rows p fun row => key row = k, List.map_cons, List.sum_cons,
      others]
    congr 2
    refine List.map_congr_left fun j mem => ?_
    rw [List.filter_filter]
    congr 1
    refine List.filter_congr fun row _ => ?_
    by_cases at_key : key row = j
    · have other : j ≠ k := fun same => fresh (same ▸ mem)
      simp [at_key, other]
    · simp [at_key]

theorem sum_filterMap {α : Type} (xs : List α) (f : α → Option Nat) :
    (xs.filterMap f).sum = (xs.map fun x => (f x).getD 0).sum := by
  induction xs with
  | nil => rfl
  | cons x xs ih => cases h : f x <;> simp [h, ih]

variable {l : MemoryLedger} {t : Tables}

/-- What is summed up by the rows of the categories is summed up by the sections. -/
theorem MemoryLedger.sum_ids {f : Int32 → Nat} {g : Section → Nat}
    (agree : ∀ id s, l.sections.get? id = some s → f id.value = g s) :
    (l.ids.map f).sum = (l.sections.values.map g).sum := by
  rw [ids, Registry.values, List.map_map, List.map_map]
  congr 1
  exact List.map_congr_left fun e mem => agree e.1 e.2 (Registry.get?_of_mem mem)

section Seats

variable {rows : List SeatRow} {p : SeatRow → Bool}

theorem SeatsMirror.countP_filter (h : SeatsMirror l rows) (blind : ∀ row, p row.unnumbered = p row)
    (id : CategoryId) : (rows.filter fun row => row.category = id.value).countP p =
      (l.seatsOf id).countP fun s => p (.write s) := by
  have counted := congrArg (List.countP p) (h id)
  simpa only [List.countP_map, Function.comp_def, blind] using counted

theorem SeatsMirror.countP (h : SeatsMirror l rows)
    (blind : ∀ row, p row.unnumbered = p row) : rows.countP p =
      (l.sections.values.map fun s => s.seats.values.countP fun seat => p (.write seat)).sum := by
  rw [countP_eq_sum SeatRow.category p l.ids_nodup]
  · refine sum_ids fun id s there => ?_
    rw [h.countP_filter blind, seatsOf, there]
    rfl
  · intro row mem
    obtain ⟨label, s, found, -⟩ := h.exists_of_mem mem
    exact mem_ids_of_seat? found

end Seats

theorem HoldsMirror.countP_filter {rows : List HoldRow} (h : HoldsMirror l rows) (p : HoldRow → Bool)
    (id : CategoryId) : (rows.filter fun row => row.category = id.value).countP p =
      (l.holdsOf id).countP fun h => p (.write h) := by
  rw [h id, List.countP_map]
  rfl

namespace Tables

variable (number : Tables → Nat → Int32) (now : Instant)

/-! ### Sweeps -/

/-- A sweep of the tables frees as many seats as a sweep of the ledger. -/
theorem run_freeLapsedSeats (ok : l.Storable) (ids : t.categories.map CategoryRow.id = l.ids)
    (h : SeatsMirror l t.seats) :
    ∃ rows, t.run number (.freeLapsedSeats now) =
        .ok (.ofAffected (l.sections.values.map fun s => s.lapsedSeats now).sum,
          { t with seats := rows }) ∧
      SeatsMirror (l.after (.reclaim now)) rows := by
  obtain ⟨changed, mirrors⟩ := changeSeats_eq (c := .reclaim now) ok ids h (seatLapsed now)
    (fun row => { row with status := "AVAILABLE", reservedUntil := none, hold := none })
    (fun _ => ⟨rfl, rfl⟩) (fun _ => rfl) fun id label s _ => by
      rw [SeatRow.seatLapsed_write, Seat.after, apply_ite SeatRow.write]
      rfl
  refine ⟨_, ?_, mirrors⟩
  simp only [run]
  rw [changed]
  have counted := h.countP (p := seatLapsed now) fun _ => rfl
  simp only [SeatRow.seatLapsed_write] at counted
  show Except.ok (SqlAnswer.ofAffected (updated _ _ _).length, _) = _
  rw [updated, List.length_map, ← List.countP_eq_length_filter, counted]
  rfl

theorem countFor_map (ids : List Int32) (f : Int32 → Nat) (row : CategoryRow) :
    countFor (ids.map fun id => (id, f id)) row = if row.id ∈ ids then some (f row.id) else none := by
  unfold countFor
  induction ids with
  | nil => rfl
  | cons id ids ih =>
    by_cases here : id = row.id
    · subst here
      simp
    · have other : row.id ≠ id := Ne.symm here
      simpa [here, other] using ih

/-- Rows are as many for a category as they are grouped for it, if they are. -/
theorem countFor_counts (rows : List HoldRow) (row : CategoryRow) :
    (countFor (counts rows) row).getD 0 = rows.countP fun h => h.category = row.id := by
  rw [counts, countFor_map]
  split
  · rfl
  · next none =>
    rw [List.mem_dedup] at none
    refine (List.countP_eq_zero.2 fun h mem => ?_).symm
    simpa using fun same => none (List.mem_map.2 ⟨h, mem, same⟩)

/-- As many holds are found lapsed for a category as its pool has. -/
theorem countP_lapsed (h : HoldsMirror l t.holds) {id : CategoryId} {s : Section}
    (there : l.sections.get? id = some s) :
    ((t.holds.filter (holdLapsed now)).countP fun row => row.category = id.value) =
      s.pool.lapsed now := by
  have found := h.countP_filter (holdLapsed now) id
  simp only [HoldRow.holdLapsed_write, holdsOf, there, Option.map_some, Option.getD_some] at found
  rw [List.countP_filter, Pool.lapsed, ← found, List.countP_filter]
  exact congrArg (List.countP · t.holds) (funext fun row => Bool.and_comm _ _)

/-- The lapsed holds of a category fit a column. -/
theorem countP_lapsed_le (ok : l.Storable) (h : HoldsMirror l t.holds) {id : Int32}
    (mem : id ∈ l.ids) :
    ((t.holds.filter (holdLapsed now)).countP fun row => row.category = id) ≤ 2147483647 := by
  obtain ⟨s, there⟩ : ∃ s, l.sections.get? ⟨id⟩ = some s :=
    Option.isSome_iff_exists.1 (mem_ids.1 mem)
  rw [countP_lapsed now h there]
  have := s.pool.available_add_lapsed_le_units now
  have := (ok.reach.sound there).fits
  have := ok.total _ s there
  omega

/-- A sweep of the tables gives back as many places to each pool as a sweep of the ledger. -/
theorem run_expireLapsedHolds (ok : l.Storable) (same : t.categories = l.categoryRows)
    (h : HoldsMirror l t.holds) :
    ∃ (ns : List Nat) (rows : List HoldRow), t.run number (.expireLapsedHolds now) =
        .ok (ofIntegers "n" .int4 (ns.map Int.ofNat),
          { t with categories := (l.after (.reclaim now)).categoryRows, holds := rows }) ∧
      HoldsMirror (l.after (.reclaim now)) rows ∧ (∀ n ∈ ns, n ≤ 2147483647) ∧
      ns.sum = (l.sections.values.map fun s => s.pool.lapsed now).sum := by
  have ids : t.categories.map CategoryRow.id = l.ids := by rw [same, categoryRows_ids ok.reach]
  have ids' : (l.after (.reclaim now)).categoryRows.map CategoryRow.id = l.ids := by
    rw [categoryRows_ids (ok.reach.after _), ids_after]
  obtain ⟨changed, mirrors⟩ := changeHolds_eq (c := .reclaim now) ok.reach ids h
    (holdLapsed now) (fun row => { row with state := "EXPIRED" })
    (fun _ => rfl) fun id s there => by
      show (s.pool.holds.mapValues fun h => h.swept now).values.map HoldRow.write = _
      rw [Registry.values_mapValues, List.map_map]
      refine List.map_congr_left fun h _ => ?_
      rw [Function.comp_apply, StockHold.swept, apply_ite HoldRow.write, HoldRow.holdLapsed_write]
      rfl
  have put := addPlaces_eq (c := .reclaim now) ok
    (t := { t with holds := update t.holds (holdLapsed now) fun row => { row with state := "EXPIRED" } })
    same (countFor (counts (t.holds.filter (holdLapsed now)))) fun id s there => by
      rw [countFor_counts, ok.reach.id_write there, countP_lapsed now h there]
      exact Pool.available_reclaim (ok.reach.sound there).fits now
  have few : ¬ ∃ group ∈ counts (t.holds.filter (holdLapsed now)), 2147483647 < group.2 := by
    rintro ⟨_, mem, much⟩
    obtain ⟨id, on, rfl⟩ := List.mem_map.1 mem
    obtain ⟨row, lapsed, rfl⟩ := List.mem_map.1 (List.mem_dedup.1 on)
    obtain ⟨hold, held, found, -⟩ := h.exists_of_mem (List.mem_filter.1 lapsed).1
    exact Nat.not_le.2 much (countP_lapsed_le now ok h (mem_ids_of_stock? found))
  refine ⟨(l.after (.reclaim now)).categoryRows.filterMap
    (countFor (counts (t.holds.filter (holdLapsed now)))), _, ?_, mirrors, fun n mem => ?_, ?_⟩
  · simp only [run]
    rw [if_neg few, changed]
    show (addPlaces _ _ >>= _) = _
    rw [put]
    rfl
  · obtain ⟨row, mem, counted⟩ := List.mem_filterMap.1 mem
    have counts := countFor_counts (t.holds.filter (holdLapsed now)) row
    rw [counted, Option.getD_some] at counts
    rw [counts]
    exact countP_lapsed_le now ok h (ids' ▸ List.mem_map_of_mem mem)
  · rw [sum_filterMap]
    have by_id : ((l.after (.reclaim now)).categoryRows.map fun row =>
        (countFor (counts (t.holds.filter (holdLapsed now))) row).getD 0) = l.ids.map fun id =>
          (t.holds.filter (holdLapsed now)).countP fun row => row.category = id := by
      rw [← ids', List.map_map]
      exact List.map_congr_left fun row _ => countFor_counts _ row
    rw [by_id]
    exact sum_ids fun id s there => countP_lapsed now h there

end Tables

end BoxOffice
