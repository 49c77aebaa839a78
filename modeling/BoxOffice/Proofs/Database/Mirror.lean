import BoxOffice.Proofs.Database.Reading
import BoxOffice.Proofs.Ledger.Sound

/-!
# Tables that mirror a ledger

The tables mirror a ledger when they have a row for each category, and in each category, in the same
order, a row for each seat and for each hold; the numbers of the seats are left out. What is found in
mirroring tables under a key is what the ledger has there (`SeatsMirror.filter_isSeat`,
`HoldsMirror.filter_isHold`), they obey the constraints (`putSeats_eq` and the like), and rows that are
changed as a call changes what they stand for mirror the ledger after the call (`SeatsMirror.after`,
`HoldsMirror.after`).
-/

namespace BoxOffice

theorem CategoryId.value_inj {id id' : CategoryId} : id.value = id'.value ↔ id = id' :=
  ⟨congrArg CategoryId.mk, congrArg CategoryId.value⟩

namespace MemoryLedger

/-- The seats of a category. -/
def seatsOf (l : MemoryLedger) (id : CategoryId) : List Seat :=
  ((l.sections.get? id).map fun s => s.seats.values).getD []

/-- The holds of a category. -/
def holdsOf (l : MemoryLedger) (id : CategoryId) : List StockHold :=
  ((l.sections.get? id).map fun s => s.pool.holds.values).getD []

/-- The rows for the categories. -/
def categoryRows (l : MemoryLedger) : List CategoryRow :=
  l.sections.values.map fun s => .write s.current

/-- The identifiers of the categories, as they stand in the rows. -/
def ids (l : MemoryLedger) : List Int32 :=
  l.sections.entries.map fun e => e.1.value

/-- A ledger whose capacities and prices fit the columns. -/
structure Storable (l : MemoryLedger) : Prop where
  reach : l.Reachable
  price : ∀ id s, l.sections.get? id = some s →
    s.category.price.cents.toNat ≤ 9223372036854775807
  total : ∀ id s, l.sections.get? id = some s → s.category.total.toNat ≤ 2147483647

variable {l : MemoryLedger} {id : CategoryId} {s : Section}

/-- A category of seats has as much left as it has capacity, as far as its own record goes. -/
theorem Reachable.available_eq (reach : l.Reachable) (there : l.sections.get? id = some s)
    (fixed : s.category.tracking = .fixed) : s.category.available = s.category.total := by
  refine reach.sections
    (P := fun _ s => s.category.tracking = .fixed → s.category.available = s.category.total)
    ?_ ?_ ?_ there fixed
  · intro category labels first seats next _ _ _ _ _
    rfl
  · intro category _ flexible _ fixed
    rw [openStanding] at fixed
    cases fixed.symm.trans flexible
  · exact fun id s c h => h

/-- No more is left of a category than there is. -/
theorem Reachable.current_le (reach : l.Reachable) (there : l.sections.get? id = some s) :
    s.current.available ≤ s.current.total := by
  cases tracking : s.category.tracking with
  | flexible =>
    have fits := (reach.sound there).fits
    rw [Pool.units] at fits
    rw [Section.current_of_flexible tracking, UInt32.le_iff_toNat_le]
    exact (by omega : s.pool.available.toNat ≤ s.category.total.toNat)
  | fixed =>
    rw [Section.current_of_fixed tracking, reach.available_eq there tracking]
    exact UInt32.le_refl _

theorem get?_after_of_some (there : l.sections.get? id = some s) (c : Ledger.Call) :
    (l.after c).sections.get? id = some (s.after id c) := by
  rw [get?_after, there, Option.map_some]

theorem ids_after (c : Ledger.Call) : (l.after c).ids = l.ids := by
  simp [ids, after, Registry.mapEntries, List.map_map, Function.comp_def]

theorem mem_ids : id.value ∈ l.ids ↔ (l.sections.get? id).isSome := by
  rw [← Registry.contains_eq_isSome, ids, List.mem_map]
  simp only [Registry.contains, List.any_eq_true, beq_iff_eq, CategoryId.value_inj]

theorem ids_nodup : l.ids.Nodup := by
  have distinct := l.sections.distinct
  rw [show l.ids = (l.sections.entries.map Prod.fst).map CategoryId.value by simp [ids]]
  exact distinct.map fun a b same => congrArg CategoryId.mk same

namespace Storable

theorem after (h : l.Storable) (c : Ledger.Call) : (l.after c).Storable where
  reach := h.reach.after c
  price id s there := by
    rw [get?_after] at there
    obtain ⟨s, before, rfl⟩ := Option.map_eq_some_iff.1 there
    exact h.price id s before
  total id s there := by
    rw [get?_after] at there
    obtain ⟨s, before, rfl⟩ := Option.map_eq_some_iff.1 there
    exact h.total id s before

theorem fits (h : l.Storable) (there : l.sections.get? id = some s) :
    CategoryRow.Fits s.current := by
  have total := h.total id s there
  have le := UInt32.le_iff_toNat_le.1 (h.reach.current_le there)
  have same : s.current.total = s.category.total ∧ s.current.price = s.category.price := by
    unfold Section.current
    split <;> exact ⟨rfl, rfl⟩
  rw [same.1] at le
  refine ⟨?_, ?_, by omega⟩
  · rw [same.2]
    exact h.price id s there
  · rw [same.1]
    exact total

end Storable

end MemoryLedger

open MemoryLedger

/-- The rows have a seat for each seat of a ledger, in the same order. -/
def SeatsMirror (l : MemoryLedger) (rows : List SeatRow) : Prop :=
  ∀ id : CategoryId, (rows.filter fun row => row.category = id.value).map SeatRow.unnumbered =
    (l.seatsOf id).map fun s => (SeatRow.write s).unnumbered

/-- The rows have a hold for each hold of a ledger, in the same order. -/
def HoldsMirror (l : MemoryLedger) (rows : List HoldRow) : Prop :=
  ∀ id : CategoryId, (rows.filter fun row => row.category = id.value) =
    (l.holdsOf id).map HoldRow.write

/-- The tables have a row for each part of a ledger. -/
structure Mirrors (l : MemoryLedger) (t : Tables) : Prop where
  categories : t.categories = l.categoryRows
  seats : SeatsMirror l t.seats
  holds : HoldsMirror l t.holds

variable {l : MemoryLedger} {t : Tables}

/-! ### What is found under a key -/

namespace MemoryLedger

theorem filter_seatsOf (reach : l.Reachable) (id : CategoryId) (label : String) :
    ((l.seatsOf id).filter fun s => s.label = label) = (l.seat? id label).toList := by
  unfold seatsOf seat?
  cases there : l.sections.get? id with
  | none => rfl
  | some s =>
    exact Registry.filter_values Seat.label
      (fun label seat found => ((reach.sound there).seats label seat found).1) label

theorem filter_holdsOf (reach : l.Reachable) (id : CategoryId) (hold : HoldId) :
    ((l.holdsOf id).filter fun h => h.hold = hold) = (l.stock? id hold).toList := by
  unfold holdsOf stock?
  cases there : l.sections.get? id with
  | none => rfl
  | some s =>
    exact Registry.filter_values StockHold.hold
      (fun hold h found => ((reach.sound there).holds hold h found).1) hold

theorem mem_seatsOf {id : CategoryId} {seat : Seat} (mem : seat ∈ l.seatsOf id) :
    ∃ label, l.seat? id label = some seat := by
  unfold seatsOf at mem
  cases there : l.sections.get? id with
  | none => simp [there] at mem
  | some s =>
    rw [there] at mem
    obtain ⟨label, found⟩ := Registry.mem_values.1 mem
    exact ⟨label, by rw [seat?, there]; exact found⟩

theorem mem_holdsOf {id : CategoryId} {h : StockHold} (mem : h ∈ l.holdsOf id) :
    ∃ hold, l.stock? id hold = some h := by
  unfold holdsOf at mem
  cases there : l.sections.get? id with
  | none => simp [there] at mem
  | some s =>
    rw [there] at mem
    obtain ⟨hold, found⟩ := Registry.mem_values.1 mem
    exact ⟨hold, by rw [stock?, there]; exact found⟩

/-- The category of a seat is there. -/
theorem mem_ids_of_seat? {id : CategoryId} {label : String} {seat : Seat}
    (found : l.seat? id label = some seat) : id.value ∈ l.ids := by
  obtain ⟨s, there, -⟩ := Option.bind_eq_some_iff.1 found
  exact mem_ids.2 (by simp [there])

/-- So is that of a hold. -/
theorem mem_ids_of_stock? {id : CategoryId} {hold : HoldId} {h : StockHold}
    (found : l.stock? id hold = some h) : id.value ∈ l.ids := by
  obtain ⟨s, there, -⟩ := Option.bind_eq_some_iff.1 found
  exact mem_ids.2 (by simp [there])

/-- The row of a category has its identifier. -/
theorem Reachable.id_write (reach : l.Reachable) {id : CategoryId} {s : Section}
    (there : l.sections.get? id = some s) : (CategoryRow.write s.current).id = id.value :=
  congrArg CategoryId.value (reach.sound there).current_id

theorem categoryRows_ids (reach : l.Reachable) : l.categoryRows.map CategoryRow.id = l.ids := by
  rw [categoryRows, Registry.values, List.map_map, List.map_map, ids]
  exact List.map_congr_left fun e mem => reach.id_write (Registry.get?_of_mem mem)

theorem filter_categoryRows (reach : l.Reachable) (id : CategoryId) :
    (l.categoryRows.filter fun row => row.id = id.value) =
      (l.sections.get? id).toList.map fun s => .write s.current := by
  have named : ∀ id s, l.sections.get? id = some s → s.current.id = id := fun id s there =>
    (reach.sound there).current_id
  rw [categoryRows, List.filter_map, ← Registry.filter_values _ named]
  congr 1
  exact List.filter_congr fun s _ => decide_eq_decide.2 CategoryId.value_inj

end MemoryLedger

theorem Mirrors.ids (m : Mirrors l t) (reach : l.Reachable) :
    t.categories.map CategoryRow.id = l.ids := by
  rw [m.categories, categoryRows_ids reach]

theorem SeatsMirror.filter_isSeat {rows : List SeatRow} (h : SeatsMirror l rows) (reach : l.Reachable)
    (id : CategoryId) (label : String) :
    (rows.filter (Tables.isSeat id label)).map SeatRow.unnumbered =
      (l.seat? id label).toList.map fun s => (SeatRow.write s).unnumbered := by
  have parts : Tables.isSeat id label = fun row =>
      ((fun row : SeatRow => decide (row.label = label)) ∘ SeatRow.unnumbered) row &&
        decide (row.category = id.value) :=
    funext fun row => (Bool.decide_and _ _).trans (Bool.and_comm _ _)
  rw [parts, ← List.filter_filter, ← List.filter_map, h id, List.filter_map,
    ← filter_seatsOf reach id label]
  rfl

theorem HoldsMirror.filter_isHold {rows : List HoldRow} (h : HoldsMirror l rows) (reach : l.Reachable)
    (id : CategoryId) (hold : HoldId) :
    rows.filter (Tables.isHold id hold) = (l.stock? id hold).toList.map HoldRow.write := by
  have parts : Tables.isHold id hold = fun row =>
      decide (row.hold = hold.value) && decide (row.category = id.value) :=
    funext fun row => (Bool.decide_and _ _).trans (Bool.and_comm _ _)
  rw [parts, ← List.filter_filter, h id, List.filter_map, ← filter_holdsOf reach id hold]
  congr 1
  refine List.filter_congr fun s _ => decide_eq_decide.2 ?_
  exact ⟨fun same => congrArg HoldId.mk same, fun same => congrArg HoldId.value same⟩

/-! ### Constraints -/

/-- Things that are looked up by their keys, each of which is found once at most, are told apart by
them. -/
theorem nodup_of_filter {ρ κ : Type} [DecidableEq κ] {rows : List ρ} {key : ρ → κ}
    (once : ∀ k, (rows.filter fun row => key row = k).length ≤ 1) : (rows.map key).Nodup := by
  refine List.nodup_iff_count_le_one.2 fun k => ?_
  rw [List.count, List.countP_map, List.countP_eq_length_filter]
  refine Nat.le_trans (Nat.le_of_eq ?_) (once k)
  congr 2

theorem SeatsMirror.exists_of_mem {rows : List SeatRow} (h : SeatsMirror l rows) {row : SeatRow}
    (mem : row ∈ rows) :
    ∃ label s, l.seat? ⟨row.category⟩ label = some s ∧
      row.unnumbered = (SeatRow.write s).unnumbered := by
  have there : row.unnumbered ∈
      (rows.filter fun other => other.category = row.category).map SeatRow.unnumbered :=
    List.mem_map_of_mem (List.mem_filter.2 ⟨mem, by simp⟩)
  rw [h ⟨row.category⟩] at there
  obtain ⟨s, on, same⟩ := List.mem_map.1 there
  obtain ⟨label, found⟩ := mem_seatsOf on
  exact ⟨label, s, found, same.symm⟩

theorem HoldsMirror.exists_of_mem {rows : List HoldRow} (h : HoldsMirror l rows) {row : HoldRow}
    (mem : row ∈ rows) :
    ∃ hold s, l.stock? ⟨row.category⟩ hold = some s ∧ row = HoldRow.write s := by
  have there : row ∈ rows.filter fun other => other.category = row.category :=
    List.mem_filter.2 ⟨mem, by simp⟩
  rw [h ⟨row.category⟩] at there
  obtain ⟨s, on, same⟩ := List.mem_map.1 there
  obtain ⟨hold, found⟩ := mem_holdsOf on
  exact ⟨hold, s, found, same.symm⟩

namespace Tables

theorem putCategories_eq (ok : l.Storable) (t : Tables) :
    t.putCategories l.categoryRows = .ok { t with categories := l.categoryRows } := by
  have checks : ∀ row ∈ l.categoryRows, row.Checks := by
    intro row mem
    obtain ⟨s, on, rfl⟩ := List.mem_map.1 mem
    obtain ⟨id, there⟩ := Registry.mem_values.1 on
    refine (CategoryRow.checks_write_iff (ok.fits there) ?_).2 (ok.reach.current_le there)
    rcases (ok.reach.sound there).kinds with ⟨seated, fixed, -⟩ | ⟨standing, flexible, -⟩
    · rw [Section.current_of_fixed fixed]
      exact .inl ⟨seated, fixed⟩
    · rw [Section.current_of_flexible flexible]
      exact .inr ⟨standing, flexible⟩
  have nodup : (l.categoryRows.map CategoryRow.id).Nodup := by
    rw [categoryRows_ids ok.reach]
    exact ids_nodup
  rw [putCategories, if_neg (not_not.2 checks), if_neg (not_not.2 nodup)]

theorem putSeats_eq (ok : l.Storable) (ids : t.categories.map CategoryRow.id = l.ids)
    {rows : List SeatRow} (h : SeatsMirror l rows) :
    t.putSeats rows = .ok { t with seats := rows } := by
  have checks : ∀ row ∈ rows, row.Checks := by
    intro row mem
    obtain ⟨label, s, found, same⟩ := h.exists_of_mem mem
    have written : (SeatRow.write s).unnumbered.Checks :=
      SeatRow.checks_write (ok.reach.seat found).2.2
    rw [← same] at written
    exact written
  have nodup : (rows.map SeatRow.key).Nodup := by
    refine nodup_of_filter fun ⟨category, label⟩ => ?_
    have found := congrArg List.length (h.filter_isSeat ok.reach ⟨category⟩ label)
    have same : (fun row : SeatRow => decide (row.key = (category, label))) =
        isSeat ⟨category⟩ label :=
      funext fun row => decide_eq_decide.2 Prod.ext_iff
    rw [List.length_map, List.length_map] at found
    rw [same, found]
    exact Option.length_toList_le
  have known : ∀ row ∈ rows, row.category ∈ t.categories.map CategoryRow.id := by
    intro row mem
    obtain ⟨label, s, found, -⟩ := h.exists_of_mem mem
    rw [ids]
    exact mem_ids_of_seat? found
  rw [putSeats, if_neg (not_not.2 checks), if_neg (not_not.2 nodup), if_neg (not_not.2 known)]

theorem putHolds_eq (reach : l.Reachable) (ids : t.categories.map CategoryRow.id = l.ids)
    {rows : List HoldRow} (h : HoldsMirror l rows) :
    t.putHolds rows = .ok { t with holds := rows } := by
  have checks : ∀ row ∈ rows, row.Checks := by
    intro row mem
    obtain ⟨hold, s, -, rfl⟩ := h.exists_of_mem mem
    exact HoldRow.checks_write s
  have nodup : (rows.map HoldRow.key).Nodup := by
    refine nodup_of_filter fun ⟨category, hold⟩ => ?_
    have found := h.filter_isHold reach ⟨category⟩ ⟨hold⟩
    have same : (fun row : HoldRow => decide (row.key = (category, hold))) =
        isHold ⟨category⟩ ⟨hold⟩ :=
      funext fun row => decide_eq_decide.2 Prod.ext_iff
    rw [same, found, List.length_map]
    exact Option.length_toList_le
  have known : ∀ row ∈ rows, row.category ∈ t.categories.map CategoryRow.id := by
    intro row mem
    obtain ⟨hold, s, found, -⟩ := h.exists_of_mem mem
    rw [ids]
    exact mem_ids_of_stock? found
  rw [putHolds, if_neg (not_not.2 checks), if_neg (not_not.2 nodup), if_neg (not_not.2 known)]

end Tables

/-! ### Changed rows -/

/-- The rows of the categories after a call are the rows before it, changed as the call changes what
they stand for. -/
theorem MemoryLedger.categoryRows_after {c : Ledger.Call} {g : CategoryRow → CategoryRow}
    (agree : ∀ id s, l.sections.get? id = some s → g (.write s.current) = .write (s.after id c).current) :
    l.categoryRows.map g = (l.after c).categoryRows := by
  simp only [categoryRows, Registry.values, MemoryLedger.after, Registry.mapEntries, List.map_map]
  exact List.map_congr_left fun e mem => agree e.1 e.2 (Registry.get?_of_mem mem)

theorem SeatsMirror.after {rows : List SeatRow} (h : SeatsMirror l rows) {c : Ledger.Call}
    {g : SeatRow → SeatRow} (stays : ∀ row, (g row).category = row.category)
    (blind : ∀ row, (g row).unnumbered = g row.unnumbered)
    (agree : ∀ id label s, l.seat? id label = some s → g (.write s) = .write (s.after id label c)) :
    SeatsMirror (l.after c) (rows.map g) := by
  intro id
  have kept : ((fun row : SeatRow => decide (row.category = id.value)) ∘ g) =
      fun row => decide (row.category = id.value) :=
    funext fun row => by rw [Function.comp_apply, stays]
  rw [List.filter_map, kept, List.map_map, show SeatRow.unnumbered ∘ g = g ∘ SeatRow.unnumbered from
    funext blind, ← List.map_map, h id, List.map_map]
  unfold seatsOf
  rw [get?_after]
  cases there : l.sections.get? id with
  | none => rfl
  | some s =>
    simp only [Option.map_some, Option.getD_some, Registry.values, Section.after,
      Registry.mapEntries, List.map_map]
    refine List.map_congr_left fun e mem => ?_
    have found : l.seat? id e.1 = some e.2 := by
      rw [seat?, there]
      exact Registry.get?_of_mem mem
    rw [Function.comp_apply, Function.comp_apply, ← blind, agree id e.1 e.2 found]
    rfl

theorem HoldsMirror.after {rows : List HoldRow} (h : HoldsMirror l rows) {c : Ledger.Call}
    {g : HoldRow → HoldRow} (stays : ∀ row, (g row).category = row.category)
    (agree : ∀ id s, l.sections.get? id = some s →
      (s.pool.after id s.category.total c).holds.values.map HoldRow.write =
        s.pool.holds.values.map fun h => g (.write h)) :
    HoldsMirror (l.after c) (rows.map g) := by
  intro id
  have kept : ((fun row : HoldRow => decide (row.category = id.value)) ∘ g) =
      fun row => decide (row.category = id.value) :=
    funext fun row => by rw [Function.comp_apply, stays]
  rw [List.filter_map, kept, h id, List.map_map]
  unfold holdsOf
  rw [get?_after]
  cases there : l.sections.get? id with
  | none => rfl
  | some s => exact (agree id s there).symm

end BoxOffice
