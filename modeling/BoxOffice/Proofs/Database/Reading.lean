import BoxOffice.Proofs.Database.Session
import BoxOffice.Proofs.Database.Tables
import BoxOffice.Proofs.Ledger.Seat

/-!
# Reading what was written

What is read from the answers of the database is what stands in the tables (`firstOf_ofRows` and the
like), and a row that was written for a category, a seat or a hold is read as just that. The conditions
of the statements say of such a row what the ledger asks of the seat or the hold itself.
-/

namespace BoxOffice

open Database

@[simp] theorem Labelled.read_label {α : Type} [Labelled α] [LawfulLabelled α] (a : α) :
    (read (label a) : Result α) = .ok a := by
  rw [read, LawfulLabelled.ofLabel?_label]

/-! ### Answers -/

section Answers

variable {ρ α : Type} {columns : List (String × SqlType)} {values : ρ → List SqlValue}
  {read : SqlRow → Except SqlFailure α} {f : ρ → α}

theorem rowsOf_ofRows (rows : List (List SqlValue)) :
    rowsOf (.ofRows columns rows) = rows.map fun values => { columns, values } :=
  rfl

theorem firstOf_ofRows (back : ∀ row, read ⟨columns, values row⟩ = .ok (f row)) (rows : List ρ) :
    firstOf read (.ofRows columns (rows.map values)) = .ok (rows.head?.map f) := by
  unfold firstOf
  cases rows with
  | nil => rfl
  | cons row rows =>
    rw [rowsOf_ofRows]
    show some <$> received (read ⟨columns, values row⟩) = _
    rw [back]
    rfl

theorem onlyOf_ofRows (back : ∀ row, read ⟨columns, values row⟩ = .ok (f row)) (row : ρ)
    (rows : List ρ) : onlyOf read (.ofRows columns ((row :: rows).map values)) = .ok (f row) := by
  show received (read ⟨columns, values row⟩) = _
  rw [back]
  rfl

theorem allOf_ofRows (back : ∀ row, read ⟨columns, values row⟩ = .ok (f row)) (rows : List ρ) :
    allOf read (.ofRows columns (rows.map values)) = .ok (rows.map f) := by
  have all : (rowsOf (.ofRows columns (rows.map values))).mapM read = .ok (rows.map f) := by
    rw [rowsOf_ofRows]
    induction rows with
    | nil => rfl
    | cons row rows ih =>
      rw [List.map_cons, List.map_cons, List.mapM_cons, back, ih]
      rfl
  rw [allOf, all]
  rfl

end Answers

/-! ### Numbers -/

theorem Int32.toInt_ofInt_natCast {n : Nat} (small : n ≤ 2147483647) : (Int32.ofInt n).toInt = n := by
  rw [Int32.toInt_ofInt_of_le] <;> omega

theorem Int64.toInt_ofInt_natCast {n : Nat} (small : n ≤ 9223372036854775807) :
    (Int64.ofInt n).toInt = n := by
  rw [Int64.toInt_ofInt_of_le] <;> omega

theorem countOf_natCast (what : String) {n : Nat} (small : n < UInt32.size) :
    countOf what n = .ok (UInt32.ofNat n) := by
  rw [countOf, if_pos (by omega), Int.toNat_natCast]

/-! ### Categories -/

namespace CategoryRow

theorem ofRow_values (row : CategoryRow) : ofRow ⟨columns, row.values⟩ = .ok row := by
  simp [ofRow, SqlRow.field, columns, values, SqlRow.readValue, SqlColumn.type, SqlColumn.ofValue,
    bind, Except.bind, pure, Except.pure]

/-- The numbers of a category fit the columns. -/
structure Fits (c : Category) : Prop where
  price : c.price.cents.toNat ≤ 9223372036854775807
  total : c.total.toNat ≤ 2147483647
  available : c.available.toNat ≤ 2147483647

variable {c : Category}

theorem toInt_total (fits : Fits c) : (write c).total.toInt = c.total.toNat :=
  Int32.toInt_ofInt_natCast fits.total

theorem toInt_available (fits : Fits c) : (write c).available.toInt = c.available.toNat :=
  Int32.toInt_ofInt_natCast fits.available

theorem toInt_price (fits : Fits c) : (write c).priceCents.toInt = c.price.cents.toNat :=
  Int64.toInt_ofInt_natCast fits.price

theorem read_write (fits : Fits c) : read (write c) = .ok c := by
  have layout : (Labelled.read (write c).kind : Result Layout) = .ok c.layout :=
    Labelled.read_label c.layout
  have tracking : (Labelled.read (write c).bookingKind : Result Tracking) = .ok c.tracking :=
    Labelled.read_label c.tracking
  unfold read
  rw [toInt_price fits, toInt_total fits, toInt_available fits, layout, tracking, if_neg (by omega),
    countOf_natCast _ c.total.toNat_lt, countOf_natCast _ c.available.toNat_lt]
  simp [bind, Except.bind, pure, Except.pure, write]

/-- A row for a category is as the table wants it if not more is left than there is. -/
theorem checks_write_iff (fits : Fits c)
    (kinds : c.layout = .seated ∧ c.tracking = .fixed ∨ c.layout = .standing ∧ c.tracking = .flexible) :
    (write c).Checks ↔ c.available ≤ c.total := by
  rw [UInt32.le_iff_toNat_le]
  constructor
  · intro checks
    have within := checks.available.2
    rw [toInt_available fits, toInt_total fits] at within
    exact Int.ofNat_le.1 within
  · intro le
    refine ⟨?_, ?_, ⟨?_, ?_⟩, ?_⟩
    · rw [toInt_price fits]
      exact Int.natCast_nonneg _
    · rw [toInt_total fits]
      exact Int.natCast_nonneg _
    · rw [toInt_available fits]
      exact Int.natCast_nonneg _
    · rw [toInt_available fits, toInt_total fits]
      exact Int.ofNat_le.2 le
    · rcases kinds with ⟨seated, fixed⟩ | ⟨standing, flexible⟩
      · exact .inl ⟨congrArg Labelled.label seated, congrArg Labelled.label fixed⟩
      · exact .inr ⟨congrArg Labelled.label standing, congrArg Labelled.label flexible⟩

end CategoryRow

/-! ### Seats -/

namespace SeatRow

/-- The row without the number of its seat. -/
def unnumbered (row : SeatRow) : SeatRow :=
  { row with id := 0 }

theorem ofRow_values (row : SeatRow) : ofRow ⟨columns, row.values⟩ = .ok row := by
  obtain ⟨id, category, label, status, last, hold⟩ := row
  cases last <;> cases hold <;>
    simp [ofRow, SqlRow.field, columns, values, SqlRow.readValue, SqlColumn.type, SqlColumn.ofValue,
      SqlColumn.ofNull, SqlValue.ofOption, bind, Except.bind, pure, Except.pure]

theorem read_write (s : Seat) : read (write s) = .ok s := by
  obtain ⟨id, category, label, status, last, _ | hold⟩ := s <;>
    simp [read, bind, Except.bind, pure, Except.pure, write]

/-- A row is read as the seat that it was written for, up to the number. -/
theorem read_of_unnumbered {row : SeatRow} {s : Seat} (h : row.unnumbered = (write s).unnumbered) :
    (read row).map Seat.unnumbered = .ok s.unnumbered := by
  have written : row = write { s with id := ⟨row.id⟩ } := by
    cases row
    cases h
    rfl
  rw [written, read_write]
  rfl

variable {s : Seat}

theorem isSeat_write {category : CategoryId} {label : String} :
    Tables.isSeat category label (write s) ↔ s.category = category ∧ s.label = label := by
  rw [Tables.isSeat, decide_eq_true_eq]
  exact and_congr_left' ⟨congrArg CategoryId.mk, congrArg CategoryId.value⟩

theorem available_write : (write s).status = "AVAILABLE" ↔ s.status = .available :=
  Labelled.label_inj (b := SeatStatus.available)

theorem reserved_write : (write s).status = "RESERVED" ↔ s.status = .reserved :=
  Labelled.label_inj (b := SeatStatus.reserved)

theorem sold_write : (write s).status = "SOLD" ↔ s.status = .sold :=
  Labelled.label_inj (b := SeatStatus.sold)

theorem hold_write {hold : HoldId} : (write s).hold = some hold.value ↔ s.hold = some hold := by
  obtain ⟨id, category, label, status, last, _ | ⟨⟨owner⟩⟩⟩ := s <;> cases hold <;> simp [write]

@[simp] theorem seatLapsed_write (now : Instant) : Tables.seatLapsed now (write s) = s.isLapsed now := by
  rw [Bool.eq_iff_iff, Tables.seatLapsed, decide_eq_true_eq, reserved_write, Seat.isLapsed,
    Bool.and_eq_true, beq_iff_eq]
  rfl

theorem seatLive_write {now : Instant} : Tables.seatLive now (write s) ↔
    s.status = .reserved ∧ ∃ last, s.reservedUntil = some last ∧ now ≤ last := by
  rw [Tables.seatLive, decide_eq_true_eq, reserved_write]
  simp [Option.any_eq_true, write]

theorem checks_write (well : s.WellFormed) : (write s).Checks := by
  refine ⟨?_, fun reserved => ?_⟩
  · show Labelled.label s.status ∈ _
    cases s.status <;> decide
  · rw [reserved_write] at reserved
    rw [Seat.WellFormed, reserved] at well
    exact ⟨well.2, by simpa [write] using well.1⟩

end SeatRow

/-! ### Holds -/

namespace HoldRow

theorem ofRow_values (row : HoldRow) : ofRow ⟨columns, row.values⟩ = .ok row := by
  simp [ofRow, SqlRow.field, columns, values, SqlRow.readValue, SqlColumn.type, SqlColumn.ofValue,
    bind, Except.bind, pure, Except.pure]

variable {h : StockHold}

theorem read_write (h : StockHold) : read (write h) = .ok h := by
  simp [read, bind, Except.bind, pure, Except.pure, write]

theorem isHold_write {category : CategoryId} {hold : HoldId} :
    Tables.isHold category hold (write h) ↔ h.category = category ∧ h.hold = hold := by
  rw [Tables.isHold, decide_eq_true_eq]
  exact and_congr ⟨congrArg CategoryId.mk, congrArg CategoryId.value⟩
    ⟨congrArg HoldId.mk, congrArg HoldId.value⟩

theorem held_write : (write h).state = "HELD" ↔ h.state = .held :=
  Labelled.label_inj (b := HoldState.held)

theorem confirmed_write : (write h).state = "CONFIRMED" ↔ h.state = .confirmed :=
  Labelled.label_inj (b := HoldState.confirmed)

theorem free_write :
    (write h).state ∈ ["RELEASED", "EXPIRED"] ↔ h.state = .released ∨ h.state = .expired := by
  show Labelled.label h.state ∈ _ ↔ _
  cases h.state <;> decide

@[simp] theorem holdLapsed_write (now : Instant) : Tables.holdLapsed now (write h) = h.isLapsed now := by
  simp only [Tables.holdLapsed, held_write, StockHold.isLapsed, Bool.decide_and]
  rfl

@[simp] theorem holdLive_write (now : Instant) : Tables.holdLive now (write h) = h.isLive now := by
  simp only [Tables.holdLive, held_write, StockHold.isLive, Bool.decide_and]
  rfl

theorem checks_write (h : StockHold) : (write h).Checks := by
  show Labelled.label h.state ∈ _
  cases h.state <;> decide

end HoldRow

end BoxOffice
