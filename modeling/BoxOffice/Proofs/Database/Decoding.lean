import BoxOffice.Proofs.Database.BookingTable

/-!
# Rows and what they stand for

Reading a row and writing a value undo one another (`rows_exact`). A row stands for a value exactly when
every label in it is one of its list and no price or count is negative; what stands for nothing is the
store's fault and never the caller's (`Reading`). Of all values, only a category may not fit its columns.
-/

namespace BoxOffice

/-- A result made in two steps is there only if both are. -/
theorem exists_of_bind {α β : Type} {r : Result α} {next : α → Result β} {b : β}
    (done : (r >>= next) = .ok b) : ∃ a, r = .ok a ∧ next a = .ok b := by
  rcases r with e | a
  · cases done
  · exact ⟨a, rfl, done⟩

/-! ### Labels -/

namespace Labelled

/-- The labels of a list of values. -/
def labels (α : Type) [Labelled α] : List String :=
  (values (α := α)).map label

variable {α : Type} [Labelled α] {text : String}

theorem exists_of_mem_labels (listed : text ∈ labels α) : ∃ a : α, label a = text :=
  let ⟨a, _, named⟩ := List.mem_map.1 listed
  ⟨a, named⟩

/-- Only a label is read. -/
theorem mem_labels_of_read {a : α} (reads : (read text : Result α) = .ok a) : text ∈ labels α := by
  rw [read] at reads
  split at reads
  · next found =>
    exact List.mem_map.2 ⟨_, List.mem_of_find?_eq_some found, by simpa using List.find?_some found⟩
  · cases reads

end Labelled

/-! ### Rows that stand for nothing -/

/-- What may be wrong with a stored row. -/
inductive Cause.Senseless : Cause → Prop
  | label (typeName label : String) : Senseless (.unknownLabel typeName label)
  | price (category : Int32) : Senseless (.negativePrice category)
  | count (what : String) (n : Int) : Senseless (.countOutOfRange what n)

theorem Cause.Senseless.internal {cause : Cause} (senseless : cause.Senseless) :
    cause.error.kind = .internal := by
  cases senseless <;> rfl

/-- The result fails for nothing but a senseless row. -/
def Reading {α : Type} (r : Result α) : Prop :=
  ∀ e, r = .error e → ∃ cause : Cause, cause.Senseless ∧ e = cause.error

namespace Reading

variable {α β : Type}

theorem ok (a : α) : Reading (.ok a) :=
  nofun

theorem refuse {cause : Cause} (senseless : cause.Senseless) :
    Reading (BoxOffice.refuse cause : Result α) := by
  rintro _ ⟨⟩
  exact ⟨cause, senseless, rfl⟩

theorem bind {r : Result α} {next : α → Result β} (first : Reading r)
    (others : ∀ a, Reading (next a)) : Reading (r >>= next) := by
  rcases r with e | a
  · rintro _ ⟨⟩
    exact first e rfl
  · exact others a

theorem label [Labelled α] (text : String) : Reading (Labelled.read text : Result α) := by
  rw [Labelled.read]
  split
  · exact ok _
  · exact refuse (.label _ _)

theorem countOf (what : String) (n : Int) : Reading (BoxOffice.countOf what n) := by
  rw [BoxOffice.countOf]
  split
  · exact ok _
  · exact refuse (.count what n)

end Reading

theorem nonneg_of_countOf {what : String} {n : Int} {count : UInt32}
    (counts : countOf what n = .ok count) : 0 ≤ n := by
  rw [countOf] at counts
  split at counts
  · next range => exact range.1
  · cases counts

/-! ### The four tables -/

/-- Reading rows and writing values undo one another, for the rows that make sense and the values that
fit. -/
structure Exact {ρ α : Type} (read : ρ → Result α) (write : α → ρ) (Sensible : ρ → Prop)
    (Fits : α → Prop) : Prop where
  /-- A row is read exactly if it makes sense. -/
  reads : ∀ row, (∃ a, read row = .ok a) ↔ Sensible row
  /-- Any other row is an internal error. -/
  fails : ∀ row e, read row = .error e → e.kind = .internal
  /-- What was read from a row fits, and the row is written for it again. -/
  back : ∀ row a, read row = .ok a → Fits a ∧ write a = row
  /-- A value that fits is read from the row that is written for it. -/
  forth : ∀ a, Fits a → read (write a) = .ok a

/-- It is enough that every row that makes sense is written for some value. -/
theorem Exact.of_written {ρ α : Type} {read : ρ → Result α} {write : α → ρ} {Sensible : ρ → Prop}
    {Fits : α → Prop} (reading : ∀ row, Reading (read row))
    (sensible : ∀ row a, read row = .ok a → Sensible row)
    (written : ∀ row, Sensible row → ∃ a, Fits a ∧ write a = row)
    (forth : ∀ a, Fits a → read (write a) = .ok a) : Exact read write Sensible Fits where
  reads row := by
    refine ⟨fun ⟨a, reads⟩ => sensible row a reads, fun sense => ?_⟩
    obtain ⟨a, fits, rfl⟩ := written row sense
    exact ⟨a, forth a fits⟩
  fails row e failed := by
    obtain ⟨cause, senseless, rfl⟩ := reading row e failed
    exact senseless.internal
  back row a reads := by
    obtain ⟨b, fits, rfl⟩ := written row (sensible row a reads)
    rw [forth b fits] at reads
    cases reads
    exact ⟨fits, rfl⟩
  forth := forth

/-- Reading a row is exact if it reads one label and takes the other columns as they are. -/
theorem Exact.of_label {ρ α σ : Type} [Labelled σ] {read : ρ → Result α} {write : α → ρ}
    (column : ρ → String) (make : ρ → σ → α) (reading : ∀ row, Reading (read row))
    (reads : ∀ row, read row = Labelled.read (column row) >>= fun label => .ok (make row label))
    (back : ∀ row label, Labelled.label label = column row → write (make row label) = row)
    (forth : ∀ a, read (write a) = .ok a) :
    Exact read write (fun row => column row ∈ Labelled.labels σ) fun _ => True := by
  refine .of_written reading (fun row a read => ?_) (fun row listed => ?_) fun a _ => forth a
  · rw [reads] at read
    obtain ⟨label, listed, -⟩ := exists_of_bind read
    exact Labelled.mem_labels_of_read listed
  · obtain ⟨label, named⟩ := Labelled.exists_of_mem_labels listed
    exact ⟨make row label, trivial, back row label named⟩

/-- A number that is not negative is that of a count. -/
theorem exists_count {n : Int32} (nonneg : 0 ≤ n.toInt) :
    ∃ m : UInt32, m.toNat ≤ 2147483647 ∧ Int32.ofInt m.toNat = n := by
  have upper := n.toInt_lt
  have back : (UInt32.ofNat n.toInt.toNat).toNat = n.toInt.toNat :=
    UInt32.toNat_ofNat_of_lt' (Nat.lt_of_lt_of_le (by omega) (by decide : 2 ^ 31 ≤ UInt32.size))
  refine ⟨UInt32.ofNat n.toInt.toNat, by omega, ?_⟩
  rw [back, Int.toNat_of_nonneg nonneg, Int32.ofInt_toInt]

/-- So is a price that of an amount. -/
theorem exists_price {n : Int64} (nonneg : 0 ≤ n.toInt) :
    ∃ m : UInt64, m.toNat ≤ 9223372036854775807 ∧ Int64.ofInt m.toNat = n := by
  have upper := n.toInt_lt
  have back : (UInt64.ofNat n.toInt.toNat).toNat = n.toInt.toNat :=
    UInt64.toNat_ofNat_of_lt' (Nat.lt_of_lt_of_le (by omega) (by decide : 2 ^ 63 ≤ UInt64.size))
  refine ⟨UInt64.ofNat n.toInt.toNat, by omega, ?_⟩
  rw [back, Int.toNat_of_nonneg nonneg, Int64.ofInt_toInt]

namespace CategoryRow

/-- The labels of the row are labels, and no number is negative. -/
structure Sensible (row : CategoryRow) : Prop where
  kind : row.kind ∈ Labelled.labels Layout
  bookingKind : row.bookingKind ∈ Labelled.labels Tracking
  price : 0 ≤ row.priceCents.toInt
  total : 0 ≤ row.total.toInt
  available : 0 ≤ row.available.toInt

theorem reading (row : CategoryRow) : Reading (read row) := by
  rw [read]
  split
  · exact .refuse (.price row.id)
  · exact .bind (.label (α := Layout) _) fun _ => .bind (.label (α := Tracking) _) fun _ =>
      .bind (.countOf _ _) fun _ => .bind (.countOf _ _) fun _ => .ok _

theorem sensible_of_read {row : CategoryRow} {c : Category} (reads : read row = .ok c) :
    row.Sensible := by
  rw [read] at reads
  split at reads
  · cases reads
  next price =>
  obtain ⟨layout, kind, reads⟩ := exists_of_bind reads
  obtain ⟨tracking, bookingKind, reads⟩ := exists_of_bind reads
  obtain ⟨total, whole, reads⟩ := exists_of_bind reads
  obtain ⟨available, left, -⟩ := exists_of_bind reads
  exact ⟨Labelled.mem_labels_of_read kind, Labelled.mem_labels_of_read bookingKind, by omega,
    nonneg_of_countOf whole, nonneg_of_countOf left⟩

theorem exists_write {row : CategoryRow} (sensible : row.Sensible) : ∃ c, Fits c ∧ write c = row := by
  obtain ⟨layout, kind⟩ := Labelled.exists_of_mem_labels sensible.kind
  obtain ⟨tracking, bookingKind⟩ := Labelled.exists_of_mem_labels sensible.bookingKind
  obtain ⟨cents, price_fits, price⟩ := exists_price sensible.price
  obtain ⟨total, total_fits, whole⟩ := exists_count sensible.total
  obtain ⟨available, available_fits, left⟩ := exists_count sensible.available
  refine ⟨⟨⟨row.id⟩, ⟨row.event⟩, row.name, layout, tracking, ⟨cents⟩, total, available⟩,
    ⟨price_fits, total_fits, available_fits⟩, ?_⟩
  rw [write, kind, bookingKind, price, whole, left]

theorem exact : Exact read write Sensible Fits :=
  .of_written reading (fun _ _ => sensible_of_read) (fun _ => exists_write) fun _ => read_write

end CategoryRow

theorem SeatRow.reading (row : SeatRow) : Reading row.read :=
  .bind (.label (α := SeatStatus) _) fun _ => .ok _

theorem SeatRow.exact :
    Exact read write (fun row => row.status ∈ Labelled.labels SeatStatus) fun _ => True := by
  refine .of_label status _ reading (fun row => rfl) (fun row label named => ?_) read_write
  obtain ⟨id, category, name, status, last, _ | hold⟩ := row
  all_goals
    cases named
    rfl

theorem HoldRow.reading (row : HoldRow) : Reading row.read :=
  .bind (.label (α := HoldState) _) fun _ => .ok _

theorem HoldRow.exact :
    Exact read write (fun row => row.state ∈ Labelled.labels HoldState) fun _ => True := by
  refine .of_label state _ reading (fun row => rfl) (fun row label named => ?_) read_write
  cases row
  cases named
  rfl

theorem BookingRow.reading (row : BookingRow) : Reading row.read :=
  .bind (.label (α := BookingStatus) _) fun _ => .ok _

theorem BookingRow.exact :
    Exact read write (fun row => row.status ∈ Labelled.labels BookingStatus) fun _ => True := by
  refine .of_label status _ reading (fun row => rfl) (fun row label named => ?_) read_write
  obtain ⟨id, attempt, event, category, _ | seat, name, user, status, last, created, updated⟩ := row
  all_goals
    cases named
    rfl

/-- **Reading rows is exact**: in each of the four tables a row is read exactly if its labels are labels
and, for a category, its price and its counts are not negative, and is an internal error otherwise; what
is read is written as that row again, and what is written is read as that value again. Every seat, every
stock hold and every booking fits its columns. -/
theorem rows_exact :
    Exact CategoryRow.read CategoryRow.write CategoryRow.Sensible CategoryRow.Fits ∧
    Exact SeatRow.read SeatRow.write (fun row => row.status ∈ Labelled.labels SeatStatus)
      (fun _ => True) ∧
    Exact HoldRow.read HoldRow.write (fun row => row.state ∈ Labelled.labels HoldState)
      (fun _ => True) ∧
    Exact BookingRow.read BookingRow.write (fun row => row.status ∈ Labelled.labels BookingStatus)
      fun _ => True :=
  ⟨CategoryRow.exact, SeatRow.exact, HoldRow.exact, BookingRow.exact⟩

end BoxOffice
