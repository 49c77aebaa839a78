import BoxOffice.Proofs.Database.Atomic
import BoxOffice.Proofs.Database.Mirror
import BoxOffice.Proofs.Database.Server
import BoxOffice.Proofs.Ledger.Provision

/-!
# Categories that are provided in the database

Played with tables that mirror a ledger, a further category is taken by the database exactly if the
ledger takes it, and then the tables mirror the ledger with it (`provides`). What the ledger looks up
before it takes a category, the constraints of the tables refuse: a known identifier, a repeated label,
and more left than there is.
-/

namespace BoxOffice

open Database MemoryLedger Rehearsal Server

namespace Category

/-- The number of places that a category comes with. -/
def capacity (c : Category) (labels : List String) : Nat :=
  match c.layout with
  | .seated => labels.length
  | .standing => c.total.toNat

/-- The capacity and the price of a category fit the columns. -/
structure FitsColumns (c : Category) (labels : List String) : Prop where
  price : c.price.cents.toNat ≤ 9223372036854775807
  capacity : c.capacity labels ≤ 2147483647

instance (c : Category) (labels : List String) : Decidable (c.FitsColumns labels) :=
  decidable_of_iff (c.price.cents.toNat ≤ 9223372036854775807 ∧ c.capacity labels ≤ 2147483647)
    ⟨fun ⟨price, capacity⟩ => ⟨price, capacity⟩, fun ⟨price, capacity⟩ => ⟨price, capacity⟩⟩

theorem FitsColumns.few {c : Category} {labels : List String} (fits : c.FitsColumns labels)
    (seated : c.layout = .seated) : labels.length < UInt32.size := by
  have capacity := fits.capacity
  simp only [Category.capacity, seated] at capacity
  simp only [UInt32.size]
  omega

theorem FitsColumns.opened {c : Category} {labels : List String} (fits : c.FitsColumns labels)
    (within : (c.opened labels).available ≤ (c.opened labels).total) :
    CategoryRow.Fits (c.opened labels) := by
  have total : (c.opened labels).total.toNat ≤ 2147483647 := by
    have capacity := fits.capacity
    cases layout : c.layout with
    | seated =>
      rw [opened_of_seated layout]
      show (UInt32.ofNat labels.length).toNat ≤ _
      rw [UInt32.toNat_ofNat_of_lt' (fits.few layout)]
      rwa [Category.capacity, layout] at capacity
    | standing =>
      rw [opened_of_standing layout]
      rwa [Category.capacity, layout] at capacity
  refine ⟨?_, total, Nat.le_trans (UInt32.le_iff_toNat_le.1 within) total⟩
  rw [opened_price]
  exact fits.price

end Category

variable {l : MemoryLedger} {t : Tables} {c : Category} {labels : List String}
  {number : Tables → Nat → Int32} {stage : Stage}

/-! ### A ledger with a further section -/

section Further

variable {id : CategoryId} {s : Section} {next : SeatId}

theorem MemoryLedger.Storable.set (ok : l.Storable) (fits : CategoryRow.Fits s.category)
    (reach : ({ sections := l.sections.set id s, nextSeat := next } : MemoryLedger).Reachable) :
    ({ sections := l.sections.set id s, nextSeat := next } : MemoryLedger).Storable where
  reach := reach
  price other s' there := by
    rw [Registry.get?_set] at there
    split at there
    · cases there
      exact fits.price
    · exact ok.price other s' there
  total other s' there := by
    rw [Registry.get?_set] at there
    split at there
    · cases there
      exact fits.total
    · exact ok.total other s' there

/-- A category that comes without holds is mirrored by a further row, and by rows for its seats. -/
theorem Mirrors.set (m : Mirrors l t) (next : SeatId) (new : l.sections.get? id = none)
    (unheld : s.pool.holds = ∅) (rows : List SeatRow) (there : ∀ row ∈ rows, row.category = id.value)
    (same : rows.map SeatRow.unnumbered = s.seats.values.map fun s => (SeatRow.write s).unnumbered) :
    Mirrors { sections := l.sections.set id s, nextSeat := next }
      { t with categories := t.categories ++ [.write s.current], seats := t.seats ++ rows } where
  categories := by
    rw [m.categories, categoryRows, categoryRows, Registry.values_set_of_none new, List.map_append]
    rfl
  seats other := by
    rw [List.filter_append, List.map_append, m.seats other]
    unfold seatsOf
    rw [Registry.get?_set]
    by_cases here : other = id
    · subst here
      have all : (rows.filter fun row => row.category = other.value) = rows :=
        List.filter_eq_self.2 fun row mem => by simpa using there row mem
      rw [all, same, new, if_pos rfl]
      rfl
    · have none : (rows.filter fun row => row.category = other.value) = [] := by
        refine List.filter_eq_nil_iff.2 fun row mem => ?_
        rw [there row mem, decide_eq_true_eq, CategoryId.value_inj]
        exact Ne.symm here
      rw [none, if_neg here]
      simp
  holds other := by
    refine (m.holds other).trans ?_
    unfold holdsOf
    rw [Registry.get?_set]
    split
    · next here =>
      rw [here, new, Option.map_some, unheld]
      rfl
    · rfl

end Further

/-! ### What the tables take -/

namespace Tables

/-- The tables with a further category and with seats for labels. -/
def provide (number : Tables → Nat → Int32) (t : Tables) (row : CategoryRow) (category : CategoryId)
    (labels : List String) : Except SqlFailure Tables := do
  let t ← t.putCategories (t.categories ++ [row])
  if labels.isEmpty then return t
  else t.putSeats (t.seats ++ newSeats number t category labels)

theorem putCategories_ok {rows : List CategoryRow} {t' : Tables}
    (put : t.putCategories rows = .ok t') :
    (∀ row ∈ rows, row.Checks) ∧ (rows.map CategoryRow.id).Nodup := by
  unfold putCategories at put
  split at put
  · cases put
  next checks =>
  split at put
  · cases put
  next nodup => exact ⟨not_not.1 checks, not_not.1 nodup⟩

theorem putSeats_ok {rows : List SeatRow} {t' : Tables} (put : t.putSeats rows = .ok t') :
    (rows.map SeatRow.key).Nodup := by
  unfold putSeats at put
  split at put
  · cases put
  split at put
  · cases put
  next nodup => exact not_not.1 nodup

theorem putCategories_error {rows : List CategoryRow} {f : SqlFailure}
    (put : t.putCategories rows = .error f) : f.isConstraint = true := by
  unfold putCategories at put
  split at put
  · cases put
    rfl
  split at put
  · cases put
    rfl
  · cases put

theorem putSeats_error {rows : List SeatRow} {f : SqlFailure} (put : t.putSeats rows = .error f) :
    f.isConstraint = true := by
  unfold putSeats at put
  split at put
  · cases put
    rfl
  split at put
  · cases put
    rfl
  split at put
  · cases put
    rfl
  · cases put

theorem run_insertCategory (number : Tables → Nat → Int32) (t : Tables) (row : CategoryRow) :
    t.run number (.insertCategory row) =
      (t.putCategories (t.categories ++ [row])).map fun t => (.ofAffected 1, t) := by
  simp only [run]
  cases t.putCategories (t.categories ++ [row]) <;> rfl

theorem run_insertSeats (number : Tables → Nat → Int32) (t : Tables) (category : CategoryId)
    (labels : List String) : t.run number (.insertSeats category labels) =
      (t.putSeats (t.seats ++ newSeats number t category labels)).map fun t' =>
        (.ofAffected (newSeats number t category labels).length, t') := by
  simp only [run]
  cases t.putSeats (t.seats ++ newSeats number t category labels) <;> rfl

theorem unnumbered_newSeats (number : Tables → Nat → Int32) (t : Tables) (category : CategoryId)
    (labels : List String) : (newSeats number t category labels).map SeatRow.unnumbered =
      labels.map (SeatRow.write ∘ Seat.fresh ⟨0⟩ category) :=
  List.ext_getElem (by simp [newSeats]) fun place _ _ => by
    simp [newSeats]
    rfl

theorem category_newSeats (number : Tables → Nat → Int32) (t : Tables) (category : CategoryId)
    (labels : List String) :
    ∀ row ∈ newSeats number t category labels, row.category = category.value := by
  intro row mem
  obtain ⟨place, _, rfl⟩ := List.mem_mapIdx.1 mem
  rfl

section Provide

variable {row : CategoryRow} {category : CategoryId}

theorem provide_ok {t' : Tables} (h : t.provide number row category labels = .ok t') :
    ∃ t₁, t.putCategories (t.categories ++ [row]) = .ok t₁ ∧
      (labels = [] ∧ t' = t₁ ∨
        labels ≠ [] ∧ t₁.putSeats (t₁.seats ++ newSeats number t₁ category labels) = .ok t') := by
  unfold provide at h
  cases put : t.putCategories (t.categories ++ [row]) with
  | error f =>
    rw [put] at h
    cases h
  | ok t₁ =>
    rw [put] at h
    refine ⟨t₁, rfl, ?_⟩
    cases labels with
    | nil =>
      cases h
      exact .inl ⟨rfl, rfl⟩
    | cons label labels => exact .inr ⟨by simp, h⟩

theorem provide_error {f : SqlFailure} (h : t.provide number row category labels = .error f) :
    t.putCategories (t.categories ++ [row]) = .error f ∨
    ∃ t₁, t.putCategories (t.categories ++ [row]) = .ok t₁ ∧ labels ≠ [] ∧
      t₁.putSeats (t₁.seats ++ newSeats number t₁ category labels) = .error f := by
  unfold provide at h
  cases put : t.putCategories (t.categories ++ [row]) with
  | error f' =>
    rw [put] at h
    cases h
    exact .inl rfl
  | ok t₁ =>
    rw [put] at h
    cases labels with
    | nil => cases h
    | cons label labels => exact .inr ⟨t₁, rfl, by simp, h⟩

/-- Only a constraint stands in the way of a further category. -/
theorem isConstraint_of_provide {f : SqlFailure}
    (h : t.provide number row category labels = .error f) : f.isConstraint = true := by
  rcases provide_error h with put | ⟨t₁, -, -, put⟩
  · exact putCategories_error put
  · exact putSeats_error put

end Provide

/-- What the tables take is acceptable. -/
theorem acceptable_of_provide {t' : Tables} (reach : l.Reachable) (same : t.categories = l.categoryRows)
    (inOrder : c.InOrder labels) (fits : CategoryRow.Fits (c.opened labels))
    (h : t.provide number (.write (c.opened labels)) c.id labels = .ok t') :
    l.Acceptable c labels := by
  obtain ⟨t₁, put, seats⟩ := provide_ok h
  obtain ⟨checks, nodup⟩ := putCategories_ok put
  refine ⟨inOrder, ?_, ?_, ?_⟩
  · rw [List.map_append, same, categoryRows_ids reach, List.nodup_append] at nodup
    have fresh : c.id.value ∉ l.ids := fun mem => nodup.2.2 _ mem c.id.value
      (by simp [CategoryRow.write]) rfl
    simpa [mem_ids] using fresh
  · rcases seats with ⟨rfl, -⟩ | ⟨-, put'⟩
    · exact List.nodup_nil
    · have keys := putSeats_ok put'
      rw [List.map_append] at keys
      have new : (newSeats number t₁ c.id labels).map SeatRow.key =
          labels.map fun label => (c.id.value, label) :=
        List.ext_getElem (by simp [newSeats]) fun place _ _ => by simp [newSeats, SeatRow.key]
      rw [new] at keys
      exact keys.of_append_right.of_map _
  · refine (CategoryRow.checks_write_iff fits ?_).1 (checks _ (by simp))
    simp only [Category.opened_layout, Category.opened_tracking]
    rcases inOrder with ⟨seated, fixed, -⟩ | ⟨standing, flexible, -⟩
    · exact .inl ⟨seated, fixed⟩
    · exact .inr ⟨standing, flexible⟩

/-- The tables take rows with which they mirror a ledger. -/
theorem provide_eq {l' : MemoryLedger} {row : CategoryRow} {category : CategoryId} (ok : l'.Storable)
    (m : Mirrors l' { t with
      categories := t.categories ++ [row]
      seats := t.seats ++
        newSeats number { t with categories := t.categories ++ [row] } category labels }) :
    t.provide number row category labels = .ok { t with
      categories := t.categories ++ [row]
      seats := t.seats ++
        newSeats number { t with categories := t.categories ++ [row] } category labels } := by
  have categories : t.putCategories (t.categories ++ [row]) =
      .ok { t with categories := t.categories ++ [row] } := by
    have rows : t.categories ++ [row] = l'.categoryRows := m.categories
    rw [rows, putCategories_eq ok]
  rw [provide, categories]
  simp only [bind, Except.bind]
  split
  · next none =>
    rw [List.isEmpty_iff.1 none]
    simp [newSeats]
    rfl
  · exact putSeats_eq ok (m.ids ok.reach) m.seats

end Tables

/-! ### What the database answers -/

namespace DatabaseLedger

/-- A category whose numbers do not fit the columns is an invalid argument. -/
theorem checkColumns_cases (c : Category) :
    (CategoryRow.Fits c ∧ checkColumns c = .ok (.write c)) ∨
    (¬ CategoryRow.Fits c ∧ ∃ e, checkColumns c = .error e ∧ e.kind = .invalidArgument) := by
  have total : 2147483647 < c.total ↔ ¬ c.total.toNat ≤ 2147483647 := by
    rw [UInt32.lt_iff_toNat_lt, Nat.not_le]
    rfl
  have available : 2147483647 < c.available ↔ ¬ c.available.toNat ≤ 2147483647 := by
    rw [UInt32.lt_iff_toNat_lt, Nat.not_le]
    rfl
  have price : 9223372036854775807 < c.price.cents ↔
      ¬ c.price.cents.toNat ≤ 9223372036854775807 := by
    rw [UInt64.lt_iff_toNat_lt, Nat.not_le]
    rfl
  simp only [checkColumns, total, available, price, bind, Except.bind, pure, Except.pure]
  by_cases total_fits : c.total.toNat ≤ 2147483647
  · by_cases available_fits : c.available.toNat ≤ 2147483647
    · by_cases price_fits : c.price.cents.toNat ≤ 9223372036854775807
      · exact .inl ⟨⟨price_fits, total_fits, available_fits⟩,
          by simp [total_fits, available_fits, price_fits]⟩
      · exact .inr ⟨fun fits => price_fits fits.price, Cause.priceOutOfRange.error,
          by simp [total_fits, available_fits, price_fits, refuse], rfl⟩
    · exact .inr ⟨fun fits => available_fits fits.available, Cause.availableOutOfRange.error,
        by simp [total_fits, available_fits, refuse], rfl⟩
  · exact .inr ⟨fun fits => total_fits fits.total, Cause.capacityOutOfRange.error,
      by simp [total_fits, refuse], rfl⟩

/-- So is one that does not go together with its labels. -/
theorem checkProvision_cases (few : c.layout = .seated → labels.length < UInt32.size) :
    (c.InOrder labels ∧ checkProvision c labels = .ok (c.opened labels)) ∨
    (¬ c.InOrder labels ∧ ∃ e, checkProvision c labels = .error e ∧ e.kind = .invalidArgument) := by
  unfold checkProvision Category.InOrder Category.opened
  cases seated : c.layout with
  | seated =>
    cases c.tracking with
    | fixed =>
      have few := few seated
      by_cases blank : labels.any Text.isBlank
      · refine .inr ⟨?_, _, if_pos blank, rfl⟩
        obtain ⟨label, mem, blank⟩ := List.any_eq_true.1 blank
        simpa using ⟨label, mem, blank⟩
      · refine .inl ⟨?_, ?_⟩
        · simpa using blank
        · rw [if_neg blank, if_neg (by omega)]
    | flexible => exact .inr ⟨by simp, _, rfl, rfl⟩
  | standing =>
    cases c.tracking with
    | fixed => exact .inr ⟨by simp, _, rfl, rfl⟩
    | flexible =>
      cases labels with
      | nil => exact .inl ⟨by simp, rfl⟩
      | cons label labels => exact .inr ⟨by simp, _, rfl, rfl⟩

/-- What is told to the database inside the transaction. -/
def store (row : CategoryRow) (category : CategoryId) (labels : List String) :
    Service DatabaseWorld (Ending × Unit) := do
  let _ ← execute (.insertCategory row)
  if !labels.isEmpty then
    let _ ← execute (.insertSeats category labels)
  return (.commit, ())

section Store

variable {row : CategoryRow} {category : CategoryId}

theorem yields_store_of_ok {t' : Tables} (h : t.provide number row category labels = .ok t') :
    (working t t).Yields number stage (store row category labels) (.ok (.commit, ())) (working t t') := by
  obtain ⟨t₁, put, seats⟩ := Tables.provide_ok h
  have inserted := Tables.run_insertCategory number t row
  rw [put] at inserted
  refine ((sends_execute _).yields_working inserted rfl).bind ?_
  rcases seats with ⟨rfl, rfl⟩ | ⟨some, put'⟩
  · exact .pure _
  · have seated := Tables.run_insertSeats number t₁ category labels
    rw [put'] at seated
    rw [if_pos (by simpa using some)]
    exact ((sends_execute _).yields_working seated rfl).bind (.pure _)

theorem yields_store_of_error (stage : Stage) {f : SqlFailure}
    (h : t.provide number row category labels = .error f) :
    ∃ d, d.before = some t ∧
      (working t t).Yields number stage (store row category labels) (.error (errorOf f)) d := by
  have inserted := Tables.run_insertCategory number t row
  rcases Tables.provide_error h with put | ⟨t₁, put, some, put'⟩ <;> rw [put] at inserted
  · obtain ⟨d, began, failed⟩ := (sends_execute (.insertCategory row)).yields_spoiled inserted rfl
    exact ⟨d, began, failed.bind_error⟩
  · have seated := Tables.run_insertSeats number t₁ category labels
    rw [put'] at seated
    obtain ⟨d, began, failed⟩ :=
      (sends_execute (.insertSeats category labels)).yields_spoiled seated rfl
    refine ⟨d, began, ((sends_execute _).yields_working inserted rfl).bind ?_⟩
    rw [if_pos (by simpa using some)]
    exact failed.bind_error

end Store

/-- A category that is in order is stored inside a transaction. -/
theorem yields_provision {c' : Category} {row : CategoryRow}
    (checked : checkProvision c labels = .ok c') (fits : checkColumns c' = .ok row)
    {r : Result Unit} {d : Server}
    (stored : (resting t).Yields number stage (transaction (store row c.id labels)) r d) :
    (resting t).Yields number stage (provision c labels) (r.map fun _ => c') d := by
  unfold provision
  rw [checked]
  refine ((computes_interpret _).yields _).bind ?_
  rw [fits]
  refine ((computes_interpret _).yields _).bind ?_
  rw [checkProvision_id checked]
  cases r with
  | error e => exact stored.bind_error
  | ok a => exact stored.bind (((computes_note _).yields _).bind (.pure _))

/-- A category that is not in order is refused without a word to the database. -/
theorem yields_refused {e : Error} (refused : rowFor c labels = .error e) (d : Server) :
    d.Yields number stage (provision c labels) (.error e) d := by
  have says_nothing : Computes (provision c labels) (.error e) :=
    Program.Ensures.mono (talks_provision c labels) fun talk r whole => whole.refused e refused
  exact says_nothing.yields d

theorem errorOf_kind {f : SqlFailure} (constraint : f.isConstraint = true) :
    (errorOf f).kind = .invalidArgument := by
  rw [errorOf, if_pos constraint]

/-- The database takes no category that is not acceptable to the ledger. -/
theorem yields_provision_of_not_acceptable (number : Tables → Nat → Int32) (stage : Stage)
    (m : Mirrors l t) (ok : l.Storable) (few : c.layout = .seated → labels.length < UInt32.size)
    (bad : ¬ l.Acceptable c labels) :
    ∃ e, e.kind = .invalidArgument ∧
      (resting t).Yields number stage (provision c labels) (.error e) (resting t) := by
  rcases checkProvision_cases few with ⟨inOrder, checked⟩ | ⟨-, e, checked, kind⟩
  · rcases checkColumns_cases (c.opened labels) with ⟨fits, row⟩ | ⟨-, e, row, kind⟩
    · cases stored : t.provide number (.write (c.opened labels)) c.id labels with
      | ok t' =>
        exact absurd (Tables.acceptable_of_provide ok.reach m.categories inOrder fits stored) bad
      | error f =>
        obtain ⟨d, began, failed⟩ := yields_store_of_error stage stored
        exact ⟨_, errorOf_kind (Tables.isConstraint_of_provide stored),
          yields_provision checked row (failed.given_up began)⟩
    · exact ⟨e, kind, yields_refused (by rw [rowFor, checked]; exact row) _⟩
  · exact ⟨e, kind, yields_refused (by rw [rowFor, checked]; rfl) _⟩

/-- **The database provides a category as the ledger does** that its tables mirror. -/
theorem provides (number : Tables → Nat → Int32) (stage : Stage) (m : Mirrors l t) (ok : l.Storable)
    (fits : c.FitsColumns labels) :
    ∃ r t', (resting t).Yields number stage (provision c labels) r (resting t') ∧
      (r.mapError Error.kind).map (fun _ => ()) = (l.provision c labels).1.mapError Error.kind ∧
      Mirrors (l.provision c labels).2 t' ∧ (l.provision c labels).2.Storable := by
  have reach := ok.reach.provision c labels
  by_cases good : l.Acceptable c labels
  · obtain ⟨s, next, provided, category, current, seats, unheld⟩ :=
      provision_of_acceptable fits.few good
    have columns := fits.opened good.within
    rw [provided] at reach ⊢
    have storable := ok.set (by rw [category]; exact columns) reach
    have mirrors := m.set next good.new unheld (Tables.newSeats number
      { t with categories := t.categories ++ [.write (c.opened labels)] } c.id labels)
      (Tables.category_newSeats number _ _ _) <| by
        rw [Tables.unnumbered_newSeats, ← List.map_map, ← seats, List.map_map]
        rfl
    rw [current] at mirrors
    have stored : (working t t).Yields number stage _ _ _ :=
      yields_store_of_ok (Tables.provide_eq storable mirrors)
    obtain ⟨-, checked⟩ : c.InOrder labels ∧ _ :=
      (checkProvision_cases fits.few).resolve_right fun bad => bad.1 good.inOrder
    obtain ⟨-, row⟩ : CategoryRow.Fits (c.opened labels) ∧ _ :=
      (checkColumns_cases _).resolve_right fun bad => bad.1 columns
    exact ⟨_, _, yields_provision checked row stored.committed, rfl, mirrors, storable⟩
  · obtain ⟨e, next, refused, kind⟩ := provision_of_not_acceptable fits.few good
    obtain ⟨e', kind', yields⟩ := yields_provision_of_not_acceptable number stage m ok fits.few good
    rw [refused] at reach ⊢
    refine ⟨_, t, yields, ?_, ⟨m.categories, m.seats, m.holds⟩, reach, ok.price, ok.total⟩
    exact congrArg Except.error (kind'.trans kind.symm)

end DatabaseLedger

end BoxOffice
