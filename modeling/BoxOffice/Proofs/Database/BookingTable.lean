import BoxOffice.Proofs.Bookings.History
import BoxOffice.Proofs.Database.Reading

/-!
# The table of bookings

The table as a list of rows, and each statement about it as it reads: `BookingTable.run` follows one. Two
rows of one booking or of one attempt are refused, and so is a row that the table does not want. A table
that `Mirrors` a store in memory has a row for each booking, in the same order; what it gives for an
identifier or an attempt is what the store finds (`Mirrors.filter_id`, `Mirrors.filter_attempt`), and
its changes are those of the store (`Mirrors.run_insert`, `Mirrors.run_transition`).
-/

namespace BoxOffice

open Database Rehearsal

/-! ### Rows -/

namespace BookingRow

/-- The columns of a row. -/
def columns : List (String × SqlType) :=
  [("id", .uuid), ("attempt_id", .uuid), ("event_id", .int4), ("category_id", .int4),
    ("ticket_id", .int4), ("seat_label", .text), ("user_id", .int4), ("status", .text),
    ("hold_expires_at", .timestamptz), ("created_at", .timestamptz), ("updated_at", .timestamptz)]

/-- The values in the columns. -/
def values (row : BookingRow) : List SqlValue :=
  [.uuid row.id, .uuid row.attempt, .integer row.event.toInt, .integer row.category.toInt,
    .ofOption (fun id => .integer id.toInt) row.seat, .ofOption .text row.seatLabel,
    .integer row.user.toInt, .text row.status, .timestamp row.holdExpiresAt,
    .timestamp row.createdAt, .timestamp row.updatedAt]

/-- The row is as the table wants its rows. -/
structure Checks (row : BookingRow) : Prop where
  user : 0 < row.user.toInt
  status : row.status ∈ ["PENDING", "CONFIRMED", "CANCELLED"]

instance (row : BookingRow) : Decidable row.Checks :=
  decidable_of_iff (0 < row.user.toInt ∧ row.status ∈ ["PENDING", "CONFIRMED", "CANCELLED"])
    ⟨fun ⟨user, status⟩ => ⟨user, status⟩, fun ⟨user, status⟩ => ⟨user, status⟩⟩

theorem ofRow_values (row : BookingRow) : ofRow ⟨columns, row.values⟩ = .ok row := by
  obtain ⟨id, attempt, event, category, seat, label, user, status, last, created, updated⟩ := row
  cases seat <;> cases label <;>
    simp [ofRow, SqlRow.field, columns, values, SqlRow.readValue, SqlColumn.type, SqlColumn.ofValue,
      SqlColumn.ofNull, SqlValue.ofOption, bind, Except.bind, pure, Except.pure]

theorem read_write (b : Booking) : read (write b) = .ok b := by
  obtain ⟨id, attempt, event, category, seat, label, user, status, last, created, updated⟩ := b
  cases seat <;> simp [read, bind, Except.bind, pure, Except.pure, write]

theorem checks_write {b : Booking} (positive : 0 < b.user.value.toInt) : (write b).Checks := by
  refine ⟨positive, ?_⟩
  show Labelled.label b.status ∈ _
  cases b.status <;> decide

theorem id_write {b : Booking} {id : BookingId} : (write b).id = id.value ↔ b.id = id :=
  ⟨congrArg BookingId.mk, congrArg BookingId.value⟩

theorem attempt_write {b : Booking} {attempt : HoldId} :
    (write b).attempt = attempt.value ↔ b.attempt = attempt :=
  ⟨congrArg HoldId.mk, congrArg HoldId.value⟩

theorem status_write {b : Booking} {status : BookingStatus} :
    (write b).status = Labelled.label status ↔ b.status = status :=
  Labelled.label_inj

end BookingRow

/-! ### Statements -/

/-- The table of bookings. -/
structure BookingTable where
  rows : List BookingRow

namespace BookingTable

/-- A table without rows. -/
def empty : BookingTable where
  rows := []

/-- The table with some rows. -/
def put (rows : List BookingRow) : Except SqlFailure BookingTable :=
  if ¬ ∀ row ∈ rows, row.Checks then .error (Tables.failure "23514")
  else if ¬ (rows.map BookingRow.id).Nodup then .error (Tables.failure "23505")
  else if ¬ (rows.map BookingRow.attempt).Nodup then .error (Tables.failure "23505")
  else .ok { rows }

/-- The answer with some bookings. -/
def ofBookings (rows : List BookingRow) : SqlAnswer :=
  .ofRows BookingRow.columns (rows.map BookingRow.values)

/-- The row is that of a booking that stands somewhere. -/
def stands (id : BookingId) (status : BookingStatus) (row : BookingRow) : Bool :=
  row.id = id.value ∧ row.status = Labelled.label status

/-- The row after the status of its booking was changed. -/
def moved (target : BookingStatus) (now : Instant) (row : BookingRow) : BookingRow :=
  { row with status := Labelled.label target, updatedAt := now }

/-- What a statement answers, and the table that it leaves behind. A row comes into the table with one
time for its beginning and its last change. -/
def run (t : BookingTable) : Statement → Except SqlFailure (SqlAnswer × BookingTable)
  | .insertBooking row => do
    let row := { row with updatedAt := row.createdAt }
    let t ← put (t.rows ++ [row])
    return (ofBookings [row], t)
  | .selectBooking id => .ok (ofBookings (t.rows.filter fun row => row.id = id.value), t)
  | .selectBookingOfAttempt attempt =>
    .ok (ofBookings (t.rows.filter fun row => row.attempt = attempt.value), t)
  | .transitionBooking id expected target now => do
    let t' ← put (Tables.update t.rows (stands id expected) (moved target now))
    return (ofBookings (Tables.updated t.rows (stands id expected) (moved target now)), t')
  | _ => .error (Tables.failure "42P01")

/-- Answers a statement. One that fails leaves the table as it is. -/
def execute (t : BookingTable) (s : Statement) : Except SqlFailure SqlAnswer × BookingTable :=
  match t.run s with
  | .ok (a, t') => (.ok a, t')
  | .error f => (.error f, t)

/-- Answers what is asked while a call is made. -/
def answer (a : BookingStore.Act) (t : BookingTable) :
    (c : DatabaseWorld.Call) → Except Breakdown (DatabaseWorld.Reply c) × BookingTable
  | .inl s => (.ok (t.execute s).1, (t.execute s).2)
  | .inr .freshBooking => (.ok a.fresh, t)
  | .inr c => (((Stage.start a.now).answer c).1, t)

/-! ### Tables that mirror a store -/

/-- A table has the bookings of a store. -/
structure Mirrors (t : BookingTable) (s : MemoryStore) : Prop where
  rows : t.rows = s.bookings.values.map BookingRow.write
  sound : s.Sound
  indexed : s.Indexed
  users : ∀ id b, s.bookings.get? id = some b → 0 < b.user.value.toInt

variable {t : BookingTable} {s : MemoryStore}

theorem mirrors_empty : empty.Mirrors .empty where
  rows := rfl
  sound := MemoryStore.sound_empty
  indexed := MemoryStore.indexed_empty
  users id b there := by simp [MemoryStore.empty] at there

theorem Mirrors.named (m : t.Mirrors s) (id : BookingId) (b : Booking)
    (there : s.bookings.get? id = some b) : b.id = id :=
  (m.sound id b there).1

/-- A table that mirrors a store gives for an identifier what the store has there. -/
theorem Mirrors.filter_id (m : t.Mirrors s) (id : BookingId) :
    t.rows.filter (fun row => row.id = id.value) =
      (s.bookings.get? id).toList.map BookingRow.write := by
  rw [m.rows, List.filter_map, ← Registry.filter_values Booking.id m.named]
  simp only [Function.comp_def, BookingRow.id_write]

/-- It gives for an attempt what the store finds for it. -/
theorem Mirrors.filter_attempt (m : t.Mirrors s) (attempt : HoldId) :
    t.rows.filter (fun row => row.attempt = attempt.value) =
      (s.findByAttempt? attempt).toList.map BookingRow.write := by
  rw [m.rows, List.filter_map]
  simp only [Function.comp_def, BookingRow.attempt_write]
  congr 1
  cases indexed : s.byAttempt.get? attempt with
  | none =>
    rw [MemoryStore.findByAttempt?, indexed]
    refine List.filter_eq_nil_iff.2 fun b mem => ?_
    obtain ⟨id, there⟩ := Registry.mem_values.1 mem
    have known := (m.sound id b there).2
    rw [decide_eq_true_eq]
    rintro rfl
    cases known.symm.trans indexed
  | some id =>
    rw [MemoryStore.findByAttempt?, indexed, Option.bind_some,
      ← Registry.filter_values Booking.id m.named]
    refine List.filter_congr fun b mem => decide_eq_decide.2 ?_
    obtain ⟨key, there⟩ := Registry.mem_values.1 mem
    obtain ⟨rfl, known⟩ := m.sound key b there
    constructor
    · rintro rfl
      exact Option.some.inj (known.symm.trans indexed)
    · rintro rfl
      obtain ⟨b', there', rfl⟩ := m.indexed attempt b.id indexed
      rw [Option.some.inj (there.symm.trans there')]

/-! ### Changes -/

theorem put_ok {rows : List BookingRow} (checks : ∀ row ∈ rows, row.Checks)
    (ids : (rows.map BookingRow.id).Nodup) (attempts : (rows.map BookingRow.attempt).Nodup) :
    put rows = .ok { rows } := by
  rw [put, if_neg (not_not_intro checks), if_neg (not_not_intro ids),
    if_neg (not_not_intro attempts)]

/-- Rows with the attempt of another are refused. -/
theorem put_of_taken {rows : List BookingRow} (checks : ∀ row ∈ rows, row.Checks)
    (attempts : ¬ (rows.map BookingRow.attempt).Nodup) :
    put rows = .error (Tables.failure "23505") := by
  rw [put, if_neg (not_not_intro checks), if_pos attempts]
  exact ite_self _

theorem nodup_write (sound : s.Sound) :
    ((s.bookings.values.map BookingRow.write).map BookingRow.id).Nodup ∧
      ((s.bookings.values.map BookingRow.write).map BookingRow.attempt).Nodup := by
  have values : s.bookings.values.Nodup := by
    refine List.Nodup.of_map Booking.id ?_
    rw [Registry.map_values Booking.id fun id b there => (sound id b there).1]
    exact s.bookings.distinct
  have named (b : Booking) (mem : b ∈ s.bookings.values) : s.bookings.get? b.id = some b := by
    obtain ⟨id, there⟩ := Registry.mem_values.1 mem
    rwa [(sound id b there).1]
  rw [List.map_map, List.map_map]
  constructor
  · refine values.map_on fun b mem b' mem' same => ?_
    have ids : b.id = b'.id := congrArg BookingId.mk same
    have there := named b mem
    rw [ids] at there
    exact Option.some.inj (there.symm.trans (named b' mem'))
  · refine values.map_on fun b mem b' mem' same => ?_
    exact sound.unique (named b mem) (named b' mem') (congrArg HoldId.mk same)

theorem checks_rows (users : ∀ id b, s.bookings.get? id = some b → 0 < b.user.value.toInt) :
    ∀ row ∈ s.bookings.values.map BookingRow.write, row.Checks := by
  intro row mem
  obtain ⟨b, there, rfl⟩ := List.mem_map.1 mem
  obtain ⟨id, there⟩ := Registry.mem_values.1 there
  exact BookingRow.checks_write (users id b there)

/-- A table may come to mirror the store after every call for a user. -/
theorem Mirrors.put_act (m : t.Mirrors s) {a : BookingStore.Act} (new : s.Awaits a)
    (positive : ∀ draft, a.call = .create draft → 0 < draft.user.value.toInt) :
    ∃ t', put ((s.act a).bookings.values.map BookingRow.write) = .ok t' ∧ t'.Mirrors (s.act a) := by
  have sound := m.sound.act a
  have indexed := m.indexed.act new
  have users : ∀ id b, (s.act a).bookings.get? id = some b → 0 < b.user.value.toInt := by
    intro id b there
    rcases MemoryStore.booking_cases there with
      old | ⟨draft, creates, -, -, rfl⟩ | ⟨target, b₀, -, old, rfl⟩
    · exact m.users id b old
    · exact positive draft creates
    · exact m.users id b₀ old
  obtain ⟨ids, attempts⟩ := nodup_write sound
  exact ⟨_, put_ok (checks_rows users) ids attempts, rfl, sound, indexed, users⟩

/-- A booking with a new identifier and a new attempt is inserted. -/
theorem Mirrors.run_insert (m : t.Mirrors s) {fresh : BookingId} (lacks : s.Lacks fresh)
    {draft : BookingDraft} (new : s.byAttempt.get? draft.attempt = none)
    (positive : 0 < draft.user.value.toInt) (now : Instant) :
    ∃ t', t.run (.insertBooking (.write (.ofDraft fresh draft now))) =
        .ok (ofBookings [.write (.ofDraft fresh draft now)], t') ∧
      t'.Mirrors (s.create fresh now draft).2 := by
  have awaits : s.Awaits ⟨.create draft, now, fresh⟩ := by
    rintro _ ⟨⟩
    exact lacks
  obtain ⟨t', kept, mirrors⟩ := m.put_act awaits (by rintro _ ⟨⟩; exact positive)
  refine ⟨t', ?_, mirrors⟩
  have rows : (s.create fresh now draft).2.bookings.values.map BookingRow.write =
      t.rows ++ [.write (.ofDraft fresh draft now)] := by
    rcases s.create_cases fresh now draft with ⟨taken, -⟩ | ⟨-, e⟩
    · rw [Registry.contains_eq_isSome, new] at taken
      cases taken
    · rw [e, Registry.values_set_of_none lacks, List.map_append, m.rows]
      rfl
  have inserted : put (t.rows ++ [.write (.ofDraft fresh draft now)]) = .ok t' := by
    rw [← rows]
    exact kept
  show (put (t.rows ++ [.write (.ofDraft fresh draft now)]) >>= _) = _
  rw [inserted]
  rfl

/-- A booking whose attempt has one already is refused. -/
theorem Mirrors.run_insert_of_taken (m : t.Mirrors s) {draft : BookingDraft}
    (taken : s.byAttempt.contains draft.attempt) (positive : 0 < draft.user.value.toInt)
    (fresh : BookingId) (now : Instant) :
    t.run (.insertBooking (.write (.ofDraft fresh draft now))) =
      .error (Tables.failure "23505") := by
  have checks : ∀ row ∈ t.rows ++ [.write (.ofDraft fresh draft now)], row.Checks := by
    intro row mem
    rcases List.mem_append.1 mem with old | last
    · rw [m.rows] at old
      exact checks_rows m.users row old
    · rw [List.mem_singleton.1 last]
      exact BookingRow.checks_write positive
  have twice : ¬ ((t.rows ++ [BookingRow.write (.ofDraft fresh draft now)]).map
      BookingRow.attempt).Nodup := by
    rw [Registry.contains_eq_isSome, Option.isSome_iff_exists] at taken
    obtain ⟨id, indexed⟩ := taken
    obtain ⟨b, there, same⟩ := m.indexed draft.attempt id indexed
    rw [List.map_append, List.nodup_append]
    rintro ⟨-, -, apart⟩
    refine apart b.attempt.value ?_ draft.attempt.value List.mem_cons_self (congrArg _ same)
    rw [m.rows, List.map_map]
    exact List.mem_map.2 ⟨b, Registry.mem_values.2 ⟨id, there⟩, rfl⟩
  show (put (t.rows ++ [.write (.ofDraft fresh draft now)]) >>= _) = _
  rw [put_of_taken checks twice]
  rfl

section Transition

variable {id : BookingId} {expected target : BookingStatus} {now : Instant}

theorem stands_write {b : Booking} :
    stands id expected (.write b) ↔ b.id = id ∧ b.status = expected := by
  rw [stands, decide_eq_true_eq, BookingRow.id_write, BookingRow.status_write]

/-- A booking that stands as expected is changed in its row, and no other. -/
theorem Mirrors.update_eq (m : t.Mirrors s) {b : Booking} (there : s.bookings.get? id = some b)
    (stood : b.status = expected) : Tables.update t.rows (stands id expected) (moved target now) =
      (s.transition id now expected target).2.bookings.values.map BookingRow.write := by
  rw [MemoryStore.transition_eq there stood, Registry.values_modify Booking.id m.named,
    Tables.update, m.rows, List.map_map, List.map_map]
  refine List.map_congr_left fun b' mem => ?_
  obtain ⟨key, there'⟩ := Registry.mem_values.1 mem
  obtain rfl := m.named key b' there'
  rw [Function.comp, Function.comp]
  by_cases here : b'.id = id
  · subst here
    obtain rfl := Option.some.inj (there.symm.trans there')
    rw [if_pos rfl, if_pos (stands_write.2 ⟨rfl, stood⟩)]
    rfl
  · rw [if_neg here, if_neg fun both => here (stands_write.1 both).1]

/-- It is the one that is given. -/
theorem Mirrors.updated_eq (m : t.Mirrors s) {b : Booking} (there : s.bookings.get? id = some b)
    (stood : b.status = expected) : Tables.updated t.rows (stands id expected) (moved target now) =
      [.write { b with status := target, updatedAt := now }] := by
  have parts : t.rows.filter (stands id expected) =
      (t.rows.filter fun row => row.id = id.value).filter
        fun row => row.status = Labelled.label expected := by
    rw [List.filter_filter]
    refine List.filter_congr fun row _ => ?_
    rw [stands, Bool.decide_and, Bool.and_comm]
  have picked : t.rows.filter (stands id expected) = [.write b] := by
    rw [parts, m.filter_id, there]
    exact List.filter_cons_of_pos (decide_eq_true (BookingRow.status_write.2 stood))
  rw [Tables.updated, picked]
  rfl

/-- A booking that stands as expected is changed, and given as it is then. -/
theorem Mirrors.run_transition (m : t.Mirrors s) {b : Booking}
    (there : s.bookings.get? id = some b) (stood : b.status = expected) (target : BookingStatus)
    (now : Instant) : ∃ t', t.run (.transitionBooking id expected target now) =
        .ok (ofBookings [.write { b with status := target, updatedAt := now }], t') ∧
      t'.Mirrors (s.transition id now expected target).2 := by
  obtain ⟨t', kept, mirrors⟩ :=
    m.put_act (a := ⟨.transition id expected target, now, id⟩) nofun nofun
  have changed : put (Tables.update t.rows (stands id expected) (moved target now)) = .ok t' := by
    rw [m.update_eq there stood]
    exact kept
  refine ⟨t', ?_, mirrors⟩
  rw [run, changed, m.updated_eq there stood]
  rfl

/-- A booking that is missing or stands elsewhere is not changed. -/
theorem Mirrors.run_transition_of_elsewhere (m : t.Mirrors s)
    (elsewhere : ∀ b, s.bookings.get? id = some b → b.status ≠ expected) :
    t.run (.transitionBooking id expected target now) = .ok (ofBookings [], t) := by
  have none : ∀ row ∈ t.rows, stands id expected row = false := by
    intro row mem
    rw [m.rows] at mem
    obtain ⟨b, there, rfl⟩ := List.mem_map.1 mem
    obtain ⟨key, there⟩ := Registry.mem_values.1 there
    obtain rfl := m.named key b there
    rw [← Bool.not_eq_true, stands_write]
    rintro ⟨rfl, stood⟩
    exact elsewhere b there stood
  have same : Tables.update t.rows (stands id expected) (moved target now) = t.rows := by
    refine (List.map_congr_left fun row mem => ?_).trans (List.map_id _)
    rw [none row mem]
    rfl
  have nothing : Tables.updated t.rows (stands id expected) (moved target now) = [] := by
    rw [Tables.updated, List.filter_eq_nil_iff.2 fun row mem => by simp [none row mem]]
    rfl
  have kept : put t.rows = .ok t := by
    rw [m.rows]
    obtain ⟨ids, attempts⟩ := nodup_write m.sound
    rw [put_ok (checks_rows m.users) ids attempts, ← m.rows]
  rw [run, same, nothing, kept]
  rfl

end Transition

end BookingTable

end BoxOffice
