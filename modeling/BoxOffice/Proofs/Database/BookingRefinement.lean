import BoxOffice.Database.Bookings
import BoxOffice.Proofs.Database.BookingTable
import BoxOffice.Proofs.Database.Server

/-!
# Two booking stores that answer alike

The booking store in memory and the one in the database are called for the same, with the same clock and
the same generated identifiers. That the table mirrors the store in memory is kept by each call
(`report_eq`), so from the start both give the same reports, and what one refuses the other refuses
for the same kind of reason, and neither is changed (`bookings_interchangeable`).
-/

namespace BoxOffice

open Database Rehearsal

namespace BookingStore

/-- What is compared of the answer to a call: the bookings, or the kind of the error. -/
structure Report where
  call : Call
  result : Except ErrorKind call.Answer

/-- A booking that is to be stored is that of a user. -/
def Act.Fits (a : Act) : Prop :=
  match a.call with
  | .create draft => 0 < draft.user.value.toInt
  | .get _ | .findByAttempt _ | .transition _ _ _ => True

instance : (a : Act) → Decidable a.Fits
  | ⟨.create draft, _, _⟩ => inferInstanceAs (Decidable (0 < draft.user.value.toInt))
  | ⟨.get _, _, _⟩ | ⟨.findByAttempt _, _, _⟩ | ⟨.transition _ _ _, _, _⟩ => .isTrue trivial

end BookingStore

open BookingStore

/-- The report of a call to a store in memory, and the store after it. -/
def MemoryStore.report (s : MemoryStore) (a : Act) : Report × MemoryStore :=
  (⟨a.call, (s.answer a.fresh a.now a.call).1.mapError Error.kind⟩, s.act a)

/-- The reports of some calls, one after the other. -/
def MemoryStore.reports (s : MemoryStore) : List Act → List Report
  | [] => []
  | a :: acts => (s.report a).1 :: (s.report a).2.reports acts

namespace BookingTable

/-- The report of a call to the store in the database, and the table after it. -/
def report (t : BookingTable) (a : Act) : Except Breakdown Report × BookingTable :=
  let (played, t) := (DatabaseStore.answer a.call).play (answer a) t
  (played.map fun r => ⟨a.call, r.mapError Error.kind⟩, t)

/-- The reports of some calls, one after the other. -/
def reports (t : BookingTable) : List Act → List (Except Breakdown Report)
  | [] => []
  | a :: acts => (t.report a).1 :: (t.report a).2.reports acts

/-- The table after some calls. -/
def after (t : BookingTable) (acts : List Act) : BookingTable :=
  acts.foldl (fun t a => (t.report a).2) t

/-! ### Services that are played with the table -/

/-- A service that is played while a call is made comes to a result. -/
def Yields {α : Type} (a : Act) (t : BookingTable) (s : Service DatabaseWorld α) (r : Result α)
    (t' : BookingTable) : Prop :=
  s.run.play (answer a) t = (.ok r, t')

section Yields

variable {α β : Type} {a : Act} {t t' t₁ : BookingTable}

theorem answer_surroundings (t : BookingTable) (c : Surroundings.Call)
    (possible : Nonempty (DatabaseWorld.Reply (.inr c))) :
    ∃ reply, t.answer a (.inr c) = (.ok reply, t) := by
  cases c with
  | outOfTime => exact possible.elim fun nothing => nomatch nothing
  | now | record | wait | draw | freshBooking => exact ⟨_, rfl⟩

theorem Yields.bind {s : Service DatabaseWorld α} {k : α → Service DatabaseWorld β} {x : α}
    {r : Result β} (first : Yields a t s (.ok x) t₁) (rest : Yields a t₁ (k x) r t') :
    Yields a t (s >>= k) r t' := by
  unfold Yields at *
  rw [Service.play_bind, first]
  exact rest

theorem yields_now : Yields a t Surroundings.now (.ok a.now) t := rfl

theorem yields_freshBooking : Yields a t Surroundings.freshBooking (.ok a.fresh) t := rfl

/-- A service that sends one statement yields what it makes of the answer. -/
theorem yields_sends {s : Service DatabaseWorld α} {sent : Statement}
    {result : Except SqlFailure SqlAnswer → Result α} (h : Sends s sent result) (t : BookingTable) :
    Yields a t s (result (t.execute sent).1) (t.execute sent).2 :=
  h.plays (fun _ _ => rfl) answer_surroundings t

/-- What is looked up is the first booking that the statement gives. -/
theorem yields_lookUp {sent : Statement} (bs : List Booking)
    (ran : t.run sent = .ok (ofBookings (bs.map BookingRow.write), t')) :
    Yields a t (DatabaseStore.lookUp sent) (.ok bs.head?) t' := by
  have sends : Sends (DatabaseStore.lookUp sent) sent fun reply =>
      (received reply >>= firstOf BookingRow.ofRow) >>= meant BookingRow.read := by
    rw [lookUp_booking]
    exact sends_lookUp sent BookingRow.ofRow BookingRow.read
  have sent_yields := yields_sends (a := a) sends t
  rw [execute, ran] at sent_yields
  have first : firstOf BookingRow.ofRow (ofBookings (bs.map BookingRow.write)) =
      .ok (bs.head?.map BookingRow.write) := by
    rw [ofBookings, firstOf_ofRows BookingRow.ofRow_values, List.head?_map, Option.map_map]
    rfl
  have read : (received (.ok (ofBookings (bs.map BookingRow.write))) >>=
      firstOf BookingRow.ofRow) >>= meant BookingRow.read = .ok bs.head? := by
    show firstOf BookingRow.ofRow (ofBookings (bs.map BookingRow.write)) >>= _ = _
    rw [first]
    cases bs with
    | nil => rfl
    | cons b bs =>
      show (some <$> BookingRow.read (.write b)) = _
      rw [BookingRow.read_write]
      rfl
  rwa [read] at sent_yields

end Yields

/-! ### One call -/

variable {t : BookingTable} {s : MemoryStore} {now : Instant} {fresh : BookingId}

theorem yields_get (m : t.Mirrors s) (a : Act) (id : BookingId) :
    Yields a t (DatabaseStore.lookUp (.selectBooking id)) (.ok (s.bookings.get? id)) t := by
  have ran : t.run (.selectBooking id) =
      .ok (ofBookings ((s.bookings.get? id).toList.map BookingRow.write), t) := by
    rw [run, m.filter_id]
  have looked := yields_lookUp (a := a) (s.bookings.get? id).toList ran
  rwa [Option.head?_toList] at looked

theorem yields_findByAttempt (m : t.Mirrors s) (a : Act) (attempt : HoldId) :
    Yields a t (DatabaseStore.lookUp (.selectBookingOfAttempt attempt))
      (.ok (s.findByAttempt? attempt)) t := by
  have ran : t.run (.selectBookingOfAttempt attempt) =
      .ok (ofBookings ((s.findByAttempt? attempt).toList.map BookingRow.write), t) := by
    rw [run, m.filter_attempt]
  have looked := yields_lookUp (a := a) (s.findByAttempt? attempt).toList ran
  rwa [Option.head?_toList] at looked

/-- The store in the database makes of a call what the store in memory makes of it, up to the wording
of errors. -/
def AnswersAs (t : BookingTable) (s : MemoryStore) (a : Act) : Prop :=
  ∃ r t', (DatabaseStore.answer a.call).play (answer a) t = (.ok r, t') ∧
    r.mapError Error.kind = (s.answer a.fresh a.now a.call).1.mapError Error.kind ∧
    t'.Mirrors (s.act a)

/-- A booking that is to be stored gets the time and a generated identifier, and is sent in one
statement. -/
theorem yields_create (a : Act) (t : BookingTable) (draft : BookingDraft) :
    Yields a t (DatabaseStore.create draft)
      (received (t.execute (.insertBooking (.write (.ofDraft a.fresh draft a.now)))).1 >>=
        onlyOf BookingRow.ofRow >>= BookingRow.read)
      (t.execute (.insertBooking (.write (.ofDraft a.fresh draft a.now)))).2 := by
  have reads (row : BookingRow) : Computes (do
      let booking ← interpret row.read
      Surroundings.note .bookingInserted
      return booking) row.read := by
    have noted (booking : Booking) : Computes (do
        Surroundings.note .bookingInserted
        return booking) (.ok booking) :=
      (computes_note _).bind (computes_pure booking)
    have all := (computes_interpret row.read).then noted
    cases read : row.read <;> rwa [read] at all
  have sends := (sends_fetchOne (.insertBooking (.write (.ofDraft a.fresh draft a.now)))
    BookingRow.ofRow).then reads
  exact yields_now.bind (yields_freshBooking.bind (yields_sends sends t))

theorem answersAs_create (m : t.Mirrors s) {draft : BookingDraft} (lacks : s.Lacks fresh)
    (positive : 0 < draft.user.value.toInt) : t.AnswersAs s ⟨.create draft, now, fresh⟩ := by
  have created := yields_create ⟨.create draft, now, fresh⟩ t draft
  rcases s.create_cases fresh now draft with ⟨taken, e⟩ | ⟨new, e⟩
  · have ran := m.run_insert_of_taken taken positive fresh now
    rw [execute, ran] at created
    refine ⟨_, t, created, ?_, ?_⟩
    · show _ = (s.create fresh now draft).1.mapError Error.kind
      rw [e]
      rfl
    · show t.Mirrors (s.create fresh now draft).2
      rwa [e]
  · obtain ⟨t', ran, mirrors⟩ := m.run_insert lacks new positive now
    have only : onlyOf BookingRow.ofRow (ofBookings [.write (.ofDraft fresh draft now)]) =
        .ok (.write (.ofDraft fresh draft now)) :=
      onlyOf_ofRows BookingRow.ofRow_values _ []
    have read : received (.ok (ofBookings [.write (.ofDraft fresh draft now)])) >>=
        onlyOf BookingRow.ofRow >>= BookingRow.read = .ok (.ofDraft fresh draft now) := by
      show (onlyOf BookingRow.ofRow (ofBookings [.write (.ofDraft fresh draft now)]) >>=
        BookingRow.read) = _
      rw [only]
      exact BookingRow.read_write (.ofDraft fresh draft now)
    rw [execute, ran, read] at created
    refine ⟨_, t', created, ?_, mirrors⟩
    show _ = (s.create fresh now draft).1.mapError Error.kind
    rw [e]
    rfl

/-- A change of status that hits no row is told from what is there why. -/
theorem yields_transition_of_elsewhere {a : Act} (m : t.Mirrors s) {id : BookingId}
    {expected : BookingStatus} (elsewhere : ∀ b, s.bookings.get? id = some b → b.status ≠ expected)
    (target : BookingStatus) :
    Yields a t (DatabaseStore.transition id expected target)
      (.error (match s.bookings.get? id with
        | none => (Cause.bookingMissing id).error
        | some b => (Cause.bookingElsewhere id b.status expected).error)) t := by
  have ran : t.run (.transitionBooking id expected target a.now) = .ok (ofBookings [], t) :=
    m.run_transition_of_elsewhere elsewhere
  have nothing : Yields a t _ (.ok none) t := yields_lookUp [] ran
  refine yields_now.bind (nothing.bind ((yields_get m a id).bind ?_))
  cases s.bookings.get? id <;> rfl

theorem yields_transition {a : Act} (m : t.Mirrors s) {id : BookingId} {b : Booking}
    (there : s.bookings.get? id = some b) (target : BookingStatus) :
    ∃ t', Yields a t (DatabaseStore.transition id b.status target)
        (.ok { b with status := target, updatedAt := a.now }) t' ∧
      t'.Mirrors (s.transition id a.now b.status target).2 := by
  obtain ⟨t', ran, mirrors⟩ := m.run_transition there rfl target a.now
  have changed : Yields a t _ _ t' :=
    yields_lookUp [{ b with status := target, updatedAt := a.now }] ran
  exact ⟨t', yields_now.bind (changed.bind rfl), mirrors⟩

theorem answersAs_transition (m : t.Mirrors s) (id : BookingId) (expected target : BookingStatus) :
    t.AnswersAs s ⟨.transition id expected target, now, fresh⟩ := by
  show ∃ r t', Yields _ t (DatabaseStore.transition id expected target) r t' ∧
    r.mapError Error.kind = (s.transition id now expected target).1.mapError Error.kind ∧
    t'.Mirrors (s.transition id now expected target).2
  rcases s.transition_cases id now expected target with
    ⟨missing, e⟩ | ⟨b, there, ⟨elsewhere, e⟩ | ⟨rfl, e⟩⟩
  · have nowhere : ∀ b, s.bookings.get? id = some b → b.status ≠ expected := by
      rw [missing]
      exact nofun
    have refused := yields_transition_of_elsewhere
      (a := ⟨.transition id expected target, now, fresh⟩) m nowhere target
    rw [missing] at refused
    rw [e]
    exact ⟨_, t, refused, rfl, m⟩
  · have nowhere : ∀ b, s.bookings.get? id = some b → b.status ≠ expected := by
      rw [there]
      rintro _ ⟨⟩
      exact elsewhere
    have refused := yields_transition_of_elsewhere
      (a := ⟨.transition id expected target, now, fresh⟩) m nowhere target
    rw [there] at refused
    rw [e]
    exact ⟨_, t, refused, rfl, m⟩
  · obtain ⟨t', changed, mirrors⟩ := yields_transition
      (a := ⟨.transition id b.status target, now, fresh⟩) m there target
    refine ⟨_, t', changed, ?_, mirrors⟩
    rw [e]

theorem Mirrors.answersAs (m : t.Mirrors s) {a : Act} (new : s.Awaits a) (fits : a.Fits) :
    t.AnswersAs s a := by
  obtain ⟨call, now, fresh⟩ := a
  cases call with
  | create draft => exact answersAs_create m (new.lacks rfl) fits
  | get id => exact ⟨_, t, yields_get m _ id, rfl, m⟩
  | findByAttempt attempt => exact ⟨_, t, yields_findByAttempt m _ attempt, rfl, m⟩
  | transition id expected target => exact answersAs_transition m id expected target

/-- Tables that mirror one store are the same. -/
theorem Mirrors.unique {t' : BookingTable} (m : t.Mirrors s) (m' : t'.Mirrors s) : t' = t := by
  obtain ⟨rows⟩ := t
  obtain ⟨rows'⟩ := t'
  exact congrArg BookingTable.mk (m'.rows.trans m.rows.symm)

/-- Both stores report a call alike, and the table goes on mirroring the store in memory. -/
theorem report_eq (m : t.Mirrors s) {a : Act} (new : s.Awaits a) (fits : a.Fits) :
    (t.report a).1 = .ok (s.report a).1 ∧ (t.report a).2.Mirrors (s.report a).2 := by
  obtain ⟨r, t', played, same, mirrors⟩ := m.answersAs new fits
  simp only [report, MemoryStore.report, played, ← same]
  exact ⟨rfl, mirrors⟩

/-! ### All calls -/

theorem reports_eq (m : t.Mirrors s) {acts : List Act} (new : s.AwaitsAll acts)
    (fits : ∀ a ∈ acts, a.Fits) : t.reports acts = (s.reports acts).map .ok := by
  -- by induction on the calls, from any store with a table that mirrors it
  induction acts generalizing t s with
  | nil => rfl
  | cons a acts ih =>
    obtain ⟨reported, mirrors⟩ := report_eq m (new.2 a List.mem_cons_self) (fits a List.mem_cons_self)
    rw [reports, reported, MemoryStore.reports, List.map_cons,
      ih mirrors new.act fun a mem => fits a (List.mem_cons_of_mem _ mem)]

/-- The calls that are left find tables that mirror the store. -/
theorem Mirrors.after (m : t.Mirrors s) {acts more : List Act} (new : s.AwaitsAll (acts ++ more))
    (fits : ∀ a ∈ acts, a.Fits) :
    (t.after acts).Mirrors (s.run acts) ∧ (s.run acts).AwaitsAll more := by
  induction acts generalizing t s with
  | nil => exact ⟨m, new⟩
  | cons a acts ih =>
    have mirrors := (report_eq m (new.2 a List.mem_cons_self) (fits a List.mem_cons_self)).2
    exact ih mirrors new.act fun a mem => fits a (List.mem_cons_of_mem _ mem)

/-- Both stores refuse a call for reasons of one kind, and are as they were. -/
def Refuse (t : BookingTable) (s : MemoryStore) (a : Act) (kind : ErrorKind) : Prop :=
  s.report a = (⟨a.call, .error kind⟩, s) ∧ t.report a = (.ok ⟨a.call, .error kind⟩, t)

/-- What both stores refuse. -/
structure RefuseAlike (t : BookingTable) (s : MemoryStore) (a : Act) : Prop where
  /-- A second booking of an attempt makes no sense, -/
  taken : ∀ draft b, a.call = .create draft → s.findByAttempt? draft.attempt = some b →
    t.Refuse s a .invalidArgument
  /-- a booking that is to be changed has to be there, -/
  missing : ∀ id expected target, a.call = .transition id expected target →
    s.bookings.get? id = none → t.Refuse s a .notFound
  /-- and to stand as expected. -/
  elsewhere : ∀ id expected target b, a.call = .transition id expected target →
    s.bookings.get? id = some b → b.status ≠ expected → t.Refuse s a .conflict

/-- A call that the store in memory refuses, the other refuses too. -/
theorem Mirrors.refuse (m : t.Mirrors s) {a : Act} (new : s.Awaits a) (fits : a.Fits) {e : Error}
    (refused : s.answer a.fresh a.now a.call = (.error e, s)) : t.Refuse s a e.kind := by
  have report : s.report a = (⟨a.call, .error e.kind⟩, s) := by
    rw [MemoryStore.report, MemoryStore.act, refused]
    rfl
  obtain ⟨reported, mirrors⟩ := report_eq m new fits
  rw [report] at reported mirrors
  exact ⟨report, Prod.ext reported (m.unique mirrors)⟩

theorem Mirrors.refuseAlike (m : t.Mirrors s) {a : Act} (new : s.Awaits a) (fits : a.Fits) :
    t.RefuseAlike s a := by
  obtain ⟨call, now, fresh⟩ := a
  constructor
  · rintro draft b ⟨⟩ found
    rcases s.create_cases fresh now draft with ⟨-, e⟩ | ⟨untaken, -⟩
    · exact m.refuse new fits e
    · cases (m.indexed.findByAttempt?_eq_none.2 untaken).symm.trans found
  · rintro id expected target ⟨⟩ missing
    rcases s.transition_cases id now expected target with ⟨-, e⟩ | ⟨b, there, -⟩
    · exact m.refuse new fits e
    · cases missing.symm.trans there
  · rintro id expected target b ⟨⟩ there elsewhere
    rcases s.transition_cases id now expected target with
      ⟨missing, -⟩ | ⟨b', there', ⟨-, e⟩ | ⟨stood, -⟩⟩
    · cases missing.symm.trans there
    · exact m.refuse new fits e
    · obtain rfl := Option.some.inj (there.symm.trans there')
      exact absurd stood elsewhere

end BookingTable

/-- **The two booking stores are interchangeable.** Whatever they are called for from the start, they give
the same reports; and what is refused changes neither. -/
theorem DatabaseStore.bookings_interchangeable (acts : List Act) (distinct : Distinct acts)
    (fits : ∀ a ∈ acts, a.Fits) :
    BookingTable.empty.reports acts = (MemoryStore.empty.reports acts).map .ok ∧
      ∀ earlier a later, acts = earlier ++ a :: later →
        (BookingTable.empty.after earlier).RefuseAlike (MemoryStore.empty.run earlier) a := by
  have new := MemoryStore.awaitsAll_empty distinct
  refine ⟨BookingTable.reports_eq BookingTable.mirrors_empty new fits, ?_⟩
  rintro earlier a later rfl
  obtain ⟨mirrors, rest⟩ := BookingTable.mirrors_empty.after new fun a mem =>
    fits a (List.mem_append_left _ mem)
  exact mirrors.refuseAlike (rest.2 a List.mem_cons_self)
    (fits a (List.mem_append_right _ List.mem_cons_self))

/-- A seat is booked twice, confirmed twice and looked up, and another booking is asked for. -/
theorem bookings_interchangeable_one_seat :
    let token : Token :=
      { hold := ⟨.random 1⟩, event := ⟨7⟩, category := ⟨2⟩, unit := .seat ⟨5⟩ "A1",
        expiresAt := .ofParts 20 0 }
    let visit (n : Nat) (call : Call) : Act := { call, now := .ofParts n 0, fresh := ⟨.random n⟩ }
    let acts : List Act :=
      [visit 1 (.create (.ofToken token ⟨3⟩)), visit 2 (.create (.ofToken token ⟨4⟩)),
        visit 3 (.transition ⟨.random 1⟩ .pending .confirmed),
        visit 4 (.transition ⟨.random 1⟩ .pending .confirmed),
        visit 5 (.transition ⟨.random 2⟩ .confirmed .cancelled),
        visit 6 (.findByAttempt ⟨.random 1⟩), visit 7 (.get ⟨.random 2⟩)]
    Distinct acts ∧ (∀ a ∈ acts, a.Fits) ∧
      BookingTable.empty.reports acts = (MemoryStore.empty.reports acts).map .ok ∧
      ∀ earlier a later, acts = earlier ++ a :: later →
        (BookingTable.empty.after earlier).RefuseAlike (MemoryStore.empty.run earlier) a := by
  intro token visit acts
  have distinct : Distinct acts := by decide +kernel
  have fits : ∀ a ∈ acts, a.Fits := by decide +kernel
  exact ⟨distinct, fits, DatabaseStore.bookings_interchangeable acts distinct fits⟩

end BoxOffice
