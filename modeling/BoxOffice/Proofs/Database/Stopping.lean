import BoxOffice.Proofs.Database.Atomic
import BoxOffice.Proofs.Database.Fault

/-!
# Calls to the database stop at the first fault

Whatever the database answers, a call of the ledger or of the store, or the provision of a category,
stops at the first statement that is at fault, and its failure is counted once and becomes the caller's
error (`stops_at_first_fault`). With every statement in order nothing is counted, and a call is refused
only on `Grounds`.
-/

namespace BoxOffice

namespace Database

/-! ### Operations -/

/-- What is asked of the database. -/
inductive Operation
  | ledger (c : Ledger.Call)
  | provision (c : Category) (labels : List String)
  | store (c : BookingStore.Call)

namespace Operation

/-- What an operation is answered with when it succeeds. -/
def Answer : Operation → Type
  | ledger c => c.Answer
  | provision _ _ => Category
  | store c => c.Answer

/-- The program of an operation. -/
def program : (o : Operation) → Program DatabaseWorld (Result o.Answer)
  | ledger c => DatabaseLedger.answer c
  | provision c labels => (DatabaseLedger.provision c labels).run
  | store c => DatabaseStore.answer c

/-- The grounds on which an operation is refused when every statement is in order. -/
inductive Grounds : Operation → Talk → Cause → Prop
  /-- There is no category to take a place of. -/
  | categoryMissing {talk : Talk} (category : CategoryId) (hold : HoldId) (now last : Instant)
    (found : SqlAnswer) (looked : (.findCategory category, .ok found) ∈ talk) (empty : found.rows = []) :
    Grounds (.ledger (.takeStock category hold now last)) talk (.categoryMissing category)
  /-- A hold that stood in the way of another is gone when it is looked up. -/
  | holdVanished {talk : Talk} (category : CategoryId) (hold : HoldId) (now last : Instant)
    (found : SqlAnswer) (looked : (.selectHold category hold, .ok found) ∈ talk) (empty : found.rows = []) :
    Grounds (.ledger (.takeStock category hold now last)) talk (.holdVanished hold)
  /-- There is no booking to change. -/
  | bookingMissing {talk : Talk} (id : BookingId) (expected target : BookingStatus) (found : SqlAnswer)
    (looked : (.selectBooking id, .ok found) ∈ talk) (empty : found.rows = []) :
    Grounds (.store (.transition id expected target)) talk (.bookingMissing id)
  /-- The booking was not changed, and stands as it does. -/
  | bookingElsewhere {talk : Talk} (id : BookingId) (expected target : BookingStatus) (found : SqlAnswer)
    (looked : (.selectBooking id, .ok found) ∈ talk) (row : BookingRow) (b : Booking)
    (first : firstRow BookingRow.ofRow found = .ok (some row)) (reads : row.read = .ok b) :
    Grounds (.store (.transition id expected target)) talk (.bookingElsewhere id b.status expected)
  /-- The category to provide is not in order. -/
  | refused {talk : Talk} (c : Category) (labels : List String) (cause : Cause)
    (refused : DatabaseLedger.rowFor c labels = .error cause.error) :
    Grounds (.provision c labels) talk cause
  /-- A row that came back stands for nothing. -/
  | senseless {talk : Talk} (o : Operation) (s : Statement) (a : SqlAnswer) (cause : Cause)
    (answered : (s, .ok a) ∈ talk) (nonsense : s.Nonsense a cause) : Grounds o talk cause

/-- The operation is refused only on grounds. -/
def Grounded {α : Type} (o : Operation) (talk : Talk) (r : Except Cause α) : Prop :=
  ∀ cause, r = .error cause → o.Grounds talk cause

end Operation

open Operation

variable {α ρ : Type} {o : Operation} {talk : Talk} {s : Statement}

theorem Operation.Grounded.ok (a : α) : o.Grounded talk (.ok a) :=
  nofun

theorem Operation.Grounded.error {cause : Cause} (grounds : o.Grounds talk cause) :
    o.Grounded talk (.error cause : Except Cause α) := by
  rintro _ ⟨⟩
  exact grounds

/-- Grounds remain when more is said. -/
theorem Operation.Grounds.mono {cause : Cause} {more : Talk} (h : o.Grounds talk cause)
    (within : talk ⊆ more) : o.Grounds more cause := by
  cases h with
  | categoryMissing category hold now last found looked empty =>
    exact .categoryMissing category hold now last found (within looked) empty
  | holdVanished category hold now last found looked empty =>
    exact .holdVanished category hold now last found (within looked) empty
  | bookingMissing id expected target found looked empty =>
    exact .bookingMissing id expected target found (within looked) empty
  | bookingElsewhere id expected target found looked row b first reads =>
    exact .bookingElsewhere id expected target found (within looked) row b first reads
  | refused c labels cause refused => exact .refused c labels cause refused
  | senseless o s a cause answered nonsense => exact .senseless o s a cause (within answered) nonsense

/-- A statement that finds something refuses only a row that stands for nothing. -/
theorem Finds.grounds {read : SqlRow → Except SqlFailure ρ} {meaning : ρ → Result α} {cause : Cause}
    (h : Finds s read meaning talk (.error cause)) : o.Grounds talk cause := by
  cases h with
  | senseless a cause nonsense => exact .senseless o s a cause (List.mem_singleton.2 rfl) nonsense

end Database

namespace DatabaseLedger

open Database Operation

variable {α ρ : Type} {o : Operation}

theorem passes_look (s : Statement) (read : SqlRow → Except SqlFailure ρ) (meaning : ρ → Result α)
    (inside : s.isBoundary = false)
    (table : ∀ a, s.sense a = (firstRow read a).map fun row => row.elim (.ok ()) (senseOf meaning))
    (reading : ∀ row, Reading (meaning row)) : Passes (lookUp s read meaning) o.Grounded := by
  refine (passes_lookUp s read meaning inside table reading).mono ?_
  rintro talk _ h cause rfl
  exact h.grounds

theorem passes_changesOne (s : Statement) (inside : s.isBoundary = false)
    (table : ∀ a, s.sense a = .ok (.ok ())) : Passes (changesOne s) o.Grounded :=
  (passes_execute s inside table).after_answer fun _ _ _ => .pure (Grounded.ok _)

/-! ### Taking a place -/

section Take

variable (category : CategoryId) (hold : HoldId) (now last : Instant)

/-- What is known at the end of a transaction that takes a place: it is refused on grounds, and a hold
that was written came back to some statement. -/
def TakeKnown (talk : Talk) : Except Cause (Ending × Take) → Prop
  | .error cause => Grounds (.ledger (.takeStock category hold now last)) talk cause
  | .ok (_, .written row) => ∃ s a, (s, .ok a) ∈ talk ∧ s.sense a = .ok (senseOf HoldRow.read row)
  | .ok _ => True

theorem passes_takeFresh (talk : Talk) : Passes (takeFresh category hold last) fun more r =>
    TakeKnown category hold now last (talk ++ more) r := by
  refine (passes_fetchOptional (.takePlace category) readNumber rfl fun _ => rfl).after_answer
    fun _ placed _ => ?_
  cases placed with
  | none => exact .pure trivial
  | some _ =>
    refine (passes_fetchOptional (.insertHold category hold last) HoldRow.ofRow rfl
      fun _ => rfl).after_answer fun a inserted first => ?_
    cases inserted with
    | none => exact .pure trivial
    | some row =>
      refine .pure ⟨.insertHold category hold last, a, by simp, ?_⟩
      rw [Statement.sense, first]
      rfl

theorem passes_takeInside :
    Passes (takeInside category hold now last) (TakeKnown category hold now last) := by
  refine (passes_fetchOptional (.findCategory category) readNumber rfl fun _ => rfl).after_answer
    fun found there first => ?_
  cases there with
  | none =>
    exact .throw (.categoryMissing category hold now last found (by simp) (rows_of_firstRow first))
  | some _ =>
    refine (passes_lookUp (.lockHold category hold) HoldRow.ofRow HoldRow.read rfl (fun _ => rfl)
      HoldRow.reading).bind ?_ ?_
    · exact fun _ _ h => Grounds.mono h.grounds (List.subset_cons_self _ _)
    rintro _ existing h
    have fresh := passes_takeFresh category hold now last
    cases h with
    | nothing locked =>
      exact fresh [(.findCategory category, .ok found), (.lockHold category hold, .ok locked)]
    | found locked row existing first means =>
      have fresh := fresh [(.findCategory category, .ok found), (.lockHold category hold, .ok locked)]
      dsimp only
      -- a hold stays while it is kept, and one that lapsed is renewed; else a place is taken
      split
      · exact .pure trivial
      · split
        · exact .pure trivial
        · refine (passes_fetchOne (.renewHold category hold last) HoldRow.ofRow rfl
            fun _ => rfl).after_answer fun a row only => ?_
          refine .pure ⟨.renewHold category hold last, a, by simp, ?_⟩
          rw [Statement.sense, only]
          rfl
      · exact fresh
      · exact fresh

theorem runs_takeStock :
    Runs (takeStock category hold now last) (Grounded (.ledger (.takeStock category hold now last))) := by
  refine (runs_transaction (passes_takeInside category hold now last)).bind ?_ ?_
  · rintro _ _ (_ | ⟨begun, inner, cause, grounds⟩)
    exact Grounded.error (Grounds.mono grounds (List.subset_cons_self _ _))
  rintro _ take (⟨begun, done, inner, ending, take, known⟩ | _)
  cases take with
  | kept existing => exact .pure (Grounded.ok _)
  | soldOut => exact .pure (Grounded.ok _)
  | written row =>
    obtain ⟨s, a, written, sense⟩ := known
    refine (passes_interpret (HoldRow.reading row)).bind ?_ ?_
    · rintro _ cause ⟨rfl, failed, senseless⟩
      refine Grounded.error (.senseless _ s a cause (by simp [written]) ⟨?_, senseless cause rfl⟩)
      rw [sense, senseOf, failed]
      rfl
    · rintro _ h ⟨rfl, -, -⟩
      exact .pure (Grounded.ok _)
  | lost =>
    refine .after_note _ ((passes_lookUp (.selectHold category hold) HoldRow.ofRow HoldRow.read rfl
      (fun _ => rfl) HoldRow.reading).bind ?_ ?_)
    · exact fun _ _ h => Grounded.error (Grounds.mono h.grounds (List.subset_append_right _ _))
    rintro _ _ (⟨found, empty⟩ | ⟨found, row, winner, first, means⟩ | _)
    · exact .throw (Grounded.error (.holdVanished category hold now last found (by simp) empty))
    · exact .pure (Grounded.ok _)

end Take

/-! ### The other calls of the ledger -/

theorem runs_returnStock (category : CategoryId) (hold : HoldId) :
    Runs (returnStock category hold) o.Grounded := by
  have body : Passes (do
      if (← execute (.releaseHold category hold)) = 0 then return (.rollback, false)
      let _ ← execute (.returnPlace category)
      return (.commit, true) : Service DatabaseWorld (Ending × Bool)) o.Grounded := by
    refine (passes_execute (.releaseHold category hold) rfl fun _ => rfl).after_answer fun _ _ _ => ?_
    split
    · exact .pure (Grounded.ok _)
    · exact (passes_execute (.returnPlace category) rfl fun _ => rfl).after_answer
        fun _ _ _ => .pure (Grounded.ok _)
  refine (runs_transaction body).mono ?_
  rintro _ _ (_ | ⟨begun, inner, cause, grounds⟩)
  · exact Grounded.ok _
  · exact Grounded.error (Grounds.mono (grounds cause rfl) (List.subset_cons_self _ _))

theorem passes_reclaim (now : Instant) : Passes (reclaim now) o.Grounded :=
  (passes_execute (.freeLapsedSeats now) rfl fun _ => rfl).after_answer fun _ _ _ =>
    (passes_fetchAll (.expireLapsedHolds now) readNumber rfl fun _ => rfl).after_answer fun _ _ _ =>
      .pure (Grounded.ok _)

/-- A count that is read off an answer may be none, as the answer then says. -/
theorem passes_count {β : Type} {before : Talk} {s : Statement} {a : SqlAnswer} {sense : Result Unit}
    {what : String} {n : Int} {k : UInt32 → Service DatabaseWorld β} (senses : s.sense a = .ok sense)
    (fails : ∀ e, countOf what n = .error e → sense = .error e)
    (rest : ∀ x, countOf what n = .ok x →
      Passes (k x) fun more r => o.Grounded (before ++ (s, .ok a) :: more) r) :
    Passes (interpret (countOf what n) >>= k) fun more r =>
      o.Grounded (before ++ (s, .ok a) :: more) r := by
  refine (passes_interpret (.countOf what n)).bind ?_ ?_
  · rintro _ cause ⟨rfl, failed, senseless⟩
    exact Grounded.error (.senseless o s a cause (by simp)
      ⟨by rw [senses, fails _ failed], senseless cause rfl⟩)
  · rintro _ x ⟨rfl, counts, -⟩
    exact rest x counts

theorem passes_availability (id : CategoryId) (now : Instant) :
    Passes (availability id now) o.Grounded := by
  refine (passes_look (o := o) (.selectCategory id) CategoryRow.ofRow CategoryRow.read rfl (fun _ => rfl)
    CategoryRow.reading).bind ?_ ?_
  · exact fun _ cause h => Grounded.error (h cause rfl)
  rintro talk (_ | c) -
  · exact .pure (Grounded.ok _)
  dsimp only
  split
  · refine (passes_fetchOne (.countSeats id now) readSeatCounts rfl fun _ => rfl).after_answer ?_
    rintro a ⟨sold, reserved⟩ only
    have senses : (Statement.countSeats id now).sense a = .ok (senseOfSeatCounts (sold, reserved)) := by
      rw [Statement.sense, only]
      rfl
    refine passes_count senses (fun e bad => by rw [senseOfSeatCounts, bad]; rfl)
      fun _ first => ?_
    refine passes_count senses (fun e bad => by rw [senseOfSeatCounts, first, bad]; rfl)
      fun _ _ => ?_
    exact .pure (Grounded.ok _)
  · refine (passes_fetchOne (.countHolds id now) readHoldCounts rfl fun _ => rfl).after_answer ?_
    rintro a ⟨sold, reserved, lapsed⟩ only
    have senses : (Statement.countHolds id now).sense a =
        .ok (senseOfHoldCounts (sold, reserved, lapsed)) := by
      rw [Statement.sense, only]
      rfl
    refine passes_count senses (fun e bad => by rw [senseOfHoldCounts, bad]; rfl)
      fun _ first => ?_
    refine passes_count senses (fun e bad => by rw [senseOfHoldCounts, first, bad]; rfl)
      fun _ second => ?_
    refine passes_count senses
      (fun e bad => by rw [senseOfHoldCounts, first, second, bad]; rfl) fun _ _ => ?_
    exact .pure (Grounded.ok _)

/-! ### Providing a category -/

section Provision

variable {c : Category} {labels : List String}

theorem exists_cause_of_checkProvision {e : Error} (refused : checkProvision c labels = .error e) :
    ∃ cause : Cause, e = cause.error := by
  unfold checkProvision at refused
  split at refused
  · split at refused
    · cases refused
      exact ⟨_, rfl⟩
    · split at refused <;> cases refused
      exact ⟨_, rfl⟩
  · split at refused <;> cases refused
    exact ⟨_, rfl⟩
  · cases refused
    exact ⟨_, rfl⟩

theorem exists_cause_of_checkColumns {e : Error} (refused : checkColumns c = .error e) :
    ∃ cause : Cause, e = cause.error := by
  by_cases total : 2147483647 < c.total
  · rw [checkColumns, if_pos total] at refused
    cases refused
    exact ⟨_, rfl⟩
  by_cases available : 2147483647 < c.available
  · rw [checkColumns, if_neg total, if_pos available] at refused
    cases refused
    exact ⟨_, rfl⟩
  rw [checkColumns, if_neg total, if_neg available] at refused
  split at refused <;> cases refused
  exact ⟨_, rfl⟩

/-- A category that is not in order is refused without a word to the database. -/
theorem runs_refused {s : Service DatabaseWorld Category} {e : Error}
    (says_nothing : s.run = .done (.error e)) (refused : rowFor c labels = .error e)
    (caused : ∃ cause : Cause, e = cause.error) : Runs s (Grounded (.provision c labels)) := by
  obtain ⟨cause, rfl⟩ := caused
  show s.run.Ensures overheard? _
  rw [says_nothing]
  exact .refused [] [] cause (List.forall_mem_nil _) rfl (Grounded.error (.refused c labels cause refused))

theorem runs_provision (c : Category) (labels : List String) :
    Runs (provision c labels) (Grounded (.provision c labels)) := by
  unfold provision
  cases checked : checkProvision c labels with
  | error e =>
    exact runs_refused rfl (by rw [rowFor, checked]; rfl) (exists_cause_of_checkProvision checked)
  | ok c' =>
  cases fits : checkColumns c' with
  | error e =>
    refine runs_refused ?_ (by rw [rowFor, checked]; exact fits) (exists_cause_of_checkColumns fits)
    show (interpret (checkColumns c') >>= _ : Service DatabaseWorld Category).run = _
    rw [fits]
    rfl
  | ok row =>
  show Runs (interpret (checkColumns c') >>= _) _
  rw [fits]
  refine (runs_transaction (Q := Grounded (.provision c labels)) ?_).bind ?_ ?_
  · refine (passes_execute (.insertCategory row) rfl fun _ => rfl).after_answer fun _ _ _ => ?_
    cases labels with
    | nil => exact .pure (Grounded.ok _)
    | cons label more =>
      exact (passes_execute (.insertSeats c'.id (label :: more)) rfl fun _ => rfl).after_answer
        fun _ _ _ => .pure (Grounded.ok _)
  · rintro _ cause (_ | ⟨begun, inner, _, grounds⟩)
    exact Grounded.error (Grounds.mono (grounds cause rfl) (List.subset_cons_self _ _))
  · exact fun _ _ _ => .after_note _ (.pure (Grounded.ok _))

end Provision

end DatabaseLedger

namespace DatabaseStore

open Database Operation

variable {o : Operation}

theorem passes_lookUp (s : Statement) (inside : s.isBoundary = false)
    (table : ∀ a, s.sense a =
      (firstRow BookingRow.ofRow a).map fun row => row.elim (.ok ()) (senseOf BookingRow.read)) :
    Passes (lookUp s) (Finds s BookingRow.ofRow BookingRow.read) := by
  rw [lookUp_booking]
  exact Database.passes_lookUp s BookingRow.ofRow BookingRow.read inside table BookingRow.reading

theorem passes_find (s : Statement) (inside : s.isBoundary = false)
    (table : ∀ a, s.sense a =
      (firstRow BookingRow.ofRow a).map fun row => row.elim (.ok ()) (senseOf BookingRow.read)) :
    Passes (lookUp s) o.Grounded := by
  rw [lookUp_booking]
  exact DatabaseLedger.passes_look s BookingRow.ofRow BookingRow.read inside table BookingRow.reading

theorem hears_now : Hears (Surroundings.now : Service DatabaseWorld Instant) fun heard r =>
    heard = [] ∧ ∃ now, r = .ok now :=
  ⟨⟨(⟨0⟩ : Instant)⟩, fun now => ⟨rfl, now, rfl⟩⟩

theorem hears_freshBooking : Hears (Surroundings.freshBooking : Service DatabaseWorld BookingId)
    fun heard r => heard = [] ∧ ∃ id, r = .ok id :=
  ⟨⟨(⟨.random 0⟩ : BookingId)⟩, fun id => ⟨rfl, id, rfl⟩⟩

theorem passes_create (draft : BookingDraft) : Passes (create draft) o.Grounded := by
  refine .after_silence hears_now fun now => .after_silence hears_freshBooking fun id => ?_
  refine (passes_fetchOne (.insertBooking (.write (.ofDraft id draft now))) BookingRow.ofRow rfl
    fun _ => rfl).after_answer fun a row only => ?_
  refine (passes_interpret (BookingRow.reading row)).bind ?_ ?_
  · rintro _ cause ⟨rfl, failed, senseless⟩
    refine Grounded.error (.senseless o _ a cause (List.mem_singleton.2 rfl) ⟨?_, senseless cause rfl⟩)
    rw [Statement.sense, only]
    show Except.ok (senseOf BookingRow.read row) = _
    rw [senseOf, failed]
    rfl
  · rintro _ b ⟨rfl, -, -⟩
    exact .after_note _ (.pure (Grounded.ok _))

theorem passes_transition (id : BookingId) (expected target : BookingStatus) :
    Passes (transition id expected target) (Grounded (.store (.transition id expected target))) := by
  refine .after_silence hears_now fun now => ?_
  refine (passes_lookUp (.transitionBooking id expected target now) rfl fun _ => rfl).bind
    (fun _ _ h => Grounded.error h.grounds) ?_
  rintro talk (_ | changed) -
  · refine (passes_lookUp (.selectBooking id) rfl fun _ => rfl).bind ?_ ?_
    · exact fun _ _ h => Grounded.error (Grounds.mono h.grounds (List.subset_append_right _ _))
    rintro _ _ (⟨found, empty⟩ | ⟨found, row, current, first, means⟩ | _)
    · exact .throw (Grounded.error (.bookingMissing id expected target found (by simp) empty))
    · exact .throw (Grounded.error
        (.bookingElsewhere id expected target found (by simp) row current first means))
  · exact .pure (Grounded.ok _)

end DatabaseStore

namespace Database

/-! ### Every operation -/

/-- A failure that carries the code of a violated unique, foreign key or check constraint. -/
def Violates (f : SqlFailure) : Prop :=
  ∃ code message, f = .database code message ∧ (code = "23505" ∨ code = "23503" ∨ code = "23514")

theorem violates_iff {f : SqlFailure} : Violates f ↔ f.isConstraint = true := by
  constructor
  · rintro ⟨_, message, rfl, rfl | rfl | rfl⟩ <;> rfl
  · intro constraint
    cases f with
    | database code message =>
      have known : code ∈ SqlFailure.constraintCodes := List.contains_iff_mem.1 constraint
      exact ⟨code, message, rfl, by simpa [SqlFailure.constraintCodes] using known⟩
    | _ => cases constraint

/-- A failure becomes the caller's error, and is counted, for what it is. -/
structure Classified (f : SqlFailure) (e : Error) (failures : FailureClass) : Prop where
  message : e.message = f.message
  invalid : e.kind = .invalidArgument ↔ Violates f
  internal : e.kind = .internal ↔ ¬ Violates f
  counted : failures = if e.kind = .invalidArgument then .constraint else .internal

theorem classified (f : SqlFailure) : Classified f (errorOf f) (classOf f) where
  message := rfl
  invalid := by rw [violates_iff, errorOf]; split <;> simp_all
  internal := by rw [violates_iff, errorOf]; split <;> simp_all
  counted := by rw [errorOf, classOf]; split <;> rfl

namespace Operation

theorem runs_program : (o : Operation) → o.program.Ensures overheard? (Ends o.Grounded)
  | ledger (.category _) =>
    (DatabaseLedger.passes_look _ _ _ rfl (fun _ => rfl) CategoryRow.reading).runs
  | ledger (.seat _ _) => (DatabaseLedger.passes_look _ _ _ rfl (fun _ => rfl) SeatRow.reading).runs
  | ledger (.reserveSeat _) => (DatabaseLedger.passes_look _ _ _ rfl (fun _ => rfl) SeatRow.reading).runs
  | ledger (.releaseSeat _ _ _) => (DatabaseLedger.passes_changesOne _ rfl fun _ => rfl).runs
  | ledger (.sellSeat _ _ _ _) => (DatabaseLedger.passes_changesOne _ rfl fun _ => rfl).runs
  | ledger (.takeStock category hold now last) => DatabaseLedger.runs_takeStock category hold now last
  | ledger (.stockHold _ _) => (DatabaseLedger.passes_look _ _ _ rfl (fun _ => rfl) HoldRow.reading).runs
  | ledger (.returnStock category hold) => DatabaseLedger.runs_returnStock category hold
  | ledger (.settleStock _ _ _) => (DatabaseLedger.passes_changesOne _ rfl fun _ => rfl).runs
  | ledger (.reclaim now) => (DatabaseLedger.passes_reclaim now).runs
  | ledger (.availability category now) => (DatabaseLedger.passes_availability category now).runs
  | provision c labels => DatabaseLedger.runs_provision c labels
  | store (.create draft) => (DatabaseStore.passes_create draft).runs
  | store (.get _) => (DatabaseStore.passes_find _ rfl fun _ => rfl).runs
  | store (.findByAttempt _) => (DatabaseStore.passes_find _ rfl fun _ => rfl).runs
  | store (.transition id expected target) => (DatabaseStore.passes_transition id expected target).runs

/-- How an operation ends, given all that is said to the database, and how far it moves the counters of
failures. -/
inductive Stops (o : Operation) : Talk → (FailureClass → Nat) → Result o.Answer → Prop
  /-- Every statement is in order, and there is a result. -/
  | done (talk : Talk) (a : o.Answer) (fine : Fine talk) (closed : isOpen talk = false) :
    Stops o talk (fun _ => 0) (.ok a)
  /-- Every statement is in order, and there are grounds for a refusal. -/
  | refused (talk left : Talk) (cause : Cause) (fine : Fine talk) (leaves : Leaves talk left)
    (grounds : o.Grounds talk cause) : Stops o (talk ++ left) (fun _ => 0) (.error cause.error)
  /-- A statement is at fault, the first one. -/
  | failed (talk left : Talk) (s : Statement) (reply : Except SqlFailure SqlAnswer) (f : SqlFailure)
    (e : Error) (failures : FailureClass) (fine : Fine talk) (fault : s.fault? reply = some f)
    (leaves : Leaves (talk ++ [(s, reply)]) left) (told : Classified f e failures) :
    Stops o (talk ++ (s, reply) :: left) (fun c => if c = failures then 1 else 0) (.error e)

end Operation

/-- An entry that is written into the journal. -/
def written? : Exchange DatabaseWorld → Option Entry
  | ⟨.inr (.record entry), _⟩ => some entry
  | _ => none

namespace Overheard

/-- The statement of what is heard, with what came back. -/
def spoken? : Overheard → Option (Statement × Except SqlFailure SqlAnswer)
  | said x => some x
  | counted _ _ => none

/-- How far what is heard moves a counter of failures. -/
def growth (failures : FailureClass) : Overheard → Nat
  | said _ => 0
  | counted c times => if c = failures then times else 0

/-- How far all that is heard moves a counter of failures. -/
def total (failures : FailureClass) : List Overheard → Nat
  | [] => 0
  | x :: heard => growth failures x + total failures heard

theorem total_append (failures : FailureClass) (heard more : List Overheard) :
    total failures (heard ++ more) = total failures heard + total failures more := by
  induction heard with
  | nil => exact (Nat.zero_add _).symm
  | cons x heard ih => rw [List.cons_append, total, ih, total, Nat.add_assoc]

theorem spoken_said (talk : Talk) : (talk.map said).filterMap spoken? = talk := by
  rw [List.filterMap_map]
  exact List.filterMap_some

theorem total_said (failures : FailureClass) (talk : Talk) : total failures (talk.map said) = 0 := by
  induction talk with
  | nil => rfl
  | cons x talk ih => exact (Nat.zero_add _).trans ih

end Overheard

/-- What is said to the database is heard. -/
theorem filterMap_spoken (said : List (Exchange DatabaseWorld)) :
    said.filterMap spoken? = (said.filterMap overheard?).filterMap Overheard.spoken? := by
  rw [List.filterMap_filterMap]
  refine List.filterMap_congr fun x _ => ?_
  obtain ⟨s | c, reply⟩ := x
  · rfl
  · cases c with
    | record entry =>
      rcases entry with n | (⟨c, times⟩ | _ | _)
      · rfl
      · cases c <;> rfl
      · rfl
      · rfl
    | _ => rfl

/-- What moves a counter of failures is heard. -/
theorem total_written (failures : FailureClass) (said : List (Exchange DatabaseWorld)) :
    Journal.total (.databaseError failures) (said.filterMap written?) =
      Overheard.total failures (said.filterMap overheard?) := by
  have once (x : Exchange DatabaseWorld) :
      Journal.total (.databaseError failures) (written? x).toList =
        Overheard.total failures (overheard? x).toList := by
    obtain ⟨s | c, reply⟩ := x
    · rfl
    · cases c with
      | record entry =>
        rcases entry with n | (⟨c, times⟩ | _ | _)
        · rfl
        · cases c with
          | databaseError c =>
            simp [written?, overheard?, Overheard.total, Overheard.growth, Journal.growth]
          | _ => rfl
        · rfl
        · rfl
      | _ => rfl
  induction said with
  | nil => rfl
  | cons x said ih =>
    have parts {δ : Type} (view : Exchange DatabaseWorld → Option δ) :
        (x :: said).filterMap view = (view x).toList ++ said.filterMap view := by
      rw [List.filterMap_cons]
      cases view x <;> rfl
    rw [parts, parts, Journal.total_append, Overheard.total_append, once, ih]

/-- **A call to the database stops at the first fault.** Whatever is answered, the call comes to an end. A
statement at fault is the last one, but for the roll-back of a transaction that is open; its failure is
counted once, and the caller is told, for what it is. With every statement in order nothing is counted,
and the call is refused only on grounds. -/
theorem stops_at_first_fault (E : Environment DatabaseWorld) (o : Operation) :
    ∃ said r, o.program.converse E [] = (said, some r) ∧
      o.Stops (said.filterMap spoken?)
        (fun failures => Journal.total (.databaseError failures) (said.filterMap written?)) r := by
  obtain ⟨said, r, talked, ends⟩ := o.runs_program.converse E []
  refine ⟨said, r, talked, ?_⟩
  -- both what is said and what is counted are read off what is heard
  simp only [filterMap_spoken, total_written]
  generalize said.filterMap overheard? = heard at ends
  cases ends with
  | done talk a fine closed so =>
    rw [Overheard.spoken_said]
    simp only [Overheard.total_said]
    exact .done talk a fine closed
  | refused talk left cause fine leaves so =>
    rw [← List.map_append, Overheard.spoken_said]
    simp only [Overheard.total_said]
    exact .refused talk left cause fine leaves (so cause rfl)
  | failed talk left s reply f fine fault leaves =>
    have spoken : (talk.map Overheard.said ++ .said (s, reply) :: .counted (classOf f) 1 ::
        left.map Overheard.said).filterMap Overheard.spoken? = talk ++ (s, reply) :: left := by
      rw [List.filterMap_append, Overheard.spoken_said]
      exact congrArg (talk ++ (s, reply) :: ·) (Overheard.spoken_said left)
    have total (failures : FailureClass) : Overheard.total failures (talk.map Overheard.said ++
        .said (s, reply) :: .counted (classOf f) 1 :: left.map Overheard.said) =
        if failures = classOf f then 1 else 0 := by
      rw [Overheard.total_append, Overheard.total_said, Nat.zero_add]
      show 0 + ((if classOf f = failures then 1 else 0) + Overheard.total failures (left.map .said)) = _
      rw [Overheard.total_said, Nat.zero_add, Nat.add_zero]
      exact if_congr eq_comm rfl rfl
    rw [spoken]
    simp only [total]
    exact .failed talk left s reply f _ _ fine fault leaves (classified f)

/-- A database that replies to each statement as it is told. -/
noncomputable def replying (replies : Statement → Except SqlFailure SqlAnswer) :
    Environment DatabaseWorld where
  reply
    | _, .inl s, _ => replies s
    | _, .inr _, possible => Classical.choice possible

/-- There are no rows, and nothing can be rolled back. -/
def stuck : Statement → Except SqlFailure SqlAnswer
  | .rollback => .error (.database "40001" "could not serialize access")
  | _ => .ok (.ofAffected 0)

/-- A row comes back to every statement, but has no columns. -/
def hollow (_ : Statement) : Except SqlFailure SqlAnswer :=
  .ok (.ofRows [] [[]])

/-- How many statements came back as failures. -/
def failedReplies (talk : Talk) : Nat :=
  talk.countP fun x => x.2.isOk = false

/-- What comes back as a failure is not what is counted. Nobody waits for the roll-back of a transaction
that is left: if it is all that fails, nothing is counted, and the caller is told what the transaction was
left for. And a row that cannot be read is counted, though every statement succeeds. -/
theorem failed_ne_counted :
    (∃ said, (Operation.ledger (.takeStock ⟨20⟩ ⟨.random 1⟩ ⟨0⟩ ⟨900000000000⟩)).program.converse
        (replying stuck) [] = (said, some (.error (Cause.categoryMissing ⟨20⟩).error)) ∧
      failedReplies (said.filterMap spoken?) = 1 ∧ (Cause.categoryMissing ⟨20⟩).error.kind = .notFound ∧
      ∀ failures, Journal.total (.databaseError failures) (said.filterMap written?) = 0) ∧
    ∃ said, (Operation.ledger (.category ⟨20⟩)).program.converse (replying hollow) [] =
        (said, some (.error (errorOf (.columnMissing "id")))) ∧
      failedReplies (said.filterMap spoken?) = 0 ∧
      Journal.total (.databaseError .internal) (said.filterMap written?) = 1 := by
  have replies (s : Statement) : Nonempty (DatabaseWorld.Reply (.inl s)) := ⟨.error SqlFailure.poolClosed⟩
  have writes (entry : Entry) : Nonempty (DatabaseWorld.Reply (.inr (.record entry))) := ⟨()⟩
  constructor
  · refine ⟨[⟨.inl .begin, stuck .begin⟩, ⟨.inl (.findCategory ⟨20⟩), stuck (.findCategory ⟨20⟩)⟩,
      ⟨.inl .rollback, stuck .rollback⟩], ?_, rfl, rfl, fun _ => rfl⟩
    exact Program.converse_ask (replies .begin) (Program.converse_ask (replies (.findCategory ⟨20⟩))
      (Program.converse_ask (replies .rollback) rfl))
  · refine ⟨[⟨.inl (.selectCategory ⟨20⟩), hollow (.selectCategory ⟨20⟩)⟩,
      ⟨.inr (.record (.measured (.count (.databaseError .internal) 1))), ()⟩,
      ⟨.inr (.record (.notice .databaseFailed)), ()⟩], ?_, rfl, rfl⟩
    exact Program.converse_ask (replies _) (Program.converse_ask (writes _)
      (Program.converse_ask (writes _) rfl))

end Database

end BoxOffice
