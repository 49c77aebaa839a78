import BoxOffice.Database.Bookings
import BoxOffice.Proofs.Database.Decoding
import BoxOffice.Proofs.Database.Session

/-!
# The first fault

A statement is at fault if it fails, if a row has to come back and none does, or if a row that comes back
cannot be read (`Statement.fault?`). What a call says inside a transaction, or without one, passes with
every statement in order, or it ends with the first that is at fault: that one is counted, once, and
nothing more is said (`Passes`). A transaction is then left, and rolled back (`runs_transaction`).
-/

namespace BoxOffice

open Database

variable {α β ρ : Type}

/-! ### Faults -/

namespace Database

/-- The first row of an answer as it is read, if there is one. -/
def firstRow (read : SqlRow → Except SqlFailure ρ) (a : SqlAnswer) : Except SqlFailure (Option ρ) :=
  match rowsOf a with
  | [] => .ok none
  | row :: _ => some <$> read row

/-- The first row of an answer as it is read; there has to be one. -/
def onlyRow (read : SqlRow → Except SqlFailure ρ) (a : SqlAnswer) : Except SqlFailure ρ :=
  match rowsOf a with
  | [] => .error .rowMissing
  | row :: _ => read row

/-- Whether a row stands for anything. -/
def senseOf (meaning : ρ → Result α) (row : ρ) : Result Unit :=
  (meaning row).map fun _ => ()

/-- The counts of seats are counts. -/
def senseOfSeatCounts : Int64 × Int64 → Result Unit
  | (sold, reserved) => do
    let _ ← countOf "sold" sold.toInt
    let _ ← countOf "reserved" reserved.toInt

/-- The counts of holds are counts. -/
def senseOfHoldCounts : Int64 × Int64 × Int64 → Result Unit
  | (sold, reserved, lapsed) => do
    let _ ← countOf "lapsed" lapsed.toInt
    let _ ← countOf "reserved" reserved.toInt
    let _ ← countOf "sold" sold.toInt

/-- The number in the first column. -/
def readNumber (row : SqlRow) : Except SqlFailure Int32 :=
  row.column 0

end Database

/-- What the rows of an answer say, statement by statement: they cannot be read, or they can, and then
they stand for something or not. Rows that nobody asked for are not looked at. -/
def Statement.sense : Statement → SqlAnswer → Except SqlFailure (Result Unit)
  | .selectCategory _, a =>
    (firstRow CategoryRow.ofRow a).map fun row => row.elim (.ok ()) (senseOf CategoryRow.read)
  | .selectSeat _ _, a | .reserveSeat _, a =>
    (firstRow SeatRow.ofRow a).map fun row => row.elim (.ok ()) (senseOf SeatRow.read)
  | .selectHold _ _, a | .lockHold _ _, a | .insertHold _ _ _, a =>
    (firstRow HoldRow.ofRow a).map fun row => row.elim (.ok ()) (senseOf HoldRow.read)
  | .renewHold _ _ _, a => (onlyRow HoldRow.ofRow a).map (senseOf HoldRow.read)
  | .findCategory _, a | .takePlace _, a => (firstRow readNumber a).map fun _ => .ok ()
  | .expireLapsedHolds _, a => ((rowsOf a).mapM readNumber).map fun _ => .ok ()
  | .countSeats _ _, a => (onlyRow DatabaseLedger.readSeatCounts a).map senseOfSeatCounts
  | .countHolds _ _, a => (onlyRow DatabaseLedger.readHoldCounts a).map senseOfHoldCounts
  | .insertBooking _, a => (onlyRow BookingRow.ofRow a).map (senseOf BookingRow.read)
  | .selectBooking _, a | .selectBookingOfAttempt _, a | .transitionBooking _ _ _ _, a =>
    (firstRow BookingRow.ofRow a).map fun row => row.elim (.ok ()) (senseOf BookingRow.read)
  | .begin, _ | .commit, _ | .rollback, _ | .releaseSeat _ _ _, _ | .sellSeat _ _ _ _, _
  | .releaseHold _ _, _ | .returnPlace _, _ | .settleHold _ _ _, _ | .freeLapsedSeats _, _
  | .insertCategory _, _ | .insertSeats _ _, _ | .migrate _, _ | .recordMigration _ _ _, _ => .ok (.ok ())

/-- What is wrong with what came back to a statement, if anything. -/
def Statement.fault? (s : Statement) : Except SqlFailure SqlAnswer → Option SqlFailure
  | .error f => some f
  | .ok a =>
    match s.sense a with
    | .error f => some f
    | .ok _ => none

/-- A row that came back to a statement can be read, but stands for nothing. -/
def Statement.Nonsense (s : Statement) (a : SqlAnswer) (cause : Cause) : Prop :=
  s.sense a = .ok (.error cause.error) ∧ cause.Senseless

namespace Database

/-- Every statement is in order. -/
def Fine (talk : Talk) : Prop :=
  ∀ x ∈ talk, x.1.fault? x.2 = none

/-- No statement begins or ends a transaction. -/
def Inside (talk : Talk) : Prop :=
  ∀ x ∈ talk, x.1.isBoundary = false

/-! ### What is heard of a call -/

/-- What is heard of a call: a statement with what came back, or that failures are counted. -/
inductive Overheard
  | said (x : Statement × Except SqlFailure SqlAnswer)
  | counted (failures : FailureClass) (times : Nat)

/-- What is heard of an exchange, if anything. -/
def overheard? : Exchange DatabaseWorld → Option Overheard
  | ⟨.inl s, reply⟩ => some (.said (s, reply))
  | ⟨.inr (.record (.measured (.count (.databaseError failures) times))), _⟩ =>
    some (.counted failures times)
  | _ => none

/-- A service is heard and ends in some way. -/
abbrev Hears (s : Service DatabaseWorld α) (Q : List Overheard → Result α → Prop) : Prop :=
  s.run.Ensures overheard? Q

/-- A value is given without a sound, and a failure is counted once. -/
def Told : Except SqlFailure α → List Overheard → Result α → Prop
  | .ok a, heard, r => heard = [] ∧ r = .ok a
  | .error f, heard, r => heard = [.counted (classOf f) 1] ∧ r = .error (errorOf f)

theorem hears_note (n : Notice) :
    Hears (Surroundings.note n : Service DatabaseWorld Unit) fun heard r => heard = [] ∧ r = .ok () :=
  ⟨⟨()⟩, fun _ => ⟨rfl, rfl⟩⟩

theorem hears_reject (f : SqlFailure) :
    Hears (reject f : Service DatabaseWorld α) (Told (.error f)) := by
  have counts : Hears (Surroundings.count (.databaseError (classOf f)) : Service DatabaseWorld Unit)
      fun heard r => heard = [.counted (classOf f) 1] ∧ r = .ok () :=
    ⟨⟨()⟩, fun _ => ⟨rfl, rfl⟩⟩
  refine Service.ensures_bind counts ?_ ?_
  · rintro _ _ ⟨_, ⟨⟩⟩
  rintro _ _ ⟨rfl, -⟩
  cases f.isConstraint with
  | true => exact ⟨rfl, rfl⟩
  | false =>
    refine Service.ensures_bind (hears_note _) ?_ ?_
    · rintro _ _ ⟨_, ⟨⟩⟩
    · rintro _ _ ⟨rfl, -⟩
      exact ⟨rfl, rfl⟩

theorem hears_demand (x : Except SqlFailure α) : Hears (demand x) (Told x) := by
  cases x with
  | ok a => exact ⟨rfl, rfl⟩
  | error f => exact hears_reject f

theorem hears_map {s : Service DatabaseWorld α} {x : Except SqlFailure α} (g : α → β)
    (h : Hears s (Told x)) : Hears (g <$> s) (Told (g <$> x)) := by
  rw [← bind_pure_comp]
  refine Service.ensures_bind h ?_ ?_
  · rintro _ e told
    rcases x with f | a <;> obtain ⟨rfl, ⟨⟩⟩ := told
    exact ⟨rfl, rfl⟩
  · rintro _ a told
    rcases x with f | a <;> obtain ⟨rfl, ⟨⟩⟩ := told
    exact ⟨rfl, rfl⟩

/-! ### Between the boundaries -/

/-- What is heard of a part of a call that neither begins nor ends a transaction. With every statement in
order it ends as promised, in a value or for a cause; or it ends with the first fault. -/
inductive Passage (Q : Talk → Except Cause α → Prop) : List Overheard → Result α → Prop
  | done (talk : Talk) (a : α) (fine : Fine talk) (inside : Inside talk) (so : Q talk (.ok a)) :
    Passage Q (talk.map .said) (.ok a)
  | refused (talk : Talk) (cause : Cause) (fine : Fine talk) (inside : Inside talk)
    (so : Q talk (.error cause)) : Passage Q (talk.map .said) (.error cause.error)
  | failed (talk : Talk) (s : Statement) (reply : Except SqlFailure SqlAnswer) (f : SqlFailure)
    (fine : Fine talk) (inside : Inside (talk ++ [(s, reply)])) (fault : s.fault? reply = some f) :
    Passage Q (talk.map .said ++ [.said (s, reply), .counted (classOf f) 1]) (.error (errorOf f))

/-- A part of a call passes, or ends with the first fault. -/
abbrev Passes (s : Service DatabaseWorld α) (Q : Talk → Except Cause α → Prop) : Prop :=
  Hears s (Passage Q)

namespace Passes

variable {s : Service DatabaseWorld α} {Q : Talk → Except Cause α → Prop}
  {R : Talk → Except Cause β → Prop}

theorem mono {Q' : Talk → Except Cause α → Prop} (h : Passes s Q)
    (le : ∀ talk r, Q talk r → Q' talk r) : Passes s Q' := by
  refine Program.Ensures.mono h ?_
  rintro _ _ (⟨talk, a, fine, inside, so⟩ | ⟨talk, cause, fine, inside, so⟩ |
    ⟨talk, s, reply, f, fine, inside, fault⟩)
  · exact .done talk a fine inside (le _ _ so)
  · exact .refused talk cause fine inside (le _ _ so)
  · exact .failed talk s reply f fine inside fault

theorem pure {a : α} (so : Q [] (.ok a)) : Passes (Pure.pure a) Q :=
  Passage.done [] a (List.forall_mem_nil _) (List.forall_mem_nil _) so

theorem throw {cause : Cause} (so : Q [] (.error cause)) :
    Passes (MonadExcept.throw cause.error) Q :=
  Passage.refused [] cause (List.forall_mem_nil _) (List.forall_mem_nil _) so

/-- What comes after a part that passed is another part. -/
theorem after_done {t : Service DatabaseWorld β} {talk : Talk} (fine : Fine talk) (inside : Inside talk)
    (rest : Passes t fun more r => R (talk ++ more) r) :
    Hears t fun heard r => Passage R (talk.map .said ++ heard) r := by
  refine Program.Ensures.mono rest ?_
  rintro _ _ (⟨more, a, fine', inside', so⟩ | ⟨more, cause, fine', inside', so⟩ |
    ⟨more, s, reply, f, fine', inside', fault⟩)
  · rw [← List.map_append]
    exact .done (talk ++ more) a (List.forall_mem_append.2 ⟨fine, fine'⟩)
      (List.forall_mem_append.2 ⟨inside, inside'⟩) so
  · rw [← List.map_append]
    exact .refused (talk ++ more) cause (List.forall_mem_append.2 ⟨fine, fine'⟩)
      (List.forall_mem_append.2 ⟨inside, inside'⟩) so
  · rw [← List.append_assoc, ← List.map_append]
    refine .failed (talk ++ more) s reply f (List.forall_mem_append.2 ⟨fine, fine'⟩) ?_ fault
    rw [List.append_assoc]
    exact List.forall_mem_append.2 ⟨inside, inside'⟩

/-- One part after another. -/
theorem bind {k : α → Service DatabaseWorld β} (first : Passes s Q)
    (refused : ∀ talk cause, Q talk (.error cause) → R talk (.error cause))
    (rest : ∀ talk a, Q talk (.ok a) → Passes (k a) fun more r => R (talk ++ more) r) :
    Passes (s >>= k) R := by
  refine Service.ensures_bind first ?_ ?_
  · rintro _ e h
    cases h with
    | refused talk cause fine inside so => exact .refused talk cause fine inside (refused talk cause so)
    | failed talk s reply f fine inside fault => exact .failed talk s reply f fine inside fault
  · rintro _ a h
    cases h with
    | done talk a fine inside so => exact after_done fine inside (rest talk a so)

end Passes

/-- What makes no sound is passed over. -/
theorem Passes.after_silence {s : Service DatabaseWorld α} {k : α → Service DatabaseWorld β}
    {R : Talk → Except Cause β → Prop}
    (silence : Hears s fun heard r => heard = [] ∧ ∃ a, r = .ok a) (rest : ∀ a, Passes (k a) R) :
    Passes (s >>= k) R := by
  refine Service.ensures_bind silence ?_ ?_
  · rintro _ _ ⟨_, _, ⟨⟩⟩
  · rintro _ a ⟨rfl, -⟩
    exact rest a

theorem Passes.after_note {k : Unit → Service DatabaseWorld α} {Q : Talk → Except Cause α → Prop}
    (n : Notice) (rest : Passes (k ()) Q) : Passes (Surroundings.note n >>= k) Q :=
  .after_silence (Program.Ensures.mono (hears_note n) fun _ _ ⟨silence, r⟩ => ⟨silence, (), r⟩)
    fun _ => rest

theorem passes_interpret {r : Result α} (reading : Reading r) :
    Passes (interpret r) fun talk r' => talk = [] ∧ r = r'.mapError Cause.error ∧
      ∀ cause, r' = .error cause → cause.Senseless := by
  cases r with
  | ok a => exact .pure ⟨rfl, rfl, nofun⟩
  | error e =>
    obtain ⟨cause, senseless, rfl⟩ := reading e rfl
    exact Passes.throw ⟨rfl, rfl, by rintro _ ⟨⟩; exact senseless⟩

/-- One statement is answered, and the answer gives a value. -/
def Gives (s : Statement) (result : SqlAnswer → Except SqlFailure α) (talk : Talk)
    (r : Except Cause α) : Prop :=
  ∃ a x, talk = [(s, .ok a)] ∧ result a = .ok x ∧ r = .ok x

/-- What follows a statement that is answered. -/
theorem Passes.after_answer {service : Service DatabaseWorld α} {s : Statement}
    {result : SqlAnswer → Except SqlFailure α} {k : α → Service DatabaseWorld β}
    {R : Talk → Except Cause β → Prop} (answered : Passes service (Gives s result))
    (rest : ∀ a x, result a = .ok x → Passes (k x) fun more r => R ((s, .ok a) :: more) r) :
    Passes (service >>= k) R := by
  refine answered.bind ?_ ?_
  · rintro _ _ ⟨_, _, _, _, ⟨⟩⟩
  · rintro _ x ⟨a, _, rfl, given, ⟨⟩⟩
    exact rest a x given

theorem hears_perform (s : Statement) : Hears (perform s) fun heard r =>
    ∃ reply told, heard = .said (s, reply) :: told ∧ Told reply told r :=
  ⟨⟨.error .poolClosed⟩, fun reply =>
    Program.Ensures.mono (hears_demand reply) fun told _ h => ⟨reply, told, rfl, h⟩⟩

section Answered

variable {s : Statement} {result : SqlAnswer → Except SqlFailure α} {sense : α → Result Unit}

/-- A statement is sent and something made of its answer: what it makes is in the table. -/
theorem passes_answered {next : SqlAnswer → Service DatabaseWorld α} (inside : s.isBoundary = false)
    (table : ∀ a, s.sense a = (result a).map sense) (hears : ∀ a, Hears (next a) (Told (result a))) :
    Passes (perform s >>= next) (Gives s result) := by
  have inside (reply : Except SqlFailure SqlAnswer) : Inside [(s, reply)] :=
    List.forall_mem_singleton.2 inside
  refine Service.ensures_bind (hears_perform s) ?_ ?_
  · rintro _ _ ⟨f | _, _, rfl, rfl, ⟨⟩⟩
    exact .failed [] s _ f (List.forall_mem_nil _) (inside _) rfl
  · rintro _ a ⟨_ | _, _, rfl, rfl, ⟨⟩⟩
    refine Program.Ensures.mono (hears a) fun told r h => ?_
    cases given : result a with
    | error f =>
      rw [given] at h
      obtain ⟨rfl, rfl⟩ := h
      refine .failed [] s (.ok a) f (List.forall_mem_nil _) (inside _) ?_
      rw [Statement.fault?, table, given]
      rfl
    | ok x =>
      rw [given] at h
      obtain ⟨rfl, rfl⟩ := h
      refine .done [(s, .ok a)] x (List.forall_mem_singleton.2 ?_) (inside _) ⟨a, x, rfl, given, rfl⟩
      rw [Statement.fault?, table, given]
      rfl

variable (s)

theorem passes_execute (inside : s.isBoundary = false) (table : ∀ a, s.sense a = .ok (.ok ())) :
    Passes (execute s) (Gives s fun a => .ok a.affected) := by
  have table (a : SqlAnswer) : s.sense a = (Except.ok a.affected).map fun _ => .ok () := table a
  exact passes_answered inside table fun _ => ⟨rfl, rfl⟩

variable (read : SqlRow → Except SqlFailure ρ)

theorem hears_firstRow (a : SqlAnswer) :
    Hears (match rowsOf a with
      | [] => return none
      | row :: _ => some <$> demand (read row)) (Told (firstRow read a)) := by
  unfold firstRow
  cases rowsOf a with
  | nil => exact ⟨rfl, rfl⟩
  | cons row more => exact hears_map some (hears_demand (read row))

theorem passes_fetchOptional {sense : Option ρ → Result Unit} (inside : s.isBoundary = false)
    (table : ∀ a, s.sense a = (firstRow read a).map sense) :
    Passes (fetchOptional s read) (Gives s (firstRow read)) :=
  passes_answered inside table (hears_firstRow read)

theorem passes_fetchOne {sense : ρ → Result Unit} (inside : s.isBoundary = false)
    (table : ∀ a, s.sense a = (onlyRow read a).map sense) :
    Passes (fetchOne s read) (Gives s (onlyRow read)) := by
  refine passes_answered inside table fun a => ?_
  unfold onlyRow
  cases rowsOf a with
  | nil => exact hears_reject .rowMissing
  | cons row more => exact hears_demand (read row)

theorem passes_fetchAll {sense : List ρ → Result Unit} (inside : s.isBoundary = false)
    (table : ∀ a, s.sense a = ((rowsOf a).mapM read).map sense) :
    Passes (fetchAll s read) (Gives s fun a => (rowsOf a).mapM read) :=
  passes_answered inside table fun a => hears_demand ((rowsOf a).mapM read)

end Answered

/-- What a statement that looks something up finds. -/
inductive Finds (s : Statement) (read : SqlRow → Except SqlFailure ρ) (meaning : ρ → Result α) :
    Talk → Except Cause (Option α) → Prop
  | nothing (a : SqlAnswer) (empty : a.rows = []) : Finds s read meaning [(s, .ok a)] (.ok none)
  | found (a : SqlAnswer) (row : ρ) (x : α) (first : firstRow read a = .ok (some row))
    (means : meaning row = .ok x) : Finds s read meaning [(s, .ok a)] (.ok (some x))
  | senseless (a : SqlAnswer) (cause : Cause) (nonsense : s.Nonsense a cause) :
    Finds s read meaning [(s, .ok a)] (.error cause)

/-- There is no first row only if there is no row. -/
theorem rows_of_firstRow {read : SqlRow → Except SqlFailure ρ} {a : SqlAnswer}
    (none : firstRow read a = .ok none) : a.rows = [] := by
  unfold firstRow at none
  cases rows : rowsOf a with
  | nil => exact List.map_eq_nil_iff.1 rows
  | cons row more =>
    rw [rows] at none
    dsimp only at none
    cases reads : read row <;> rw [reads] at none <;> cases none

theorem passes_lookUp (s : Statement) (read : SqlRow → Except SqlFailure ρ) (meaning : ρ → Result α)
    (inside : s.isBoundary = false)
    (table : ∀ a, s.sense a = (firstRow read a).map fun row => row.elim (.ok ()) (senseOf meaning))
    (reading : ∀ row, Reading (meaning row)) :
    Passes (DatabaseLedger.lookUp s read meaning) (Finds s read meaning) := by
  refine (passes_fetchOptional s read inside table).after_answer fun a row first => ?_
  cases row with
  | none => exact .pure (.nothing a (rows_of_firstRow first))
  | some row =>
    show Passes (some <$> interpret (meaning row)) _
    rw [← bind_pure_comp]
    refine (passes_interpret (reading row)).bind ?_ ?_
    · rintro _ cause ⟨rfl, failed, senseless⟩
      refine .senseless a cause ⟨?_, senseless cause rfl⟩
      rw [table, first]
      show Except.ok (senseOf meaning row) = _
      rw [senseOf, failed]
      rfl
    · rintro _ x ⟨rfl, means, -⟩
      exact .pure (.found a row x first means)

/-! ### Whole calls -/

/-- Whether a transaction is open after a statement, if it was so before. -/
def openAfter (opened : Bool) : Statement × Except SqlFailure SqlAnswer → Bool
  | (.begin, .ok _) => true
  | (.commit, .ok _) | (.rollback, .ok _) => false
  | _ => opened

/-- A transaction was begun, and no end of it has succeeded. -/
def isOpen (talk : Talk) : Bool :=
  talk.foldl openAfter false

theorem openAfter_inside {x : Statement × Except SqlFailure SqlAnswer} (inside : x.1.isBoundary = false)
    (opened : Bool) : openAfter opened x = opened := by
  obtain ⟨s, reply⟩ := x
  cases s <;> first | rfl | cases inside

theorem foldl_openAfter_inside {talk : Talk} (inside : Inside talk) (opened : Bool) :
    talk.foldl openAfter opened = opened := by
  induction talk with
  | nil => rfl
  | cons x talk ih =>
    rw [List.foldl_cons, openAfter_inside (inside x (by simp))]
    exact ih fun y mem => inside y (by simp [mem])

theorem isOpen_append_inside (talk : Talk) {more : Talk} (inside : Inside more) :
    isOpen (talk ++ more) = isOpen talk := by
  rw [isOpen, List.foldl_append, foldl_openAfter_inside inside, isOpen]

/-- What is said when a call goes no further: a transaction that is open is rolled back, whatever comes
of that, and there is nothing else. -/
def Leaves (talk left : Talk) : Prop :=
  if isOpen talk then ∃ reply, left = [(.rollback, reply)] else left = []

/-- How a call ends. With every statement in order it ends as promised, in a value with no transaction
open or for a cause; or it ends with the first fault. -/
inductive Ends (Q : Talk → Except Cause α → Prop) : List Overheard → Result α → Prop
  | done (talk : Talk) (a : α) (fine : Fine talk) (closed : isOpen talk = false) (so : Q talk (.ok a)) :
    Ends Q (talk.map .said) (.ok a)
  | refused (talk left : Talk) (cause : Cause) (fine : Fine talk) (leaves : Leaves talk left)
    (so : Q talk (.error cause)) : Ends Q (talk.map .said ++ left.map .said) (.error cause.error)
  | failed (talk left : Talk) (s : Statement) (reply : Except SqlFailure SqlAnswer) (f : SqlFailure)
    (fine : Fine talk) (fault : s.fault? reply = some f) (leaves : Leaves (talk ++ [(s, reply)]) left) :
    Ends Q (talk.map .said ++ .said (s, reply) :: .counted (classOf f) 1 :: left.map .said)
      (.error (errorOf f))

/-- A call ends as promised, or with the first fault. -/
abbrev Runs (s : Service DatabaseWorld α) (Q : Talk → Except Cause α → Prop) : Prop :=
  Hears s (Ends Q)

/-- A part of a call may be all of it. -/
theorem Passes.runs {s : Service DatabaseWorld α} {Q : Talk → Except Cause α → Prop}
    (h : Passes s Q) : Runs s Q := by
  have closed {talk : Talk} (inside : Inside talk) : isOpen talk = false :=
    isOpen_append_inside [] inside
  have nothing {talk : Talk} (inside : Inside talk) : Leaves talk [] := by
    rw [Leaves, closed inside]
    rfl
  refine Program.Ensures.mono h ?_
  rintro _ _ (⟨talk, a, fine, inside, so⟩ | ⟨talk, cause, fine, inside, so⟩ |
    ⟨talk, s, reply, f, fine, inside, fault⟩)
  · exact .done talk a fine (closed inside) so
  · have refused := Ends.refused talk [] cause fine (nothing inside) so
    rwa [List.map_nil, List.append_nil] at refused
  · exact .failed talk [] s reply f fine fault (nothing inside)

namespace Runs

variable {s : Service DatabaseWorld α} {Q : Talk → Except Cause α → Prop}
  {R : Talk → Except Cause β → Prop}

theorem mono {Q' : Talk → Except Cause α → Prop} (h : Runs s Q)
    (le : ∀ talk r, Q talk r → Q' talk r) : Runs s Q' := by
  refine Program.Ensures.mono h ?_
  rintro _ _ (⟨talk, a, fine, closed, so⟩ | ⟨talk, left, cause, fine, leaves, so⟩ |
    ⟨talk, left, s, reply, f, fine, fault, leaves⟩)
  · exact .done talk a fine closed (le _ _ so)
  · exact .refused talk left cause fine leaves (le _ _ so)
  · exact .failed talk left s reply f fine fault leaves

/-- What follows a call with no transaction open is a part of it. -/
theorem bind {k : α → Service DatabaseWorld β} (first : Runs s Q)
    (refused : ∀ talk cause, Q talk (.error cause) → R talk (.error cause))
    (rest : ∀ talk a, Q talk (.ok a) → Passes (k a) fun more r => R (talk ++ more) r) :
    Runs (s >>= k) R := by
  refine Service.ensures_bind first ?_ ?_
  · rintro _ e h
    cases h with
    | refused talk left cause fine leaves so =>
      exact .refused talk left cause fine leaves (refused talk cause so)
    | failed talk left s reply f fine fault leaves =>
      exact .failed talk left s reply f fine fault leaves
  · rintro _ a h
    cases h with
    | done talk a fine closed so =>
      have nothing {more : Talk} (inside : Inside more) : Leaves (talk ++ more) [] := by
        rw [Leaves, isOpen_append_inside talk inside, closed]
        rfl
      refine Program.Ensures.mono (rest talk a so) ?_
      rintro _ _ (⟨more, b, fine', inside, so'⟩ | ⟨more, cause, fine', inside, so'⟩ |
        ⟨more, s, reply, f, fine', inside, fault⟩)
      · rw [← List.map_append]
        exact .done (talk ++ more) b (List.forall_mem_append.2 ⟨fine, fine'⟩)
          ((isOpen_append_inside talk inside).trans closed) so'
      · have whole := Ends.refused (talk ++ more) [] cause (List.forall_mem_append.2 ⟨fine, fine'⟩)
          (nothing inside) so'
        rwa [List.map_nil, List.append_nil, List.map_append] at whole
      · have whole := Ends.failed (Q := R) (talk ++ more) [] s reply f
          (List.forall_mem_append.2 ⟨fine, fine'⟩) fault (by rw [List.append_assoc]; exact nothing inside)
        rwa [List.map_nil, List.map_append, List.append_assoc] at whole

end Runs

/-- What is said in a transaction with every statement in order, and what it ends with. -/
inductive Around (Q : Talk → Except Cause (Ending × α) → Prop) : Talk → Except Cause α → Prop
  | ended (begun done : SqlAnswer) (inner : Talk) (ending : Ending) (a : α)
    (so : Q inner (.ok (ending, a))) :
    Around Q ((.begin, .ok begun) :: inner ++ [(ending.statement, .ok done)]) (.ok a)
  | refused (begun : SqlAnswer) (inner : Talk) (cause : Cause) (so : Q inner (.error cause)) :
    Around Q ((.begin, .ok begun) :: inner) (.error cause)

theorem hears_abandon (e : Error) : Hears (do abandon; throw e : Service DatabaseWorld α) fun heard r =>
    ∃ reply, heard = [.said (.rollback, reply)] ∧ r = .error e :=
  ⟨⟨.error .poolClosed⟩, fun reply => ⟨reply, rfl, rfl⟩⟩

/-- A transaction whose body passes is ended as the body says, or it is left and rolled back. -/
theorem runs_transaction {body : Service DatabaseWorld (Ending × α)}
    {Q : Talk → Except Cause (Ending × α) → Prop} (h : Passes body Q) :
    Runs (transaction body) (Around Q) := by
  refine Service.ensures_bind (hears_perform .begin) ?_ ?_
  · rintro _ _ ⟨f | _, _, rfl, rfl, ⟨⟩⟩
    exact .failed [] [] .begin (.error f) f (List.forall_mem_nil _) rfl rfl
  rintro _ begun ⟨_ | _, _, rfl, rfl, ⟨⟩⟩
  have opened {inner : Talk} (inside : Inside inner) : isOpen ((.begin, .ok begun) :: inner) = true :=
    isOpen_append_inside [(.begin, .ok begun)] inside
  have in_order {inner : Talk} (fine : Fine inner) : Fine ((.begin, .ok begun) :: inner) :=
    List.forall_mem_cons.2 ⟨rfl, fine⟩
  have rolledBack {talk : Talk} (opened : isOpen talk = true) (reply : Except SqlFailure SqlAnswer) :
      Leaves talk [(.rollback, reply)] := by
    rw [Leaves, opened]
    exact ⟨reply, rfl⟩
  have looked : Hears body.outcome fun heard r => ∃ r', r = .ok r' ∧ Passage Q heard r' :=
    Service.ensures_outcome (Program.Ensures.mono h fun heard r h => ⟨r, rfl, h⟩)
  refine Service.ensures_bind looked ?_ ?_
  · rintro _ _ ⟨_, ⟨⟩, _⟩
  rintro _ _ ⟨r, ⟨⟩, passage⟩
  cases passage with
  | refused inner cause fine inside so =>
    refine Program.Ensures.mono (hears_abandon cause.error) ?_
    rintro _ _ ⟨reply, rfl, rfl⟩
    exact .refused _ _ cause (in_order fine) (rolledBack (opened inside) reply)
      (.refused begun inner cause so)
  | failed inner s reply f fine inside fault =>
    refine Program.Ensures.mono (hears_abandon (errorOf f)) ?_
    rintro _ _ ⟨reply', rfl, rfl⟩
    have whole := Ends.failed (Q := Around Q) _ _ s reply f (in_order fine) fault
      (rolledBack (opened inside) reply')
    simpa using whole
  | done inner x fine inside so =>
  obtain ⟨ending, a⟩ := x
  -- the end of the transaction is a statement as any other, and may fail
  have ends : Hears (perform ending.statement).outcome fun heard r => ∃ r' reply told,
      r = .ok r' ∧ heard = .said (ending.statement, reply) :: told ∧ Told reply told r' :=
    Service.ensures_outcome (Program.Ensures.mono (hears_perform ending.statement)
      fun heard r ⟨reply, told, heard_eq, h⟩ => ⟨r, reply, told, rfl, heard_eq, h⟩)
  refine Service.ensures_bind ends ?_ ?_
  · rintro _ _ ⟨_, _, _, ⟨⟩, _⟩
  have last (reply : Except SqlFailure SqlAnswer) :
      isOpen ((.begin, .ok begun) :: inner ++ [(ending.statement, reply)]) =
        openAfter true (ending.statement, reply) := by
    rw [isOpen, List.foldl_append, ← isOpen, opened inside]
    rfl
  rintro _ _ ⟨_, f | done, _, ⟨⟩, rfl, rfl, rfl⟩
  · refine Program.Ensures.mono (hears_abandon (errorOf f)) ?_
    rintro _ _ ⟨reply, rfl, rfl⟩
    have still : isOpen ((.begin, .ok begun) :: inner ++ [(ending.statement, .error f)]) = true := by
      rw [last]
      cases ending <;> rfl
    exact .failed (Q := Around Q) _ _ ending.statement (.error f) f (in_order fine) rfl
      (rolledBack still reply)
  · have closed : isOpen ((.begin, .ok begun) :: inner ++ [(ending.statement, .ok done)]) = false := by
      rw [last]
      cases ending <;> rfl
    have ended : Fine [(ending.statement, .ok done)] := by
      refine List.forall_mem_singleton.2 ?_
      cases ending <;> rfl
    have whole := Ends.done (Q := Around Q) _ a (List.forall_mem_append.2 ⟨in_order fine, ended⟩) closed
      (.ended begun done inner ending a so)
    show Ends (Around Q) _ (.ok a)
    simpa using whole

end Database

end BoxOffice
