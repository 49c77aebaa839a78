import BoxOffice.Proofs.Database.Answers
import BoxOffice.Proofs.Ledger.Units

/-!
# Races for a hold

Two requests for the same hold may find nothing recorded for it and both go on to take a place; the
one that is late is `Overtaken`: it rolls back and reports the hold that was recorded instead, as it
finds it then. A place that is reported as taken already is one to keep exactly unless the hold was
given back or lapsed in the meantime (`Tells.existing_not_kept_iff`). What is said comes from some
tables (`FromTables`), a statement at a time, and from different tables each time, as it happens where
others work with the database too.
-/

namespace BoxOffice

open Database Rehearsal

/-- Every answer is what some tables give to the statement. They may be others each time. -/
def Database.FromTables (talk : Talk) : Prop :=
  ∀ s a, (s, .ok a) ∈ talk → s.isBoundary = false →
    ∃ number t t', Tables.run number t s = .ok (a, t')

theorem Database.FromTables.mono {talk talk' : Talk} (h : FromTables talk') (le : talk ⊆ talk') :
    FromTables talk :=
  fun s a mem => h s a (le mem)

/-- Answers each statement with the tables as they are then, one after the other. Transactions are begun
and ended as wanted. -/
def Database.glimpse (number : Tables → Nat → Int32) (stage : Stage) :
    List Tables → (c : DatabaseWorld.Call) →
      Except Breakdown (DatabaseWorld.Reply c) × List Tables
  | ts, .inr c => ((stage.answer c).1, ts)
  | ts, .inl s =>
    if s.isBoundary then (.ok (.ok (.ofAffected 0)), ts)
    else
      match ts with
      | [] => (.ok (.error .poolClosed), [])
      | t :: ts => (.ok ((t.run number s).map Prod.fst), ts)

theorem Database.fromTables_glimpse {α : Type} {number : Tables → Nat → Int32} {stage : Stage}
    {p : Program DatabaseWorld α} {a : α} {ts ts' : List Tables}
    (played : p.play (glimpse number stage) ts = (.ok a, ts')) :
    FromTables ((p.transcript (glimpse number stage) ts).filterMap spoken?) := by
  refine Program.play_follows spoken? (T := fun _ talk _ => FromTables talk) (fun _ => nofun) ?_ played
  rintro ts (s | c) reply ts₁ talk ts' answered rest
  · rintro s' a (_ | ⟨_, later⟩) inside
    · simp only [glimpse, inside, Bool.false_eq_true, if_false] at answered
      cases ts with
      | nil => cases answered
      | cons t ts =>
        change (Except.ok ((t.run number s).map Prod.fst), ts) = _ at answered
        cases ran : t.run number s with
        | error f =>
          rw [ran] at answered
          cases answered
        | ok result =>
          rw [ran] at answered
          cases answered
          exact ⟨number, t, result.2, ran⟩
    · exact rest s' a later inside
  · exact rest

/-- A transaction says what its body says, and begins and ends it. -/
theorem Database.Transacts.mem_cases {α : Type} {B : Talk → Result (Ending × α) → Prop} {talk : Talk}
    {r : Result α} (h : Transacts B talk r) {x : Statement × Except SqlFailure SqlAnswer}
    (mem : x ∈ talk) : x.1.isBoundary = true ∨ ∃ inner r', B inner r' ∧ x ∈ inner := by
  have ends (ending : Ending) : ending.statement.isBoundary = true := by cases ending <;> rfl
  cases h with
  | notBegun f =>
    obtain rfl := List.mem_singleton.1 mem
    exact .inl rfl
  | failed begun inner e body reply =>
    simp only [List.cons_append, List.mem_cons, List.mem_append, List.not_mem_nil, or_false] at mem
    rcases mem with rfl | mem | rfl
    · exact .inl rfl
    · exact .inr ⟨inner, _, body, mem⟩
    · exact .inl rfl
  | ended begun inner ending a body done =>
    simp only [List.cons_append, List.mem_cons, List.mem_append, List.not_mem_nil, or_false] at mem
    rcases mem with rfl | mem | rfl
    · exact .inl rfl
    · exact .inr ⟨inner, _, body, mem⟩
    · exact .inl (ends ending)
  | notEnded begun inner ending a body f reply =>
    simp only [List.cons_append, List.mem_cons, List.mem_append, List.not_mem_nil, or_false] at mem
    rcases mem with rfl | mem | rfl | rfl
    · exact .inl rfl
    · exact .inr ⟨inner, _, body, mem⟩
    · exact .inl (ends ending)
    · exact .inl rfl

/-- A transaction that has a value comes from a body that has it. -/
theorem Database.Transacts.body {α : Type} {B : Talk → Result (Ending × α) → Prop} {talk : Talk}
    {a : α} (h : Transacts B talk (.ok a)) :
    ∃ inner ending, B inner (.ok (ending, a)) ∧ inner ⊆ talk := by
  cases h with
  | ended begun inner ending a body done =>
    refine ⟨inner, ending, body, fun x mem => ?_⟩
    simp [mem]

/-! ### Rows of holds -/

theorem HoldRow.fields_of_read {row : HoldRow} {h : StockHold} (read : row.read = .ok h) :
    h.hold = ⟨row.hold⟩ ∧ h.category = ⟨row.category⟩ ∧ h.expiresAt = row.expiresAt := by
  unfold HoldRow.read at read
  cases state : (Labelled.read row.state : Result HoldState) <;> rw [state] at read <;> cases read
  exact ⟨rfl, rfl, rfl⟩

namespace Database

/-- What is meant by a row is what the row is read as. -/
theorem read_of_meant {α β : Type} {meaning : α → Result β} {row : α} {b : β}
    (h : meant meaning (some row) = .ok (some b)) : meaning row = .ok b := by
  change some <$> meaning row = _ at h
  cases read : meaning row <;> rw [read] at h <;> cases h
  rfl

theorem mem_of_firstOf {rows : List HoldRow} {row : HoldRow}
    (h : firstOf HoldRow.ofRow (Tables.ofHolds rows) = .ok (some row)) : row ∈ rows := by
  rw [Tables.ofHolds, firstOf_ofRows (f := id) HoldRow.ofRow_values, Option.map_id_apply] at h
  exact List.mem_of_mem_head? (Except.ok.inj h)

theorem mem_of_onlyOf {rows : List HoldRow} {row : HoldRow}
    (h : onlyOf HoldRow.ofRow (Tables.ofHolds rows) = .ok row) : row ∈ rows := by
  cases rows with
  | nil => cases h
  | cons first rest =>
    rw [Tables.ofHolds, onlyOf_ofRows (f := id) HoldRow.ofRow_values] at h
    cases h
    exact List.mem_cons_self

end Database

/-- Holds that were changed are answered with as they are made. -/
theorem Tables.ofHolds_of_changeHolds {t t' : Tables} {picks : HoldRow → Bool}
    {change : HoldRow → HoldRow} {a : SqlAnswer}
    (h : (do let (rows, t) ← t.changeHolds picks change; return (ofHolds rows, t)) = .ok (a, t')) :
    ∃ rows, rows = updated t.holds picks change ∧ a = ofHolds rows := by
  unfold changeHolds at h
  cases put : t.putHolds (update t.holds picks change) <;> rw [put] at h <;> cases h
  exact ⟨_, rfl, rfl⟩

namespace DatabaseLedger

section Race

variable (category : CategoryId) (hold : HoldId) (now expiresAt : Instant)

/-- Another taker of the same hold was first, and this is its hold as it was found after the
roll-back. -/
def Overtaken (talk : Talk) (h : StockHold) : Prop :=
  ∃ inserted found : SqlAnswer,
    (.insertHold category hold expiresAt, .ok inserted) ∈ talk ∧ inserted.rows = [] ∧
      (.selectHold category hold, .ok found) ∈ talk ∧ holdIn found = .ok (some h)

/-- The row was written for a hold that is renewed or made. -/
def Writes (talk : Talk) (row : HoldRow) : Prop :=
  (∃ a, (.renewHold category hold expiresAt, .ok a) ∈ talk ∧ onlyOf HoldRow.ofRow a = .ok row) ∨
    ∃ a, (.insertHold category hold expiresAt, .ok a) ∈ talk ∧
      firstOf HoldRow.ofRow a = .ok (some row)

/-- Where the answer to a request for a place comes from. -/
structure Tells (talk : Talk) (r : Result StockOutcome) : Prop where
  /-- A hold that is reported is one that stays as it is, or that of somebody who was first. -/
  existing : ∀ h, r = .ok (.existing h) →
    (h.isKept now ∧ ∃ locked, (.lockHold category hold, .ok locked) ∈ talk ∧
      holdIn locked = .ok (some h)) ∨
    Overtaken category hold expiresAt talk h
  /-- Whoever was first, its hold is reported as it is. -/
  overtaken : ∀ h, Overtaken category hold expiresAt talk h → r = .ok (.existing h)
  taken : ∀ h, r = .ok (.taken h) → ∃ row, Writes category hold expiresAt talk row ∧ row.read = .ok h

variable {category hold now expiresAt}

theorem Overtaken.mono {talk talk' : Talk} {h : StockHold}
    (overtaken : Overtaken category hold expiresAt talk h) (le : talk ⊆ talk') :
    Overtaken category hold expiresAt talk' h := by
  obtain ⟨inserted, found, said, none, looked, reads⟩ := overtaken
  exact ⟨inserted, found, le said, none, le looked, reads⟩

theorem Taking.only {talk : Talk} {r : Result (Ending × Take)}
    (h : Taking category hold now expiresAt talk r) :
    ∀ x ∈ talk, x.1 ∈ takeStatements category hold expiresAt := by
  cases h with
  | failed _ e only => exact only
  | _ => simp [takeStatements]

/-- Inside the transaction no hold is looked up without a lock. -/
theorem Taking.not_selectHold {talk : Talk} {r : Result Take}
    (h : Transacts (Taking category hold now expiresAt) talk r)
    (reply : Except SqlFailure SqlAnswer) : (.selectHold category hold, reply) ∉ talk := by
  intro mem
  rcases h.mem_cases mem with boundary | ⟨inner, r', body, mem⟩
  · cases boundary
  · have said := body.only _ mem
    simp [takeStatements] at said

/-- Without a look at the hold after the roll-back nobody was overtaken. -/
theorem Tells.of_not_selectHold {talk : Talk} {r : Result StockOutcome}
    (silent : ∀ reply, (.selectHold category hold, reply) ∉ talk)
    (existing : ∀ h, r = .ok (.existing h) → h.isKept now ∧
      ∃ locked, (.lockHold category hold, .ok locked) ∈ talk ∧ holdIn locked = .ok (some h))
    (taken : ∀ h, r = .ok (.taken h) →
      ∃ row, Writes category hold expiresAt talk row ∧ row.read = .ok h) :
    Tells category hold now expiresAt talk r where
  existing h e := .inl (existing h e)
  overtaken := by
    rintro h ⟨_, _, _, _, looked, _⟩
    exact absurd looked (silent _)
  taken := taken

/-- A row that was written is reported as the hold it is read as. -/
theorem Tells.of_writes {talk : Talk} {row : HoldRow}
    (silent : ∀ reply, (.selectHold category hold, reply) ∉ talk)
    (written : Writes category hold expiresAt talk row) :
    Tells category hold now expiresAt talk (row.read >>= fun h => .ok (.taken h)) := by
  refine .of_not_selectHold silent (fun h e => ?_) (fun h e => ⟨row, written, ?_⟩)
  · cases read : row.read <;> rw [read] at e <;> cases e
  · cases read : row.read <;> rw [read] at e <;> cases e
    rfl

/-- After the roll-back the one look at the hold says who was first. -/
theorem overtaken_iff {talk : Talk} {inserted : SqlAnswer} {reply : Except SqlFailure SqlAnswer}
    {h : StockHold} (silent : ∀ reply, (.selectHold category hold, reply) ∉ talk)
    (said : (.insertHold category hold expiresAt, .ok inserted) ∈ talk) (none : inserted.rows = []) :
    Overtaken category hold expiresAt (talk ++ [(.selectHold category hold, reply)]) h ↔
      ∃ found, reply = .ok found ∧ holdIn found = .ok (some h) := by
  constructor
  · rintro ⟨_, found, _, _, looked, reads⟩
    rcases List.mem_append.1 looked with earlier | last
    · exact absurd earlier (silent _)
    · obtain ⟨-, rfl⟩ := Prod.mk.inj (List.mem_singleton.1 last)
      exact ⟨found, rfl, reads⟩
  · rintro ⟨found, rfl, reads⟩
    refine ⟨inserted, found, List.mem_append_left _ said, none, ?_, reads⟩
    exact List.mem_append_right _ List.mem_cons_self

/-- The hold of whoever was first, as the answer to the one that is late. -/
def outrun (hold : HoldId) : Option StockHold → Result StockOutcome
  | some winner => .ok (.existing winner)
  | none => .error (Cause.holdVanished hold).error

theorem outrun_iff {r : Result (Option StockHold)} {h : StockHold} :
    r >>= outrun hold = .ok (.existing h) ↔ r = .ok (some h) := by
  rcases r with e | _ | winner
  · exact ⟨nofun, nofun⟩
  · exact ⟨nofun, nofun⟩
  · constructor <;> rintro ⟨⟩ <;> rfl

theorem outrun_not_taken {r : Result (Option StockHold)} {h : StockHold} :
    r >>= outrun hold ≠ .ok (.taken h) := by
  rcases r with e | _ | winner <;> nofun

theorem Tells.of_lost {talk : Talk} {inserted : SqlAnswer}
    (silent : ∀ reply, (.selectHold category hold, reply) ∉ talk)
    (said : (.insertHold category hold expiresAt, .ok inserted) ∈ talk) (none : inserted.rows = [])
    (reply : Except SqlFailure SqlAnswer) :
    Tells category hold now expiresAt (talk ++ [(.selectHold category hold, reply)])
      (received reply >>= firstOf HoldRow.ofRow >>= meant HoldRow.read >>= outrun hold) := by
  have outran_iff (h : StockHold) :
      Overtaken category hold expiresAt (talk ++ [(.selectHold category hold, reply)]) h ↔
        received reply >>= firstOf HoldRow.ofRow >>= meant HoldRow.read >>= outrun hold =
          .ok (.existing h) := by
    rw [overtaken_iff silent said none, outrun_iff]
    cases reply with
    | error f => exact ⟨nofun, nofun⟩
    | ok found =>
      constructor
      · rintro ⟨_, ⟨⟩, reads⟩
        exact reads
      · exact fun reads => ⟨found, rfl, reads⟩
  exact ⟨fun h e => .inr ((outran_iff h).2 e), fun h => (outran_iff h).1,
    fun h e => absurd e outrun_not_taken⟩

variable (category hold now expiresAt)

theorem tells_takeStock :
    Talks (takeStock category hold now expiresAt) (Tells category hold now expiresAt) := by
  refine (talks_transaction (talks_takeInside category hold now expiresAt)).bind ?_ ?_
  · exact fun talk e h => .of_not_selectHold (Taking.not_selectHold h) nofun nofun
  intro talk take h
  obtain ⟨inner, ending, body, within⟩ := h.body
  have silent := Taking.not_selectHold h
  have writes {row : HoldRow} (written : Writes category hold expiresAt talk row) :
      Talks (return StockOutcome.taken (← interpret row.read)) fun more r =>
        Tells category hold now expiresAt (talk ++ more) r := by
    refine ((computes_interpret row.read).then fun h' =>
      computes_pure (StockOutcome.taken h')).mono ?_
    rintro _ _ ⟨rfl, rfl⟩
    rw [List.append_nil]
    exact .of_writes silent written
  cases body with
  | kept found locked existing there reads stays =>
    refine .pure ?_
    rw [List.append_nil]
    refine .of_not_selectHold silent ?_ nofun
    rintro _ ⟨⟩
    refine ⟨StockHold.isKept_iff.2 (stays.symm.imp_left StockHold.isLive_iff.2), locked, ?_, reads⟩
    exact within (by simp)
  | renewed found locked renewed existing row there reads lapsed written =>
    exact writes (.inl ⟨renewed, within (by simp), written⟩)
  | fresh found locked placed inserted row there vacant taken written =>
    exact writes (.inr ⟨inserted, within (by simp), written⟩)
  | soldOut found locked placed vacant none =>
    refine .pure ?_
    rw [List.append_nil]
    exact .of_not_selectHold silent nofun nofun
  | lost found locked placed inserted vacant taken none =>
    -- only here the hold is looked up again, once
    have answers (winner : Option StockHold) : Computes (match winner with
        | some winner => return .existing winner
        | .none => throw (Cause.holdVanished hold).error) (outrun hold winner) := by
      cases winner with
      | none => exact computes_throw _
      | some winner => exact computes_pure _
    refine (computes_note _).bind (((sends_lookUp _ _ _).then answers).mono ?_)
    rintro _ _ ⟨reply, rfl, rfl⟩
    have said : (.insertHold category hold expiresAt, .ok inserted) ∈ talk := within (by simp)
    exact .of_lost silent said none reply

/-! ### What the tables tell -/

variable {category hold now expiresAt} {talk : Talk} {r : Result StockOutcome}

/-- A hold that is found under its key has that key. -/
theorem key_of_holdIn {t : Tables} {h : StockHold}
    (reads : holdIn (Tables.ofHolds (t.holds.filter (Tables.isHold category hold))) = .ok (some h)) :
    h.hold = hold ∧ h.category = category := by
  have means := (read_holds _).symm.trans reads
  cases first : (t.holds.filter (Tables.isHold category hold)).head? with
  | none =>
    rw [first] at means
    cases means
  | some row =>
    rw [first] at means
    have mem := List.mem_of_mem_head? first
    have picked := of_decide_eq_true (List.mem_filter.1 mem).2
    obtain ⟨owner, place, -⟩ := HoldRow.fields_of_read (read_of_meant means)
    exact ⟨owner.trans (congrArg HoldId.mk picked.2), place.trans (congrArg CategoryId.mk picked.1)⟩

/-- A row that is written for a hold lasts as long as it was asked to. -/
theorem expiresAt_of_writes {row : HoldRow} (writes : Writes category hold expiresAt talk row)
    (tabled : FromTables talk) : row.expiresAt = expiresAt := by
  rcases writes with ⟨a, said, reads⟩ | ⟨a, said, reads⟩
  · obtain ⟨number, t, t', ran⟩ := tabled _ a said rfl
    obtain ⟨rows, changed, rfl⟩ := Tables.ofHolds_of_changeHolds ran
    obtain ⟨before, -, rfl⟩ := List.mem_map.1 (changed ▸ mem_of_onlyOf reads)
    rfl
  · obtain ⟨number, t, t', ran⟩ := tabled _ a said rfl
    simp only [Tables.run] at ran
    split at ran
    · obtain ⟨rows, changed, rfl⟩ := Tables.ofHolds_of_changeHolds ran
      obtain ⟨before, -, rfl⟩ := List.mem_map.1 (changed ▸ mem_of_firstOf reads)
      rfl
    · cases put : t.putHolds _ <;> rw [put] at ran <;> cases ran
      rw [List.mem_singleton.1 (mem_of_firstOf reads)]

namespace Tells

variable (tells : Tells category hold now expiresAt talk r)

include tells

/-- A hold that is reported is the one that was asked for. -/
theorem key_of_existing (tabled : FromTables talk) {h : StockHold} (e : r = .ok (.existing h)) :
    h.hold = hold ∧ h.category = category := by
  rcases tells.existing h e with ⟨-, locked, said, reads⟩ | ⟨-, found, -, -, said, reads⟩
  · obtain ⟨number, t, t', ran⟩ := tabled _ locked said rfl
    cases ran
    exact key_of_holdIn reads
  · obtain ⟨number, t, t', ran⟩ := tabled _ found said rfl
    cases ran
    exact key_of_holdIn reads

/-- **What is reported as taken already is not there to keep exactly if somebody else was first and has
lost it since.** -/
theorem existing_not_kept_iff :
    (∃ h, r = .ok (.existing h) ∧ ¬ h.isKept now) ↔
      ∃ h, Overtaken category hold expiresAt talk h ∧ ¬ h.isKept now := by
  constructor
  · rintro ⟨h, e, lost⟩
    rcases tells.existing h e with ⟨kept, -⟩ | overtaken
    · exact absurd kept lost
    · exact ⟨h, overtaken, lost⟩
  · rintro ⟨h, overtaken, lost⟩
    exact ⟨h, tells.overtaken h overtaken, lost⟩

/-- A hold that is taken lasts as long as it was asked to. -/
theorem expiresAt_of_taken (tabled : FromTables talk) {h : StockHold} (e : r = .ok (.taken h)) :
    h.expiresAt = expiresAt := by
  obtain ⟨row, writes, read⟩ := tells.taken h e
  exact (HoldRow.fields_of_read read).2.2.trans (expiresAt_of_writes writes tabled)

end Tells

end Race

end DatabaseLedger

end BoxOffice
