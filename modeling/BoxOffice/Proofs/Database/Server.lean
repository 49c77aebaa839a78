import BoxOffice.Proofs.Database.Session
import BoxOffice.Proofs.Database.Tables

/-!
# The database at work

A `Server` keeps the tables and at most one transaction, and answers statements. A service that is
played with it `Yields` a result: one that sends a statement yields what it makes of the server's answer
(`Sends.yields_of_run`), and a transaction lasts or leaves no trace as its body ends (`Yields.committed`,
`Yields.rolledBack`, `Yields.given_up`).
-/

namespace BoxOffice

open Database Rehearsal

/-- The database with at most one transaction under way. -/
structure Server where
  tables : Tables
  /-- The tables as they were when the transaction began. -/
  before : Option Tables
  /-- A statement of the transaction failed. -/
  spoiled : Bool

namespace Server

variable {α β : Type} {number : Tables → Nat → Int32} {stage : Stage}

/-- A database outside of a transaction. -/
def resting (t : Tables) : Server where
  tables := t
  before := none
  spoiled := false

/-- A database in a transaction that began with other tables. -/
def working (before t : Tables) : Server where
  tables := t
  before := some before
  spoiled := false

/-- Takes back what the transaction did. -/
def undo (d : Server) : Server :=
  resting (d.before.getD d.tables)

/-- Answers a statement. A transaction in which one failed is only rolled back. -/
def execute (number : Tables → Nat → Int32) (d : Server) :
    Statement → Except SqlFailure SqlAnswer × Server
  | .begin => (.ok (.ofAffected 0), working d.tables d.tables)
  | .commit => (.ok (.ofAffected 0), if d.spoiled then d.undo else resting d.tables)
  | .rollback => (.ok (.ofAffected 0), d.undo)
  | s =>
    if d.spoiled then (.error (Tables.failure "25P02"), d)
    else
      match d.tables.run number s with
      | .ok (a, t) => (.ok a, { d with tables := t })
      | .error f => (.error f, { d with spoiled := d.before.isSome })

theorem execute_of_inside {d : Server} {s : Statement} (inside : s.isBoundary = false)
    (fine : d.spoiled = false) :
    d.execute number s =
      match d.tables.run number s with
      | .ok (a, t) => (.ok a, { d with tables := t })
      | .error f => (.error f, { d with spoiled := d.before.isSome }) := by
  cases s with
  | begin | commit | rollback => cases inside
  | _ => simp only [execute, fine, Bool.false_eq_true, if_false]

/-- Answers a call. What is said to the surroundings does not reach the database. -/
def answer (number : Tables → Nat → Int32) (stage : Stage) (d : Server) :
    (c : DatabaseWorld.Call) → Except Breakdown (DatabaseWorld.Reply c) × Server
  | .inl s => (.ok (d.execute number s).1, (d.execute number s).2)
  | .inr c => ((stage.answer c).1, d)

/-- What is said to the surroundings is answered by the stage. -/
theorem answer_surroundings (d : Server) (c : Surroundings.Call)
    (possible : Nonempty (DatabaseWorld.Reply (.inr c))) :
    ∃ reply, d.answer number stage (.inr c) = (.ok reply, d) :=
  (stage.answer_of_nonempty c possible).imp fun _ answered => Prod.ext answered rfl

/-- A database hears statements one after the other, and answers them. -/
inductive Hears (number : Tables → Nat → Int32) : Server → Talk → Server → Prop
  | nothing (d : Server) : Hears number d [] d
  | more (d : Server) (s : Statement) {talk : Talk} {d' : Server}
    (rest : Hears number (d.execute number s).2 talk d') :
    Hears number d ((s, (d.execute number s).1) :: talk) d'

/-- A service that is played with a database comes to a result and leaves the database behind. -/
def Yields (number : Tables → Nat → Int32) (stage : Stage) (d : Server)
    (s : Service DatabaseWorld α) (r : Result α) (d' : Server) : Prop :=
  s.run.play (answer number stage) d = (.ok r, d')

end Server

open Server

variable {α β : Type} {number : Tables → Nat → Int32} {stage : Stage}

/-- A service that ends whatever it is answered is played to its end by whoever answers every
statement, and what comes about by the statements comes about by what it says. -/
theorem Database.Talks.plays {σ : Type}
    {answer : σ → (c : DatabaseWorld.Call) → Except Breakdown (DatabaseWorld.Reply c) × σ}
    {T : σ → Talk → σ → Prop} (silence : ∀ w, T w [] w)
    (statement : ∀ w s, ∃ reply w₁, answer w (.inl s) = (.ok reply, w₁) ∧
      ∀ {talk w'}, T w₁ talk w' → T w ((s, reply) :: talk) w')
    (other : ∀ w c, Nonempty (DatabaseWorld.Reply (.inr c)) →
      ∃ reply, answer w (.inr c) = (.ok reply, w))
    {s : Service DatabaseWorld α} {Q : Talk → Result α → Prop} (h : Talks s Q) (w : σ) :
    ∃ talk r w', s.run.play answer w = (.ok r, w') ∧ T w talk w' ∧ Q talk r := by
  obtain ⟨r, w', played⟩ : ∃ r w', s.run.play answer w = (.ok r, w') := by
    refine Program.Ensures.plays h (Program.Only.any _) (R := fun _ => True) ?_ trivial
    rintro w (s | c) - possible -
    · obtain ⟨reply, w₁, answered, -⟩ := statement w s
      exact ⟨reply, w₁, answered, trivial⟩
    · obtain ⟨reply, answered⟩ := other w c possible
      exact ⟨reply, w, answered, trivial⟩
  refine ⟨_, r, w', played, ?_, Program.Ensures.play h played⟩
  refine Program.play_follows spoken? silence ?_ played
  rintro w (s | c) reply w₁ said w' answered rest
  · obtain ⟨reply', w₂, answered', follows⟩ := statement w s
    cases answered'.symm.trans answered
    exact follows rest
  · obtain ⟨reply', answered'⟩ := other w c ⟨reply⟩
    cases answered'.symm.trans answered
    exact rest

/-- Statements are heard one after the other by somebody who answers them. -/
def Database.Heard {σ : Type} (execute : σ → Statement → Except SqlFailure SqlAnswer × σ) :
    σ → Talk → σ → Prop
  | w, [], w' => w' = w
  | w, (s, reply) :: talk, w' => reply = (execute w s).1 ∧ Heard execute (execute w s).2 talk w'

/-- A service that sends one statement ends with what it makes of the answer, whoever gives it. -/
theorem Database.Sends.plays {σ : Type}
    {answer : σ → (c : DatabaseWorld.Call) → Except Breakdown (DatabaseWorld.Reply c) × σ}
    {execute : σ → Statement → Except SqlFailure SqlAnswer × σ}
    (statement : ∀ w s, answer w (.inl s) = (.ok (execute w s).1, (execute w s).2))
    (other : ∀ w c, Nonempty (DatabaseWorld.Reply (.inr c)) →
      ∃ reply, answer w (.inr c) = (.ok reply, w))
    {s : Service DatabaseWorld α} {sent : Statement}
    {result : Except SqlFailure SqlAnswer → Result α} (h : Sends s sent result) (w : σ) :
    s.run.play answer w = (.ok (result (execute w sent).1), (execute w sent).2) := by
  obtain ⟨_, _, w', played, heard, reply, rfl, rfl⟩ := Talks.plays (T := Heard execute) (fun _ => rfl)
    (fun w s => ⟨_, _, statement w s, fun rest => ⟨rfl, rest⟩⟩) other h w
  obtain ⟨rfl, rfl⟩ := heard
  exact played

theorem Database.Talks.yields {s : Service DatabaseWorld α} {Q : Talk → Result α → Prop}
    (h : Talks s Q) (d : Server) :
    ∃ talk r d', d.Yields number stage s r d' ∧ d.Hears number talk d' ∧ Q talk r :=
  h.plays .nothing (fun d s => ⟨_, _, rfl, .more d s⟩) answer_surroundings d

theorem Database.Computes.yields {s : Service DatabaseWorld α} {r : Result α} (h : Computes s r)
    (d : Server) : d.Yields number stage s r d := by
  obtain ⟨_, _, d', played, heard, rfl, rfl⟩ := Talks.yields h d
  cases heard
  exact played

/-- A service that sends one statement yields what it makes of the answer. -/
theorem Database.Sends.yields {s : Service DatabaseWorld α} {statement : Statement}
    {result : Except SqlFailure SqlAnswer → Result α} (h : Sends s statement result) (d : Server) :
    d.Yields number stage s (result (d.execute number statement).1)
      (d.execute number statement).2 := by
  obtain ⟨_, _, d', played, heard, reply, rfl, rfl⟩ := Talks.yields h d
  cases heard with
  | more _ _ rest =>
    cases rest
    exact played

section Run

variable {s : Service DatabaseWorld α} {statement : Statement}
  {result : Except SqlFailure SqlAnswer → Result α} {d : Server}

theorem Database.Sends.yields_of_run (h : Sends s statement result)
    (inside : statement.isBoundary = false) (fine : d.spoiled = false) {a : SqlAnswer} {t : Tables}
    (ran : d.tables.run number statement = .ok (a, t)) :
    d.Yields number stage s (result (.ok a)) { d with tables := t } := by
  have sent : d.Yields number stage s _ _ := h.yields d
  rwa [execute_of_inside inside fine, ran] at sent

variable {a : SqlAnswer} {t t' before : Tables}

theorem Database.Sends.yields_resting (h : Sends s statement result)
    (ran : t.run number statement = .ok (a, t')) (inside : statement.isBoundary = false) :
    (resting t).Yields number stage s (result (.ok a)) (resting t') :=
  h.yields_of_run inside rfl ran

theorem Database.Sends.yields_working (h : Sends s statement result)
    (ran : t.run number statement = .ok (a, t')) (inside : statement.isBoundary = false) :
    (working before t).Yields number stage s (result (.ok a)) (working before t') :=
  h.yields_of_run inside rfl ran

/-- A statement that fails in a transaction leaves it under way. -/
theorem Database.Sends.yields_spoiled (h : Sends s statement result) {f : SqlFailure}
    (ran : t.run number statement = .error f) (inside : statement.isBoundary = false) :
    ∃ d, d.before = some before ∧ (working before t).Yields number stage s (result (.error f)) d := by
  have sent : (working before t).Yields number stage s _ _ := h.yields _
  rw [execute_of_inside inside rfl] at sent
  have failed : (working before t).tables.run number statement = .error f := ran
  rw [failed] at sent
  exact ⟨_, rfl, sent⟩

end Run

namespace Server.Yields

variable {d d₁ d₂ : Server} {s : Service DatabaseWorld α}

theorem bind {k : α → Service DatabaseWorld β} {a : α} {r : Result β}
    (first : d.Yields number stage s (.ok a) d₁) (rest : d₁.Yields number stage (k a) r d₂) :
    d.Yields number stage (s >>= k) r d₂ := by
  unfold Yields at *
  rw [Service.play_bind, first]
  exact rest

theorem bind_error {k : α → Service DatabaseWorld β} {e : Error}
    (first : d.Yields number stage s (.error e) d₁) :
    d.Yields number stage (s >>= k) (.error e) d₁ := by
  unfold Yields at *
  rw [Service.play_bind, first]

theorem outcome {r : Result α} (h : d.Yields number stage s r d₁) :
    d.Yields number stage s.outcome (.ok r) d₁ := by
  unfold Yields at *
  rw [Service.play_outcome, h]

theorem pure (a : α) : d.Yields number stage (Pure.pure a) (.ok a) d := rfl

theorem throw (e : Error) :
    d.Yields number stage (MonadExcept.throw e : Service DatabaseWorld α) (.error e) d := rfl

/-! ### Transactions -/

variable {body : Service DatabaseWorld (Ending × α)} {before t : Tables}

/-- A transaction is its body, between a beginning and an end. -/
theorem transaction {ending : Ending} {a : α}
    (h : (working before before).Yields number stage body (.ok (ending, a)) d) :
    (resting before).Yields number stage (Database.transaction body) (.ok a)
      (d.execute number ending.statement).2 := by
  refine ((sends_perform .begin).yields _).bind (h.outcome.bind ?_)
  have ended : d.Yields number stage (perform ending.statement).outcome _ _ :=
    ((sends_perform ending.statement).yields d).outcome
  cases ending <;> exact ended.bind (.pure a)

theorem committed {a : α}
    (h : (working before before).Yields number stage body (.ok (.commit, a)) (working before t)) :
    (resting before).Yields number stage (Database.transaction body) (.ok a) (resting t) :=
  transaction h

theorem rolledBack {a : α}
    (h : (working before before).Yields number stage body (.ok (.rollback, a)) (working before t)) :
    (resting before).Yields number stage (Database.transaction body) (.ok a) (resting before) :=
  transaction h

/-- A transaction whose body fails leaves no trace. -/
theorem given_up {e : Error} (h : (working before before).Yields number stage body (.error e) d)
    (began : d.before = some before) :
    (resting before).Yields number stage (Database.transaction body) (.error e) (resting before) := by
  have undone : (d.execute number .rollback).2 = resting before := by simp [execute, undo, began]
  refine ((sends_perform .begin).yields _).bind (h.outcome.bind ?_)
  have abandoned : d.Yields number stage abandon (.ok ()) (d.execute number .rollback).2 := rfl
  rw [undone] at abandoned
  exact abandoned.bind (.throw e)

end Server.Yields

end BoxOffice
