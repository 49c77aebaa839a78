import BoxOffice.Database.Bookings
import BoxOffice.Database.Inventory
import BoxOffice.Proofs.Conversation

/-!
# What is said in a session

A conversation with the database as a list of statements, each with what came back. Sending a
statement makes one such exchange, and the result is a function of what came back (`ensures_perform`,
`ensures_fetchOptional`); `Transacts` is the conversation of a transaction around that of its body.
-/

namespace BoxOffice.Database

variable {α β δ : Type}

/-- Statements with what came back. -/
abbrev Talk : Type :=
  List (Statement × Except SqlFailure SqlAnswer)

/-- An exchange with the database. What is said to the surroundings is none. -/
def spoken? : Exchange DatabaseWorld → Option (Statement × Except SqlFailure SqlAnswer)
  | ⟨.inl s, reply⟩ => some (s, reply)
  | ⟨.inr _, _⟩ => none

/-- A service has conversations of a kind. -/
abbrev Talks (s : Service DatabaseWorld α) (Q : Talk → Result α → Prop) : Prop :=
  s.run.Ensures spoken? Q

namespace Talks

variable {s : Service DatabaseWorld α} {Q Q' : Talk → Result α → Prop}

theorem pure {R : Talk → Result α → Prop} {a : α} (h : R [] (.ok a)) :
    Talks (Pure.pure a) R :=
  h

theorem throw {R : Talk → Result α → Prop} {e : Error} (h : R [] (.error e)) :
    Talks (MonadExcept.throw e) R :=
  h

/-- A service that ends with an error goes no further. -/
theorem bind {k : α → Service DatabaseWorld β} {R : Talk → Result β → Prop} (first : Talks s Q)
    (failed : ∀ talk e, Q talk (.error e) → R talk (.error e))
    (rest : ∀ talk a, Q talk (.ok a) → Talks (k a) fun more r => R (talk ++ more) r) :
    Talks (s >>= k) R :=
  Service.ensures_bind first failed rest

theorem outcome {R : Talk → Result (Result α) → Prop} (h : Talks s fun talk r => R talk (.ok r)) :
    Talks s.outcome R :=
  Service.ensures_outcome h

end Talks

/-- A service that says nothing to the database, and its result. -/
abbrev Computes (s : Service DatabaseWorld α) (r : Result α) : Prop :=
  Talks s fun talk r' => talk = [] ∧ r' = r

/-- A service that sends one statement, and its result given what comes back. -/
abbrev Sends (s : Service DatabaseWorld α) (statement : Statement)
    (result : Except SqlFailure SqlAnswer → Result α) : Prop :=
  Talks s fun talk r => ∃ reply, talk = [(statement, reply)] ∧ r = result reply

/-- What is not said to the database is passed over. -/
theorem Computes.bind {s : Service DatabaseWorld α} {a : α} {k : α → Service DatabaseWorld β}
    {R : Talk → Result β → Prop} (first : Computes s (.ok a)) (rest : Talks (k a) R) :
    Talks (s >>= k) R := by
  refine Talks.bind first ?_ ?_
  · rintro _ _ ⟨_, ⟨⟩⟩
  · rintro _ _ ⟨rfl, ⟨⟩⟩
    exact rest

/-- A value may be followed by what computes another from it. -/
theorem Computes.then {s : Service DatabaseWorld α} {r : Result α}
    {k : α → Service DatabaseWorld β} {f : α → Result β} (first : Computes s r)
    (rest : ∀ a, Computes (k a) (f a)) : Computes (s >>= k) (r >>= f) := by
  cases r with
  | ok a => exact first.bind (rest a)
  | error e =>
    refine Talks.bind first ?_ ?_
    · rintro _ _ ⟨rfl, ⟨⟩⟩
      exact ⟨rfl, rfl⟩
    · rintro _ _ ⟨_, ⟨⟩⟩

/-- What comes back may be followed by what computes a value from it. -/
theorem Sends.then {s : Service DatabaseWorld α} {statement : Statement}
    {result : Except SqlFailure SqlAnswer → Result α} {k : α → Service DatabaseWorld β}
    {f : α → Result β} (first : Sends s statement result) (rest : ∀ a, Computes (k a) (f a)) :
    Sends (s >>= k) statement fun reply => result reply >>= f := by
  refine Talks.bind first ?_ ?_
  · rintro _ e ⟨reply, rfl, h⟩
    exact ⟨reply, rfl, congrArg (· >>= f) h⟩
  · rintro _ a ⟨reply, rfl, h⟩
    refine (rest a).mono ?_
    rintro _ _ ⟨rfl, rfl⟩
    exact ⟨reply, rfl, congrArg (· >>= f) h⟩

/-! ### Statements -/

/-- What comes back, with a failure as the caller's error. -/
def received : Except SqlFailure α → Result α :=
  Except.mapError errorOf

/-- The value of the first row of an answer, if there is one. -/
def firstOf (read : SqlRow → Except SqlFailure α) (a : SqlAnswer) : Result (Option α) :=
  match rowsOf a with
  | [] => .ok none
  | row :: _ => some <$> received (read row)

/-- The value of the first row of an answer; there has to be one. -/
def onlyOf (read : SqlRow → Except SqlFailure α) (a : SqlAnswer) : Result α :=
  match rowsOf a with
  | [] => .error (errorOf .rowMissing)
  | row :: _ => received (read row)

/-- The values of all rows of an answer. -/
def allOf (read : SqlRow → Except SqlFailure α) (a : SqlAnswer) : Result (List α) :=
  received ((rowsOf a).mapM read)

/-- What a stored row stands for, if there is one. -/
def meant (meaning : α → Result β) : Option α → Result (Option β)
  | none => .ok none
  | some row => some <$> meaning row

theorem computes_pure (a : α) : Computes (pure a) (.ok a) :=
  ⟨rfl, rfl⟩

theorem computes_throw (e : Error) : Computes (throw e : Service DatabaseWorld α) (.error e) :=
  ⟨rfl, rfl⟩

theorem computes_interpret (r : Result α) : Computes (interpret r) r :=
  ⟨rfl, rfl⟩

theorem computes_count (c : Counter) : Computes (Surroundings.count c) (.ok ()) :=
  ⟨⟨()⟩, fun _ => ⟨rfl, rfl⟩⟩

theorem computes_note (n : Notice) : Computes (Surroundings.note n) (.ok ()) :=
  ⟨⟨()⟩, fun _ => ⟨rfl, rfl⟩⟩

theorem computes_reject (f : SqlFailure) :
    Computes (reject f : Service DatabaseWorld α) (.error (errorOf f)) := by
  refine (computes_count _).bind ?_
  cases f.isConstraint with
  | true => exact computes_throw _
  | false => exact (computes_note _).bind (computes_throw _)

theorem computes_demand (x : Except SqlFailure α) : Computes (demand x) (received x) := by
  cases x with
  | ok a => exact computes_pure a
  | error f => exact computes_reject f

theorem sends_perform (s : Statement) : Sends (perform s) s received := by
  refine ⟨⟨.error .poolClosed⟩, fun reply => ?_⟩
  refine (computes_demand reply).mono ?_
  rintro _ _ ⟨rfl, rfl⟩
  exact ⟨reply, rfl, rfl⟩

theorem sends_execute (s : Statement) :
    Sends (execute s) s fun reply => received reply >>= fun a => .ok a.affected :=
  (sends_perform s).then fun a => computes_pure a.affected

theorem sends_fetchOptional (s : Statement) (read : SqlRow → Except SqlFailure α) :
    Sends (fetchOptional s read) s fun reply => received reply >>= firstOf read := by
  refine (sends_perform s).then fun a => ?_
  unfold firstOf
  cases rowsOf a with
  | nil => exact computes_pure none
  | cons row more => exact (computes_demand (read row)).then fun x => computes_pure (some x)

theorem sends_fetchOne (s : Statement) (read : SqlRow → Except SqlFailure α) :
    Sends (fetchOne s read) s fun reply => received reply >>= onlyOf read := by
  refine (sends_perform s).then fun a => ?_
  unfold onlyOf
  cases rowsOf a with
  | nil => exact computes_reject .rowMissing
  | cons row more => exact computes_demand (read row)

theorem sends_fetchAll (s : Statement) (read : SqlRow → Except SqlFailure α) :
    Sends (fetchAll s read) s fun reply => received reply >>= allOf read :=
  (sends_perform s).then fun a => computes_demand ((rowsOf a).mapM read)

theorem sends_lookUp {ρ : Type} (s : Statement) (read : SqlRow → Except SqlFailure ρ)
    (meaning : ρ → Result α) :
    Sends (DatabaseLedger.lookUp s read meaning) s fun reply =>
      (received reply >>= firstOf read) >>= meant meaning := by
  refine (sends_fetchOptional s read).then fun row => ?_
  cases row with
  | none => exact computes_pure none
  | some row => exact (computes_interpret (meaning row)).then fun x => computes_pure (some x)

/-- Bookings are looked up as the rows of the inventory are. -/
theorem lookUp_booking (s : Statement) : DatabaseStore.lookUp s =
    DatabaseLedger.lookUp s BookingRow.ofRow BookingRow.read := by
  unfold DatabaseStore.lookUp DatabaseLedger.lookUp
  congr 1
  funext row
  cases row <;> rfl

/-! ### Transactions -/

/-- The conversations of a transaction, given those of its body. -/
inductive Transacts (Body : Talk → Result (Ending × α) → Prop) : Talk → Result α → Prop
  | notBegun (f : SqlFailure) : Transacts Body [(.begin, .error f)] (.error (errorOf f))
  /-- The body fails. -/
  | failed (begun : SqlAnswer) (talk : Talk) (e : Error) (body : Body talk (.error e))
    (reply : Except SqlFailure SqlAnswer) :
    Transacts Body ((.begin, .ok begun) :: talk ++ [(.rollback, reply)]) (.error e)
  | ended (begun : SqlAnswer) (talk : Talk) (ending : Ending) (a : α)
    (body : Body talk (.ok (ending, a))) (done : SqlAnswer) :
    Transacts Body ((.begin, .ok begun) :: talk ++ [(ending.statement, .ok done)]) (.ok a)
  /-- The body does what it can, but its end fails. -/
  | notEnded (begun : SqlAnswer) (talk : Talk) (ending : Ending) (a : α)
    (body : Body talk (.ok (ending, a))) (f : SqlFailure)
    (reply : Except SqlFailure SqlAnswer) :
    Transacts Body
      ((.begin, .ok begun) :: talk ++ [(ending.statement, .error f), (.rollback, reply)])
      (.error (errorOf f))

theorem talks_abandon :
    Talks abandon fun talk r => ∃ reply, talk = [(.rollback, reply)] ∧ r = .ok () :=
  ⟨⟨.error .poolClosed⟩, fun reply => ⟨reply, rfl, rfl⟩⟩

theorem talks_transaction {body : Service DatabaseWorld (Ending × α)}
    {B : Talk → Result (Ending × α) → Prop} (h : Talks body B) :
    Talks (transaction body) (Transacts B) := by
  have abandoned (e : Error) : Talks (do abandon; throw e : Service DatabaseWorld α)
      fun talk r => ∃ reply, talk = [(.rollback, reply)] ∧ r = .error e := by
    refine talks_abandon.bind ?_ ?_
    · rintro _ _ ⟨_, _, ⟨⟩⟩
    · rintro _ _ ⟨reply, rfl, _⟩
      exact ⟨reply, rfl, rfl⟩
  refine (sends_perform .begin).bind ?_ ?_
  · rintro _ e ⟨f | begun, rfl, ⟨⟩⟩
    exact .notBegun f
  rintro _ begun ⟨_ | _, rfl, ⟨⟩⟩
  refine (Talks.outcome (R := fun talk r => ∃ r', r = .ok r' ∧ B talk r') ?_).bind ?_ ?_
  · exact Program.Ensures.mono h fun talk r said => ⟨r, rfl, said⟩
  · rintro _ _ ⟨_, ⟨⟩, _⟩
  rintro talk _ ⟨e | ⟨ending, a⟩, ⟨⟩, said⟩
  · refine (abandoned e).mono ?_
    rintro _ _ ⟨reply, rfl, rfl⟩
    exact .failed begun talk e said reply
  refine (Talks.outcome (R := fun talk r => ∃ r' reply, r = .ok r' ∧
    talk = [(ending.statement, reply)] ∧ r' = received reply) ?_).bind ?_ ?_
  · refine (sends_perform ending.statement).mono ?_
    rintro _ r ⟨reply, rfl, rfl⟩
    exact ⟨_, reply, rfl, rfl, rfl⟩
  · rintro _ _ ⟨_, _, ⟨⟩, _⟩
  rintro _ _ ⟨_, f | done, ⟨⟩, rfl, rfl⟩
  · refine (abandoned (errorOf f)).mono ?_
    rintro _ _ ⟨reply, rfl, rfl⟩
    exact .notEnded begun talk ending a said f reply
  · exact .ended begun talk ending a said done

end BoxOffice.Database
