import BoxOffice.Database.Inventory
import BoxOffice.Proofs.Conversation

/-!
# What the ledger in the database leaves to others

The ledger in the database never looks at the clock: every time that it works with comes with the call
(`quiet_answer`). And it finds no conflicts: it tells what there is, and whether that is a conflict is
for the inventory service to say.
-/

namespace BoxOffice

open Database

variable {α β : Type}

/-- Nobody was asked for the time. -/
def Untimed {I : Interface} (said : List (Exchange (I.sum Surroundings))) : Prop :=
  ∀ x ∈ said, x.call ≠ .inr .now

/-- The result is no conflict. -/
def Unopposed (r : Result α) : Prop :=
  ∀ e, r = .error e → e.kind ≠ .conflict

namespace Unopposed

theorem ok (a : α) : Unopposed (.ok a) :=
  nofun

theorem error {e : Error} (h : e.kind ≠ .conflict) : Unopposed (.error e : Result α) := by
  rintro _ ⟨⟩
  exact h

theorem bind {r : Result α} {f : α → Result β} (first : Unopposed r) (rest : ∀ a, Unopposed (f a)) :
    Unopposed (r >>= f) := by
  cases r with
  | ok a => exact rest a
  | error e => exact error (first e rfl)

end Unopposed

theorem unopposed_label [Labelled α] (text : String) : Unopposed (Labelled.read text : Result α) := by
  unfold Labelled.read
  split
  · exact .ok _
  · exact .error nofun

theorem unopposed_count (what : String) (n : Int) : Unopposed (countOf what n) := by
  unfold countOf
  split
  · exact .ok _
  · exact .error nofun

theorem unopposed_category (row : CategoryRow) : Unopposed row.read := by
  unfold CategoryRow.read
  dsimp only
  split
  · exact .error (e := (Cause.negativePrice row.id).error) nofun
  · exact .bind (unopposed_label _) fun _ => .bind (unopposed_label _) fun _ =>
      .bind (unopposed_count _ _) fun _ => .bind (unopposed_count _ _) fun _ => .ok _

theorem unopposed_seat (row : SeatRow) : Unopposed row.read :=
  .bind (unopposed_label _) fun _ => .ok _

theorem unopposed_hold (row : HoldRow) : Unopposed row.read :=
  .bind (unopposed_label _) fun _ => .ok _

namespace Database

/-- A failure of the database is no conflict. -/
theorem errorOf_kind (f : SqlFailure) : (errorOf f).kind ≠ .conflict := by
  unfold errorOf
  split <;> exact nofun

/-- A service leaves the clock alone and ends without a conflict. -/
abbrev Quiet (s : Service DatabaseWorld α) : Prop :=
  s.run.Permits fun said r => Untimed said ∧ Unopposed r

namespace Quiet

variable {s : Service DatabaseWorld α} {k : α → Service DatabaseWorld β}

theorem pure (a : α) : Quiet (Pure.pure a) :=
  ⟨List.forall_mem_nil _, .ok a⟩

theorem throw {e : Error} (h : e.kind ≠ .conflict) :
    Quiet (MonadExcept.throw e : Service DatabaseWorld α) :=
  ⟨List.forall_mem_nil _, .error h⟩

theorem bind (first : Quiet s) (rest : ∀ a, Quiet (k a)) : Quiet (s >>= k) := by
  refine Service.permits_bind first ?_ ?_
  · rintro said e ⟨untimed, mild⟩
    exact ⟨untimed, .error (mild e rfl)⟩
  · rintro said a ⟨untimed, -⟩
    refine (rest a).mono ?_
    rintro more r ⟨untimed', mild⟩
    exact ⟨List.forall_mem_append.2 ⟨untimed, untimed'⟩, mild⟩

/-- An outcome that is looked at is that of a quiet service. -/
theorem outcome_bind {k : Result α → Service DatabaseWorld β} (first : Quiet s)
    (rest : ∀ r, Unopposed r → Quiet (k r)) : Quiet (s.outcome >>= k) := by
  have looked : s.outcome.run.Permits fun said r => ∃ r', r = .ok r' ∧ Untimed said ∧ Unopposed r' := by
    refine Program.Permits.bind first fun said r h => ?_
    show ∃ r', (Except.ok r : Result (Result α)) = .ok r' ∧ Untimed (said ++ []) ∧ Unopposed r'
    rw [List.append_nil]
    exact ⟨r, rfl, h⟩
  refine Service.permits_bind looked ?_ ?_
  · rintro said e ⟨_, ⟨⟩, -⟩
  · rintro said r ⟨_, ⟨⟩, untimed, mild⟩
    refine (rest r mild).mono ?_
    rintro more r' ⟨untimed', mild'⟩
    exact ⟨List.forall_mem_append.2 ⟨untimed, untimed'⟩, mild'⟩

end Quiet

/-- What is written into the journal is no question for the time. -/
theorem quiet_record (entry : Entry) :
    Quiet (Surrounded.call (Surroundings.Call.record entry) : Service DatabaseWorld Unit) :=
  fun _ => ⟨List.forall_mem_singleton.2 nofun, .ok _⟩

theorem quiet_send (s : Statement) :
    Quiet (liftM (send s) : Service DatabaseWorld (Except SqlFailure SqlAnswer)) :=
  fun _ => ⟨List.forall_mem_singleton.2 nofun, .ok _⟩

theorem quiet_interpret {r : Result α} (h : Unopposed r) : Quiet (interpret r) :=
  ⟨List.forall_mem_nil _, h⟩

theorem quiet_reject (f : SqlFailure) : Quiet (reject f : Service DatabaseWorld α) := by
  refine (quiet_record _).bind fun _ => ?_
  cases f.isConstraint with
  | true => exact .throw (errorOf_kind f)
  | false => exact (quiet_record _).bind fun _ => .throw (errorOf_kind f)

theorem quiet_demand (x : Except SqlFailure α) : Quiet (demand x) := by
  cases x with
  | ok a => exact .pure a
  | error f => exact quiet_reject f

theorem quiet_perform (s : Statement) : Quiet (perform s) :=
  (quiet_send s).bind quiet_demand

theorem quiet_execute (s : Statement) : Quiet (execute s) :=
  (quiet_perform s).bind fun a => .pure a.affected

theorem quiet_fetchOptional (s : Statement) (read : SqlRow → Except SqlFailure α) :
    Quiet (fetchOptional s read) := by
  refine (quiet_perform s).bind fun a => ?_
  split
  · exact .pure none
  · exact (quiet_demand _).bind fun x => .pure (some x)

theorem quiet_fetchOne (s : Statement) (read : SqlRow → Except SqlFailure α) :
    Quiet (fetchOne s read) := by
  refine (quiet_perform s).bind fun a => ?_
  split
  · exact quiet_reject _
  · exact quiet_demand _

theorem quiet_fetchAll (s : Statement) (read : SqlRow → Except SqlFailure α) :
    Quiet (fetchAll s read) :=
  (quiet_perform s).bind fun _ => quiet_demand _

theorem quiet_transaction {body : Service DatabaseWorld (Ending × α)} (h : Quiet body) :
    Quiet (transaction body) := by
  have abandoned {e : Error} (mild : e.kind ≠ .conflict) :
      Quiet (do abandon; throw e : Service DatabaseWorld α) :=
    ((quiet_send .rollback).bind fun _ => .pure ()).bind fun _ => .throw mild
  refine (quiet_perform .begin).bind fun _ => h.outcome_bind fun r mild => ?_
  rcases r with e | ⟨ending, a⟩
  · exact abandoned (mild e rfl)
  refine (quiet_perform ending.statement).outcome_bind fun r mild => ?_
  cases r with
  | error e => exact abandoned (mild e rfl)
  | ok _ => exact .pure a

end Database

namespace DatabaseLedger

theorem quiet_lookUp {ρ : Type} (s : Statement) (read : SqlRow → Except SqlFailure ρ)
    {meaning : ρ → Result α} (mild : ∀ row, Unopposed (meaning row)) :
    Quiet (lookUp s read meaning) := by
  refine (quiet_fetchOptional s read).bind fun row => ?_
  cases row with
  | none => exact .pure none
  | some row => exact (quiet_interpret (mild row)).bind fun x => .pure (some x)

theorem quiet_changesOne (s : Statement) : Quiet (changesOne s) :=
  (quiet_execute s).bind fun _ => .pure _

theorem quiet_takeInside (category : CategoryId) (hold : HoldId) (now expiresAt : Instant) :
    Quiet (takeInside category hold now expiresAt) := by
  have fresh : Quiet (takeFresh category hold expiresAt) := by
    refine (quiet_fetchOptional _ _).bind fun placed => ?_
    cases placed with
    | none => exact .pure _
    | some _ =>
      refine (quiet_fetchOptional _ _).bind fun inserted => ?_
      cases inserted <;> exact .pure _
  refine (quiet_fetchOptional _ _).bind fun found => ?_
  cases found with
  | none => exact .throw nofun
  | some _ =>
    refine (quiet_lookUp _ _ unopposed_hold).bind fun existing => ?_
    cases existing with
    | none => exact fresh
    | some existing =>
      dsimp only
      split
      · exact .pure _
      · split
        · exact .pure _
        · exact (quiet_fetchOne _ _).bind fun _ => .pure _
      · exact fresh
      · exact fresh

theorem quiet_takeStock (category : CategoryId) (hold : HoldId) (now expiresAt : Instant) :
    Quiet (takeStock category hold now expiresAt) := by
  refine (quiet_transaction (quiet_takeInside category hold now expiresAt)).bind fun take => ?_
  cases take with
  | kept existing => exact .pure _
  | written row => exact (quiet_interpret (unopposed_hold row)).bind fun _ => .pure _
  | soldOut => exact .pure _
  | lost =>
    refine (quiet_record _).bind fun _ => (quiet_lookUp _ _ unopposed_hold).bind fun winner => ?_
    cases winner with
    | none => exact .throw nofun
    | some winner => exact .pure _

theorem quiet_returnStock (category : CategoryId) (hold : HoldId) :
    Quiet (returnStock category hold) := by
  refine quiet_transaction ((quiet_execute _).bind fun _ => ?_)
  split
  · exact .pure _
  · exact (quiet_execute _).bind fun _ => .pure _

theorem quiet_availability (id : CategoryId) (now : Instant) : Quiet (availability id now) := by
  refine (quiet_lookUp _ _ unopposed_category).bind fun c => ?_
  cases c with
  | none => exact .pure none
  | some c =>
    dsimp only
    split
    · exact (quiet_fetchOne _ _).bind fun _ =>
        (quiet_interpret (unopposed_count _ _)).bind fun _ =>
        (quiet_interpret (unopposed_count _ _)).bind fun _ => .pure _
    · exact (quiet_fetchOne _ _).bind fun _ =>
        (quiet_interpret (unopposed_count _ _)).bind fun _ =>
        (quiet_interpret (unopposed_count _ _)).bind fun _ =>
        (quiet_interpret (unopposed_count _ _)).bind fun _ => .pure _

/-- **The ledger in the database leaves the clock alone**, and answers no call with a conflict. -/
theorem quiet_answer (c : Ledger.Call) :
    (answer c).Permits fun said r => Untimed said ∧ Unopposed r := by
  cases c with
  | category id => exact quiet_lookUp _ _ unopposed_category
  | seat category label => exact quiet_lookUp _ _ unopposed_seat
  | reserveSeat claim => exact quiet_lookUp _ _ unopposed_seat
  | releaseSeat | sellSeat | settleStock => exact quiet_changesOne _
  | takeStock category hold now expiresAt => exact quiet_takeStock category hold now expiresAt
  | stockHold category hold => exact quiet_lookUp _ _ unopposed_hold
  | returnStock category hold => exact quiet_returnStock category hold
  | reclaim now => exact (quiet_execute _).bind fun _ => (quiet_fetchAll _ _).bind fun _ => .pure _
  | availability category now => exact quiet_availability category now

end DatabaseLedger

end BoxOffice
