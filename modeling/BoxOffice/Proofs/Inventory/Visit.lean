import BoxOffice.Proofs.Inventory.Reserve

/-!
# Visits to the inventory

Whoever works with an inventory comes at a time of their own and makes one call to its service, or
sweeps. `Inventory.visit_cases` says what a visit may do to the ledger: nothing, or one ledger call in
the name of the visitor at the time of the visit, and if that call may get somebody a share the
visitor was told so. What every visit keeps, all runs of visits keep (`run_keeps`).
-/

namespace BoxOffice

open Rehearsal Reservations

/-- What somebody comes to an inventory for. -/
inductive Errand
  | call (c : Reservations.Call)
  | sweep

/-- Somebody comes to an inventory at a time. -/
structure Visit where
  time : Instant
  errand : Errand

/-- The hold in whose name a call is made. -/
def Reservations.Call.hold? : Reservations.Call → Option HoldId
  | .reserve request => some request.hold
  | .release token => some token.hold
  | .confirm token => some token.hold
  | .availability _ => none

/-- The hold in whose name somebody comes. -/
def Visit.hold? (v : Visit) : Option HoldId :=
  match v.errand with
  | .call c => c.hold?
  | .sweep => none

namespace Inventory

/-- The inventory when the clock shows a time. -/
def atTime (w : Inventory) (now : Instant) : Inventory :=
  { w with stage := { w.stage with now } }

@[simp] theorem atTime_hold (w : Inventory) (now : Instant) : (w.atTime now).hold = w.hold := rfl

@[simp] theorem atTime_now (w : Inventory) (now : Instant) : (w.atTime now).stage.now = now := rfl

@[simp] theorem atTime_ledger (w : Inventory) (now : Instant) :
    (w.atTime now).ledger = w.ledger := rfl

/-- The inventory after a visit. -/
def visit (w : Inventory) (v : Visit) : Inventory :=
  match v.errand with
  | .call c => ((w.atTime v.time).serve c).2
  | .sweep => (w.atTime v.time).sweep.2

/-- The share that a visitor is told to have reserved or bought. -/
def granted? (w : Inventory) (v : Visit) : Option Share :=
  match v.errand with
  | .call (.reserve request) =>
    match (w.atTime v.time).serve (.reserve request) with
    | (.ok (.ok t), _) => some (Token.share t)
    | _ => none
  | .call (.confirm token) =>
    match (w.atTime v.time).serve (.confirm token) with
    | (.ok (.ok ()), _) => some token.share
    | _ => none
  | _ => none

/-- **What a visit may do to the ledger**: nothing, or one call in the name of the visitor. -/
theorem visit_cases {w : Inventory} (reach : w.ledger.Reachable) (v : Visit) :
    (w.visit v).ledger = w.ledger ∨ ∃ c, (w.visit v).ledger = w.ledger.after c ∧
      c.hold? = v.hold? ∧ (∀ now, c.time? = some now → now = v.time) ∧
      (∀ share, c.share? = some share → w.granted? v = some share) := by
  obtain ⟨time, errand⟩ := v
  cases errand with
  | sweep =>
    obtain ⟨w', swept, after⟩ := (w.atTime time).sweep_ledger
    refine .inr ⟨.reclaim time, ?_, rfl, fun _ => ?_, fun _ => ?_⟩
    · simp only [visit, swept]
      exact after
    · rintro ⟨⟩
      rfl
    · rintro ⟨⟩
  | call c =>
    cases c with
    | reserve request =>
      obtain ⟨a, w', served, way⟩ := serve_reserve (w := w.atTime time) reach request
      simp only [visit, granted?, served]
      rcases way.ledger_cases with same | ⟨t, c, rfl, after, hold, at_time, share, -⟩
      · exact .inl same
      · refine .inr ⟨c, after, hold, fun now clock => ?_, fun s gets => ?_⟩
        · exact (Option.some.inj (at_time.symm.trans clock)).symm
        · exact share.symm.trans gets
    | release token =>
      obtain ⟨w', served, after⟩ := (w.atTime time).serve_release token
      simp only [visit, served]
      refine .inr ⟨_, after, ?_, ?_, ?_⟩ <;> unfold Token.giveBack <;> cases token.unit <;>
        first | rfl | rintro _ ⟨⟩
    | confirm token =>
      by_cases sells : (w.atTime time).ledger.Sells token time
      · obtain ⟨w', served, after⟩ := serve_confirm_of_sells (w := w.atTime time) sells
        simp only [visit, granted?, served]
        refine .inr ⟨_, after, ?_, ?_, ?_⟩ <;>
          cases unit : token.unit <;>
            simp [Token.sell, unit, Ledger.Call.hold?, Ledger.Call.time?, Ledger.Call.share?,
              Visit.hold?, Reservations.Call.hold?, Token.share, Token.seatLabel]
      · obtain ⟨e, w', served, -, same⟩ := serve_confirm_of_not_sells (w := w.atTime time) sells
        simp only [visit, served]
        exact .inl same
    | availability category => exact .inl ((w.atTime time).serve_availability category)

theorem visit_reachable {w : Inventory} (reach : w.ledger.Reachable) (v : Visit) :
    (w.visit v).ledger.Reachable := by
  rcases visit_cases reach v with same | ⟨c, after, -⟩
  · rwa [same]
  · rw [after]
    exact reach.after c

/-- A visit does not change how long holds last. -/
theorem visit_hold (w : Inventory) (v : Visit) : (w.visit v).hold = w.hold := by
  obtain ⟨time, errand⟩ := v
  cases errand with
  | call c => exact (play_now (Reservations.answer w.hold c) (w.atTime time)).2
  | sweep => exact (play_now Reclaimer.sweep.run (w.atTime time)).2

/-! ### Runs of visits -/

/-- The inventory after some visits, one after the other. -/
def run (w : Inventory) (visits : List Visit) : Inventory :=
  visits.foldl visit w

theorem run_reachable {w : Inventory} (reach : w.ledger.Reachable) (visits : List Visit) :
    (w.run visits).ledger.Reachable := by
  induction visits generalizing w with
  | nil => exact reach
  | cons v visits ih => exact ih (visit_reachable reach v)

/-- Something is true of every visit and of the inventory that the visit finds. -/
def Throughout (Q : Inventory → Visit → Prop) : Inventory → List Visit → Prop
  | _, [] => True
  | w, v :: visits => Q w v ∧ Throughout Q (w.visit v) visits

theorem throughout_of_forall {Q : Visit → Prop} {visits : List Visit} (all : ∀ v ∈ visits, Q v)
    (w : Inventory) : w.Throughout (fun _ v => Q v) visits := by
  induction visits generalizing w with
  | nil => trivial
  | cons v visits ih =>
    exact ⟨all v (List.mem_cons_self ..), ih (fun v m => all v (List.mem_cons_of_mem _ m)) _⟩

/-- What every visit of some kind keeps, all runs of such visits keep. -/
theorem run_keeps {P : MemoryLedger → Prop} {Q : Inventory → Visit → Prop}
    (step : ∀ w v, w.ledger.Reachable → Q w v → P w.ledger → P (w.visit v).ledger) {w : Inventory}
    (reach : w.ledger.Reachable) {visits : List Visit} (all : w.Throughout Q visits)
    (start : P w.ledger) : (w.run visits).ledger.Reachable ∧ P (w.run visits).ledger := by
  induction visits generalizing w with
  | nil => exact ⟨reach, start⟩
  | cons v visits ih =>
    exact ih (visit_reachable reach v) all.2 (step w v reach all.1 start)

/-- An inventory of one seat, whose holds last for ten seconds. -/
def oneSeat : Inventory where
  hold := .ofSeconds 10
  stage := .start (.ofParts 1000 0)
  ledger := (MemoryLedger.empty.addSeated (.seated ⟨10⟩ ⟨1⟩ "Stalls" ⟨9900⟩ 0) ["A1"]).2

end Inventory

end BoxOffice
