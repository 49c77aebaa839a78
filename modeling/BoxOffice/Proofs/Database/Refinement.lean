import BoxOffice.Proofs.Database.Provision
import BoxOffice.Proofs.Database.Tallies

/-!
# Two ledgers that answer alike

The ledger in memory and the ledger in the database are asked for the same, step by step: calls, and
further categories. That the tables mirror the ledger is kept by each step whose numbers fit the
columns (`report_eq`), so from the start both give the same reports of every step (`interchangeable`).
-/

namespace BoxOffice

open Database MemoryLedger Rehearsal

namespace Ledger

/-- What is asked of a ledger. -/
inductive Step
  | call (c : Call)
  /-- A further category, with seats for some labels. -/
  | provision (c : Category) (labels : List String)

/-- What is compared of the result of a step: the answer up to the numbers of seats, or the kind of
the error. -/
inductive Report
  | answered (c : Call) (r : Except ErrorKind c.Answer)
  | provided (r : Except ErrorKind Unit)

/-- A category that a place is taken of is a standing one, and the capacity and the price of a further
category fit the columns. -/
def Step.Fits (l : MemoryLedger) : Step → Prop
  | .call (.takeStock category _ _ _) =>
    ∀ s ∈ l.sections.get? category, s.category.layout = .standing
  | .call _ => True
  | .provision c labels => c.FitsColumns labels

instance (l : MemoryLedger) : (s : Step) → Decidable (s.Fits l)
  | .call (.takeStock category _ _ _) =>
    inferInstanceAs (Decidable (∀ s ∈ l.sections.get? category, s.category.layout = .standing))
  | .call (.category _) | .call (.seat _ _) | .call (.reserveSeat _) | .call (.releaseSeat _ _ _)
  | .call (.sellSeat _ _ _ _) | .call (.stockHold _ _) | .call (.returnStock _ _)
  | .call (.settleStock _ _ _) | .call (.reclaim _) | .call (.availability _ _) => .isTrue trivial
  | .provision c labels => inferInstanceAs (Decidable (c.FitsColumns labels))

end Ledger

/-- The report of a step by a ledger in memory, and the ledger after it. -/
def MemoryLedger.report (l : MemoryLedger) : Ledger.Step → Ledger.Report × MemoryLedger
  | .call c => (.answered c (c.outcome (l.answer c).1), (l.answer c).2)
  | .provision c labels =>
    (.provided ((l.provision c labels).1.mapError Error.kind), (l.provision c labels).2)

/-- The reports of some steps, one after the other. -/
def MemoryLedger.reports (l : MemoryLedger) : List Ledger.Step → List Ledger.Report
  | [] => []
  | s :: steps => (l.report s).1 :: (l.report s).2.reports steps

/-- Every step fits when it comes. -/
def MemoryLedger.Admits (l : MemoryLedger) : List Ledger.Step → Prop
  | [] => True
  | s :: steps => s.Fits l ∧ (l.report s).2.Admits steps

instance MemoryLedger.decidableAdmits (l : MemoryLedger) :
    (steps : List Ledger.Step) → Decidable (l.Admits steps)
  | [] => .isTrue trivial
  | s :: steps =>
    have := decidableAdmits (l.report s).2 steps
    inferInstanceAs (Decidable (s.Fits l ∧ _))

namespace Server

/-- The report of a step by the ledger in a database, and the database after it. -/
def report (number : Tables → Nat → Int32) (stage : Stage) (d : Server) :
    Ledger.Step → Except Breakdown Ledger.Report × Server
  | .call c =>
    let (played, d) := (DatabaseLedger.answer c).play (answer number stage) d
    (played.map fun r => .answered c (c.outcome r), d)
  | .provision c labels =>
    let (played, d) := (DatabaseLedger.provision c labels).run.play (answer number stage) d
    (played.map fun r => .provided ((r.mapError Error.kind).map fun _ => ()), d)

/-- The reports of some steps, one after the other. -/
def reports (number : Tables → Nat → Int32) (stage : Stage) (d : Server) :
    List Ledger.Step → List (Except Breakdown Ledger.Report)
  | [] => []
  | s :: steps => (d.report number stage s).1 :: (d.report number stage s).2.reports number stage steps

end Server

/-! ### One step -/

variable {number : Tables → Nat → Int32} {stage : Stage} {l : MemoryLedger} {t : Tables}

theorem DatabaseLedger.answersAs (m : Mirrors l t) (ok : l.Storable) (c : Ledger.Call)
    (fits : (Ledger.Step.call c).Fits l) : AnswersAs number stage l t c := by
  cases c with
  | category id => exact answersAs_category m ok id
  | seat category label => exact answersAs_seat m ok category label
  | reserveSeat claim => exact answersAs_reserveSeat m ok claim
  | releaseSeat category label hold => exact answersAs_releaseSeat m ok category label hold
  | sellSeat category label hold now => exact answersAs_sellSeat m ok category label hold now
  | takeStock category hold now expiresAt => exact answersAs_takeStock m ok fits
  | stockHold category hold => exact answersAs_stockHold m ok category hold
  | returnStock category hold => exact answersAs_returnStock m ok
  | settleStock category hold now => exact answersAs_settleStock m ok now
  | reclaim now => exact answersAs_reclaim m ok now
  | availability category now => exact answersAs_availability m ok category now

/-- A step that fits is reported alike, and leaves tables that mirror the ledger. -/
theorem report_eq (number : Tables → Nat → Int32) (stage : Stage) (m : Mirrors l t) (ok : l.Storable)
    {s : Ledger.Step} (fits : s.Fits l) :
    ∃ t', (Server.resting t).report number stage s = (.ok (l.report s).1, .resting t') ∧
      Mirrors (l.report s).2 t' ∧ (l.report s).2.Storable := by
  cases s with
  | call c =>
    obtain ⟨r, t', played, same, mirrors⟩ : AnswersAs number stage l t c :=
      DatabaseLedger.answersAs m ok c fits
    refine ⟨t', ?_, ?_⟩
    · simp only [Server.report, MemoryLedger.report, played, ← same]
      rfl
    · simp only [MemoryLedger.report, answer_eq]
      exact ⟨mirrors, ok.after c⟩
  | provision c labels =>
    obtain ⟨r, t', played, same, mirrors, storable⟩ :=
      DatabaseLedger.provides number stage m ok fits
    refine ⟨t', ?_, mirrors, storable⟩
    unfold Server.Yields at played
    simp only [Server.report, MemoryLedger.report, played, ← same]
    rfl

/-! ### All steps -/

theorem reports_eq (m : Mirrors l t) (ok : l.Storable) {steps : List Ledger.Step}
    (fits : l.Admits steps) :
    (Server.resting t).reports number stage steps = (l.reports steps).map .ok := by
  -- by induction on the steps, from any ledger with tables that mirror it
  induction steps generalizing l t with
  | nil => rfl
  | cons s steps ih =>
    obtain ⟨fits, rest⟩ := fits
    obtain ⟨t', reported, mirrors, storable⟩ := report_eq number stage m ok fits
    rw [Server.reports, reported, MemoryLedger.reports, List.map_cons, ih mirrors storable rest]

theorem mirrors_empty : Mirrors .empty .empty where
  categories := rfl
  seats _ := rfl
  holds _ := rfl

theorem storable_empty : MemoryLedger.empty.Storable where
  reach := ⟨[], rfl⟩
  price id s there := by simp [MemoryLedger.empty] at there
  total id s there := by simp [MemoryLedger.empty] at there

/-- **The two ledgers are interchangeable.** Whatever is asked of them from the start, as long as it
fits, they give the same reports. -/
theorem DatabaseLedger.interchangeable (number : Tables → Nat → Int32) (stage : Stage)
    (steps : List Ledger.Step) (fits : MemoryLedger.empty.Admits steps) :
    (Server.resting .empty).reports number stage steps = (MemoryLedger.empty.reports steps).map .ok :=
  reports_eq mirrors_empty storable_empty fits

/-- A pool with one place, a category with one seat, and others who are too late. -/
theorem interchangeable_of_rush :
    let number (t : Tables) (place : Nat) : Int32 := .ofInt (100 + t.seats.length + place)
    let claim (n : Nat) (now : Instant) : SeatClaim :=
      { category := ⟨2⟩, label := "A1", hold := ⟨.random n⟩, now, expiresAt := .ofParts 20 0 }
    let steps : List Ledger.Step :=
      [.provision (.standing ⟨1⟩ ⟨7⟩ "floor" ⟨500⟩ 1) [],
        .provision (.seated ⟨2⟩ ⟨7⟩ "hall" ⟨900⟩ 0) ["A1"],
        .provision (.seated ⟨2⟩ ⟨7⟩ "hall" ⟨900⟩ 0) ["A1", "A1"],
        .call (.takeStock ⟨1⟩ ⟨.random 1⟩ (.ofParts 10 0) (.ofParts 20 0)),
        .call (.takeStock ⟨1⟩ ⟨.random 2⟩ (.ofParts 11 0) (.ofParts 21 0)),
        .call (.reserveSeat (claim 1 (.ofParts 10 0))),
        .call (.reserveSeat (claim 2 (.ofParts 15 0))),
        .call (.reclaim (.ofParts 30 0)),
        .call (.availability ⟨1⟩ (.ofParts 30 0))]
    MemoryLedger.empty.Admits steps ∧
      (Server.resting .empty).reports number (.start (.ofParts 0 0)) steps =
        (MemoryLedger.empty.reports steps).map .ok := by
  intro number claim steps
  have fits : MemoryLedger.empty.Admits steps := by decide +kernel
  exact ⟨fits, DatabaseLedger.interchangeable number _ steps fits⟩

end BoxOffice
