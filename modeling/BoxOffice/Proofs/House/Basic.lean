import BoxOffice.Proofs.Bookings
import BoxOffice.Proofs.Desk.Calls
import BoxOffice.Proofs.Inventory.Sale
import BoxOffice.Proofs.Inventory.Visit

/-!
# The whole house

An inventory at work and a booking store, with a front desk before them. `answer_cases` says what one
call of the front desk may do to the two.
-/

namespace BoxOffice

open Rehearsal

/-- Why an errand of the front desk is given up. -/
inductive Halt
  | breakdown (cause : Breakdown)
  /-- The identifier that was drawn for a booking is not fresh. -/
  | identifierTaken
  deriving DecidableEq

/-- A box office with its ledger and its store. -/
structure House where
  policy : RetryPolicy
  inventory : Inventory
  store : MemoryStore

namespace House

/-- The time. -/
def now (w : House) : Instant :=
  w.inventory.stage.now

/-- Answers a call of the front desk; a booking that is stored gets the identifier `fresh`. -/
def answer (fresh : BookingId) (w : House) :
    (c : DeskWorld.Call) → Except Halt (DeskWorld.Reply c) × House
  | .inl c =>
    let (reply, inventory) := w.inventory.serve c
    (reply.mapError .breakdown, { w with inventory })
  | .inr (.inl c) =>
    match c with
    | .create draft =>
      if w.store.bookings.contains fresh then (.error .identifierTaken, w)
      else
        let (reply, store) := w.store.answer fresh w.now (.create draft)
        (.ok reply, { w with store })
    | c =>
      let (reply, store) := w.store.answer fresh w.now c
      (.ok reply, { w with store })
  | .inr (.inr c) =>
    let (reply, stage) := w.inventory.stage.answer c
    (reply.mapError .breakdown, { w with inventory := { w.inventory with stage } })

/-- **What a call of the front desk may do**: nothing to the ledger and the store, or one call to the
inventory, or one call to the store. -/
theorem answer_cases (fresh : BookingId) (w : House) (c : DeskWorld.Call) :
    ((w.answer fresh c).2.inventory.ledger = w.inventory.ledger ∧
      (w.answer fresh c).2.store = w.store) ∨
    (∃ call, c = .inl call ∧ (w.answer fresh c).2.inventory = (w.inventory.serve call).2 ∧
      (w.answer fresh c).2.store = w.store) ∨
    (∃ call, c = .inr (.inl call) ∧ (∀ draft, call = .create draft → w.store.Lacks fresh) ∧
      (w.answer fresh c).2.inventory = w.inventory ∧
      (w.answer fresh c).2.store = (w.store.answer fresh w.now call).2) := by
  rcases c with c | c | c
  · exact .inr (.inl ⟨c, rfl, rfl, rfl⟩)
  · cases c with
    | create draft =>
      by_cases taken : w.store.bookings.contains fresh
      · refine .inl ?_
        -- the errand is given up before the store sees the call
        have same : w.answer fresh (.inr (.inl (.create draft))) =
            (.error .identifierTaken, w) := if_pos taken
        exact ⟨congrArg (·.2.inventory.ledger) same, congrArg (·.2.store) same⟩
      · have stored : w.answer fresh (.inr (.inl (.create draft))) =
            (.ok (w.store.answer fresh w.now (.create draft)).1,
              { w with store := (w.store.answer fresh w.now (.create draft)).2 }) := if_neg taken
        exact .inr (.inr ⟨_, rfl, fun _ _ => MemoryStore.lacks_iff.2 taken,
          congrArg (·.2.inventory) stored, congrArg (·.2.store) stored⟩)
    | get id => exact .inr (.inr ⟨_, rfl, by simp, rfl, rfl⟩)
    | findByAttempt attempt => exact .inr (.inr ⟨_, rfl, by simp, rfl, rfl⟩)
    | transition id expected target => exact .inr (.inr ⟨_, rfl, by simp, rfl, rfl⟩)
  · exact .inl ⟨rfl, rfl⟩

end House

end BoxOffice
