import BoxOffice.Proofs.Inventory.Availability
import BoxOffice.Proofs.Ledger.Lifecycle

/-!
# Calling seats by their labels

A seat is stored under the label that it was laid out with, and a request looks for the trimmed label.
So a seat that nobody has is given to whoever calls it by its label exactly if there are no blanks
around the label (`gets_laid_out_iff`). A seat with a padded label is never given away: a request for it
is answered with the seat that has the trimmed label, or it finds none.
-/

namespace BoxOffice

open Rehearsal Reservations

namespace MemoryLedger

/-- Every label gets a seat, and the seats that were laid out before stay. -/
theorem layOut_isSome {category : CategoryId} {labels : List String}
    {seats laid : Registry String Seat} {first next : SeatId}
    (h : layOut category labels seats first = (.ok laid, next)) {label : String}
    (there : label ∈ labels ∨ (seats.get? label).isSome) : (laid.get? label).isSome := by
  induction labels generalizing seats first with
  | nil =>
    cases h
    exact there.resolve_left List.not_mem_nil
  | cons new rest ih =>
    simp only [layOut] at h
    split at h
    · cases h
    split at h
    · cases h
    refine ih h ?_
    rw [Registry.get?_set]
    rcases there with mem | before
    · rcases List.mem_cons.1 mem with rfl | later
      · exact .inr (by simp)
      · exact .inl later
    · refine .inr ?_
      split
      · rfl
      · exact before

/-- A category of seats that was added has a fresh seat under each of its labels. -/
theorem addSeated_seat {l : MemoryLedger} {category : Category} {labels : List String}
    {created : List Seat} (added : (l.addSeated category labels).1 = .ok created) {label : String}
    (mem : label ∈ labels) :
    ∃ s fresh, (l.addSeated category labels).2.sections.get? category.id = some s ∧
      s.category.event = category.event ∧ s.category.layout = .seated ∧
      s.seats.get? label = some fresh ∧ fresh ∈ created ∧ fresh.label = label := by
  rcases addSeated_cases l category labels with
    ⟨e, next, refused⟩ | ⟨seats, next, seated, -, laid, -, -, taken⟩
  · rw [refused] at added
    cases added
  · rw [taken] at added ⊢
    cases added
    obtain ⟨fresh, on_seat⟩ := Option.isSome_iff_exists.1 (layOut_isSome laid (.inl mem))
    obtain ⟨id, named⟩ := layOut_fresh laid (by simp) label fresh on_seat
    exact ⟨openSeated category seats, fresh, by simp [Registry.get?_set], rfl, seated, on_seat,
      Registry.mem_values.2 ⟨label, on_seat⟩, congrArg Seat.label named⟩

end MemoryLedger

namespace Inventory

/-- The request is answered with a token of a seat. -/
def Gets (w : Inventory) (r : ReserveRequest) (seat : Seat) : Prop :=
  ∃ t w', w.serve (.reserve r) = (.ok (.ok t), w') ∧ t.unit = .seat seat.id seat.label

section

variable {w : Inventory} (reach : w.ledger.Reachable) {r : ReserveRequest} {seat : Seat}
  {label : String} (labelled : r.seatLabel = some label)

include reach labelled

/-- Nobody gets a seat whose label has blanks around it. -/
theorem trim_eq_of_gets (on_seat : w.ledger.seat? r.category label = some seat)
    (gets : w.Gets r seat) : Text.trim label = label := by
  obtain ⟨t, w', served, unit⟩ := gets
  obtain ⟨a, w₁, served', way⟩ := serve_reserve reach r
  obtain ⟨rfl, rfl⟩ : a = .ok (.ok t) ∧ w₁ = w' := Prod.mk.inj (served'.symm.trans served)
  have named : t.seatLabel = namedSeat r := way.granted.2.2.2.2.1
  have own : t.seatLabel = some label := by
    simp only [Token.seatLabel, unit, (reach.seat on_seat).1]
  -- what a request names is the trimmed label, if anything is left of it
  rw [own, namedSeat, labelled, Option.map_some] at named
  obtain ⟨trimmed, -⟩ := Option.filter_eq_some_iff.1 named.symm
  exact Option.some.inj trimmed

/-- A seat that may be claimed is given to whoever calls it by its label, if that is trimmed. -/
theorem gets_of_trim_eq (suits : r.Suits w.ledger .seated)
    (on_seat : w.ledger.seat? r.category label = some seat)
    (claimable : seat.isClaimable w.stage.now) (due : (w.stage.now.add? w.hold).isSome)
    (trimmed : Text.trim label = label) : w.Gets r seat := by
  obtain ⟨last, due⟩ := Option.isSome_iff_exists.1 due
  obtain ⟨s, there, on_label⟩ := Option.bind_eq_some_iff.1 on_seat
  have named : namedSeat r = some label := by
    have filled := mt Text.trim_eq_empty_iff.1 (reach.label_not_blank there on_label)
    rw [trimmed] at filled
    simp [namedSeat, labelled, trimmed, Option.filter, filled]
  have stored : seat.label = label := (reach.seat on_seat).1
  obtain ⟨w', ⟨-, served⟩ | ⟨-, -, served⟩ | ⟨taken, -⟩⟩ :=
    serve_reserve_seat reach suits named due on_seat
  · exact ⟨_, w', served, by rw [stored]; rfl⟩
  · exact ⟨_, w', served, by rw [stored]; rfl⟩
  · exact absurd claimable taken

end

/-- **Which seats can be called.** A category of seats was added for some labels, and whatever was done
to the ledger since then: the seat of each label is still stored under its label, and while it may be
claimed, every hold that asks for that label gets it exactly if the label is trimmed. -/
theorem gets_laid_out_iff {l : MemoryLedger} (reach : l.Reachable) {category : Category}
    {labels : List String} {created : List Seat}
    (added : (l.addSeated category labels).1 = .ok created) {label : String} (mem : label ∈ labels)
    {acts : List MemoryLedger.Act} {w : Inventory}
    (since : w.ledger = (l.addSeated category labels).2.run acts) :
    ∃ fresh ∈ created, ∃ seat, fresh.label = label ∧
      w.ledger.seat? category.id label = some seat ∧ seat.id = fresh.id ∧ seat.label = label ∧
      (seat.isClaimable w.stage.now → (w.stage.now.add? w.hold).isSome →
        ∀ hold, w.Gets ⟨hold, category.event, category.id, some label⟩ seat ↔
          Text.trim label = label) := by
  obtain ⟨s, fresh, there, event, layout, on_label, mem_created, fresh_label⟩ :=
    MemoryLedger.addSeated_seat added mem
  have reach₁ : (l.addSeated category labels).2.Reachable := reach.run [.addSeated category labels]
  have reach' : w.ledger.Reachable := since ▸ reach₁.run acts
  obtain ⟨seat, on_seat, same_id, same_label, -⟩ :=
    reach₁.seat?_run (Option.bind_eq_some_iff.2 ⟨s, there, on_label⟩) acts
  obtain ⟨s', there', event', layout'⟩ := MemoryLedger.run_keeps
    (P := fun s => s.category.event = category.event ∧ s.category.layout = .seated)
    (fun _ _ kept => kept) there ⟨event, layout⟩ acts
  rw [← since] at on_seat there'
  refine ⟨fresh, mem_created, seat, fresh_label, on_seat, same_id,
    same_label.trans fresh_label, fun claimable due hold => ⟨fun gets => ?_, fun trimmed => ?_⟩⟩
  · exact trim_eq_of_gets reach' rfl on_seat gets
  · exact gets_of_trim_eq reach' rfl ⟨s', there', event', layout'⟩ on_seat claimable due trimmed

/-- The ledger with a category of two seats whose labels differ by a blank. -/
def paddedPair : Result (List Seat) × MemoryLedger :=
  MemoryLedger.empty.addSeated (.seated ⟨10⟩ ⟨1⟩ "Stalls" ⟨9900⟩ 0) ["A1", " A1"]

/-- An inventory of two seats whose labels differ by a blank, when the first was had and given back. -/
def onePair : Inventory :=
  { oneSeat with
    ledger := paddedPair.2.run
      [.call (.reserveSeat ⟨⟨10⟩, "A1", ⟨.random 1⟩, .ofParts 1000 0, .ofParts 1010 0⟩),
        .call (.releaseSeat ⟨10⟩ "A1" ⟨.random 1⟩)] }

/-- The seat without a blank can be called, and the other one cannot. -/
theorem gets_one_of_pair :
    MemoryLedger.empty.Reachable ∧ (∃ created, paddedPair.1 = .ok created) ∧
    (onePair.stage.now.add? onePair.hold).isSome ∧
    (∃ seat, onePair.ledger.seat? ⟨10⟩ "A1" = some seat ∧ seat.isClaimable onePair.stage.now ∧
      onePair.Gets ⟨⟨.random 2⟩, ⟨1⟩, ⟨10⟩, some "A1"⟩ seat) ∧
    ∃ seat, onePair.ledger.seat? ⟨10⟩ " A1" = some seat ∧ seat.isClaimable onePair.stage.now ∧
      ¬ onePair.Gets ⟨⟨.random 2⟩, ⟨1⟩, ⟨10⟩, some " A1"⟩ seat := by
  have reach : MemoryLedger.empty.Reachable := ⟨[], rfl⟩
  have due : (onePair.stage.now.add? onePair.hold).isSome := by decide
  obtain ⟨created, added⟩ : ∃ created, paddedPair.1 = .ok created := ⟨_, rfl⟩
  refine ⟨reach, ⟨created, added⟩, due, ?_, ?_⟩
  · obtain ⟨-, -, seat, -, on_seat, -, -, gets⟩ :=
      gets_laid_out_iff (w := onePair) reach added (show "A1" ∈ _ by decide) rfl
    have claimable : seat.isClaimable onePair.stage.now := by
      obtain rfl := Option.some.inj (on_seat.symm.trans rfl)
      decide +kernel
    exact ⟨seat, on_seat, claimable, (gets claimable due _).2 (by decide)⟩
  · obtain ⟨-, -, seat, -, on_seat, -, -, gets⟩ :=
      gets_laid_out_iff (w := onePair) reach added (show " A1" ∈ _ by decide) rfl
    have claimable : seat.isClaimable onePair.stage.now := by
      obtain rfl := Option.some.inj (on_seat.symm.trans rfl)
      decide +kernel
    exact ⟨seat, on_seat, claimable, mt (gets claimable due _).1 (by decide)⟩

/-- The seat with the blank may be claimed and cannot be called: a request for it is answered with the
other seat, and if there is no other seat, with none at all. -/
theorem padded_seat_lost :
    (∃ created, paddedPair.1 = .ok created ∧ paddedPair.2.Reachable ∧
      ∃ seat, paddedPair.2.seat? ⟨10⟩ " A1" = some seat ∧ seat.id = ⟨2⟩ ∧
        let w : Inventory := { oneSeat with ledger := paddedPair.2 }
        seat.isClaimable w.stage.now ∧ (w.stage.now.add? w.hold).isSome ∧
        (∃ t w', w.serve (.reserve ⟨⟨.random 2⟩, ⟨1⟩, ⟨10⟩, some " A1"⟩) = (.ok (.ok t), w') ∧
          t.unit = .seat ⟨1⟩ "A1") ∧
        ¬ w.Gets ⟨⟨.random 2⟩, ⟨1⟩, ⟨10⟩, some " A1"⟩ seat) ∧
    (∃ seat, onePadded.ledger.seat? ⟨10⟩ " A1" = some seat ∧
      seat.isClaimable onePadded.stage.now ∧
      (onePadded.stage.now.add? onePadded.hold).isSome ∧
      (∃ w', onePadded.serve (.reserve ⟨⟨.random 2⟩, ⟨1⟩, ⟨10⟩, some " A1"⟩) =
        (.ok (refuse (.seatMissing ⟨10⟩ "A1")), w'))) := by
  constructor
  · refine ⟨_, rfl, ⟨[.addSeated _ _], rfl⟩, _, rfl, rfl, by decide, by decide, ⟨_, _, rfl, rfl⟩, ?_⟩
    rintro ⟨t, w', served, unit⟩
    cases served
    exact absurd unit (by decide)
  · exact ⟨_, rfl, by decide, by decide, _, rfl⟩

end Inventory

end BoxOffice
