import BoxOffice.Proofs.Ledger.Effect

/-!
# Seats

What a call may make of a seat: it is claimed, given back, sold, freed by a sweep, or left alone
(`after_cases`). A seat is well formed when it names a hold exactly if it is not available, and an
instant exactly if it is reserved; every call keeps that.
-/

namespace BoxOffice.Seat

/-- The seat without its number. -/
def unnumbered (s : Seat) : Seat :=
  { s with id := ⟨0⟩ }

@[simp] theorem isHeldBy_iff {s : Seat} {hold : HoldId} {now : Instant} :
    s.isHeldBy hold now = true ↔
      s.status = .reserved ∧ s.hold = some hold ∧ ∃ last, s.reservedUntil = some last ∧ now ≤ last := by
  cases h : s.reservedUntil <;> simp [isHeldBy, h, and_assoc]

@[simp] theorem isLapsed_iff {s : Seat} {now : Instant} :
    s.isLapsed now = true ↔
      s.status = .reserved ∧ ∃ last, s.reservedUntil = some last ∧ last < now := by
  cases h : s.reservedUntil <;> simp [isLapsed, h]

theorem isClaimable_iff {s : Seat} {now : Instant} :
    s.isClaimable now = true ↔
      s.status = .available ∨
        s.status = .reserved ∧ ∀ last, s.reservedUntil = some last → last < now := by
  cases status : s.status <;> cases h : s.reservedUntil <;> simp [isClaimable, status, h]

/-- Nobody holds a seat that may be claimed. -/
theorem not_isHeldBy_of_claimable {s : Seat} {hold : HoldId} {now : Instant}
    (claimable : s.isClaimable now) : s.isHeldBy hold now = false := by
  rw [← Bool.not_eq_true]
  intro held
  obtain ⟨reserved, -, last, until_last, early⟩ := isHeldBy_iff.1 held
  rcases isClaimable_iff.1 claimable with free | ⟨-, past⟩
  · simp [reserved] at free
  · exact absurd early (Instant.not_le.2 (past last until_last))

theorem claim?_eq_some_iff {s t : Seat} {c : SeatClaim} :
    s.claim? c = some t ↔ s.isClaimable c.now ∧ t = s.reserve c.hold c.expiresAt := by
  rw [claim?, Option.ite_none_right_eq_some, Option.some.injEq, eq_comm (b := t)]

theorem release?_eq_some_iff {s t : Seat} {hold : HoldId} :
    s.release? hold = some t ↔ s.status = .reserved ∧ s.hold = some hold ∧ t = s.free := by
  rw [release?, Option.ite_none_right_eq_some, Option.some.injEq, eq_comm (b := t), and_assoc]

theorem sell?_eq_some_iff {s t : Seat} {hold : HoldId} {now : Instant} :
    s.sell? hold now = some t ↔ s.isHeldBy hold now ∧ t = s.sell := by
  rw [sell?, Option.ite_none_right_eq_some, Option.some.injEq, eq_comm (b := t)]

/-- **What a call may make of a seat.** -/
theorem after_cases (s : Seat) (id : CategoryId) (label : String) (c : Ledger.Call) :
    s.after id label c = s ∨
    (∃ claim, c = .reserveSeat claim ∧ claim.category = id ∧ claim.label = label ∧
      s.isClaimable claim.now ∧ s.after id label c = s.reserve claim.hold claim.expiresAt) ∨
    (∃ hold, c = .releaseSeat id label hold ∧ s.status = .reserved ∧ s.hold = some hold ∧
      s.after id label c = s.free) ∨
    (∃ hold now, c = .sellSeat id label hold now ∧ s.isHeldBy hold now ∧
      s.after id label c = s.sell) ∨
    (∃ now, c = .reclaim now ∧ s.isLapsed now ∧ s.after id label c = s.free) := by
  cases c with
  | reserveSeat claim =>
    simp only [after]
    split
    · next here =>
      cases claimed : s.claim? claim with
      | none => exact .inl rfl
      | some t =>
        obtain ⟨claimable, rfl⟩ := claim?_eq_some_iff.1 claimed
        exact .inr (.inl ⟨claim, rfl, here.1.symm, here.2.symm, claimable, rfl⟩)
    · exact .inl rfl
  | releaseSeat category name hold =>
    simp only [after]
    split
    · next here =>
      obtain ⟨rfl, rfl⟩ := here
      cases released : s.release? hold with
      | none => exact .inl rfl
      | some t =>
        obtain ⟨reserved, held, rfl⟩ := release?_eq_some_iff.1 released
        exact .inr (.inr (.inl ⟨hold, rfl, reserved, held, rfl⟩))
    · exact .inl rfl
  | sellSeat category name hold now =>
    simp only [after]
    split
    · next here =>
      obtain ⟨rfl, rfl⟩ := here
      cases sold : s.sell? hold now with
      | none => exact .inl rfl
      | some t =>
        obtain ⟨held, rfl⟩ := sell?_eq_some_iff.1 sold
        exact .inr (.inr (.inr (.inl ⟨hold, now, rfl, held, rfl⟩)))
    · exact .inl rfl
  | reclaim now =>
    simp only [after]
    split
    · next lapsed => exact .inr (.inr (.inr (.inr ⟨now, rfl, lapsed, rfl⟩)))
    · exact .inl rfl
  | _ => exact .inl rfl

/-- No call changes what a seat is called and where it stands. -/
theorem after_place (s : Seat) (id : CategoryId) (label : String) (c : Ledger.Call) :
    (s.after id label c).id = s.id ∧ (s.after id label c).label = s.label ∧
      (s.after id label c).category = s.category := by
  rcases s.after_cases id label c with e | ⟨_, _, _, _, _, e⟩ | ⟨_, _, _, _, e⟩ | ⟨_, _, _, _, e⟩ |
    ⟨_, _, _, e⟩ <;> rw [e] <;> exact ⟨rfl, rfl, rfl⟩

/-- A sold seat stays as it is. -/
theorem after_of_sold {s : Seat} (sold : s.status = .sold) (id : CategoryId) (label : String)
    (c : Ledger.Call) : s.after id label c = s := by
  rcases s.after_cases id label c with e | ⟨claim, _, _, _, claimable, _⟩ | ⟨_, _, reserved, _⟩ |
    ⟨_, _, _, held, _⟩ | ⟨_, _, lapsed, _⟩
  · exact e
  · simp [isClaimable_iff, sold] at claimable
  · simp [sold] at reserved
  · simp [sold] at held
  · simp [sold] at lapsed

/-- An available seat has neither a hold nor an instant, a reserved one has both, and a sold one has
a hold only. -/
def WellFormed (s : Seat) : Prop :=
  match s.status with
  | .available => s.hold = none ∧ s.reservedUntil = none
  | .reserved => s.hold.isSome ∧ s.reservedUntil.isSome
  | .sold => s.hold.isSome ∧ s.reservedUntil = none

theorem wellFormed_fresh (id : SeatId) (category : CategoryId) (label : String) :
    (fresh id category label).WellFormed :=
  ⟨rfl, rfl⟩

/-- A seat that is well formed may be claimed when it is available or lapsed. -/
theorem WellFormed.claimable_iff {s : Seat} (h : s.WellFormed) {now : Instant} :
    s.isClaimable now ↔ s.status = .available ∨ s.isLapsed now := by
  rw [isClaimable_iff, isLapsed_iff]
  refine or_congr_right (and_congr_right fun reserved => ?_)
  rw [WellFormed, reserved] at h
  obtain ⟨last, until_last⟩ := Option.isSome_iff_exists.1 h.2
  simp [until_last]

theorem WellFormed.after {s : Seat} (h : s.WellFormed) (id : CategoryId) (label : String)
    (c : Ledger.Call) : (s.after id label c).WellFormed := by
  rcases s.after_cases id label c with e | ⟨_, _, _, _, _, e⟩ | ⟨_, _, _, _, e⟩ |
    ⟨_, _, _, held, e⟩ | ⟨_, _, _, e⟩ <;> rw [e]
  · exact h
  · exact ⟨rfl, rfl⟩
  · exact ⟨rfl, rfl⟩
  · exact ⟨by simp [sell, (isHeldBy_iff.1 held).2.1], rfl⟩
  · exact ⟨rfl, rfl⟩

end BoxOffice.Seat
