import BoxOffice.Proofs.Ledger.Run
import BoxOffice.Proofs.Ledger.Seat
import BoxOffice.Proofs.Ledger.Stock

/-!
# Ledgers in order

Every section of a reachable ledger is in order (`Reachable.sound`): it stands under its own
identifier, its seats under their labels and its holds under theirs, seats are well formed, and it has
either as many seats as its capacity says and no pool, or a pool within its capacity and no seats.
-/

namespace BoxOffice

theorem Section.current_of_fixed {s : Section} (fixed : s.category.tracking = .fixed) :
    s.current = s.category := by
  rw [current, fixed]

theorem Section.current_of_flexible {s : Section} (flexible : s.category.tracking = .flexible) :
    s.current = { s.category with available := s.pool.available } := by
  rw [current, flexible]

/-- A section in order, under an identifier. -/
structure Section.Sound (s : Section) (id : CategoryId) : Prop where
  id_eq : s.category.id = id
  seats : ∀ label seat, s.seats.get? label = some seat →
    seat.label = label ∧ seat.category = id ∧ seat.WellFormed
  holds : ∀ hold h, s.pool.holds.get? hold = some h → h.hold = hold ∧ h.category = id
  kinds :
    (s.category.layout = .seated ∧ s.category.tracking = .fixed ∧
      s.seats.size = s.category.total.toNat ∧ s.pool = .empty) ∨
    (s.category.layout = .standing ∧ s.category.tracking = .flexible ∧ s.seats = ∅ ∧
      s.pool.units ≤ s.category.total.toNat)

namespace Section.Sound

variable {s : Section} {id : CategoryId}

/-- A call leaves a section in order. -/
theorem after (h : s.Sound id) (c : Ledger.Call) : (s.after id c).Sound id where
  id_eq := h.id_eq
  seats := by
    intro label seat there
    rw [get?_after_seats] at there
    obtain ⟨before, hbefore, rfl⟩ := Option.map_eq_some_iff.1 there
    obtain ⟨label_eq, category_eq, well⟩ := h.seats label before hbefore
    obtain ⟨-, hlabel, hcategory⟩ := before.after_place id label c
    exact ⟨hlabel.trans label_eq, hcategory.trans category_eq, well.after id label c⟩
  holds := by
    intro hold stock there
    rcases s.pool.stock_after_cases id s.category.total c hold with
      e | ⟨_, _, -, -, e⟩ | ⟨b, _, _, -, hb, -, e⟩ | ⟨b, -, hb, -, e⟩ | ⟨b, _, -, hb, -, e⟩ |
      ⟨b, _, -, hb, -, e⟩ <;> rw [after_pool, e] at there
    · exact h.holds hold stock there
    · cases there
      exact ⟨rfl, rfl⟩
    all_goals
      cases there
      exact h.holds hold b hb
  kinds := by
    -- a section has seats or a pool, and calls make neither out of nothing
    rcases h.kinds with ⟨seated, fixed, size, pool⟩ | ⟨standing, flexible, seats, fits⟩
    · refine .inl ⟨seated, fixed, ?_, ?_⟩
      · rw [after_category, ← size]
        simp [Section.after, Registry.size, Registry.mapEntries]
      · rw [after_pool, pool, Pool.after_empty]
    · refine .inr ⟨standing, flexible, ?_, ?_⟩
      · simp only [Section.after, seats]
        rfl
      · rw [after_pool, Pool.units_after fits]
        exact fits

/-- The pool is within the capacity. -/
theorem fits (h : s.Sound id) : s.pool.units ≤ s.category.total.toNat := by
  rcases h.kinds with ⟨-, -, -, empty⟩ | ⟨-, -, -, fits⟩
  · rw [empty]
    exact Nat.zero_le _
  · exact fits

/-- What the section has left in its pool is not kept in its category. -/
theorem current_id (h : s.Sound id) : s.current.id = id := by
  rw [← h.id_eq]
  unfold current
  split <;> rfl

end Section.Sound

namespace MemoryLedger

/-- Seats that are laid out are fresh, each under its label. -/
theorem layOut_fresh {category : CategoryId} {labels : List String}
    {seats laid : Registry String Seat} {first next : SeatId}
    (h : layOut category labels seats first = (.ok laid, next))
    (before : ∀ label seat, seats.get? label = some seat →
      ∃ id, seat = Seat.fresh id category label) :
    ∀ label seat, laid.get? label = some seat → ∃ id, seat = Seat.fresh id category label := by
  induction labels generalizing seats first with
  | nil =>
    cases h
    exact before
  | cons label rest ih =>
    simp only [layOut] at h
    split at h
    · cases h
    split at h
    · cases h
    refine ih h fun other seat there => ?_
    rw [Registry.get?_set] at there
    split at there
    · next same =>
      cases there
      exact ⟨first, by rw [same]⟩
    · exact before other seat there

/-- **Every section of a reachable ledger is in order.** -/
theorem Reachable.sound {l : MemoryLedger} (reach : l.Reachable) {id : CategoryId} {s : Section}
    (h : l.sections.get? id = some s) : s.Sound id := by
  refine reach.sections (P := fun id s => s.Sound id) ?_ ?_ (fun id s c hs => hs.after c) h
  · intro category labels first seats next seated fixed laid few
    refine ⟨rfl, fun label seat there => ?_, by simp [openSeated], .inl ⟨seated, fixed, ?_, rfl⟩⟩
    · obtain ⟨id, rfl⟩ := layOut_fresh laid (by simp) label seat there
      exact ⟨rfl, rfl, Seat.wellFormed_fresh _ _ _⟩
    · exact (UInt32.toNat_ofNat_of_lt' few).symm
  · intro category standing flexible fits
    refine ⟨rfl, by simp [openStanding], by simp [openStanding], .inr ⟨standing, flexible, rfl, ?_⟩⟩
    simpa [Pool.units, openStanding, Pool.countState] using UInt32.le_iff_toNat_le.1 fits

/-- A seat of a reachable ledger stands where it says, and is well formed. -/
theorem Reachable.seat {l : MemoryLedger} {category : CategoryId} {label : String} {s : Seat}
    (reach : l.Reachable) (there : l.seat? category label = some s) :
    s.label = label ∧ s.category = category ∧ s.WellFormed := by
  obtain ⟨sect, found, on_seat⟩ := Option.bind_eq_some_iff.1 there
  exact (reach.sound found).seats label s on_seat

/-- The places of the pool of a category. -/
def places? (l : MemoryLedger) (id : CategoryId) : Option Nat :=
  (l.sections.get? id).map fun s => s.pool.units

/-- No call makes or loses a place of a reachable ledger. -/
theorem Reachable.places?_after {l : MemoryLedger} (reach : l.Reachable) (c : Ledger.Call)
    (id : CategoryId) : (l.after c).places? id = l.places? id := by
  unfold places?
  rw [get?_after, Option.map_map]
  refine Option.map_congr fun s there => ?_
  exact Pool.units_after (reach.sound there).fits id c

end MemoryLedger

end BoxOffice
