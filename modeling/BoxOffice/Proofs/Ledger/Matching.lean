import BoxOffice.Proofs.Ledger.Snapshot
import Mathlib.Data.List.Forall2

/-!
# Ledgers that match

A sweep gives lapsed seats back before anybody asks for them. At a time two seats match if they are the
same, or if both may be claimed and would be the same once they were free (`Seat.Matches`); two ledgers
match if their seats do, one by one. Matching seats answer claims, sales and snapshots alike; a call that
is made to both at that time leaves matching seats (`Matches.after`), and so does a sweep of one of them
alone (`Matches.swept`). What matches at a time matches at all later ones. After a sweep of both, matching
seats are the same (`Matches.seat?_of_swept`).
-/

namespace BoxOffice

/-! ### Seats -/

namespace Seat

/-- At a time the two seats are the same, or both may be claimed and are the same but for holds that have
lapsed. -/
def Matches (s t : Seat) (now : Instant) : Prop :=
  s = t ∨ (s.isClaimable now ∧ t.isClaimable now ∧ s.free = t.free)

variable {s t u : Seat} {now time : Instant} {hold : HoldId}

/-- A seat in order that may be claimed is free after a sweep. -/
theorem WellFormed.after_reclaim (well : s.WellFormed) (claimable : s.isClaimable now)
    (id : CategoryId) (label : String) : s.after id label (.reclaim now) = s.free := by
  simp only [Seat.after]
  split
  · rfl
  next unlapsed =>
  have available := (well.claimable_iff.1 claimable).resolve_right unlapsed
  rw [WellFormed, available] at well
  obtain ⟨id, category, name, status, last, owner⟩ := s
  obtain rfl : status = .available := available
  obtain ⟨rfl, rfl⟩ : owner = none ∧ last = none := well
  rfl

namespace Matches

theorem refl (s : Seat) (now : Instant) : s.Matches s now :=
  .inl rfl

theorem trans (h : s.Matches t now) (h' : t.Matches u now) : s.Matches u now := by
  rcases h with rfl | ⟨claimable, claimable', same⟩
  · exact h'
  rcases h' with rfl | ⟨-, claimable'', same'⟩
  · exact .inr ⟨claimable, claimable', same⟩
  · exact .inr ⟨claimable, claimable'', same.trans same'⟩

/-- Holds that have lapsed stay lapsed as time goes on. -/
theorem later (h : s.Matches t now) (later : now ≤ time) : s.Matches t time := by
  rcases h with rfl | ⟨claimable, claimable', same⟩
  · exact .refl s time
  · exact .inr ⟨isClaimable_later claimable later, isClaimable_later claimable' later, same⟩

/-- A claim takes both seats, and then they are the same, or neither. -/
theorem claim?_eq (h : s.Matches t now) {claim : SeatClaim} (clock : claim.now = now) :
    t.claim? claim = s.claim? claim := by
  rcases h with rfl | ⟨claimable, claimable', same⟩
  · rfl
  · subst clock
    have reserved : t.reserve claim.hold claim.expiresAt = s.reserve claim.hold claim.expiresAt := by
      show t.free.reserve _ _ = s.free.reserve _ _
      rw [same]
    rw [claim?, claim?, if_pos claimable, if_pos claimable', reserved]

theorem sell?_eq (h : s.Matches t now) (hold : HoldId) : t.sell? hold now = s.sell? hold now := by
  rcases h with rfl | ⟨claimable, claimable', -⟩
  · rfl
  · rw [sell?, sell?, not_isHeldBy_of_claimable claimable, not_isHeldBy_of_claimable claimable']
    rfl

/-- Seats that may not be claimed match only if they are the same. -/
theorem eq_of_not_claimable (h : s.Matches t now) (taken : ¬ s.isClaimable now) : t = s := by
  rcases h with rfl | ⟨claimable, -⟩
  · rfl
  · exact absurd claimable taken

/-- A snapshot does not tell matching seats apart. -/
theorem alike (h : s.Matches t now) : s.Alike t now := by
  rcases h with rfl | ⟨claimable, claimable', -⟩
  · exact .refl s now
  · exact alike_of_claimable claimable claimable'

/-- Giving seats back that may be claimed makes no difference. -/
theorem of_kept_or_freed (claimable : s.isClaimable now) (claimable' : t.isClaimable now)
    (same : s.free = t.free) {s' t' : Seat} (h : s' = s ∨ s' = s.free) (h' : t' = t ∨ t' = t.free) :
    s'.Matches t' now := by
  have freed {s s' : Seat} (claimable : s.isClaimable now) (h : s' = s ∨ s' = s.free) :
      s'.isClaimable now ∧ s'.free = s.free := by
    rcases h with rfl | rfl
    · exact ⟨claimable, rfl⟩
    · exact ⟨isClaimable_free s now, rfl⟩
  obtain ⟨first, free⟩ := freed claimable h
  obtain ⟨second, free'⟩ := freed claimable' h'
  exact .inr ⟨first, second, free.trans (same.trans free'.symm)⟩

/-- **A call that is made to both seats at the time leaves matching seats.** -/
theorem after (h : s.Matches t now) {c : Ledger.Call} (clock : ∀ time ∈ c.time?, time = now)
    (id : CategoryId) (label : String) :
    (s.after id label c).Matches (t.after id label c) now := by
  rcases h with rfl | ⟨claimable, claimable', same⟩
  · exact .refl _ now
  have matched : s.Matches t now := .inr ⟨claimable, claimable', same⟩
  cases c with
  | reserveSeat claim =>
    have at_now : claim.now = now := clock _ rfl
    simp only [Seat.after]
    split
    · rw [matched.claim?_eq at_now, claim?, if_pos (at_now ▸ claimable)]
      exact .refl _ now
    · exact matched
  | sellSeat category name hold time =>
    obtain rfl : time = now := clock _ rfl
    simp only [Seat.after]
    split
    -- lapsed holds buy neither
    · rw [matched.sell?_eq, sell?, not_isHeldBy_of_claimable claimable]
      exact matched
    · exact matched
  | releaseSeat category name hold =>
    have freed (s : Seat) : s.after id label (.releaseSeat category name hold) = s ∨
        s.after id label (.releaseSeat category name hold) = s.free := by
      rcases s.after_cases id label (.releaseSeat category name hold) with
        e | ⟨_, ⟨⟩, -⟩ | ⟨_, -, -, -, e⟩ | ⟨_, _, ⟨⟩, -⟩ | ⟨_, ⟨⟩, -⟩
      · exact .inl e
      · exact .inr e
    exact of_kept_or_freed claimable claimable' same (freed s) (freed t)
  | reclaim time =>
    have freed (s : Seat) : s.after id label (.reclaim time) = s ∨
        s.after id label (.reclaim time) = s.free := by
      rcases s.after_cases id label (.reclaim time) with
        e | ⟨_, ⟨⟩, -⟩ | ⟨_, ⟨⟩, -⟩ | ⟨_, _, ⟨⟩, -⟩ | ⟨_, -, -, e⟩
      · exact .inl e
      · exact .inr e
    exact of_kept_or_freed claimable claimable' same (freed s) (freed t)
  | _ => exact matched

/-- A sweep of one of the seats leaves matching seats. -/
theorem swept (h : s.Matches t now) (id : CategoryId) (label : String) :
    (s.after id label (.reclaim now)).Matches t now := by
  refine trans ?_ h
  simp only [Seat.after]
  split
  · next lapsed =>
    exact .inr ⟨isClaimable_free s now, isClaimable_of_lapsed lapsed, rfl⟩
  · exact .refl s now

/-- A sweep of both makes them the same. -/
theorem eq_of_swept (h : s.Matches t now) (well : s.WellFormed) (well' : t.WellFormed)
    (id : CategoryId) (label : String) :
    t.after id label (.reclaim now) = s.after id label (.reclaim now) := by
  rcases h with rfl | ⟨claimable, claimable', same⟩
  · rfl
  · rw [well.after_reclaim claimable, well'.after_reclaim claimable', same]

end Matches

end Seat

/-! ### Sections -/

namespace Section

/-- At a time the two sections have the same category and matching seats. -/
structure Matches (s t : Section) (now : Instant) : Prop where
  category : t.category = s.category
  seats : List.Forall₂ (fun e e' => e.1 = e'.1 ∧ e.2.Matches e'.2 now) s.seats.entries t.seats.entries

namespace Matches

variable {s t : Section} {now time : Instant}

theorem refl (s : Section) (now : Instant) : s.Matches s now where
  category := rfl
  seats := List.forall₂_same.2 fun e _ => ⟨rfl, .refl e.2 now⟩

theorem later (h : s.Matches t now) (le : now ≤ time) : s.Matches t time where
  category := h.category
  seats := h.seats.imp fun _ _ m => ⟨m.1, m.2.later le⟩

/-- Seats with the same label match. -/
theorem seat (h : s.Matches t now) (label : String) :
    Option.Rel (fun a b => a.Matches b now) (s.seats.get? label) (t.seats.get? label) := by
  obtain ⟨-, seats⟩ := h
  unfold Registry.get?
  generalize s.seats.entries = es, t.seats.entries = es' at seats ⊢
  induction seats with
  | nil => exact .none
  | cons first rest ih =>
    rename_i e e' es es'
    obtain ⟨key, matched⟩ := first
    by_cases here : e.1 = label
    · have here' : e'.1 = label := key ▸ here
      simp only [List.find?_cons, here, here', beq_self_eq_true]
      exact .some matched
    · have here' : e'.1 ≠ label := key ▸ here
      simp only [List.find?_cons, beq_false_of_ne here, beq_false_of_ne here']
      exact ih

/-- As many of the one as of the other have what matching seats have both or neither. -/
theorem countP_eq (h : s.Matches t now) {p : Seat → Bool}
    (alike : ∀ a b : Seat, a.Matches b now → p b = p a) :
    t.seats.values.countP p = s.seats.values.countP p := by
  obtain ⟨-, seats⟩ := h
  unfold Registry.values
  generalize s.seats.entries = es, t.seats.entries = es' at seats ⊢
  induction seats with
  | nil => rfl
  | cons first rest ih =>
    simp only [List.map_cons, List.countP_cons, ih, alike _ _ first.2]

/-- A snapshot does not tell matching sections apart if they have no pools. -/
theorem alike (h : s.Matches t now) (pool : s.pool = .empty) (pool' : t.pool = .empty) :
    s.Alike t now where
  category := h.category
  size := h.seats.length_eq.symm
  claimable := h.countP_eq fun _ _ m => m.alike.claimable
  sold := h.countP_eq fun _ _ m => m.alike.sold
  pool := by
    rw [pool, pool']
    exact .refl .empty now

theorem after (h : s.Matches t now) {c : Ledger.Call} (clock : ∀ time ∈ c.time?, time = now)
    (id : CategoryId) : (s.after id c).Matches (t.after id c) now where
  category := h.category
  seats := by
    simp only [Section.after, Registry.mapEntries, List.forall₂_map_left_iff,
      List.forall₂_map_right_iff]
    exact h.seats.imp fun e e' m => ⟨m.1, m.1 ▸ m.2.after clock id e.1⟩

theorem swept (h : s.Matches t now) (id : CategoryId) :
    (s.after id (.reclaim now)).Matches t now where
  category := h.category
  seats := by
    simp only [Section.after, Registry.mapEntries, List.forall₂_map_left_iff]
    exact h.seats.imp fun e e' m => ⟨m.1, m.2.swept id e.1⟩

end Matches

end Section

/-! ### Ledgers -/

/-- Two options are related if neither is there, or both are and are related. -/
theorem rel_cases {α β : Type} {R : α → β → Prop} {a : Option α} {b : Option β}
    (h : Option.Rel R a b) :
    (a = none ∧ b = none) ∨ ∃ x y, a = some x ∧ b = some y ∧ R x y := by
  cases h with
  | none => exact .inl ⟨rfl, rfl⟩
  | some m => exact .inr ⟨_, _, rfl, rfl, m⟩

namespace MemoryLedger

/-- At a time the two ledgers have the same categories with matching seats. -/
def Matches (l l' : MemoryLedger) (now : Instant) : Prop :=
  ∀ id, Option.Rel (fun s t => s.Matches t now) (l.sections.get? id) (l'.sections.get? id)

namespace Matches

variable {l l' : MemoryLedger} {now time : Instant}

theorem refl (l : MemoryLedger) (now : Instant) : l.Matches l now := by
  intro id
  cases l.sections.get? id with
  | none => exact .none
  | some s => exact .some (.refl s now)

theorem later (h : l.Matches l' now) (le : now ≤ time) : l.Matches l' time := by
  intro id
  rcases rel_cases (h id) with ⟨e, e'⟩ | ⟨s, t, e, e', m⟩ <;> rw [e, e']
  · exact .none
  · exact .some (m.later le)

/-- Seats that stand in the same place match. -/
theorem seat (h : l.Matches l' now) (id : CategoryId) (label : String) :
    Option.Rel (fun s t => s.Matches t now) (l.seat? id label) (l'.seat? id label) := by
  unfold seat?
  rcases rel_cases (h id) with ⟨e, e'⟩ | ⟨s, t, e, e', m⟩ <;> rw [e, e']
  · exact .none
  · exact m.seat label

/-- **A call that is made to both ledgers at the time leaves matching ledgers.** -/
theorem after (h : l.Matches l' now) {c : Ledger.Call} (clock : ∀ time ∈ c.time?, time = now) :
    (l.after c).Matches (l'.after c) now := by
  intro id
  rw [get?_after, get?_after]
  rcases rel_cases (h id) with ⟨e, e'⟩ | ⟨s, t, e, e', m⟩ <;> rw [e, e']
  · exact .none
  · exact .some (m.after clock id)

/-- **A sweep of one of the ledgers leaves matching ledgers.** -/
theorem swept (h : l.Matches l' now) : (l.after (.reclaim now)).Matches l' now := by
  intro id
  rw [get?_after]
  rcases rel_cases (h id) with ⟨e, e'⟩ | ⟨s, t, e, e', m⟩ <;> rw [e, e']
  · exact .none
  · exact .some (m.swept id)

/-- A claim gets the same seat of both, or none of either. -/
theorem claim?_eq (h : l.Matches l' now) (claim : SeatClaim) (clock : claim.now = now) :
    (l'.seat? claim.category claim.label).bind (fun s => s.claim? claim) =
      (l.seat? claim.category claim.label).bind fun s => s.claim? claim := by
  rcases rel_cases (h.seat claim.category claim.label) with ⟨e, e'⟩ | ⟨s, t, e, e', m⟩ <;> rw [e, e']
  exact m.claim?_eq clock

theorem sell?_eq (h : l.Matches l' now) (id : CategoryId) (label : String) (hold : HoldId) :
    (l'.seat? id label).bind (fun s => s.sell? hold now) =
      (l.seat? id label).bind fun s => s.sell? hold now := by
  rcases rel_cases (h.seat id label) with ⟨e, e'⟩ | ⟨s, t, e, e', m⟩ <;> rw [e, e']
  exact m.sell?_eq hold

/-- Where a claim gets nothing, the same seat stands. -/
theorem seat?_eq_of_not_claimed (h : l.Matches l' now) (claim : SeatClaim) (clock : claim.now = now)
    (refused : (l.seat? claim.category claim.label).bind (fun s => s.claim? claim) = none) :
    l'.seat? claim.category claim.label = l.seat? claim.category claim.label := by
  rcases rel_cases (h.seat claim.category claim.label) with ⟨e, e'⟩ | ⟨s, t, e, e', m⟩ <;>
    rw [e] at refused <;> rw [e, e']
  have taken : ¬ s.isClaimable now := by
    intro claimable
    simp [Seat.claim?, clock, claimable] at refused
  rw [m.eq_of_not_claimable taken]

/-- A sweep of both ledgers leaves them the same seats. -/
theorem seat?_of_swept (h : l.Matches l' now) (reach : l.Reachable) (reach' : l'.Reachable)
    (id : CategoryId) (label : String) :
    (l'.after (.reclaim now)).seat? id label = (l.after (.reclaim now)).seat? id label := by
  rw [seat?_after, seat?_after]
  rcases rel_cases (h.seat id label) with ⟨e, e'⟩ | ⟨s, t, e, e', m⟩ <;> rw [e, e']
  rw [Option.map_some, Option.map_some,
    m.eq_of_swept (reach.seat e).2.2 (reach'.seat e').2.2]

end Matches

end MemoryLedger

end BoxOffice
