import BoxOffice.Proofs.Ledger.Held

/-!
# What a hold has

A hold has a share while the seat is reserved for it or sold to it, or while its place is held or sold
(`Has`). It comes to have one only by a call in its own name that is about this share
(`has_after_cases`), and such a call changes nothing else (`Reachable.sameBut`). A ledger may not know
a hold at all (`Unknown`).
-/

namespace BoxOffice

/-- A call about a share is made in the name of the share's hold. -/
theorem Ledger.Call.hold?_of_share? {c : Ledger.Call} {share : Share} (h : c.share? = some share) :
    c.hold? = some share.hold := by
  cases c <;> cases h <;> rfl

namespace MemoryLedger

/-- A hold has its share: the seat is reserved for it or sold to it, or its place is held or sold. -/
def Has (l : MemoryLedger) (share : Share) : Prop :=
  match share.label with
  | some label => ∃ s, l.seat? share.category label = some s ∧ s.hold = some share.hold
  | none => ∃ h, l.stock? share.category share.hold = some h ∧
      (h.state = .held ∨ h.state = .confirmed)

/-- No seat is in the name of the hold, and no pool has heard of it. -/
def Unknown (l : MemoryLedger) (hold : HoldId) : Prop :=
  (∀ category label s, l.seat? category label = some s → s.hold ≠ some hold) ∧
    ∀ category, l.stock? category hold = none

instance (l : MemoryLedger) (hold : HoldId) : Decidable (l.Unknown hold) :=
  decidable_of_iff
    (∀ s ∈ l.sections.values, (∀ seat ∈ s.seats.values, seat.hold ≠ some hold) ∧
      s.pool.holds.get? hold = none) <| by
    constructor
    · intro all
      refine ⟨fun category label seat there => ?_, fun category => ?_⟩
      · obtain ⟨s, found, on_seat⟩ := Option.bind_eq_some_iff.1 there
        exact (all s (Registry.mem_values.2 ⟨category, found⟩)).1 seat
          (Registry.mem_values.2 ⟨label, on_seat⟩)
      · refine Option.bind_eq_none_iff.2 fun s found => ?_
        exact (all s (Registry.mem_values.2 ⟨category, found⟩)).2
    · rintro ⟨seats, stock⟩ s mem
      obtain ⟨category, found⟩ := Registry.mem_values.1 mem
      refine ⟨fun seat on => ?_, Option.bind_eq_none_iff.1 (stock category) s found⟩
      obtain ⟨label, on_seat⟩ := Registry.mem_values.1 on
      exact seats category label seat (Option.bind_eq_some_iff.2 ⟨s, found, on_seat⟩)

variable {l : MemoryLedger} {share : Share}

/-- An unknown hold has nothing. -/
theorem Unknown.not_has (h : l.Unknown share.hold) : ¬ l.Has share := by
  unfold Has
  cases share.label with
  | some label =>
    rintro ⟨s, there, mine⟩
    exact h.1 _ _ s there mine
  | none =>
    rintro ⟨place, there, -⟩
    simp [h.2] at there

/-- A share that a hold has after a call it had before, or the call is about this share. -/
theorem has_after_cases {c : Ledger.Call} (h : (l.after c).Has share) :
    l.Has share ∨ c.share? = some share := by
  obtain ⟨hold, category, label⟩ := share
  unfold Has at h ⊢
  cases label with
  | some label =>
    obtain ⟨s, there, mine⟩ := h
    simp only at there mine ⊢
    rw [seat?_after] at there
    obtain ⟨s₀, there₀, rfl⟩ := Option.map_eq_some_iff.1 there
    rcases s₀.after_cases category label c with
      e | ⟨claim, rfl, rfl, rfl, -, e⟩ | ⟨_, -, -, -, e⟩ | ⟨_, _, -, -, e⟩ | ⟨_, -, -, e⟩ <;>
      rw [e] at mine
    · exact .inl ⟨s₀, there₀, mine⟩
    · obtain rfl : claim.hold = hold := Option.some.inj mine
      exact .inr rfl
    · cases mine
    -- a sale leaves the seat to the hold that had it
    · exact .inl ⟨s₀, there₀, mine⟩
    · cases mine
  | none =>
    obtain ⟨h, there, out⟩ := h
    simp only at there out ⊢
    rcases l.stock?_after_cases c category hold with
      e | ⟨_, _, rfl, -⟩ | ⟨h', _, _, -, there', lapsed, -⟩ | ⟨h', -, -, -, e⟩ |
      ⟨h', _, -, there', live, -⟩ | ⟨h', _, -, -, -, e⟩
    · exact .inl ⟨h, e.symm.trans there, out⟩
    · exact .inr rfl
    · exact .inl ⟨h', there', .inl (StockHold.isLapsed_iff.1 lapsed).1⟩
    · obtain rfl := Option.some.inj (e.symm.trans there)
      simp at out
    · exact .inl ⟨h', there', .inl (StockHold.isLive_iff.1 live).1⟩
    · obtain rfl := Option.some.inj (e.symm.trans there)
      simp at out

/-- Two ledgers are the same but for one share: the same categories with the same capacities, the same
other seats and the same other holds, and no place is made or lost. -/
structure SameBut (l l' : MemoryLedger) (share : Share) : Prop where
  elsewhere : ∀ id, id ≠ share.category → l'.sections.get? id = l.sections.get? id
  category : ∀ id, (l'.sections.get? id).map Section.category =
    (l.sections.get? id).map Section.category
  seats : ∀ id label, share.label ≠ some label → l'.seat? id label = l.seat? id label
  holds : ∀ id hold, hold ≠ share.hold ∨ share.label.isSome → l'.stock? id hold = l.stock? id hold
  places : ∀ id, l'.places? id = l.places? id

theorem SameBut.refl : l.SameBut l share :=
  ⟨fun _ _ => rfl, fun _ => rfl, fun _ _ _ => rfl, fun _ _ _ => rfl, fun _ => rfl⟩

/-- A call about a share changes nothing else. -/
theorem Reachable.sameBut (reach : l.Reachable) {c : Ledger.Call} (about : c.share? = some share) :
    l.SameBut (l.after c) share where
  elsewhere id other := by
    rw [get?_after]
    refine (Option.map_congr fun s _ => ?_).trans Option.map_id'
    refine Section.after_eq_self (fun label seat _ => ?_) ?_
    · cases c <;> cases about <;> simp [Seat.after, other]
    · cases c <;> cases about <;> simp [Pool.after, other]
  category id := by
    rw [get?_after, Option.map_map]
    rfl
  seats id label other := by
    rw [seat?_after]
    refine (Option.map_congr fun s _ => ?_).trans Option.map_id'
    cases c with
    | reserveSeat | sellSeat =>
      cases about
      exact if_neg fun here => other (congrArg some here.2.symm)
    | takeStock | settleStock => rfl
    | _ => cases about
  holds id hold other := by
    rcases l.stock?_after_cases c id hold with
      e | ⟨_, _, rfl, -⟩ | ⟨_, _, _, rfl, -⟩ | ⟨_, rfl, -⟩ | ⟨_, _, rfl, -⟩ | ⟨_, _, rfl, -⟩
    · exact e
    all_goals cases about <;> simp at other
  places := reach.places?_after c

end MemoryLedger

end BoxOffice
