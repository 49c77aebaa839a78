import BoxOffice.Proofs.Ledger.Pool
import BoxOffice.Proofs.Ledger.Run

/-!
# No place of a pool is made or lost

A standing category comes with some places. Whatever is then done to the ledger, what is left of the
pool, the places held and the places sold make up that number again. So the arithmetic of the counter
is exact: nothing is taken from an empty pool, no place given back overflows, and the cap on the
counter cuts nothing off.
-/

namespace BoxOffice

/-- A pool all of whose places are accounted for: it came with `start` of them, and its capacity is
`total`. -/
structure Pool.Conserves (p : Pool) (start total : UInt32) : Prop where
  balance : p.available.toNat + p.countState .held + p.countState .confirmed = start.toNat
  /-- No more places are out than there are. -/
  within_capacity : p.countState .held + p.countState .confirmed ≤ total.toNat
  /-- A place that is asked for is taken from those that are left, or the counter stays. -/
  take_exact : ∀ category hold now expiresAt,
    (p.take category hold now expiresAt).2.available = p.available ∨
    (p.take category hold now expiresAt).2.available.toNat + 1 = p.available.toNat
  /-- A place given back fits into the counter and below the cap. -/
  giveBack_exact : ∀ hold q, p.giveBack? hold total = some q →
    p.available.toNat + 1 < UInt32.size ∧ q.available.toNat = p.available.toNat + 1
  /-- So does each of the places that a sweep puts back one after the other. -/
  putBack_exact : ∀ now places, places ≤ p.lapsed now →
    p.available.toNat + places < UInt32.size ∧
    (p.putBack places total).available.toNat = p.available.toNat + places
  reclaim_exact : ∀ now,
    (p.reclaim now total).available.toNat = p.available.toNat + p.lapsed now

namespace Pool

theorem take_available (p : Pool) (category : CategoryId) (hold : HoldId)
    (now expiresAt : Instant) :
    (p.take category hold now expiresAt).2.available = p.available ∨
    (p.take category hold now expiresAt).2.available.toNat + 1 = p.available.toNat := by
  rcases p.take_cases category hold now expiresAt with
    ⟨_, -, -, e⟩ | ⟨_, -, -, e⟩ | ⟨-, ⟨-, e⟩ | ⟨some_left, e⟩⟩ <;> rw [e]
  · exact .inl rfl
  · exact .inl rfl
  · exact .inl rfl
  · exact .inr (available_sub_one some_left)

/-- A pool that has the places it came with, within its capacity, accounts for all of them. -/
theorem conserves_of_units {p : Pool} {start total : UInt32} (h : p.units = start.toNat)
    (fits : start ≤ total) : p.Conserves start total := by
  rw [UInt32.le_iff_toNat_le] at fits
  have small := total.toNat_lt
  have size : UInt32.size = 4294967296 := rfl
  have within : p.units ≤ total.toNat := h ▸ fits
  refine
    { balance := h
      within_capacity := ?_
      take_exact := take_available p
      giveBack_exact := fun hold q back => ⟨?_, available_giveBack within back⟩
      putBack_exact := fun now places le => ?_
      reclaim_exact := available_reclaim within }
  · unfold units at within
    omega
  · obtain ⟨held, there, state, -⟩ := giveBack?_eq_some_iff.1 back
    have := available_lt_units there state
    omega
  · have := p.available_add_lapsed_le_units now
    rw [available_putBack]
    omega

end Pool

namespace MemoryLedger

/-- **No oversell and no lost place.** Whatever is done to a ledger after a standing category came,
the category is there and its pool accounts for all the places it came with. -/
theorem stock_conserved {l : MemoryLedger} {c : Category} (came : (l.addStanding c).1 = .ok ())
    (acts : List Act) :
    ∃ s, ((l.addStanding c).2.run acts).sections.get? c.id = some s ∧ s.category = c ∧
      s.pool.Conserves c.available c.total := by
  rcases addStanding_cases l c with ⟨e, he⟩ | ⟨-, -, fits, -, he⟩
  · simp [he] at came
  have there : (l.addStanding c).2.sections.get? c.id = some (openStanding c) := by
    simp [he, Registry.get?_set]
  have start : (openStanding c).pool.units = c.available.toNat := by
    simp [Pool.units, openStanding, Pool.countState]
  have step : ∀ (s : Section) call, s.category = c ∧ s.pool.units = c.available.toNat →
      (s.after c.id call).category = c ∧ (s.after c.id call).pool.units = c.available.toNat := by
    rintro s call ⟨rfl, units⟩
    have within : s.pool.units ≤ s.category.total.toNat := units ▸ UInt32.le_iff_toNat_le.1 fits
    exact ⟨rfl, (Pool.units_after within _ _).trans units⟩
  obtain ⟨s, hs, same, units⟩ := run_keeps step there ⟨rfl, start⟩ acts
  exact ⟨s, hs, same, Pool.conserves_of_units units fits⟩

/-- The greatest pool there is, from which a hold took a place that lapsed, was swept and was taken
again by the same hold. -/
theorem stock_conserved_greatest :
    let c := Category.standing ⟨20⟩ ⟨1⟩ "Floor" ⟨4500⟩ 4294967295
    (empty.addStanding c).1 = .ok () ∧
    ∃ s, ((empty.addStanding c).2.run
        [.call (.takeStock ⟨20⟩ ⟨.random 1⟩ ⟨0⟩ ⟨10⟩), .call (.reclaim ⟨11⟩),
          .call (.takeStock ⟨20⟩ ⟨.random 1⟩ ⟨12⟩ ⟨20⟩)]).sections.get? ⟨20⟩ = some s ∧
      s.category = c ∧ s.pool.Conserves 4294967295 4294967295 :=
  ⟨rfl, stock_conserved rfl _⟩

end MemoryLedger

end BoxOffice
