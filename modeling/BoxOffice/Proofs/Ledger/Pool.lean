import BoxOffice.Proofs.Ledger.Effect

/-!
# Pools

What becomes of a pool when a hold asks for a place (`take_cases`), gives it back
(`giveBack?_eq_some_iff`) or has it sold (`settle?_eq_some_iff`), and how many places are then
available, held and sold. `units` counts all three; no call changes it as long as it is within the
capacity (`units_after`).
-/

namespace BoxOffice

namespace StockHold

@[simp] theorem isLive_iff {h : StockHold} {now : Instant} :
    h.isLive now = true ↔ h.state = .held ∧ now ≤ h.expiresAt := by
  simp [isLive]

@[simp] theorem isLapsed_iff {h : StockHold} {now : Instant} :
    h.isLapsed now = true ↔ h.state = .held ∧ h.expiresAt < now := by
  simp [isLapsed]

/-- What a sweep makes of a hold. -/
def swept (h : StockHold) (now : Instant) : StockHold :=
  if h.isLapsed now then { h with state := .expired } else h

theorem swept_of_not_lapsed {h : StockHold} {now : Instant} (live : ¬ h.isLapsed now) :
    h.swept now = h :=
  if_neg live

end StockHold

namespace Pool

/-- The ways in which asking for a place may end. -/
theorem take_cases (p : Pool) (category : CategoryId) (hold : HoldId) (now expiresAt : Instant) :
    (∃ h, p.holds.get? hold = some h ∧ (h.isLive now ∨ h.state = .confirmed) ∧
      p.take category hold now expiresAt = (.existing h, p)) ∨
    (∃ h, p.holds.get? hold = some h ∧ h.isLapsed now ∧
      p.take category hold now expiresAt =
        (.taken { h with expiresAt }, p.changeHold hold fun h => { h with expiresAt })) ∨
    ((∀ h, p.holds.get? hold = some h → h.state = .released ∨ h.state = .expired) ∧
      ((p.available = 0 ∧ p.take category hold now expiresAt = (.soldOut, p)) ∨
      (p.available ≠ 0 ∧ p.take category hold now expiresAt =
        (.taken { hold, category, state := .held, expiresAt },
          { available := p.available - 1
            holds := p.holds.set hold { hold, category, state := .held, expiresAt } })))) := by
  -- a hold that is new, or whose place went back, takes a place from what is left
  have fresh : ∀ h : StockHold,
      (p.available = 0 ∧ p.takeFresh h = (.soldOut, p)) ∨
      (p.available ≠ 0 ∧ p.takeFresh h =
        (.taken h, { available := p.available - 1, holds := p.holds.set h.hold h })) := by
    intro h
    unfold takeFresh
    split
    · next none_left => exact .inl ⟨none_left, rfl⟩
    · next some_left => exact .inr ⟨some_left, rfl⟩
  unfold take
  cases there : p.holds.get? hold with
  | none => exact .inr (.inr ⟨by simp, fresh _⟩)
  | some h =>
    obtain ⟨owner, place, state, last⟩ := h
    cases state with
    | held =>
      by_cases live : now ≤ last
      · exact .inl ⟨_, rfl, .inl (by simp [live]), if_pos live⟩
      · have lapsed : last < now := Instant.not_le.1 live
        exact .inr (.inl ⟨_, rfl, by simp [lapsed], if_neg live⟩)
    | confirmed => exact .inl ⟨_, rfl, .inr rfl, rfl⟩
    | released | expired => exact .inr (.inr ⟨by simp, fresh _⟩)

/-- A lapsed hold is renewed. -/
theorem take_of_lapsed {p : Pool} {hold : HoldId} {h : StockHold} {now : Instant}
    (there : p.holds.get? hold = some h) (lapsed : h.isLapsed now) (category : CategoryId)
    (expiresAt : Instant) :
    p.take category hold now expiresAt =
      (.taken { h with expiresAt }, p.changeHold hold fun h => { h with expiresAt }) := by
  obtain ⟨held, past⟩ := StockHold.isLapsed_iff.1 lapsed
  simp [take, there, held, Instant.not_le.2 past]

theorem giveBack?_eq_some_iff {p q : Pool} {hold : HoldId} {total : UInt32} :
    p.giveBack? hold total = some q ↔ ∃ h, p.holds.get? hold = some h ∧ h.state = .held ∧
      q = (p.changeHold hold fun h => { h with state := .released }).putBack 1 total := by
  unfold giveBack?
  cases p.holds.get? hold with
  | none => simp
  | some h =>
    by_cases held : h.state = .held
    · simp [held, eq_comm]
    · simp only [held, if_false, reduceCtorEq, Option.some.injEq, false_iff]
      rintro ⟨h, rfl, state, -⟩
      exact held state

theorem settle?_eq_some_iff {p q : Pool} {hold : HoldId} {now : Instant} :
    p.settle? hold now = some q ↔ ∃ h, p.holds.get? hold = some h ∧ h.isLive now ∧
      q = p.changeHold hold fun h => { h with state := .confirmed } := by
  unfold settle?
  cases p.holds.get? hold with
  | none => simp
  | some h =>
    by_cases live : h.state = .held ∧ now ≤ h.expiresAt
    · constructor
      · intro settled
        obtain rfl := Option.some.inj ((if_pos live).symm.trans settled)
        exact ⟨h, rfl, StockHold.isLive_iff.2 live, rfl⟩
      · rintro ⟨_, there, -, rfl⟩
        obtain rfl := Option.some.inj there
        exact if_pos live
    · simp only [live, if_false, reduceCtorEq, Option.some.injEq, false_iff]
      rintro ⟨h, rfl, is_live, -⟩
      exact live (StockHold.isLive_iff.1 is_live)

theorem reclaim_eq (p : Pool) (now : Instant) (total : UInt32) :
    p.reclaim now total =
      { p with holds := p.holds.mapEntries fun _ h => h.swept now }.putBack (p.lapsed now) total :=
  rfl

theorem get?_reclaim_holds (p : Pool) (now : Instant) (total : UInt32) (hold : HoldId) :
    (p.reclaim now total).holds.get? hold = (p.holds.get? hold).map fun h => h.swept now :=
  Registry.get?_mapEntries p.holds (fun _ h => h.swept now) hold

/-! ### Counting places -/

theorem available_putBack (p : Pool) (places : Nat) (total : UInt32) :
    (p.putBack places total).available.toNat = min (p.available.toNat + places) total.toNat := by
  have := total.toNat_lt
  simp only [putBack, UInt32.toNat_ofNat']
  omega

/-- A place can be taken from what is left as long as something is left. -/
theorem available_sub_one {p : Pool} (some_left : p.available ≠ 0) :
    (p.available - 1).toNat + 1 = p.available.toNat := by
  have positive : 1 ≤ p.available := by
    rw [UInt32.le_iff_toNat_le]
    have : p.available.toNat ≠ 0 := fun h => some_left (UInt32.toNat_inj.1 h)
    have : (1 : UInt32).toNat = 1 := rfl
    omega
  rw [UInt32.toNat_sub_of_le _ _ positive, UInt32.le_iff_toNat_le] at *
  have : (1 : UInt32).toNat = 1 := rfl
  omega

/-- Places put back one after the other are places put back together. -/
theorem putBack_putBack (p : Pool) (places more : Nat) (total : UInt32) :
    (p.putBack places total).putBack more total = p.putBack (places + more) total := by
  have h := available_putBack p places total
  simp only [putBack] at h ⊢
  congr 2
  omega

@[simp] theorem countState_putBack (p : Pool) (places : Nat) (total : UInt32) (state : HoldState) :
    (p.putBack places total).countState state = p.countState state := rfl

theorem countState_changeHold {p : Pool} {hold : HoldId} {h : StockHold}
    (there : p.holds.get? hold = some h) (change : StockHold → StockHold) (state : HoldState) :
    (p.changeHold hold change).countState state + (if h.state = state then 1 else 0) =
      p.countState state + if (change h).state = state then 1 else 0 := by
  simpa [countState, changeHold] using
    Registry.countP_modify there change fun h => h.state == state

theorem countState_set {p : Pool} {hold : HoldId} (state : HoldState)
    (gone : ∀ h, p.holds.get? hold = some h → h.state ≠ state) (h : StockHold)
    (available : UInt32) :
    countState { available, holds := p.holds.set hold h } state =
      p.countState state + if h.state = state then 1 else 0 := by
  simpa [countState] using Registry.countP_set (p := fun h => h.state == state)
    (fun h there => by simpa using gone h there) h

/-- A hold that is lapsed is held. -/
theorem lapsed_le_held (p : Pool) (now : Instant) : p.lapsed now ≤ p.countState .held := by
  refine List.countP_mono_left fun h _ lapsed => ?_
  simp [(StockHold.isLapsed_iff.1 lapsed).1]

/-- A held place is kept by a lapsed hold or by a live one. -/
theorem lapsed_add_live {h : StockHold} (held : h.state = .held) (time : Instant) :
    (if h.isLapsed time then 1 else 0) + (if h.isLive time then 1 else 0) = 1 := by
  by_cases live : time ≤ h.expiresAt
  · have : ¬ h.expiresAt < time := fun past => Instant.not_le.2 past live
    simp [held, live, this]
  · simp [held, live, Instant.not_le.1 live]

/-- The places that are held are live or lapsed. -/
theorem lapsed_add_countP_live (p : Pool) (now : Instant) :
    p.lapsed now + (p.holds.values.countP fun h => h.isLive now) = p.countState .held := by
  unfold lapsed countState
  induction p.holds.values with
  | nil => rfl
  | cons h holds ih =>
    have one : (if h.isLapsed now then 1 else 0) + (if h.isLive now then 1 else 0) =
        if h.state == .held then 1 else 0 := by
      by_cases held : h.state = .held
      · rw [lapsed_add_live held, held]
        rfl
      · simp [held]
    simp only [List.countP_cons]
    omega

theorem countState_reclaim (p : Pool) (now : Instant) (total : UInt32) (state : HoldState) :
    (p.reclaim now total).countState state =
      p.holds.values.countP fun h => (h.swept now).state == state := by
  show (p.holds.mapValues fun h => h.swept now).values.countP _ = _
  rw [Registry.values_mapValues, List.countP_map]
  rfl

/-- A sweep takes the lapsed holds from those that are held. -/
theorem countState_reclaim_held (p : Pool) (now : Instant) (total : UInt32) :
    (p.reclaim now total).countState .held + p.lapsed now = p.countState .held := by
  rw [countState_reclaim]
  unfold lapsed countState
  -- the holds are swept one by one, so each lapsed one leaves the first count and enters the second
  induction p.holds.values with
  | nil => rfl
  | cons h rest ih =>
    simp only [List.countP_cons]
    by_cases lapsed : h.isLapsed now
    · have swept : (h.swept now).state = .expired := by rw [StockHold.swept, if_pos lapsed]
      have held : h.state = .held := (StockHold.isLapsed_iff.1 lapsed).1
      simp only [swept, held, lapsed]
      simp only [beq_self_eq_true, if_true, reduceCtorEq, beq_iff_eq, if_false] at ih ⊢
      omega
    · rw [StockHold.swept_of_not_lapsed lapsed, if_neg lapsed]
      omega

/-- A sweep leaves the sold places alone. -/
theorem countState_reclaim_confirmed (p : Pool) (now : Instant) (total : UInt32) :
    (p.reclaim now total).countState .confirmed = p.countState .confirmed := by
  rw [countState_reclaim]
  refine List.countP_congr fun h _ => ?_
  by_cases lapsed : h.isLapsed now
  · simp [StockHold.swept, lapsed, (StockHold.isLapsed_iff.1 lapsed).1]
  · rw [StockHold.swept_of_not_lapsed lapsed]

/-- A sweep leaves no hold of a pool lapsed. -/
theorem lapsed_reclaim (p : Pool) (now : Instant) (total : UInt32) :
    (p.reclaim now total).lapsed now = 0 := by
  unfold lapsed
  rw [List.countP_eq_zero]
  intro h mem
  obtain ⟨hold, there⟩ := Registry.mem_values.1 mem
  rw [get?_reclaim_holds] at there
  obtain ⟨h₀, -, rfl⟩ := Option.map_eq_some_iff.1 there
  by_cases lapsed : h₀.isLapsed now
  · simp [StockHold.swept, lapsed]
  · rwa [StockHold.swept_of_not_lapsed lapsed]

/-- The places of a pool: what is left, what is held and what is sold. -/
def units (p : Pool) : Nat :=
  p.available.toNat + p.countState .held + p.countState .confirmed

/-- Asking for a place moves it from what is left to what is held, or moves nothing. -/
theorem units_take (p : Pool) (category : CategoryId) (hold : HoldId) (now expiresAt : Instant) :
    (p.take category hold now expiresAt).2.units = p.units := by
  rcases p.take_cases category hold now expiresAt with
    ⟨h, -, -, e⟩ | ⟨h, there, lapsed, e⟩ | ⟨gone, ⟨-, e⟩ | ⟨some_left, e⟩⟩ <;> rw [e]
  -- a lapsed hold is renewed: it counted as held before, and does so still
  · have held := countState_changeHold there (fun h => { h with expiresAt }) .held
    have confirmed := countState_changeHold there (fun h => { h with expiresAt }) .confirmed
    have left : (p.changeHold hold fun h => { h with expiresAt }).available = p.available := rfl
    dsimp only at held confirmed
    simp only [units, left]
    omega
  -- a place is taken: one less is left, and a hold that did not count before is held
  · have held := countState_set .held (fun h there => by
      rcases gone h there with e | e <;> simp [e])
      { hold, category, state := .held, expiresAt } (p.available - 1)
    have confirmed := countState_set .confirmed (fun h there => by
      rcases gone h there with e | e <;> simp [e])
      { hold, category, state := .held, expiresAt } (p.available - 1)
    have left := available_sub_one some_left
    simp only [units, held, confirmed, if_true, reduceCtorEq, if_false]
    omega

/-- Where a place is held, one more than is left is within the places of the pool. -/
theorem available_lt_units {p : Pool} {hold : HoldId} {h : StockHold}
    (there : p.holds.get? hold = some h) (held : h.state = .held) :
    p.available.toNat + 1 ≤ p.units := by
  have counted : 0 < p.countState .held :=
    List.countP_pos_iff.2 ⟨h, Registry.mem_values.2 ⟨hold, there⟩, by simp [held]⟩
  unfold units
  omega

/-- What is left and what a sweep would give back are within the places of the pool. -/
theorem available_add_lapsed_le_units (p : Pool) (now : Instant) :
    p.available.toNat + p.lapsed now ≤ p.units := by
  have := p.lapsed_le_held now
  unfold units
  omega

variable {p : Pool} {total : UInt32}

/-- Within the capacity, a place that is given back is not lost. -/
theorem available_giveBack (fits : p.units ≤ total.toNat) {q : Pool} {hold : HoldId}
    (back : p.giveBack? hold total = some q) : q.available.toNat = p.available.toNat + 1 := by
  obtain ⟨h, there, held, rfl⟩ := giveBack?_eq_some_iff.1 back
  have := available_lt_units there held
  rw [available_putBack]
  -- the cap does not bite, since the place that comes back was within the capacity
  show min (p.available.toNat + 1) _ = _
  omega

theorem units_giveBack (fits : p.units ≤ total.toNat) {q : Pool} {hold : HoldId}
    (back : p.giveBack? hold total = some q) : q.units = p.units := by
  have left := available_giveBack fits back
  obtain ⟨h, there, held, rfl⟩ := giveBack?_eq_some_iff.1 back
  have held' := countState_changeHold there (fun h => { h with state := .released }) .held
  have confirmed := countState_changeHold there (fun h => { h with state := .released }) .confirmed
  simp only [held, if_true, reduceCtorEq, if_false] at held' confirmed
  simp only [units, left, countState_putBack]
  omega

theorem units_settle {q : Pool} {hold : HoldId} {now : Instant}
    (sold : p.settle? hold now = some q) : q.units = p.units := by
  obtain ⟨h, there, live, rfl⟩ := settle?_eq_some_iff.1 sold
  have held := countState_changeHold there (fun h => { h with state := .confirmed }) .held
  have confirmed := countState_changeHold there (fun h => { h with state := .confirmed }) .confirmed
  have left : (p.changeHold hold fun h => { h with state := .confirmed }).available = p.available :=
    rfl
  simp only [(StockHold.isLive_iff.1 live).1, if_true, reduceCtorEq, if_false] at held confirmed
  simp only [units, left]
  omega

/-- Within the capacity, a sweep gives back one place for each lapsed hold. -/
theorem available_reclaim (fits : p.units ≤ total.toNat) (now : Instant) :
    (p.reclaim now total).available.toNat = p.available.toNat + p.lapsed now := by
  have := p.available_add_lapsed_le_units now
  rw [reclaim_eq, available_putBack]
  show min (p.available.toNat + _) _ = _
  omega

theorem units_reclaim (fits : p.units ≤ total.toNat) (now : Instant) :
    (p.reclaim now total).units = p.units := by
  have left := available_reclaim fits now
  have held := p.countState_reclaim_held now total
  have confirmed := p.countState_reclaim_confirmed now total
  simp only [units, left, confirmed]
  omega

/-- **No call makes or loses a place** of a pool that is within its capacity. -/
theorem units_after (fits : p.units ≤ total.toNat) (id : CategoryId) (c : Ledger.Call) :
    (p.after id total c).units = p.units := by
  cases c with
  | takeStock category hold now expiresAt =>
    simp only [after]
    split
    · exact p.units_take id hold now expiresAt
    · rfl
  | returnStock category hold =>
    simp only [after]
    split
    · cases back : p.giveBack? hold total with
      | none => rfl
      | some q => exact units_giveBack fits back
    · rfl
  | settleStock category hold now =>
    simp only [after]
    split
    · cases sold : p.settle? hold now with
      | none => rfl
      | some q => exact units_settle sold
    · rfl
  | reclaim now => exact units_reclaim fits now
  | _ => rfl

end Pool

end BoxOffice
