import BoxOffice.Proofs.Ledger.Pool

/-!
# Stock holds

What a call may make of what a hold has in a pool: a place is taken afresh, a lapsed hold is renewed,
a place is given back or sold, a sweep expires the hold, or it is left alone (`stock_after_cases`).
-/

namespace BoxOffice

namespace Pool

theorem get?_changeHold (p : Pool) (hold other : HoldId) (change : StockHold → StockHold) :
    (p.changeHold hold change).holds.get? other =
      if other = hold then (p.holds.get? other).map change else p.holds.get? other :=
  Registry.get?_modify _ _ _ _

/-- A place that is taken is held until the instant that was asked for. -/
theorem take_taken {p : Pool} {category : CategoryId} {hold : HoldId} {now last : Instant}
    {h : StockHold} (taken : (p.take category hold now last).1 = .taken h) :
    (p.take category hold now last).2.holds.get? hold = some h ∧ h.state = .held ∧
      h.expiresAt = last := by
  rcases p.take_cases category hold now last with
    ⟨_, -, -, e⟩ | ⟨h', there, lapsed, e⟩ | ⟨-, ⟨-, e⟩ | ⟨-, e⟩⟩ <;> rw [e] at taken ⊢
  · cases taken
  · cases taken
    refine ⟨?_, (StockHold.isLapsed_iff.1 lapsed).1, rfl⟩
    rw [get?_changeHold, if_pos rfl, there]
    rfl
  · cases taken
  · cases taken
    exact ⟨by rw [Registry.get?_set, if_pos rfl], rfl, rfl⟩

/-- **What a call may make of what a hold has in a pool.** -/
theorem stock_after_cases (p : Pool) (id : CategoryId) (total : UInt32) (c : Ledger.Call)
    (hold : HoldId) :
    (p.after id total c).holds.get? hold = p.holds.get? hold ∨
    (∃ now expiresAt, c = .takeStock id hold now expiresAt ∧
      (∀ h, p.holds.get? hold = some h → h.state = .released ∨ h.state = .expired) ∧
      (p.after id total c).holds.get? hold =
        some { hold, category := id, state := .held, expiresAt }) ∨
    (∃ h now expiresAt, c = .takeStock id hold now expiresAt ∧ p.holds.get? hold = some h ∧
      h.isLapsed now ∧ (p.after id total c).holds.get? hold = some { h with expiresAt }) ∨
    (∃ h, c = .returnStock id hold ∧ p.holds.get? hold = some h ∧ h.state = .held ∧
      (p.after id total c).holds.get? hold = some { h with state := .released }) ∨
    (∃ h now, c = .settleStock id hold now ∧ p.holds.get? hold = some h ∧ h.isLive now ∧
      (p.after id total c).holds.get? hold = some { h with state := .confirmed }) ∨
    (∃ h now, c = .reclaim now ∧ p.holds.get? hold = some h ∧ h.isLapsed now ∧
      (p.after id total c).holds.get? hold = some { h with state := .expired }) := by
  cases c with
  | takeStock category taker now expiresAt =>
    simp only [after]
    split
    · next here =>
      subst here
      rcases p.take_cases id taker now expiresAt with
        ⟨_, -, -, e⟩ | ⟨h, there, lapsed, e⟩ | ⟨gone, ⟨-, e⟩ | ⟨-, e⟩⟩ <;> rw [e]
      · exact .inl rfl
      · by_cases mine : hold = taker
        · subst mine
          refine .inr (.inr (.inl ⟨h, now, expiresAt, rfl, there, lapsed, ?_⟩))
          rw [get?_changeHold, if_pos rfl, there]
          rfl
        · exact .inl (by rw [get?_changeHold, if_neg mine])
      · exact .inl rfl
      · by_cases mine : hold = taker
        · subst mine
          refine .inr (.inl ⟨now, expiresAt, rfl, gone, ?_⟩)
          rw [Registry.get?_set, if_pos rfl]
        · exact .inl (by rw [Registry.get?_set, if_neg mine])
    · exact .inl rfl
  | returnStock category giver =>
    simp only [after]
    split
    · next here =>
      subst here
      cases back : p.giveBack? giver total with
      | none => exact .inl rfl
      | some q =>
        -- putting back the place does not touch the holds
        obtain ⟨h, there, held, rfl⟩ := giveBack?_eq_some_iff.1 back
        show (p.changeHold giver _).holds.get? hold = _ ∨ _
        by_cases mine : hold = giver
        · subst mine
          refine .inr (.inr (.inr (.inl ⟨h, rfl, there, held, ?_⟩)))
          show (p.changeHold hold _).holds.get? hold = _
          rw [get?_changeHold, if_pos rfl, there]
          rfl
        · exact .inl (by rw [get?_changeHold, if_neg mine])
    · exact .inl rfl
  | settleStock category buyer now =>
    simp only [after]
    split
    · next here =>
      subst here
      cases sold : p.settle? buyer now with
      | none => exact .inl rfl
      | some q =>
        obtain ⟨h, there, live, rfl⟩ := settle?_eq_some_iff.1 sold
        show (p.changeHold buyer _).holds.get? hold = _ ∨ _
        by_cases mine : hold = buyer
        · subst mine
          refine .inr (.inr (.inr (.inr (.inl ⟨h, now, rfl, there, live, ?_⟩))))
          show (p.changeHold hold _).holds.get? hold = _
          rw [get?_changeHold, if_pos rfl, there]
          rfl
        · exact .inl (by rw [get?_changeHold, if_neg mine])
    · exact .inl rfl
  | reclaim now =>
    simp only [after, get?_reclaim_holds]
    cases there : p.holds.get? hold with
    | none => exact .inl rfl
    | some h =>
      by_cases lapsed : h.isLapsed now
      · refine .inr (.inr (.inr (.inr (.inr ⟨h, now, rfl, rfl, lapsed, ?_⟩))))
        rw [Option.map_some, StockHold.swept, if_pos lapsed]
      · exact .inl (by rw [Option.map_some, StockHold.swept_of_not_lapsed lapsed])
  | _ => exact .inl rfl

/-- A pool without places. -/
def empty : Pool where
  available := 0
  holds := ∅

/-- No call changes a pool without places. -/
theorem after_empty (id : CategoryId) (total : UInt32) (c : Ledger.Call) :
    empty.after id total c = empty := by
  cases c with
  | takeStock category hold now expiresAt =>
    simp only [after]
    split <;> rfl
  | returnStock category hold =>
    simp only [after]
    split <;> rfl
  | settleStock category hold now =>
    simp only [after]
    split <;> rfl
  | reclaim now =>
    have nothing : min (empty.available.toNat + empty.lapsed now) total.toNat = 0 :=
      Nat.zero_min _
    simp only [after, reclaim_eq, putBack]
    rw [nothing]
    rfl
  | _ => rfl

end Pool

namespace MemoryLedger

theorem stock?_after_cases (l : MemoryLedger) (c : Ledger.Call) (id : CategoryId) (hold : HoldId) :
    (l.after c).stock? id hold = l.stock? id hold ∨
    (∃ now expiresAt, c = .takeStock id hold now expiresAt ∧
      (∀ h, l.stock? id hold = some h → h.state = .released ∨ h.state = .expired) ∧
      (l.after c).stock? id hold = some { hold, category := id, state := .held, expiresAt }) ∨
    (∃ h now expiresAt, c = .takeStock id hold now expiresAt ∧ l.stock? id hold = some h ∧
      h.isLapsed now ∧ (l.after c).stock? id hold = some { h with expiresAt }) ∨
    (∃ h, c = .returnStock id hold ∧ l.stock? id hold = some h ∧ h.state = .held ∧
      (l.after c).stock? id hold = some { h with state := .released }) ∨
    (∃ h now, c = .settleStock id hold now ∧ l.stock? id hold = some h ∧ h.isLive now ∧
      (l.after c).stock? id hold = some { h with state := .confirmed }) ∨
    (∃ h now, c = .reclaim now ∧ l.stock? id hold = some h ∧ h.isLapsed now ∧
      (l.after c).stock? id hold = some { h with state := .expired }) := by
  simp only [stock?, get?_after]
  cases l.sections.get? id with
  | none => exact .inl rfl
  | some s => exact s.pool.stock_after_cases id s.category.total c hold

end MemoryLedger

end BoxOffice
