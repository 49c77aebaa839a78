import BoxOffice.Proofs.Inventory.Reserve

/-!
# Sales by the inventory service

Of all calls to the inventory only one that asks for a sale, and is told that it succeeded, sells
anything: `serve_sold_cases`. What is sold stays sold.
-/

namespace BoxOffice.Inventory

open Rehearsal

variable {w w' : Inventory} {share : Share}

theorem play_keeps_sold {α : Type} (p : Program InventoryWorld α) (sold : w.ledger.Sold share) :
    (p.play answer w).2.ledger.Sold share := by
  refine p.play_keeps (R := fun v : Inventory => v.ledger.Sold share) ?_ sold
  intro v c kept
  rcases v.answer_ledger c with same | ⟨call, after⟩
  · rwa [same]
  · rw [after]
    exact kept.after call

theorem serve_keeps_sold (sold : w.ledger.Sold share) (c : Reservations.Call) :
    (w.serve c).2.ledger.Sold share :=
  play_keeps_sold _ sold

theorem sold_of_confirm_ok {t : Token} (served : w.serve (.confirm t) = (.ok (.ok ()), w')) :
    w'.ledger.Sold t.share := by
  by_cases sells : w.ledger.Sells t w.stage.now
  · obtain ⟨w₁, served', after⟩ := serve_confirm_of_sells sells
    obtain rfl : w₁ = w' := congrArg Prod.snd (served'.symm.trans served)
    rw [after]
    exact sells.sold
  · obtain ⟨e, w₁, served', -⟩ := serve_confirm_of_not_sells sells
    cases served'.symm.trans served

/-- **Only a successful confirmation sells**, and only the share of its token. -/
theorem serve_sold_cases (reach : w.ledger.Reachable) {c : Reservations.Call}
    (sold : (w.serve c).2.ledger.Sold share) :
    w.ledger.Sold share ∨
      ∃ t w', c = .confirm t ∧ w.serve (.confirm t) = (.ok (.ok ()), w') ∧ share = t.share := by
  cases c with
  | reserve request =>
    obtain ⟨a, w₁, served, way⟩ := serve_reserve reach request
    rw [served] at sold
    rcases way.ledger_cases with same | ⟨t, c, -, after, -, -, -, nothing⟩
    · rw [same] at sold
      exact .inl sold
    · rw [after] at sold
      exact .inl ((MemoryLedger.sold_after_cases sold).resolve_right (by simp [nothing]))
  | release token =>
    obtain ⟨w₁, served, after⟩ := w.serve_release token
    rw [served, after] at sold
    refine .inl ((MemoryLedger.sold_after_cases sold).resolve_right ?_)
    simp [MemoryLedger.sale?_giveBack]
  | confirm token =>
    by_cases sells : w.ledger.Sells token w.stage.now
    · obtain ⟨w₁, served, after⟩ := serve_confirm_of_sells sells
      rw [served, after] at sold
      rcases MemoryLedger.sold_after_cases sold with before | sale
      · exact .inl before
      · rw [MemoryLedger.sale?_sell] at sale
        exact .inr ⟨token, w₁, rfl, served, (Option.some.inj sale).symm⟩
    · obtain ⟨e, w₁, served, -, same⟩ := serve_confirm_of_not_sells sells
      rw [served, same] at sold
      exact .inl sold
  | availability category =>
    rw [serve_availability] at sold
    exact .inl sold

end BoxOffice.Inventory
