import BoxOffice.Proofs.Inventory.Repeat
import BoxOffice.Proofs.Ledger.Return

/-!
# Releases

Giving a token back always succeeds, and it moves only what the hold of the token waits with
(`release_returns`). However old, false or often used the token is, it is of no further use then:
whatever happens afterwards, as long as nobody is told to have reserved its share in the name of its
hold again, it gives back nothing and sells nothing, unless it is about a place that the hold had
bought before.
-/

namespace BoxOffice.Inventory

open Rehearsal

/-- Something happens by which a share is reserved, and whoever did it is told so. -/
def Reserves (w : Inventory) (share : Share) : Happening → Prop
  | .visit ⟨time, .call (.reserve r)⟩ =>
    ∃ t w', (w.atTime time).serve (.reserve r) = (.ok (.ok t), w') ∧ t.share = share
  | .act (.call c) => w.ledger.Reserves share c
  | _ => False

/-- Something is true of all that happens and of the inventory to which it happens. -/
def Meanwhile (Q : Inventory → Happening → Prop) : Inventory → List Happening → Prop
  | _, [] => True
  | w, h :: rest => Q w h ∧ Meanwhile Q (w.happen h) rest

/-- What every happening of some kind keeps, all of them keep one after the other. -/
theorem through_keeps {P : MemoryLedger → Prop} {Q : Inventory → Happening → Prop}
    (step : ∀ w h, w.ledger.Reachable → Q w h → P w.ledger → P (w.happen h).ledger) {w : Inventory}
    (reach : w.ledger.Reachable) {happenings : List Happening} (all : w.Meanwhile Q happenings)
    (start : P w.ledger) :
    (w.through happenings).ledger.Reachable ∧ P (w.through happenings).ledger := by
  induction happenings generalizing w with
  | nil => exact ⟨reach, start⟩
  | cons h rest ih =>
    exact ih (happen_reachable reach h) all.2 (step w h reach all.1 start)

variable {w : Inventory} {share : Share} {t : Token}

/-- **What may happen to a ledger**: nothing, one call, by which no share is reserved unless somebody
is told so, or a further category. -/
theorem happen_cases (reach : w.ledger.Reachable) (h : Happening) :
    (w.happen h).ledger = w.ledger ∨
    (∃ c, (w.happen h).ledger = w.ledger.after c ∧
      ∀ share, w.ledger.Reserves share c → w.Reserves share h) ∨
    ∃ a : MemoryLedger.Act, a.isProvision ∧ (w.happen h).ledger = w.ledger.act a := by
  cases h with
  | act a =>
    cases a with
    | call c => exact .inr (.inl ⟨c, w.ledger.answer_eq c, fun _ reserves => reserves⟩)
    | addSeated category labels => exact .inr (.inr ⟨.addSeated category labels, rfl, rfl⟩)
    | addStanding category => exact .inr (.inr ⟨.addStanding category, rfl, rfl⟩)
  | visit v =>
    obtain ⟨time, errand⟩ := v
    cases errand with
    | sweep =>
      obtain ⟨w', swept, after⟩ := (w.atTime time).sweep_ledger
      refine .inr (.inl ⟨.reclaim time, ?_, nofun⟩)
      simp only [happen, visit, swept]
      exact after
    | call c =>
      cases c with
      | reserve r =>
        obtain ⟨a, w', served, way⟩ := serve_reserve (w := w.atTime time) reach r
        simp only [happen, visit, served]
        rcases way.ledger_cases with same | ⟨t, c, rfl, after, -, -, about, -⟩
        · exact .inl same
        · refine .inr (.inl ⟨c, after, fun share reserves => ⟨t, w', served, ?_⟩⟩)
          exact Option.some.inj (about.symm.trans reserves.share?)
      | release token =>
        obtain ⟨w', served, after⟩ := (w.atTime time).serve_release token
        simp only [happen, visit, served]
        refine .inr (.inl ⟨_, after, fun share reserves => ?_⟩)
        unfold Token.giveBack at reserves
        cases unit : token.unit <;> rw [unit] at reserves <;> exact reserves.elim
      | confirm token =>
        by_cases sells : (w.atTime time).ledger.Sells token time
        · obtain ⟨w', served, after⟩ := serve_confirm_of_sells (w := w.atTime time) sells
          simp only [happen, visit, served]
          refine .inr (.inl ⟨_, after, fun share reserves => ?_⟩)
          unfold Token.sell at reserves
          cases unit : token.unit <;> rw [unit] at reserves <;> exact reserves.elim
        · obtain ⟨e, w', served, -, same⟩ := serve_confirm_of_not_sells (w := w.atTime time) sells
          simp only [happen, visit, served]
          exact .inl same
      | availability category => exact .inl ((w.atTime time).serve_availability category)

/-- A hold that waits with a share did so before, or has just reserved it. -/
theorem waits_happen {h : Happening} (reach : w.ledger.Reachable)
    (waits : (w.happen h).ledger.Waits share) : w.ledger.Waits share ∨ w.Reserves share h := by
  rcases happen_cases reach h with same | ⟨c, after, told⟩ | ⟨a, provision, after⟩
  · rw [same] at waits
    exact .inl waits
  · rw [after] at waits
    exact (MemoryLedger.waits_after_cases waits).imp_right (told share)
  · rw [after] at waits
    exact .inl (MemoryLedger.waits_provision provision waits)

/-- A share that is sold was sold before, or the hold waited with it. -/
theorem sold_happen {h : Happening} (reach : w.ledger.Reachable)
    (sold : (w.happen h).ledger.Sold share) : w.ledger.Sold share ∨ w.ledger.Waits share := by
  rcases happen_cases reach h with same | ⟨c, after, -⟩ | ⟨a, provision, after⟩
  · rw [same] at sold
    exact .inl sold
  · rw [after] at sold
    exact MemoryLedger.sold_after_waits sold
  · rw [after] at sold
    exact .inl (MemoryLedger.sold_provision provision sold)

/-- Only what happens in the name of a hold reserves its shares. -/
theorem Reserves.hold? {h : Happening} (reach : w.ledger.Reachable)
    (reserves : w.Reserves share h) : h.hold? = some share.hold := by
  cases h with
  | act a =>
    cases a with
    | call c => exact Ledger.Call.hold?_of_share? (MemoryLedger.Reserves.share? reserves)
    | addSeated | addStanding => exact reserves.elim
  | visit v =>
    obtain ⟨time, errand⟩ := v
    cases errand with
    | sweep => exact reserves.elim
    | call c =>
      cases c with
      | reserve r =>
        obtain ⟨t, w', served, rfl⟩ := reserves
        obtain ⟨a, w₁, served', way⟩ := serve_reserve (w := w.atTime time) reach r
        obtain ⟨rfl, rfl⟩ : a = .ok (.ok t) ∧ w₁ = w' := Prod.mk.inj (served'.symm.trans served)
        obtain ⟨-, hold, -⟩ := way.granted
        exact congrArg some hold.symm
      | release | confirm | availability => exact reserves.elim

/-- What happens in the name of others reserves no share of a hold. -/
theorem meanwhile_of_foreign (reach : w.ledger.Reachable) {happenings : List Happening}
    (foreign : ∀ h ∈ happenings, h.hold? ≠ some share.hold) :
    w.Meanwhile (fun w h => ¬ w.Reserves share h) happenings := by
  induction happenings generalizing w with
  | nil => trivial
  | cons h rest ih =>
    exact ⟨fun reserves => foreign h (List.mem_cons_self ..) (reserves.hold? reach),
      ih (happen_reachable reach h) fun h' m => foreign h' (List.mem_cons_of_mem _ m)⟩

/-- A hold that waits with nothing, and has bought nothing, stays so while it reserves nothing. -/
theorem idle_through (reach : w.ledger.Reachable) {happenings : List Happening}
    (meanwhile : w.Meanwhile (fun w h => ¬ w.Reserves share h) happenings)
    (idle : ¬ w.ledger.Waits share) :
    ¬ (w.through happenings).ledger.Waits share ∧
      (¬ w.ledger.Sold share → ¬ (w.through happenings).ledger.Sold share) := by
  have still := (through_keeps (P := fun l => ¬ l.Waits share) (fun w h reach quiet idle waits =>
    (waits_happen reach waits).elim idle quiet) reach meanwhile idle).2
  refine ⟨still, fun unsold => ?_⟩
  have both := through_keeps (P := fun l => ¬ l.Waits share ∧ ¬ l.Sold share)
    (fun w h reach quiet idle =>
      ⟨fun waits => (waits_happen reach waits).elim idle.1 quiet,
        fun sold => (sold_happen reach sold).elim idle.2 idle.1⟩)
    reach meanwhile ⟨idle, unsold⟩
  exact both.2.2

/-- **A release moves only what the hold of the token waits with, and once.** It succeeds with every
token. Whatever happens afterwards without the hold's reserving the share again, a further release
changes nothing; and a confirmation is refused as a conflict and changes nothing, unless the token
is about a place that the hold had bought before. -/
theorem release_returns (reach : w.ledger.Reachable) (t : Token) :
    ∃ w', w.serve (.release t) = (.ok (.ok ()), w') ∧ w.ledger.GivesBack t w'.ledger ∧
      ∀ happenings, w'.Meanwhile (fun w h => ¬ w.Reserves t.share h) happenings → ∀ now,
        (∃ w'', ((w'.through happenings).atTime now).serve (.release t) = (.ok (.ok ()), w'') ∧
          w''.ledger = (w'.through happenings).ledger) ∧
        (¬ (t.unit = .stock ∧ w.ledger.Sold t.share) →
          ∃ e w'', ((w'.through happenings).atTime now).serve (.confirm t) = (.ok (.error e), w'') ∧
            e.kind = .conflict ∧ w''.ledger = (w'.through happenings).ledger) := by
  obtain ⟨w', served, after⟩ := w.serve_release t
  have back := reach.givesBack t
  have reach' : w'.ledger.Reachable := by
    rw [after]
    exact reach.after _
  rw [← after] at back
  refine ⟨w', served, back, fun happenings meanwhile now => ?_⟩
  obtain ⟨idle, unsold⟩ := idle_through reach' meanwhile back.not_waits
  constructor
  · obtain ⟨w'', served', after'⟩ := ((w'.through happenings).atTime now).serve_release t
    refine ⟨w'', served', ?_⟩
    rw [after', atTime_ledger, MemoryLedger.after_giveBack_of_not_waits idle]
  · intro unbought
    refine serve_confirm_of_not_sells (w := (w'.through happenings).atTime now) fun sells => ?_
    rcases sells.waits_or_sold with waits | ⟨stock, sold⟩
    · exact idle waits
    · refine unsold (fun sold' => unbought ⟨stock, ?_⟩) sold
      rw [after] at sold'
      exact (MemoryLedger.sold_after_cases sold').resolve_right
        (by simp [MemoryLedger.sale?_giveBack])

/-- The seat is given back, and another hold takes it. The token is of no use then, neither to take
the seat away from that hold nor to buy it. -/
theorem release_returns_one_seat :
    let w := (oneSeat.serve (.reserve (.seated ⟨.random 1⟩ ⟨1⟩ ⟨10⟩ "A1"))).2
    let taken : Happening :=
      .visit ⟨.ofParts 1005 0, .call (.reserve (.seated ⟨.random 2⟩ ⟨1⟩ ⟨10⟩ "A1"))⟩
    w.ledger.Reachable ∧ w.ledger.Waits oneSeatToken.share ∧
    ∃ w', w.serve (.release oneSeatToken) = (.ok (.ok ()), w') ∧
      w.ledger.GivesBack oneSeatToken w'.ledger ∧
      (∃ w'', ((w'.happen taken).atTime (.ofParts 1006 0)).serve (.release oneSeatToken) =
        (.ok (.ok ()), w'') ∧ w''.ledger = (w'.happen taken).ledger) ∧
      ∃ e w'', ((w'.happen taken).atTime (.ofParts 1006 0)).serve (.confirm oneSeatToken) =
        (.ok (.error e), w'') ∧ e.kind = .conflict ∧ w''.ledger = (w'.happen taken).ledger := by
  intro w taken
  have reach : w.ledger.Reachable :=
    play_reachable _ (⟨[.addSeated _ _], rfl⟩ : oneSeat.ledger.Reachable)
  obtain ⟨w', served, back, afterwards⟩ := release_returns reach oneSeatToken
  have reach' : w'.ledger.Reachable := by
    have := play_reachable (Reservations.answer w.hold (.release oneSeatToken)) reach
    rw [serve] at served
    rwa [served] at this
  obtain ⟨again, refused⟩ := afterwards [taken]
    (meanwhile_of_foreign reach' (by decide)) (.ofParts 1006 0)
  exact ⟨reach, ⟨_, rfl, rfl, rfl⟩, w', served, back, again, refused (by simp [oneSeatToken])⟩

end BoxOffice.Inventory
