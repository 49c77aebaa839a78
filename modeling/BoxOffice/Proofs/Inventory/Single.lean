import BoxOffice.Proofs.Inventory.Sale
import BoxOffice.Proofs.Inventory.Visit
import BoxOffice.Proofs.Ledger.Units

/-!
# One unit for one hold

Nothing in the ledger keeps a hold from having several units: a seat or a pool that is asked looks at
itself only. A hold gets a second unit exactly when it asks for one while it has another and is told to
have it (`Doubles`). No sweep, no return, no sale, no request of anybody else and no move of the clock
ever gives it one, and each such answer does (`hasOne_visit_iff`), so a hold keeps to one unit through a
run exactly if no visit of the run doubles it (`one_unit_iff`). A hold that asks for the same unit all
the time is safe (`never_doubles_of_one_wish`).
-/

namespace BoxOffice

open Rehearsal Reservations

namespace MemoryLedger

/-- What the hold of a token has by the token, it has. -/
theorem Holds.has {l : MemoryLedger} {t : Token} (h : l.Holds t) : l.Has t.share := by
  unfold Holds at h
  unfold Has Token.share Token.seatLabel
  cases unit : t.unit with
  | seat id label =>
    rw [unit] at h
    obtain ⟨s, there, -, -, mine, -⟩ := h
    exact ⟨s, there, mine⟩
  | stock =>
    rw [unit] at h
    obtain ⟨h, there, held, -⟩ := h
    exact ⟨h, there, .inl held⟩

/-- What a hold has bought, it has. -/
theorem Sold.has {l : MemoryLedger} {share : Share} (h : l.Sold share) : l.Has share := by
  unfold Sold at h
  unfold Has
  cases label : share.label with
  | some label =>
    rw [label] at h
    obtain ⟨s, there, -, mine⟩ := h
    exact ⟨s, there, mine⟩
  | none =>
    rw [label] at h
    obtain ⟨h, there, sold⟩ := h
    exact ⟨h, there, .inr sold⟩

/-- What may be sold to a hold, it has. -/
theorem Sells.has {l : MemoryLedger} {t : Token} {now : Instant} (h : l.Sells t now) :
    l.Has t.share := by
  unfold Sells at h
  unfold Has Token.share Token.seatLabel
  cases unit : t.unit with
  | seat id label =>
    rw [unit] at h
    obtain ⟨s, there, held⟩ := h
    exact ⟨s, there, (Seat.isHeldBy_iff.1 held).2.1⟩
  | stock =>
    rw [unit] at h
    obtain ⟨h, there, live | sold⟩ := h
    · exact ⟨h, there, .inl (StockHold.isLive_iff.1 live).1⟩
    · exact ⟨h, there, .inr sold⟩

/-- A call about one share of a hold leaves it what else it has. -/
theorem SameBut.has {l l' : MemoryLedger} {share other : Share} (same : l.SameBut l' share)
    (h : l.Has other) (own : other.hold = share.hold) (ne : other ≠ share) : l'.Has other := by
  obtain ⟨hold, category, label⟩ := other
  obtain rfl : hold = share.hold := own
  -- the share is in another category, or it differs in its label
  have label_ne : category = share.category → label ≠ share.label := by
    rintro rfl rfl
    exact ne rfl
  unfold Has at h ⊢
  cases label with
  | some label =>
    obtain ⟨s, there, mine⟩ := h
    refine ⟨s, ?_, mine⟩
    by_cases here : category = share.category
    · rw [same.seats _ _ (Ne.symm (label_ne here))]
      exact there
    · unfold seat?
      rw [same.elsewhere _ here]
      exact there
  | none =>
    obtain ⟨h, there, out⟩ := h
    refine ⟨h, ?_, out⟩
    by_cases here : category = share.category
    · rw [same.holds _ _ (.inr (Option.isSome_iff_ne_none.2 (Ne.symm (label_ne here))))]
      exact there
    · unfold stock?
      rw [same.elsewhere _ here]
      exact there

/-- In a ledger that has only been laid out no hold has anything. -/
theorem Provisioned.not_has {l : MemoryLedger} (laid : l.Provisioned) (share : Share) :
    ¬ l.Has share := by
  obtain ⟨hold, category, label⟩ := share
  unfold Has
  cases label with
  | some label =>
    rintro ⟨seat, there, mine⟩
    obtain ⟨s, found, on_seat⟩ := Option.bind_eq_some_iff.1 there
    have well := (laid.reachable.seat there).2.2
    rw [Seat.WellFormed, (laid.unsold _ s found).1 label seat on_seat] at well
    simp [well.1] at mine
  | none =>
    rintro ⟨h, there, -⟩
    obtain ⟨s, found, mine⟩ := Option.bind_eq_some_iff.1 there
    simp [(laid.unsold _ s found).2] at mine

end MemoryLedger

/-- Somebody who comes to ask for a unit in the name of the hold asks for this one. -/
def Visit.Wishes (v : Visit) (share : Share) : Prop :=
  ∀ r, v.errand = .call (.reserve r) → r.hold = share.hold →
    r.category = share.category ∧ namedSeat r = share.label

namespace Inventory

/-- A visitor is told to have reserved or bought a unit for a hold that has another one. -/
def Doubles (w : Inventory) (hold : HoldId) (v : Visit) : Prop :=
  ∃ share share' : Share, share.hold = hold ∧ share'.hold = hold ∧ w.ledger.Has share ∧
    w.granted? v = some share' ∧ share ≠ share'

/-! ### One visit -/

variable {w : Inventory} {v : Visit} {hold : HoldId} {share : Share}

/-- Who is told to have a unit has it, and nothing changed but this unit. The unit was asked for, or the
hold had it before. -/
theorem granted?_cases (reach : w.ledger.Reachable) (granted : w.granted? v = some share) :
    (w.visit v).ledger.Has share ∧
      ((w.visit v).ledger = w.ledger ∨ w.ledger.SameBut (w.visit v).ledger share) ∧
      (w.ledger.Has share ∨ ∃ r : ReserveRequest, v.errand = .call (.reserve r) ∧
        share = ⟨r.hold, r.category, namedSeat r⟩) := by
  obtain ⟨time, errand⟩ := v
  cases errand with
  | sweep => cases granted
  | call c =>
    cases c with
    | reserve request =>
      obtain ⟨a, w', served, way⟩ := serve_reserve (w := w.atTime time) reach request
      simp only [granted?, visit, served] at granted ⊢
      rcases a with e | e | t
      · cases granted
      · cases granted
      obtain rfl : t.share = share := Option.some.inj granted
      obtain ⟨holds, hold, category, -, label, -⟩ := way.granted
      refine ⟨holds.has, ?_, .inr ⟨request, rfl, ?_⟩⟩
      · rcases way.ledger_cases with same | ⟨t', c, ⟨⟩, after, -, -, about, -⟩
        · exact .inl same
        · rw [after]
          exact .inr (reach.sameBut about)
      · show (⟨t.hold, t.category, t.seatLabel⟩ : Share) = _
        rw [hold, category, label]
    | confirm token =>
      by_cases sells : w.ledger.Sells token time
      · obtain ⟨w', served, after⟩ := serve_confirm_of_sells (w := w.atTime time) sells
        simp only [granted?, visit, served] at granted ⊢
        obtain rfl : token.share = share := Option.some.inj granted
        rw [after]
        refine ⟨sells.sold.has, .inr (reach.sameBut ?_), .inl sells.has⟩
        unfold Token.sell Token.share Token.seatLabel
        cases token.unit <;> rfl
      · obtain ⟨e, w', served, -⟩ := serve_confirm_of_not_sells (w := w.atTime time) sells
        simp only [granted?, served] at granted
        cases granted
    | release | availability => cases granted

/-- What a hold has after a visit it had before, or the visitor is told so. -/
theorem has_visit_cases (reach : w.ledger.Reachable) (has : (w.visit v).ledger.Has share) :
    w.ledger.Has share ∨ w.granted? v = some share := by
  rcases visit_cases reach v with same | ⟨c, after, -, -, told⟩
  · rw [same] at has
    exact .inl has
  · rw [after] at has
    exact (MemoryLedger.has_after_cases has).imp_right (told share)

/-- **A visit leaves a hold with one unit exactly if it does not double it.** -/
theorem hasOne_visit_iff (reach : w.ledger.Reachable) (one : w.ledger.HasOne hold) :
    (w.visit v).ledger.HasOne hold ↔ ¬ w.Doubles hold v := by
  constructor
  · rintro after ⟨share, share', own, own', has, granted, ne⟩
    obtain ⟨has', rest, -⟩ := granted?_cases reach granted
    -- the other unit is still there
    have kept : (w.visit v).ledger.Has share := by
      rcases rest with same | same
      · rwa [same]
      · exact same.has has (own.trans own'.symm) ne
    exact ne (after share share' own own' kept has')
  · intro single share share' own own' has has'
    rcases has_visit_cases reach has with before | told <;>
      rcases has_visit_cases reach has' with before' | told'
    · exact one share share' own own' before before'
    · by_contra ne
      exact single ⟨share, share', own, own', before, told', ne⟩
    · by_contra ne
      exact single ⟨share', share, own', own, before', told, Ne.symm ne⟩
    · exact Option.some.inj (told.symm.trans told')

/-! ### Runs -/

/-- The hold has one unit all through the run exactly if no visit doubles it. -/
theorem hasOne_run_iff (reach : w.ledger.Reachable) (one : w.ledger.HasOne hold)
    (visits : List Visit) :
    (∀ first, first <+: visits → (w.run first).ledger.HasOne hold) ↔
      w.Throughout (fun w v => ¬ w.Doubles hold v) visits := by
  induction visits generalizing w with
  | nil =>
    refine iff_of_true (fun first prefixed => ?_) trivial
    obtain rfl := List.prefix_nil.1 prefixed
    exact one
  | cons v visits ih =>
    have step := hasOne_visit_iff (v := v) reach one
    constructor
    · intro all
      have after : (w.visit v).ledger.HasOne hold := all [v] ⟨visits, rfl⟩
      refine ⟨step.1 after, (ih (visit_reachable reach v) after).1 fun first prefixed => ?_⟩
      exact all (v :: first) (List.cons_prefix_cons.2 ⟨rfl, prefixed⟩)
    · rintro ⟨single, rest⟩ first prefixed
      cases first with
      | nil => exact one
      | cons u first =>
        obtain ⟨rfl, earlier⟩ := List.cons_prefix_cons.1 prefixed
        exact (ih (visit_reachable reach u) (step.2 single)).2 rest first earlier

/-- **When a hold keeps to one unit.** In a ledger that has only been laid out, a hold keeps one unit at
most after each of any visits, whatever the clock shows then, exactly if no visitor is told to have a
unit for the hold while it has another one. -/
theorem one_unit_iff (laid : w.ledger.Provisioned) (hold : HoldId) (visits : List Visit) :
    (∀ first, first <+: visits → ∀ now, ((w.run first).ledger.unitsOf hold now).length ≤ 1) ↔
      w.Throughout (fun w v => ¬ w.Doubles hold v) visits := by
  have nothing : w.ledger.HasOne hold := fun share _ _ _ has _ => absurd has (laid.not_has share)
  rw [← hasOne_run_iff laid.reachable nothing visits]
  exact forall₂_congr fun first _ =>
    (run_reachable laid.reachable first).length_unitsOf_iff hold

/-- An inventory of two seats, whose holds last for ten seconds. -/
def twoSeats : Inventory :=
  { oneSeat with
    ledger := (MemoryLedger.empty.addSeated (.seated ⟨10⟩ ⟨1⟩ "Stalls" ⟨9900⟩ 0) ["A1", "A2"]).2 }

theorem provisioned_twoSeats : twoSeats.ledger.Provisioned :=
  ⟨[.addSeated _ _], by simp [MemoryLedger.Act.isProvision], rfl⟩

/-- The first seat is asked for, and the second one for the same hold after the first was swept. -/
theorem one_unit_two_seats :
    let visits : List Visit :=
      [⟨.ofParts 1000 0, .call (.reserve (.seated ⟨.random 1⟩ ⟨1⟩ ⟨10⟩ "A1"))⟩,
        ⟨.ofParts 1010 1, .sweep⟩,
        ⟨.ofParts 1010 1, .call (.reserve (.seated ⟨.random 1⟩ ⟨1⟩ ⟨10⟩ "A2"))⟩]
    twoSeats.ledger.Provisioned ∧
    (∀ first, first <+: visits → ∀ now,
      ((twoSeats.run first).ledger.unitsOf ⟨.random 1⟩ now).length ≤ 1) ∧
    (twoSeats.run visits).ledger.unitsOf ⟨.random 1⟩ (.ofParts 1020 1) =
      [⟨⟨.random 1⟩, ⟨10⟩, some "A2"⟩] := by
  have single {w : Inventory} {v : Visit} (unknown : w.ledger.Unknown ⟨.random 1⟩) :
      ¬ w.Doubles ⟨.random 1⟩ v := by
    rintro ⟨share, share', own, -, has, -⟩
    exact (own ▸ unknown : w.ledger.Unknown share.hold).not_has has
  refine ⟨provisioned_twoSeats, (one_unit_iff provisioned_twoSeats _ _).2 ⟨?_, ?_, ?_, trivial⟩,
    by decide⟩
  · exact single (by decide)
  · rintro ⟨share, share', -, -, -, told, -⟩
    cases told
  · exact single (by decide)

/-- Two seats are asked for with one hold identifier, and the hold keeps both at once. -/
theorem two_units_two_seats :
    let visits : List Visit :=
      [⟨.ofParts 1000 0, .call (.reserve (.seated ⟨.random 1⟩ ⟨1⟩ ⟨10⟩ "A1"))⟩,
        ⟨.ofParts 1000 0, .call (.reserve (.seated ⟨.random 1⟩ ⟨1⟩ ⟨10⟩ "A2"))⟩]
    twoSeats.ledger.Provisioned ∧
    ¬ ∀ first, first <+: visits → ∀ now,
      ((twoSeats.run first).ledger.unitsOf ⟨.random 1⟩ now).length ≤ 1 := by
  refine ⟨provisioned_twoSeats, fun one => ?_⟩
  exact absurd (one _ (List.prefix_refl _) (.ofParts 1000 0)) (by decide)

/-! ### Hold identifiers that are used for one unit -/

/-- A hold that never asks for anything but one unit is never doubled. -/
theorem never_doubles_of_one_wish (laid : w.ledger.Provisioned) {visits : List Visit}
    (wishes : ∀ v ∈ visits, v.Wishes share) :
    w.Throughout (fun w v => ¬ w.Doubles share.hold v) visits := by
  suffices ∀ w : Inventory, w.ledger.Reachable →
      (∀ other : Share, other.hold = share.hold → w.ledger.Has other → other = share) →
      w.Throughout (fun w v => ¬ w.Doubles share.hold v) visits from
    this w laid.reachable fun other _ has => absurd has (laid.not_has other)
  induction visits with
  | nil => exact fun _ _ _ => trivial
  | cons v visits ih =>
    intro w reach all_wished
    -- what the hold is told to have it had before, or asked for
    have told : ∀ other : Share, other.hold = share.hold → w.granted? v = some other →
        other = share := by
      intro other own granted
      obtain ⟨-, -, before | ⟨r, asked, rfl⟩⟩ := granted?_cases reach granted
      · exact all_wished other own before
      · obtain ⟨category, label⟩ := wishes v (List.mem_cons_self ..) r asked own
        show (⟨r.hold, r.category, namedSeat r⟩ : Share) = share
        rw [category, label, show r.hold = share.hold from own]
    refine ⟨?_, ih (fun u mem => wishes u (List.mem_cons_of_mem _ mem)) _
      (visit_reachable reach v) fun other own has => ?_⟩
    · rintro ⟨other, other', own, own', has, granted, ne⟩
      exact ne ((all_wished other own has).trans (told other' own' granted).symm)
    · rcases has_visit_cases reach has with before | granted
      · exact all_wished other own before
      · exact told other own granted

end Inventory

end BoxOffice
