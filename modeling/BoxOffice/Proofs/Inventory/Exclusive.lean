import BoxOffice.Proofs.Inventory.Visit

/-!
# A hold is exclusive until it ends

What a request was given a token for is its own up to and including the expiry that the token names;
until then others are refused, and afterwards the token is worth nothing. Both halves are carried
through arbitrary runs of visits, by `Holds.after` and `Expires.after`.
-/

namespace BoxOffice

open Rehearsal Reservations

namespace ReserveRequest

/-- A request in good order of somebody else for the seat of a token: it names the category, the
event and the seat, and the clock knows the end of its hold. -/
structure WantsSeatOf (r : ReserveRequest) (t : Token) (hold : Span) (now : Instant) : Prop where
  other : r.hold ≠ t.hold
  category : r.category = t.category
  event : r.event = t.event
  seat : (namedSeat r).isSome
  same : namedSeat r = t.seatLabel
  due : (now.add? hold).isSome

theorem WantsSeatOf.seat_eq {r : ReserveRequest} {t : Token} {hold : Span} {now : Instant}
    (h : r.WantsSeatOf t hold now) :
    ∃ id label last, t.unit = .seat id label ∧ namedSeat r = some label ∧
      now.add? hold = some last := by
  obtain ⟨label, named⟩ := Option.isSome_iff_exists.1 h.seat
  obtain ⟨last, due⟩ := Option.isSome_iff_exists.1 h.due
  have labelled := h.same.symm.trans named
  unfold Token.seatLabel at labelled
  cases unit : t.unit with
  | seat id label' =>
    rw [unit] at labelled
    cases labelled
    exact ⟨id, label, last, rfl, named, due⟩
  | stock => simp [unit] at labelled

theorem WantsSeatOf.suits {r : ReserveRequest} {t : Token} {hold : Span} {now : Instant}
    (h : r.WantsSeatOf t hold now) {l : MemoryLedger} (issued : t.request.Suits l t.layout) :
    r.Suits l .seated := by
  have seated : t.layout = .seated := by simp [Token.layout, ← h.same, h.seat]
  rw [seated] at issued
  unfold Suits
  rw [h.category, h.event]
  exact issued

end ReserveRequest

namespace Inventory

/-! ### Requests for a seat -/

section

variable {w : Inventory} (reach : w.ledger.Reachable) {r : ReserveRequest}
  (suits : r.Suits w.ledger .seated) {label : String} (named : namedSeat r = some label)
  {last : Instant} (due : w.stage.now.add? w.hold = some last) {s : Seat}
  (there : w.ledger.seat? r.category label = some s)

include reach suits named due there

/-- A request for a seat of its event is answered by what the seat says. -/
theorem serve_reserve_seat :
    ∃ w', (s.isClaimable w.stage.now ∧
        w.serve (.reserve r) = (.ok (.ok (r.token (.seat s.id label) last)), w')) ∨
      (s.isHeldBy r.hold w.stage.now ∧ w'.ledger = w.ledger ∧ w.serve (.reserve r) =
        (.ok (.ok (r.token (.seat s.id label) (s.reservedUntil.getD last))), w')) ∨
      (¬ s.isClaimable w.stage.now ∧ ¬ s.isHeldBy r.hold w.stage.now ∧ w'.ledger = w.ledger ∧
        w.serve (.reserve r) = (.ok (refuse
          (if s.status = .sold then .seatSold label else .seatReserved label)), w')) := by
  obtain ⟨a, w', served, way⟩ := serve_reserve reach r
  refine ⟨w', ?_⟩
  obtain ⟨section', found, event, layout⟩ := suits
  generalize w'.ledger = l' at way ⊢
  cases way with
  | categoryMissing missing => simp [missing] at found
  | foreignEvent found' foreign =>
    obtain rfl := Option.some.inj (found.symm.trans found')
    exact absurd event foreign
  | seatLabelRequired _ unnamed => simp [unnamed] at named
  | seatLabelRefused suits' => cases ReserveRequest.Suits.unique suits' ⟨_, found, event, layout⟩
  | outOfTime _ _ unknown => simp [unknown] at due
  | seatMissing _ named' _ missing =>
    obtain rfl := Option.some.inj (named.symm.trans named')
    simp [missing] at there
  | seatReserved _ named' due' there' claimable =>
    obtain rfl := Option.some.inj (named.symm.trans named')
    obtain rfl := Option.some.inj (due.symm.trans due')
    obtain rfl := Option.some.inj (there.symm.trans there')
    exact .inl ⟨claimable, served⟩
  | seatReplayed _ named' due' there' held =>
    obtain rfl := Option.some.inj (named.symm.trans named')
    obtain rfl := Option.some.inj (due.symm.trans due')
    obtain rfl := Option.some.inj (there.symm.trans there')
    exact .inr (.inl ⟨held, rfl, served⟩)
  | seatRefused _ named' _ there' taken other =>
    obtain rfl := Option.some.inj (named.symm.trans named')
    obtain rfl := Option.some.inj (there.symm.trans there')
    exact .inr (.inr ⟨taken, other, rfl, served⟩)
  | stockTaken suits' => cases ReserveRequest.Suits.unique suits' ⟨_, found, event, layout⟩
  | stockReplayed suits' => cases ReserveRequest.Suits.unique suits' ⟨_, found, event, layout⟩
  | stockSpent suits' => cases ReserveRequest.Suits.unique suits' ⟨_, found, event, layout⟩
  | stockSoldOut suits' => cases ReserveRequest.Suits.unique suits' ⟨_, found, event, layout⟩

end

/-! ### Live and lapsed holds -/

/-- The hold of a token is live: its unit is its own, others are refused, and it can be sold. -/
structure Exclusive (w : Inventory) (t : Token) : Prop where
  holds : w.ledger.Holds t
  refused : ∀ r now, now ≤ t.expiresAt → r.WantsSeatOf t w.hold now →
    ∃ e w', (w.atTime now).serve (.reserve r) = (.ok (.error e), w') ∧ e.kind = .conflict ∧
      w'.ledger = w.ledger
  sells : ∀ now, now ≤ t.expiresAt → ∃ w', (w.atTime now).serve (.confirm t) = (.ok (.ok ()), w')

/-- A request for the seat of a token comes too late: a third hold has the seat, or the request's own
hold has bought it. -/
def IsLateFor (r : ReserveRequest) (w : Inventory) (t : Token) : Prop :=
  ∃ label s hold, t.seatLabel = some label ∧ w.ledger.seat? t.category label = some s ∧
    s.hold = some hold ∧ hold ≠ t.hold ∧ (hold = r.hold → s.status = .sold)

/-- The hold of a token has lapsed: it cannot be sold, and its seat is there for others. -/
structure Lapsed (w : Inventory) (t : Token) : Prop where
  refused : ∀ now, t.expiresAt < now →
    ∃ e w', (w.atTime now).serve (.confirm t) = (.ok (.error e), w') ∧ e.kind = .conflict ∧
      w'.ledger = w.ledger
  free : ∀ r now, t.expiresAt < now → r.WantsSeatOf t w.hold now → ¬ IsLateFor r w t →
    ∃ t' w', (w.atTime now).serve (.reserve r) = (.ok (.ok t'), w')

variable {w : Inventory} {t : Token}

theorem exclusive_of_holds (reach : w.ledger.Reachable) (issued : t.request.Suits w.ledger t.layout)
    (holds : w.ledger.Holds t) : w.Exclusive t where
  holds := holds
  refused := by
    intro r now early wants
    obtain ⟨id, label, last, unit, named, due⟩ := wants.seat_eq
    unfold MemoryLedger.Holds at holds
    rw [unit] at holds
    obtain ⟨s, there, -, reserved, mine, until_last⟩ := holds
    obtain ⟨w', ⟨claimable, -⟩ | ⟨held, -⟩ | ⟨-, -, same, served⟩⟩ := serve_reserve_seat
      (w := w.atTime now) reach (wants.suits issued) named due (wants.category ▸ there)
    · rcases Seat.isClaimable_iff.1 claimable with free | ⟨-, past⟩
      · simp [reserved] at free
      · exact absurd early (Instant.not_le.2 (past _ until_last))
    · have own := (Seat.isHeldBy_iff.1 held).2.1.symm.trans mine
      exact absurd (Option.some.inj own) wants.other
    · exact ⟨_, w', served, by rw [reserved]; rfl, same⟩
  sells := by
    intro now early
    obtain ⟨w', served, -⟩ := serve_confirm_of_sells (w := w.atTime now) (holds.sells early)
    exact ⟨w', served⟩

theorem lapsed_of_expires (reach : w.ledger.Reachable) (issued : t.request.Suits w.ledger t.layout)
    (expires : w.ledger.Expires t) : w.Lapsed t where
  refused := by
    intro now late
    obtain ⟨e, w', served, conflict, same⟩ :=
      serve_confirm_of_not_sells (w := w.atTime now) (expires.not_sells late)
    exact ⟨e, w', served, conflict, same⟩
  free := by
    intro r now late wants in_time
    obtain ⟨id, label, last, unit, named, due⟩ := wants.seat_eq
    have seat_label : t.seatLabel = some label := by simp [Token.seatLabel, unit]
    unfold MemoryLedger.Expires at expires
    rw [unit] at expires
    obtain ⟨s, there, -, mine⟩ := expires
    obtain ⟨w', ⟨-, served⟩ | ⟨-, -, served⟩ | ⟨taken, other, -, -⟩⟩ := serve_reserve_seat
      (w := w.atTime now) reach (wants.suits issued) named due (wants.category ▸ there)
    · exact ⟨_, w', served⟩
    · exact ⟨_, w', served⟩
    -- a seat that is neither to be had nor the request's own belongs to a third hold or is bought
    exfalso
    obtain ⟨sect, found, on_seat⟩ := Option.bind_eq_some_iff.1 there
    have well := ((reach.sound found).seats label s on_seat).2.2
    unfold Seat.WellFormed at well
    cases own : s.hold with
    | none =>
      cases status : s.status <;> simp [status, own] at well
      exact taken (Seat.isClaimable_iff.2 (.inl status))
    | some hold =>
      by_cases lapsed : hold = t.hold
      · obtain ⟨reserved, until_last⟩ := mine (own.trans (congrArg some lapsed))
        refine taken (Seat.isClaimable_iff.2 (.inr ⟨reserved, fun last' at_last => ?_⟩))
        obtain rfl := Option.some.inj (until_last.symm.trans at_last)
        exact late
      · refine in_time ⟨label, s, hold, seat_label, there, own, lapsed, fun again => ?_⟩
        subst again
        cases status : s.status with
        | available => simp [status, own] at well
        | sold => rfl
        | reserved =>
          simp only [status] at well
          obtain ⟨last', until_last⟩ := Option.isSome_iff_exists.1 well.2
          by_cases early : now ≤ last'
          · exact absurd (Seat.isHeldBy_iff.2 ⟨status, own, last', until_last, early⟩) other
          · refine absurd (Seat.isClaimable_iff.2 (.inr ⟨status, fun last'' at_last => ?_⟩)) taken
            obtain rfl := Option.some.inj (until_last.symm.trans at_last)
            exact Instant.not_le.1 early

/-! ### Runs -/

/-- Nobody but the hold of a token has its seat. -/
def NobodyElse (l : MemoryLedger) (t : Token) : Prop :=
  ∀ label s hold, t.seatLabel = some label → l.seat? t.category label = some s →
    s.hold = some hold → hold = t.hold

/-- A seat is nobody else's until a visitor is told to have got it. -/
theorem nobodyElse_visit {w : Inventory} {t : Token} {v : Visit} (reach : w.ledger.Reachable)
    (untold : ∀ share, w.granted? v = some share → share.category = t.category →
      share.label = t.seatLabel → share.hold = t.hold)
    (before : NobodyElse w.ledger t) : NobodyElse (w.visit v).ledger t := by
  rcases visit_cases reach v with same | ⟨c, after, -, -, told⟩
  · rwa [same]
  rw [after]
  intro label s hold labelled there mine
  rw [MemoryLedger.seat?_after] at there
  obtain ⟨s₀, there₀, rfl⟩ := Option.map_eq_some_iff.1 there
  rcases s₀.after_cases t.category label c with
    e | ⟨claim, rfl, category_eq, label_eq, -, e⟩ | ⟨_, -, -, -, e⟩ | ⟨_, _, -, -, e⟩ | ⟨_, -, -, e⟩ <;>
    rw [e] at mine
  · exact before label s₀ hold labelled there₀ mine
  · obtain rfl : claim.hold = hold := Option.some.inj mine
    exact untold _ (told _ rfl) category_eq (label_eq ▸ labelled.symm)
  · cases mine
  · exact before label s₀ hold labelled there₀ mine
  · cases mine

/-- What a token says and where it comes from, visits in the name of others leave alone until its
expiry. -/
theorem holds_visit {w : Inventory} {t : Token} {v : Visit} (reach : w.ledger.Reachable)
    (foreign : v.hold? ≠ some t.hold) (early : v.time ≤ t.expiresAt)
    (before : w.ledger.Holds t ∧ t.request.Suits w.ledger t.layout) :
    (w.visit v).ledger.Holds t ∧ t.request.Suits (w.visit v).ledger t.layout := by
  rcases visit_cases reach v with same | ⟨c, after, hold, clock, -⟩
  · rwa [same]
  · rw [after]
    exact ⟨before.1.after (hold ▸ foreign) fun now reading => clock now reading ▸ early,
      before.2.after c⟩

/-- A hold that is not told to have its share again ends at its expiry. -/
theorem expires_visit {w : Inventory} {t : Token} {v : Visit} (reach : w.ledger.Reachable)
    (untold : w.granted? v ≠ some t.share)
    (before : w.ledger.Expires t ∧ t.request.Suits w.ledger t.layout) :
    (w.visit v).ledger.Expires t ∧ t.request.Suits (w.visit v).ledger t.layout := by
  rcases visit_cases reach v with same | ⟨c, after, -, -, told⟩
  · rwa [same]
  · rw [after]
    exact ⟨before.1.after fun share => untold (told _ share), before.2.after c⟩

theorem nobodyElse_of_holds {l : MemoryLedger} {t : Token} (holds : l.Holds t) :
    NobodyElse l t := by
  intro label s hold labelled there own
  unfold MemoryLedger.Holds at holds
  cases unit : t.unit with
  | stock => simp [Token.seatLabel, unit] at labelled
  | seat id label' =>
    obtain rfl : label' = label := by simpa [Token.seatLabel, unit] using labelled
    rw [unit] at holds
    obtain ⟨s', there', -, -, mine, -⟩ := holds
    obtain rfl := Option.some.inj (there.symm.trans there')
    exact Option.some.inj (own.symm.trans mine)

/-- **A hold is exclusive up to and including its expiry, and of no use afterwards.** A request was
given the token `t`. After any visits in the name of others until its expiry, the hold is still live.
And after any visits at all, at any times, by which nobody was told to have the share of `t` in the
name of its hold, the hold is lapsed at every later instant; and nobody is late for its seat then
unless somebody else was told to have got it. -/
theorem hold_exclusive {w w' : Inventory} {r : ReserveRequest} {t : Token}
    (reach : w.ledger.Reachable) (served : w.serve (.reserve r) = (.ok (.ok t), w')) :
    (∀ visits : List Visit, (∀ v ∈ visits, v.hold? ≠ some t.hold ∧ v.time ≤ t.expiresAt) →
      (w'.run visits).Exclusive t) ∧
    (∀ visits : List Visit, w'.Throughout (fun w v => w.granted? v ≠ some t.share) visits →
      (w'.run visits).Lapsed t) ∧
    (∀ visits : List Visit, w'.Throughout (fun w v => ∀ share, w.granted? v = some share →
        share.category = t.category → share.label = t.seatLabel → share.hold = t.hold) visits →
      ∀ r, ¬ IsLateFor r (w'.run visits) t) := by
  obtain ⟨a, w₁, served', way⟩ := serve_reserve reach r
  obtain ⟨rfl, rfl⟩ : a = .ok (.ok t) ∧ w₁ = w' := Prod.mk.inj (served'.symm.trans served)
  obtain ⟨holds, -, -, -, -, issued⟩ := way.granted
  have reach' : w₁.ledger.Reachable := by
    have := play_reachable (Reservations.answer w.hold (.reserve r)) reach
    rw [serve] at served
    rwa [served] at this
  refine ⟨fun visits foreign => ?_, fun visits untold => ?_, fun visits untold => ?_⟩
  · obtain ⟨reach'', holds'', issued''⟩ := run_keeps
      (P := fun l => l.Holds t ∧ t.request.Suits l t.layout)
      (fun w v reach others => holds_visit reach others.1 others.2) reach'
      (throughout_of_forall foreign w₁) ⟨holds, issued⟩
    exact exclusive_of_holds reach'' issued'' holds''
  · obtain ⟨reach'', expires'', issued''⟩ := run_keeps
      (P := fun l => l.Expires t ∧ t.request.Suits l t.layout)
      (fun w v => expires_visit) reach' untold ⟨holds.expires, issued⟩
    exact lapsed_of_expires reach'' issued'' expires''
  · obtain ⟨-, mine⟩ := run_keeps (P := fun l => NobodyElse l t)
      (fun w v => nobodyElse_visit) reach' untold
      (nobodyElse_of_holds holds)
    rintro r ⟨label, s, hold, labelled, there, own, other, -⟩
    exact other (mine label s hold labelled there own)

/-- The receipt that the first hold gets for the seat. -/
def oneSeatToken : Token where
  hold := ⟨.random 1⟩
  event := ⟨1⟩
  category := ⟨10⟩
  unit := .seat ⟨1⟩ "A1"
  expiresAt := .ofParts 1010 0

/-- The seat is asked for; a sweep and another request for it come at the very expiry, or a sweep comes
a nanosecond later. -/
theorem hold_exclusive_one_seat :
    let served := oneSeat.serve (.reserve (.seated ⟨.random 1⟩ ⟨1⟩ ⟨10⟩ "A1"))
    oneSeat.ledger.Reachable ∧ served = (.ok (.ok oneSeatToken), served.2) ∧
    (served.2.run [⟨.ofParts 1010 0, .sweep⟩,
      ⟨.ofParts 1010 0, .call (.reserve (.seated ⟨.random 2⟩ ⟨1⟩ ⟨10⟩ "A1"))⟩]).Exclusive
        oneSeatToken ∧
    (served.2.run [⟨.ofParts 1010 1, .sweep⟩]).Lapsed oneSeatToken ∧
    ∀ r, ¬ IsLateFor r (served.2.run [⟨.ofParts 1010 1, .sweep⟩]) oneSeatToken := by
  have reach : oneSeat.ledger.Reachable := ⟨[.addSeated _ _], rfl⟩
  have all := hold_exclusive (r := .seated ⟨.random 1⟩ ⟨1⟩ ⟨10⟩ "A1") (t := oneSeatToken) reach
    (Prod.ext rfl rfl)
  exact ⟨reach, Prod.ext rfl rfl, all.1 _ (by decide), all.2.1 _ ⟨nofun, trivial⟩,
    all.2.2 _ ⟨nofun, trivial⟩⟩

end Inventory

end BoxOffice
