import BoxOffice.Proofs.Inventory.Availability

/-!
# Asking again

A request is answered with the same token again as long as its hold has not lapsed, and asking again
changes nothing (`reserve_again`). What the token says is kept by all that happens in the name of
others meanwhile, by visits and past the service alike (`holds_through`); and while the hold has what
the token says, the token can be read off the ledger (`serve_reserve_of_holds`), no matter whether it
was first given for a free unit, for one taken over, for a hold renewed or for a place taken again.
-/

namespace BoxOffice

open Rehearsal Reservations

/-- The token says what the request asked for. -/
structure Token.Answers (t : Token) (r : ReserveRequest) : Prop where
  hold : t.hold = r.hold
  event : t.event = r.event
  category : t.category = r.category
  label : t.seatLabel = namedSeat r

namespace Token.Answers

variable {t : Token} {r : ReserveRequest}

theorem token_eq (h : t.Answers r) : r.token t.unit t.expiresAt = t := by
  cases t
  simp only [ReserveRequest.token, ← h.hold, ← h.event, ← h.category]

theorem suits (h : t.Answers r) {l : MemoryLedger} {layout : Layout}
    (issued : t.request.Suits l layout) : r.Suits l layout := by
  unfold ReserveRequest.Suits
  rw [← h.category, ← h.event]
  exact issued

end Token.Answers

/-- A pool takes no second place for a hold that is live. -/
theorem Pool.take_of_live {p : Pool} {hold : HoldId} {h : StockHold} {now : Instant}
    (mine : p.holds.get? hold = some h) (live : h.isLive now) (category : CategoryId)
    (last : Instant) : p.take category hold now last = (.existing h, p) := by
  obtain ⟨held, early⟩ := StockHold.isLive_iff.1 live
  simp only [take, mine, held, early, if_true]

namespace MemoryLedger

/-- The hold in whose name something is done. -/
def Act.hold? : Act → Option HoldId
  | .call c => c.hold?
  | _ => none

/-- The reading of the clock that decides what is done. -/
def Act.time? : Act → Option Instant
  | .call c => c.time?
  | _ => none

variable {l : MemoryLedger} {t : Token} {a : Act}

/-- A further category leaves the seats and the places of the others alone. -/
theorem Holds.provision (h : l.Holds t) (provision : a.isProvision) : (l.act a).Holds t := by
  unfold Holds at h ⊢
  cases unit : t.unit with
  | seat id label =>
    rw [unit] at h
    obtain ⟨seat, there, described⟩ := h
    obtain ⟨s, found, on_seat⟩ := Option.bind_eq_some_iff.1 there
    exact ⟨seat, Option.bind_eq_some_iff.2 ⟨s, get?_provision provision found, on_seat⟩, described⟩
  | stock =>
    rw [unit] at h
    obtain ⟨h, there, described⟩ := h
    obtain ⟨s, found, place⟩ := Option.bind_eq_some_iff.1 there
    exact ⟨h, Option.bind_eq_some_iff.2 ⟨s, get?_provision provision found, place⟩, described⟩

/-- A live hold stays as it is, whatever is done in the name of others until its expiry. -/
theorem Holds.act (h : l.Holds t) (foreign : a.hold? ≠ some t.hold)
    (early : ∀ now ∈ a.time?, now ≤ t.expiresAt) : (l.act a).Holds t := by
  cases a with
  | call c =>
    show (l.answer c).2.Holds t
    rw [answer_eq]
    exact h.after foreign early
  | addSeated | addStanding => exact h.provision rfl

theorem suits_act {r : ReserveRequest} {layout : Layout} (h : r.Suits l layout) (a : Act) :
    r.Suits (l.act a) layout := by
  obtain ⟨s, there, event, layout⟩ := h
  refine ⟨_, get?_act there a, ?_, ?_⟩
  · cases a <;> exact event
  · cases a <;> exact layout

end MemoryLedger

/-- Something happens to an inventory: somebody comes to it, or something is done to its ledger past
the service. -/
inductive Happening
  | visit (v : Visit)
  | act (a : MemoryLedger.Act)

namespace Happening

/-- The hold in whose name something happens. -/
def hold? : Happening → Option HoldId
  | visit v => v.hold?
  | act a => a.hold?

/-- The reading of the clock that decides what happens. -/
def time? : Happening → Option Instant
  | visit v => some v.time
  | act a => a.time?

end Happening

namespace Inventory

/-- The inventory after something happened. -/
def happen (w : Inventory) : Happening → Inventory
  | .visit v => w.visit v
  | .act a => { w with ledger := w.ledger.act a }

/-- The inventory after some things happened, one after the other. -/
def through (w : Inventory) (happenings : List Happening) : Inventory :=
  happenings.foldl happen w

/-! ### What happens meanwhile -/

theorem happen_hold (w : Inventory) (h : Happening) : (w.happen h).hold = w.hold := by
  cases h with
  | act a => rfl
  | visit v => exact w.visit_hold v

theorem happen_reachable {w : Inventory} (reach : w.ledger.Reachable) (h : Happening) :
    (w.happen h).ledger.Reachable := by
  cases h with
  | act a => exact reach.run [a]
  | visit v => exact visit_reachable reach v

variable {w : Inventory} {t : Token}

/-- What a token says and where it comes from is left alone by all that happens in the name of others
until its expiry. -/
theorem holds_happen {h : Happening} (reach : w.ledger.Reachable) (foreign : h.hold? ≠ some t.hold)
    (early : ∀ now ∈ h.time?, now ≤ t.expiresAt)
    (before : w.ledger.Holds t ∧ t.request.Suits w.ledger t.layout) :
    (w.happen h).ledger.Holds t ∧ t.request.Suits (w.happen h).ledger t.layout := by
  cases h with
  | visit v => exact holds_visit reach foreign (early v.time rfl) before
  | act a => exact ⟨before.1.act foreign early, MemoryLedger.suits_act before.2 a⟩

theorem holds_through {happenings : List Happening} (reach : w.ledger.Reachable)
    (foreign : ∀ h ∈ happenings, h.hold? ≠ some t.hold)
    (early : ∀ h ∈ happenings, ∀ now ∈ h.time?, now ≤ t.expiresAt)
    (before : w.ledger.Holds t ∧ t.request.Suits w.ledger t.layout) :
    (w.through happenings).ledger.Reachable ∧ (w.through happenings).hold = w.hold ∧
      (w.through happenings).ledger.Holds t ∧
      t.request.Suits (w.through happenings).ledger t.layout := by
  induction happenings generalizing w with
  | nil => exact ⟨reach, rfl, before⟩
  | cons h rest ih =>
    have first : h ∈ h :: rest := List.mem_cons_self ..
    have after := holds_happen reach (foreign h first) (early h first) before
    obtain ⟨reach', hold, after'⟩ := ih (happen_reachable reach h)
      (fun h' m => foreign h' (List.mem_cons_of_mem _ m))
      (fun h' m => early h' (List.mem_cons_of_mem _ m)) after
    exact ⟨reach', hold.trans (w.happen_hold h), after'⟩

/-! ### The repeated request -/

section

variable (reach : w.ledger.Reachable) {r : ReserveRequest} (answers : t.Answers r)
  (holds : w.ledger.Holds t) (issued : t.request.Suits w.ledger t.layout)
  (in_time : w.stage.now ≤ t.expiresAt) {last : Instant} (due : w.stage.now.add? w.hold = some last)

include reach answers holds issued in_time due

/-- The claim on a seat that the hold has is refused, and the token is read off the seat. -/
theorem serve_reserve_of_holds_seat {id : SeatId} {label : String} (unit : t.unit = .seat id label) :
    ∃ w', w.serve (.reserve r) = (.ok (.ok t), w') ∧ w'.ledger = w.ledger := by
  have layout : t.layout = .seated := by simp [Token.layout, Token.seatLabel, unit]
  have named : namedSeat r = some label := by simp [← answers.label, Token.seatLabel, unit]
  unfold MemoryLedger.Holds at holds
  rw [unit] at holds
  obtain ⟨s, there, rfl, reserved, mine, until_last⟩ := holds
  rw [answers.category] at there
  obtain ⟨w', ⟨claimable, -⟩ | ⟨-, same, served⟩ | ⟨-, other, -⟩⟩ :=
    serve_reserve_seat reach (answers.suits (layout ▸ issued)) named due there
  · rcases Seat.isClaimable_iff.1 claimable with free | ⟨-, past⟩
    · simp [reserved] at free
    · exact absurd in_time (Instant.not_le.2 (past _ until_last))
  · refine ⟨w', ?_, same⟩
    rw [served, until_last, Option.getD_some, ← unit, answers.token_eq]
  · exact absurd (Seat.isHeldBy_iff.2 ⟨reserved, answers.hold ▸ mine, _, until_last, in_time⟩) other

/-- The pool is asked again and answers with the hold as it is. -/
theorem serve_reserve_of_holds_stock (unit : t.unit = .stock) :
    ∃ w', w.serve (.reserve r) = (.ok (.ok t), w') ∧ w'.ledger = w.ledger := by
  have layout : t.layout = .standing := by simp [Token.layout, Token.seatLabel, unit]
  have suits : r.Suits w.ledger .standing := answers.suits (layout ▸ issued)
  have unnamed : namedSeat r = none := by simp [← answers.label, Token.seatLabel, unit]
  unfold MemoryLedger.Holds at holds
  rw [unit] at holds
  obtain ⟨h, there, held, until_last⟩ := holds
  rw [answers.category, answers.hold] at there
  have live : h.isLive w.stage.now := StockHold.isLive_iff.2 ⟨held, until_last ▸ in_time⟩
  obtain ⟨a, w', served, way⟩ := serve_reserve reach r
  refine ⟨w', ?_⟩
  generalize w'.ledger = l' at way ⊢
  cases way with
  | categoryMissing missing =>
    obtain ⟨s, found, -⟩ := suits
    simp [missing] at found
  | foreignEvent found' foreign =>
    obtain ⟨s, found, event, -⟩ := suits
    obtain rfl := Option.some.inj (found.symm.trans found')
    exact absurd event foreign
  | seatLabelRequired suits' | seatMissing suits' | seatReserved suits' | seatReplayed suits'
  | seatRefused suits' => cases suits.unique suits'
  | seatLabelRefused _ named => simp [unnamed] at named
  | outOfTime _ _ unknown => simp [unknown] at due
  | stockTaken _ _ _ found taken =>
    obtain ⟨s, found', mine⟩ := Option.bind_eq_some_iff.1 there
    obtain rfl := Option.some.inj (found'.symm.trans found)
    rw [Pool.take_of_live mine live] at taken
    cases taken
  | stockReplayed _ _ _ there' =>
    obtain rfl := Option.some.inj (there.symm.trans there')
    have token : r.token .stock h.expiresAt = t := by rw [until_last, ← unit, answers.token_eq]
    exact ⟨token ▸ served, rfl⟩
  | stockSpent _ _ _ there' sold =>
    obtain rfl := Option.some.inj (there.symm.trans there')
    simp [held] at sold
  | stockSoldOut _ _ _ _ _ gone => rcases gone h there with gone | gone <;> simp [held] at gone

/-- A request whose hold has what the token says is answered with the token, and changes nothing. -/
theorem serve_reserve_of_holds :
    ∃ w', w.serve (.reserve r) = (.ok (.ok t), w') ∧ w'.ledger = w.ledger := by
  cases unit : t.unit with
  | seat id label =>
    exact serve_reserve_of_holds_seat reach answers holds issued in_time due unit
  | stock => exact serve_reserve_of_holds_stock reach answers holds issued in_time due unit

end

/-- **The hold identifier makes a request repeatable.** A request was given the token `t`. Whatever
happens in the name of others until its expiry, the same request is given exactly `t` again at any time
until then at which the clock knows the end of a new hold, and the ledger stays as it is. -/
theorem reserve_again {w' : Inventory} {r : ReserveRequest} (reach : w.ledger.Reachable)
    (served : w.serve (.reserve r) = (.ok (.ok t), w')) {happenings : List Happening}
    (foreign : ∀ h ∈ happenings, h.hold? ≠ some r.hold)
    (early : ∀ h ∈ happenings, ∀ now ∈ h.time?, now ≤ t.expiresAt) {now : Instant}
    (in_time : now ≤ t.expiresAt) (due : (now.add? w.hold).isSome) :
    ∃ w'', ((w'.through happenings).atTime now).serve (.reserve r) = (.ok (.ok t), w'') ∧
      w''.ledger = (w'.through happenings).ledger := by
  obtain ⟨a, w₁, served', way⟩ := serve_reserve reach r
  obtain ⟨rfl, rfl⟩ : a = .ok (.ok t) ∧ w₁ = w' := Prod.mk.inj (served'.symm.trans served)
  obtain ⟨holds, hold, category, event, label, issued⟩ := way.granted
  have reach' : w₁.ledger.Reachable := by
    have := play_reachable (Reservations.answer w.hold (.reserve r)) reach
    rw [serve] at served
    rwa [served] at this
  have span : w₁.hold = w.hold := by
    have := (play_now (Reservations.answer w.hold (.reserve r)) w).2
    rw [serve] at served
    rwa [served] at this
  -- whichever way the token was come by, the hold has what it says, and keeps it meanwhile
  obtain ⟨reach'', span', holds', issued'⟩ :=
    holds_through reach' (hold ▸ foreign) early ⟨holds, issued⟩
  obtain ⟨last, due⟩ := Option.isSome_iff_exists.1 due
  have due' : now.add? (w₁.through happenings).hold = some last := by rw [span', span, due]
  exact serve_reserve_of_holds (w := (w₁.through happenings).atTime now) reach''
    ⟨hold, event, category, label⟩ holds' issued' in_time due'

/-- A hold on the only place has lapsed and was swept, and takes the place again. At the very end of its
time another hold asks in vain, a sweep comes and a category is added; then the request is repeated. -/
theorem reserve_again_one_place :
    let w := onePlaceLapsed.sweep.2
    let request : ReserveRequest := ⟨⟨.random 1⟩, ⟨1⟩, ⟨20⟩, none⟩
    let token : Token := ⟨⟨.random 1⟩, ⟨1⟩, ⟨20⟩, .stock, .ofParts 1020 1⟩
    let happenings : List Happening :=
      [.visit ⟨.ofParts 1020 1, .call (.reserve { request with hold := ⟨.random 2⟩ })⟩,
        .visit ⟨.ofParts 1020 1, .sweep⟩,
        .act (.addSeated (.seated ⟨10⟩ ⟨1⟩ "Stalls" ⟨9900⟩ 0) ["A1"])]
    (w.ledger.stock? ⟨20⟩ ⟨.random 1⟩).map StockHold.state = some .expired ∧
    w.serve (.reserve request) = (.ok (.ok token), (w.serve (.reserve request)).2) ∧
    ∃ w'', (((w.serve (.reserve request)).2.through happenings).atTime (.ofParts 1020 1)).serve
        (.reserve request) = (.ok (.ok token), w'') ∧
      w''.ledger = ((w.serve (.reserve request)).2.through happenings).ledger := by
  have reach : onePlaceLapsed.sweep.2.ledger.Reachable :=
    play_reachable _ (play_reachable _ ⟨[.addStanding _], rfl⟩ : onePlaceLapsed.ledger.Reachable)
  refine ⟨by decide, Prod.ext rfl rfl, ?_⟩
  exact reserve_again reach (Prod.ext rfl rfl) (by decide) (by decide) (by decide) (by decide)

end Inventory

end BoxOffice
