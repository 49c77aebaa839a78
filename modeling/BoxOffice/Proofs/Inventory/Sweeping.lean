import BoxOffice.Proofs.Inventory.Exclusive
import BoxOffice.Proofs.Ledger.Matching

/-!
# Sweeps go unnoticed

Who reserves seats, gives them back, buys them or looks at what is left cannot tell whether lapsed holds
were swept before: a seat whose hold has lapsed is taken over as one that is free is reserved, its late
owner is refused as a stranger is, and it is counted among those that are left. Inventories with matching
ledgers serve every call about seats alike (`serve_alike`), and a sweep of one of them leaves them
matching, so the answers of a run do not depend on the sweeps in it (`sweeps_unnoticed`).
-/

namespace BoxOffice

open Rehearsal Reservations

/-- Somebody comes to call the service, not to sweep. -/
def Visit.isCall (v : Visit) : Bool :=
  match v.errand with
  | .call _ => true
  | .sweep => false

/-- The category that a call is about. -/
def Reservations.Call.category : Reservations.Call → CategoryId
  | .reserve request => request.category
  | .release token => token.category
  | .confirm token => token.category
  | .availability category => category

/-- A category is not one of places that are all alike. -/
def MemoryLedger.OnSeats (l : MemoryLedger) (id : CategoryId) : Prop :=
  ∀ s, l.sections.get? id = some s → s.category.layout = .seated

namespace MemoryLedger.OnSeats

variable {l l' : MemoryLedger} {id : CategoryId} {now : Instant}

theorem of_matches (h : l.OnSeats id) (m : l.Matches l' now) : l'.OnSeats id := by
  intro t there
  rcases rel_cases (m id) with ⟨-, e'⟩ | ⟨s, t', e, e', matched⟩
  · simp [there] at e'
  · obtain rfl := Option.some.inj (there.symm.trans e')
    rw [matched.category]
    exact h s e

theorem after (h : l.OnSeats id) (c : Ledger.Call) : (l.after c).OnSeats id := by
  intro t there
  rw [get?_after] at there
  obtain ⟨s, found, rfl⟩ := Option.map_eq_some_iff.1 there
  exact h s found

end MemoryLedger.OnSeats

namespace Section.Sound

variable {s : Section} {id : CategoryId}

theorem current_of_seated (h : s.Sound id) (seated : s.category.layout = .seated) :
    s.current = s.category := by
  rcases h.kinds with ⟨-, fixed, -⟩ | ⟨standing, -⟩
  · exact Section.current_of_fixed fixed
  · simp [seated] at standing

theorem pool_of_seated (h : s.Sound id) (seated : s.category.layout = .seated) :
    s.pool = .empty := by
  rcases h.kinds with ⟨-, -, -, empty⟩ | ⟨standing, -⟩
  · exact empty
  · simp [seated] at standing

end Section.Sound

namespace Inventory

/-- There are no places in a category of seats. -/
theorem stock?_of_onSeats {l : MemoryLedger} (reach : l.Reachable) {id : CategoryId}
    (seats : l.OnSeats id) (hold : HoldId) (now : Instant) :
    l.stock? id hold = none ∧
      ((l.sections.get? id).bind fun s => s.pool.settle? hold now) = none := by
  unfold MemoryLedger.stock?
  cases there : l.sections.get? id with
  | none => exact ⟨rfl, rfl⟩
  | some s =>
    rw [Option.bind_some, Option.bind_some,
      (reach.sound there).pool_of_seated (seats s there)]
    exact ⟨rfl, rfl⟩

/-- Two inventories at the same time, whose holds last equally long and whose ledgers match. -/
structure Matches (w w' : Inventory) : Prop where
  clock : w'.stage.now = w.stage.now
  span : w'.hold = w.hold
  reach : w.ledger.Reachable
  reach' : w'.ledger.Reachable
  ledger : w.ledger.Matches w'.ledger w.stage.now

/-- Both inventories give the same answer to a program and are left with matching ledgers. -/
def PlaysAlike {α : Type} (w w' : Inventory) (p : Program InventoryWorld α) : Prop :=
  (p.play answer w').1 = (p.play answer w).1 ∧
    (p.play answer w).2.ledger.Matches (p.play answer w').2.ledger w.stage.now

variable {w w' : Inventory} (m : w.Matches w')

include m

/-- Claims are answered alike, and so is the second look at a seat that could not be claimed. -/
theorem reserveSeat_alike (r : ReserveRequest) (c : Category) :
    w.PlaysAlike w' (reserveSeat w.hold r c).run := by
  unfold reserveSeat
  cases named : namedSeat r with
  | none => exact ⟨rfl, m.ledger⟩
  | some label =>
  unfold PlaysAlike
  simp only [Service.play_bind, play_clock, play_later, m.clock]
  cases due : w.stage.now.add? w.hold with
  | none => exact ⟨rfl, m.ledger⟩
  | some last =>
  simp only [play_reserveSeat]
  set claim : SeatClaim := ⟨c.id, label, r.hold, w.stage.now, last⟩
  have after := m.ledger.after (c := .reserveSeat claim) (by
    rintro time ⟨⟩
    rfl)
  have claims := m.ledger.claim?_eq claim rfl
  rw [claims]
  cases claimed : (w.ledger.seat? claim.category claim.label).bind fun s => s.claim? claim with
  | some seat => exact ⟨rfl, after⟩
  | none =>
    have same : w'.ledger.seat? c.id label = w.ledger.seat? c.id label :=
      m.ledger.seat?_eq_of_not_claimed claim rfl claimed
    have kept := MemoryLedger.after_reserveSeat_eq_self claimed
    have kept' := MemoryLedger.after_reserveSeat_eq_self (claims.trans claimed)
    simp only [explainSeat, Service.play_bind, play_seat, after_ledger, kept, kept', same]
    cases there : w.ledger.seat? c.id label with
    | none => exact ⟨rfl, after⟩
    | some seat =>
      simp only
      split
      · exact ⟨rfl, after⟩
      · exact ⟨rfl, after⟩

/-- A request is checked alike, as matching ledgers have the same categories. -/
theorem reserve_alike {r : ReserveRequest} (seats : w.ledger.OnSeats r.category) :
    w.PlaysAlike w' (Reservations.reserve w.hold r).run := by
  unfold PlaysAlike Reservations.reserve requestedCategory
  simp only [Service.play_bind, play_category]
  rcases rel_cases (m.ledger r.category) with ⟨e, e'⟩ | ⟨s, t, e, e', matched⟩ <;> rw [e, e']
  · exact ⟨rfl, m.ledger⟩
  have seated := seats s e
  have current : t.current = s.category := by
    rw [(m.reach'.sound e').current_of_seated (matched.category ▸ seated), matched.category]
  rw [Option.map_some, Option.map_some, current, (m.reach.sound e).current_of_seated seated]
  by_cases event : s.category.event = r.event
  · simp only [event, if_true, Service.play_pure, seated]
    exact reserveSeat_alike m r s.category
  · simp only [event, if_false]
    exact ⟨rfl, m.ledger⟩

/-- Sales are answered alike. -/
theorem confirm_alike {t : Token} (seats : w.ledger.OnSeats t.category) :
    w.PlaysAlike w' (Reservations.confirm t).run := by
  unfold PlaysAlike Reservations.confirm
  cases unit : t.unit with
  | seat id label =>
    have after := m.ledger.after (c := .sellSeat t.category label t.hold w.stage.now) (by
      rintro time ⟨⟩
      rfl)
    simp only [confirmSeat, Service.play_bind, play_clock, play_sellSeat, m.clock,
      m.ledger.sell?_eq]
    split
    · exact ⟨rfl, after⟩
    · exact ⟨rfl, after⟩
  -- a token for a place is worth nothing here
  | stock =>
    obtain ⟨unknown, nothing⟩ := stock?_of_onSeats m.reach seats t.hold w.stage.now
    obtain ⟨unknown', nothing'⟩ := stock?_of_onSeats m.reach' (seats.of_matches m.ledger) t.hold w.stage.now
    have kept := MemoryLedger.after_settleStock_eq_self nothing
    have kept' := MemoryLedger.after_settleStock_eq_self nothing'
    have after := m.ledger.after (c := .settleStock t.category t.hold w.stage.now) (by
      rintro time ⟨⟩
      rfl)
    simp only [confirmStock, Service.play_bind, play_clock, play_settleStock, m.clock, nothing,
      nothing', Option.isSome_none, Bool.false_eq_true, if_false, play_stockHold, after_ledger, kept,
      kept', unknown, unknown']
    exact ⟨rfl, after⟩

/-- Giving back succeeds always. -/
theorem release_alike (t : Token) : w.PlaysAlike w' (Reservations.release t).run := by
  obtain ⟨v, served, after⟩ := w.serve_release t
  obtain ⟨v', served', after'⟩ := w'.serve_release t
  have played : (Reservations.release t).run.play answer w = (.ok (.ok ()), v) := served
  have played' : (Reservations.release t).run.play answer w' = (.ok (.ok ()), v') := served'
  unfold PlaysAlike
  rw [played, played', after, after']
  refine ⟨rfl, m.ledger.after ?_⟩
  unfold Token.giveBack
  cases t.unit <;> rintro time ⟨⟩

/-- Snapshots are the same. -/
theorem availability_alike {id : CategoryId} (seats : w.ledger.OnSeats id) :
    w.PlaysAlike w' (Reservations.availability id).run := by
  unfold PlaysAlike Reservations.availability
  simp only [Service.play_bind, play_clock, play_availability, m.clock]
  rcases rel_cases (m.ledger id) with ⟨e, e'⟩ | ⟨s, t, e, e', matched⟩ <;> rw [e, e']
  · exact ⟨rfl, m.ledger⟩
  have seated := seats s e
  have pool := (m.reach.sound e).pool_of_seated seated
  have pool' := (m.reach'.sound e').pool_of_seated (matched.category ▸ seated)
  simp only [Option.map_some, (matched.alike pool pool').availability_eq]
  exact ⟨rfl, m.ledger⟩

/-- **Matching inventories serve a call about seats alike.** -/
theorem serve_alike {c : Reservations.Call} (seats : w.ledger.OnSeats c.category) :
    (w'.serve c).1 = (w.serve c).1 ∧
      (w.serve c).2.ledger.Matches (w'.serve c).2.ledger w.stage.now := by
  cases c with
  | reserve r =>
    have alike := reserve_alike m seats
    unfold serve
    rw [m.span]
    exact alike
  | release t => exact release_alike m t
  | confirm t => exact confirm_alike m seats
  | availability id => exact availability_alike m seats

omit m

/-! ### Runs -/

/-- What somebody who calls the service is answered, together with the call. -/
def answered? (w : Inventory) (v : Visit) :
    Option ((c : Reservations.Call) × Except Breakdown (Result c.Answer)) :=
  match v.errand with
  | .call c => some ⟨c, ((w.atTime v.time).serve c).1⟩
  | .sweep => none

/-- The calls to the service in a run of visits, and their answers. -/
def answers (w : Inventory) :
    List Visit → List ((c : Reservations.Call) × Except Breakdown (Result c.Answer))
  | [] => []
  | v :: visits => (w.answered? v).toList ++ (w.visit v).answers visits

theorem visit_sweep_ledger (w : Inventory) (time : Instant) :
    (w.visit ⟨time, .sweep⟩).ledger = w.ledger.after (.reclaim time) := by
  obtain ⟨v, swept, after⟩ := (w.atTime time).sweep_ledger
  show (w.atTime time).sweep.2.ledger = _
  rw [swept]
  exact after

theorem onSeats_visit (reach : w.ledger.Reachable) {id : CategoryId} (seats : w.ledger.OnSeats id)
    (v : Visit) : (w.visit v).ledger.OnSeats id := by
  rcases visit_cases reach v with same | ⟨c, after, -⟩
  · rwa [same]
  · rw [after]
    exact seats.after c

/-- **Sweeps may be left out of a run.** Two inventories whose ledgers match at the times of the visits
give the same answers, the second one without the sweeps, and match at the end. -/
theorem answers_unswept {w w' : Inventory} (span : w'.hold = w.hold) (reach : w.ledger.Reachable)
    (reach' : w'.ledger.Reachable) {visits : List Visit}
    (ordered : visits.Pairwise fun u v => u.time ≤ v.time)
    (seats : ∀ v ∈ visits, ∀ c, v.errand = .call c → w.ledger.OnSeats c.category)
    (matched : ∀ v ∈ visits, w.ledger.Matches w'.ledger v.time) :
    w'.answers (visits.filter Visit.isCall) = w.answers visits ∧
      ∀ now, (∀ v ∈ visits, v.time ≤ now) → w.ledger.Matches w'.ledger now →
        (w.run visits).ledger.Matches (w'.run (visits.filter Visit.isCall)).ledger now := by
  induction visits generalizing w w' with
  | nil => exact ⟨rfl, fun now _ matched => matched⟩
  | cons v visits ih =>
    obtain ⟨first, rest_ordered⟩ := List.pairwise_cons.1 ordered
    have reach_next := visit_reachable reach v
    have span_next := w.visit_hold v
    have here := matched v (List.mem_cons_self ..)
    have seats_next : ∀ u ∈ visits, ∀ c, u.errand = .call c → (w.visit v).ledger.OnSeats c.category :=
      fun u mem c calls => onSeats_visit reach (seats u (List.mem_cons_of_mem _ mem) c calls) v
    obtain ⟨time, errand⟩ := v
    cases errand with
    | sweep =>
      -- the second inventory is not swept, and matches the first one all the same
      have after : (w.visit ⟨time, .sweep⟩).ledger.Matches w'.ledger time := by
        rw [visit_sweep_ledger]
        exact here.swept
      obtain ⟨alike, finish⟩ := ih (span.trans span_next.symm) reach_next reach' rest_ordered
        seats_next
        fun u mem => after.later (first u mem)
      refine ⟨alike, fun now last _ => ?_⟩
      exact finish now (fun u mem => last u (List.mem_cons_of_mem _ mem))
        (after.later (last _ (List.mem_cons_self ..)))
    | call c =>
      have both : (w.atTime time).Matches (w'.atTime time) := ⟨rfl, span, reach, reach', here⟩
      obtain ⟨same, after⟩ := serve_alike both (seats _ (List.mem_cons_self ..) c rfl)
      obtain ⟨alike, finish⟩ := ih ((w'.visit_hold _).trans (span.trans span_next.symm)) reach_next
        (visit_reachable reach' ⟨time, .call c⟩) rest_ordered seats_next
        fun u mem => after.later (first u mem)
      refine ⟨?_, fun now last _ => ?_⟩
      · have answered : w'.answered? ⟨time, .call c⟩ = w.answered? ⟨time, .call c⟩ := by
          simp only [answered?]
          rw [same]
        show (w'.answered? ⟨time, .call c⟩).toList ++ _ = (w.answered? ⟨time, .call c⟩).toList ++ _
        rw [answered, alike]
      · exact finish now (fun u mem => last u (List.mem_cons_of_mem _ mem))
          (after.later (last _ (List.mem_cons_self ..)))

/-- **Sweeps go unnoticed.** Two runs of visits make the same calls about seats at the same times, one
after the other, and are swept at any times in between. Then all calls are answered alike, and when both
inventories are swept in the end, the same seats stand in the same places. -/
theorem sweeps_unnoticed {w : Inventory} (reach : w.ledger.Reachable) {visits others : List Visit}
    (ordered : visits.Pairwise fun u v => u.time ≤ v.time)
    (ordered' : others.Pairwise fun u v => u.time ≤ v.time)
    (same : others.filter Visit.isCall = visits.filter Visit.isCall)
    (seats : ∀ v ∈ visits, ∀ c, v.errand = .call c → w.ledger.OnSeats c.category) :
    w.answers others = w.answers visits ∧
      ∀ now, (∀ v ∈ visits ++ others, v.time ≤ now) → ∀ id label,
        ((w.run others).visit ⟨now, .sweep⟩).ledger.seat? id label =
          ((w.run visits).visit ⟨now, .sweep⟩).ledger.seat? id label := by
  have seats' : ∀ v ∈ others, ∀ c, v.errand = .call c → w.ledger.OnSeats c.category := by
    intro v mem c calls
    have called : v ∈ others.filter Visit.isCall :=
      List.mem_filter.2 ⟨mem, by simp only [Visit.isCall, calls]⟩
    rw [same] at called
    exact seats v (List.mem_filter.1 called).1 c calls
  -- both runs are compared with the run that is not swept at all
  obtain ⟨alike, finish⟩ := answers_unswept rfl reach reach ordered seats
    fun v _ => .refl w.ledger v.time
  obtain ⟨alike', finish'⟩ := answers_unswept rfl reach reach ordered' seats'
    fun v _ => .refl w.ledger v.time
  rw [same] at alike' finish'
  refine ⟨alike'.symm.trans alike, fun now last id label => ?_⟩
  have matched := finish now (fun v mem => last v (List.mem_append_left _ mem)) (.refl _ _)
  have matched' := finish' now (fun v mem => last v (List.mem_append_right _ mem)) (.refl _ _)
  have reached := run_reachable reach visits
  have reached' := run_reachable reach others
  rw [visit_sweep_ledger, visit_sweep_ledger]
  have unswept := run_reachable reach (visits.filter Visit.isCall)
  rw [← matched.seat?_of_swept reached unswept, ← matched'.seat?_of_swept reached' unswept]

/-- The seat is taken over by a second hold just after the first one has lapsed, once from the first hold
and once after a sweep. The first hold comes too late to buy it and has nothing to give back, and the
second buys it. -/
theorem sweeps_unnoticed_one_seat :
    let late : Instant := .ofParts 1010 1
    let taken : Visit := ⟨.ofParts 1000 0, .call (.reserve (.seated ⟨.random 1⟩ ⟨1⟩ ⟨10⟩ "A1"))⟩
    let request : ReserveRequest := .seated ⟨.random 2⟩ ⟨1⟩ ⟨10⟩ "A1"
    let token : Token := ⟨⟨.random 2⟩, ⟨1⟩, ⟨10⟩, .seat ⟨1⟩ "A1", .ofParts 1020 1⟩
    let rest : List Visit :=
      [⟨late, .call (.reserve request)⟩, ⟨late, .call (.confirm oneSeatToken)⟩,
        ⟨late, .call (.release oneSeatToken)⟩,
        ⟨late, .call (.availability ⟨10⟩)⟩, ⟨late, .call (.confirm token)⟩]
    oneSeat.ledger.Reachable ∧
    oneSeat.answers (taken :: ⟨late, .sweep⟩ :: rest) = oneSeat.answers (taken :: rest) ∧
    (oneSeat.answers (taken :: rest)).drop 1 =
      [⟨.reserve request, .ok (.ok token)⟩,
        ⟨.confirm oneSeatToken, .ok (refuse (.seatNotHeld "A1" ⟨.random 1⟩))⟩,
        ⟨.release oneSeatToken, .ok (.ok ())⟩, ⟨.availability ⟨10⟩, .ok (.ok ⟨1, 0, 1, 0⟩)⟩,
        ⟨.confirm token, .ok (.ok ())⟩] := by
  have reach : oneSeat.ledger.Reachable := ⟨[.addSeated _ _], rfl⟩
  have seats : ∀ id, oneSeat.ledger.OnSeats id := by
    have all : ∀ s ∈ oneSeat.ledger.sections.values, s.category.layout = .seated := by decide
    exact fun id s there => all s (Registry.mem_values.2 ⟨id, there⟩)
  refine ⟨reach, ?_, rfl⟩
  exact (sweeps_unnoticed reach (by decide) (by decide) (by rfl) fun v _ c _ => seats c.category).1

end Inventory

end BoxOffice
