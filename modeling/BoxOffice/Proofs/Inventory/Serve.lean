import BoxOffice.Proofs.Ledger.Held
import BoxOffice.Proofs.Play
import BoxOffice.Reclaimer

/-!
# The inventory at work

A ledger on a stage answers the calls of the inventory service and of the reclaimer. What is done to
its ledger is a run of ledger calls (`play_reachable`), and the clock stands still meanwhile
(`play_now`). Giving back and selling are one ledger call each (`serve_release`,
`serve_confirm_of_sells`), as is a sweep (`sweep_ledger`). Of the journal it is said which counters
grow (`Counts`).
-/

namespace BoxOffice

open Rehearsal

/-! ### The clock -/

/-- Time that is added is not taken away, also where it is added to a leap second. -/
theorem Instant.le_of_add? {now last : Instant} {span : Span} (forwards : 0 ≤ span.nanos)
    (due : now.add? span = some last) : now ≤ last := by
  simp only [add?, Option.ite_none_right_eq_some, Option.some.injEq] at due
  obtain ⟨-, rfl⟩ := due
  have seconds : span.seconds = span.nanos / 1000000000 := Int.tdiv_eq_ediv_of_nonneg forwards
  simp only [le_def, shift, isLeap, decide_eq_true_eq, seconds]
  -- each of the sums is compared place by place
  split
  · split
    · simp only [ofParts, nano, second] at *
      omega
    · split <;> simp only [ofNanos, ofParts, nanos, nano, second] at * <;> omega
  · simp only [ofNanos, ofParts, nanos, nano, second] at *
    omega

/-! ### The inventory -/

/-- An inventory at work: a ledger on a stage, and how long its holds last. -/
structure Inventory where
  hold : Span
  stage : Stage
  ledger : MemoryLedger

namespace Inventory

/-- Answers a call of the services of the inventory. -/
def answer (w : Inventory) :
    (c : InventoryWorld.Call) → Except Breakdown (InventoryWorld.Reply c) × Inventory
  | .inl c =>
    let (reply, ledger) := w.ledger.answer c
    (.ok reply, { w with ledger })
  | .inr c =>
    let (reply, stage) := w.stage.answer c
    (reply, { w with stage })

/-- Serves a call of the front desk. -/
def serve (w : Inventory) (c : Reservations.Call) :
    Except Breakdown (Result c.Answer) × Inventory :=
  (Reservations.answer w.hold c).play answer w

/-- Sweeps once. -/
def sweep (w : Inventory) : Except Breakdown (Result SweepReport) × Inventory :=
  Reclaimer.sweep.run.play answer w

/-- The inventory after a call changed its ledger. -/
def after (w : Inventory) (c : Ledger.Call) : Inventory :=
  { w with ledger := w.ledger.after c }

@[simp] theorem after_ledger (w : Inventory) (c : Ledger.Call) :
    (w.after c).ledger = w.ledger.after c := rfl

theorem answer_ledger (w : Inventory) (c : InventoryWorld.Call) :
    (w.answer c).2.ledger = w.ledger ∨ ∃ call, (w.answer c).2.ledger = w.ledger.after call := by
  rcases c with c | c
  · exact .inr ⟨c, w.ledger.answer_eq c⟩
  · exact .inl rfl

/-! ### What every program keeps -/

/-- The clock stands still while a program is played. -/
theorem play_now {α : Type} (p : Program InventoryWorld α) (w : Inventory) :
    (p.play answer w).2.stage.now = w.stage.now ∧ (p.play answer w).2.hold = w.hold := by
  refine p.play_keeps
    (R := fun v : Inventory => v.stage.now = w.stage.now ∧ v.hold = w.hold) ?_ ⟨rfl, rfl⟩
  rintro v (c | c) kept
  · exact kept
  · exact ⟨(v.stage.answer_now c).trans kept.1, kept.2⟩

/-- Whatever program is played, it leaves a ledger that calls may lead to. -/
theorem play_reachable {α : Type} (p : Program InventoryWorld α) {w : Inventory}
    (reach : w.ledger.Reachable) : (p.play answer w).2.ledger.Reachable := by
  refine p.play_keeps (R := fun v : Inventory => v.ledger.Reachable) ?_ reach
  intro v c kept
  rcases v.answer_ledger c with same | ⟨call, after⟩
  · rwa [same]
  · rw [after]
    exact kept.after call

/-! ### Single calls -/

/-- The inventory after an entry was written into its journal. -/
def record (w : Inventory) (entry : Entry) : Inventory :=
  { w with stage := { w.stage with journal := entry :: w.stage.journal } }

@[simp] theorem record_ledger (w : Inventory) (entry : Entry) :
    (w.record entry).ledger = w.ledger := rfl

/-- The value of a counter. -/
def total (w : Inventory) (counter : Counter) : Nat :=
  Journal.total counter w.stage.journal

/-- On the way to another inventory a counter grew by one, and the others stayed as they were. -/
def Counts (w w' : Inventory) (counted : Option Counter) : Prop :=
  ∀ counter, w'.total counter = w.total counter + if counted = some counter then 1 else 0

theorem total_record (w : Inventory) (entry : Entry) (counter : Counter) :
    (w.record entry).total counter = Journal.growth counter entry + w.total counter := rfl

theorem growth_notice (counter : Counter) (n : Notice) :
    Journal.growth counter (.notice n) = 0 := rfl

theorem counts_refl (w : Inventory) : w.Counts w none :=
  fun _ => by simp

theorem counts_after (w : Inventory) (c : Ledger.Call) : w.Counts (w.after c) none :=
  fun _ => by simp [total, after]

theorem Counts.count {w w' : Inventory} (h : w.Counts w' none) (c : Counter) :
    w.Counts (w'.record (.measured (.count c 1))) (some c) := by
  intro counter
  have before := h counter
  simp only [reduceCtorEq, if_false, Nat.add_zero] at before
  rw [total_record, before, Journal.growth, Nat.add_comm]
  simp

theorem Counts.note {w w' : Inventory} {counted : Option Counter} (h : w.Counts w' counted)
    (n : Notice) : w.Counts (w'.record (.notice n)) counted := by
  intro counter
  rw [total_record, h counter, growth_notice, Nat.zero_add]

section Calls

variable (w : Inventory)

theorem play_clock :
    (Surroundings.now : Service InventoryWorld _).run.play answer w =
      (.ok (.ok w.stage.now), w) := rfl

theorem play_later (now : Instant) (span : Span) :
    (Surroundings.later now span : Service InventoryWorld _).run.play answer w =
      match now.add? span with
      | some t => (.ok (.ok t), w)
      | none => (.error .outOfTime, w) := by
  unfold Surroundings.later
  cases now.add? span <;> rfl

theorem play_note (n : Notice) :
    (Surroundings.note n : Service InventoryWorld _).run.play answer w =
      (.ok (.ok ()), w.record (.notice n)) := rfl

theorem play_measure (m : Measurement) :
    (Surroundings.measure m : Service InventoryWorld _).run.play answer w =
      (.ok (.ok ()), w.record (.measured m)) := rfl

theorem play_category (id : CategoryId) :
    (Ledger.category id : Service InventoryWorld _).run.play answer w =
      (.ok (.ok ((w.ledger.sections.get? id).map Section.current)), w) := rfl

theorem play_seat (category : CategoryId) (label : String) :
    (Ledger.seat category label : Service InventoryWorld _).run.play answer w =
      (.ok (.ok (w.ledger.seat? category label)), w) := rfl

theorem play_stockHold (category : CategoryId) (hold : HoldId) :
    (Ledger.stockHold category hold : Service InventoryWorld _).run.play answer w =
      (.ok (.ok (w.ledger.stock? category hold)), w) := rfl

theorem play_availability (category : CategoryId) (now : Instant) :
    (Ledger.availability category now : Service InventoryWorld _).run.play answer w =
      (.ok (.ok ((w.ledger.sections.get? category).map fun s => s.availability now)), w) := rfl

theorem play_ask {c : Ledger.Call} {r : Result c.Answer}
    (h : w.ledger.answer c = (r, w.ledger.after c)) :
    (Ledger.ask c : Service InventoryWorld c.Answer).run.play answer w = (.ok r, w.after c) := by
  show (Except.ok (w.ledger.answer c).1, { w with ledger := (w.ledger.answer c).2 }) = _
  rw [h]
  rfl

theorem play_reserveSeat (claim : SeatClaim) :
    (Ledger.reserveSeat claim : Service InventoryWorld _).run.play answer w =
      (.ok (.ok ((w.ledger.seat? claim.category claim.label).bind fun s => s.claim? claim)),
        w.after (.reserveSeat claim)) :=
  w.play_ask (w.ledger.answer_reserveSeat claim)

theorem play_releaseSeat (category : CategoryId) (label : String) (hold : HoldId) :
    (Ledger.releaseSeat category label hold : Service InventoryWorld _).run.play answer w =
      (.ok (.ok ((w.ledger.seat? category label).bind fun s => s.release? hold).isSome),
        w.after (.releaseSeat category label hold)) :=
  w.play_ask (w.ledger.answer_releaseSeat category label hold)

theorem play_sellSeat (category : CategoryId) (label : String) (hold : HoldId) (now : Instant) :
    (Ledger.sellSeat category label hold now : Service InventoryWorld _).run.play answer w =
      (.ok (.ok ((w.ledger.seat? category label).bind fun s => s.sell? hold now).isSome),
        w.after (.sellSeat category label hold now)) :=
  w.play_ask (w.ledger.answer_sellSeat category label hold now)

theorem play_takeStock (category : CategoryId) (hold : HoldId) (now expiresAt : Instant) :
    (Ledger.takeStock category hold now expiresAt : Service InventoryWorld _).run.play answer w =
      (.ok (match w.ledger.sections.get? category with
        | none => refuse (.poolMissing category)
        | some s => .ok (s.pool.take category hold now expiresAt).1),
        w.after (.takeStock category hold now expiresAt)) :=
  w.play_ask (w.ledger.takeStock_eq category hold now expiresAt)

theorem play_returnStock (category : CategoryId) (hold : HoldId) :
    (Ledger.returnStock category hold : Service InventoryWorld _).run.play answer w =
      (.ok (.ok ((w.ledger.sections.get? category).bind fun s =>
          s.pool.giveBack? hold s.category.total).isSome),
        w.after (.returnStock category hold)) :=
  w.play_ask (w.ledger.answer_returnStock category hold)

theorem play_settleStock (category : CategoryId) (hold : HoldId) (now : Instant) :
    (Ledger.settleStock category hold now : Service InventoryWorld _).run.play answer w =
      (.ok (.ok ((w.ledger.sections.get? category).bind fun s => s.pool.settle? hold now).isSome),
        w.after (.settleStock category hold now)) :=
  w.play_ask (w.ledger.answer_settleStock category hold now)

theorem play_reclaim (now : Instant) :
    (Ledger.reclaim now : Service InventoryWorld _).run.play answer w =
      (.ok (.ok (w.ledger.reclaim now).1), w.after (.reclaim now)) :=
  w.play_ask (Prod.ext rfl (w.ledger.answer_eq (.reclaim now)))

end Calls

/-! ### Looking up what is left, and giving back -/

/-- Looking up changes nothing, and nothing is counted. -/
theorem serve_availability_same (w : Inventory) (category : CategoryId) :
    (w.serve (.availability category)).2 = w := by
  show ((Reservations.availability category).run.play answer w).2 = _
  unfold Reservations.availability
  simp only [Service.play_bind, play_clock, play_availability]
  cases w.ledger.sections.get? category with
  | none => rfl
  | some s => rfl

theorem serve_availability (w : Inventory) (category : CategoryId) :
    (w.serve (.availability category)).2.ledger = w.ledger := by
  rw [serve_availability_same]

/-- What a token holds goes back if the hold has it, which is counted, and otherwise nothing changes. -/
theorem serve_release_counted (w : Inventory) (t : Token) :
    ∃ w', w.serve (.release t) = (.ok (.ok ()), w') ∧ w'.ledger = w.ledger.after t.giveBack ∧
      w.Counts w' (if w.ledger.returns t then some (.release t.unit.kind) else none) := by
  show ∃ w', (Reservations.release t).run.play answer w = _ ∧ _
  unfold Reservations.release Token.giveBack MemoryLedger.returns
  cases t.unit with
  | seat id label =>
    simp only [Service.play_bind, play_releaseSeat]
    split
    · exact ⟨_, rfl, rfl, ((w.counts_after _).count _).note _⟩
    · exact ⟨_, rfl, rfl, (w.counts_after _).note _⟩
  | stock =>
    simp only [Service.play_bind, play_returnStock]
    split
    · exact ⟨_, rfl, rfl, ((w.counts_after _).count _).note _⟩
    · exact ⟨_, rfl, rfl, (w.counts_after _).note _⟩

theorem serve_release (w : Inventory) (t : Token) :
    ∃ w', w.serve (.release t) = (.ok (.ok ()), w') ∧ w'.ledger = w.ledger.after t.giveBack := by
  obtain ⟨w', served, after, -⟩ := w.serve_release_counted t
  exact ⟨w', served, after⟩

/-! ### Selling -/

theorem settle?_isSome_iff {l : MemoryLedger} {category : CategoryId} {hold : HoldId}
    {now : Instant} :
    ((l.sections.get? category).bind fun s => s.pool.settle? hold now).isSome = true ↔
      ∃ h, l.stock? category hold = some h ∧ h.isLive now := by
  unfold MemoryLedger.stock?
  cases l.sections.get? category with
  | none => simp
  | some s =>
    rw [Option.bind_some, Option.bind_some, Option.isSome_iff_exists]
    constructor
    · rintro ⟨q, sold⟩
      obtain ⟨h, there, live, -⟩ := Pool.settle?_eq_some_iff.1 sold
      exact ⟨h, there, live⟩
    · rintro ⟨h, there, live⟩
      exact ⟨_, Pool.settle?_eq_some_iff.2 ⟨h, there, live, rfl⟩⟩

/-- A token that may be turned into a sale is, which is counted unless it was done before. -/
theorem serve_confirm_of_sells_counted {w : Inventory} {t : Token}
    (sells : w.ledger.Sells t w.stage.now) :
    ∃ w', w.serve (.confirm t) = (.ok (.ok ()), w') ∧
      w'.ledger = w.ledger.after (t.sell w.stage.now) ∧
      w.Counts w' (if w.ledger.settles t w.stage.now then some (.confirmation t.unit.kind true)
        else none) := by
  show ∃ w', (Reservations.confirm t).run.play answer w = _ ∧ _
  unfold MemoryLedger.Sells at sells
  unfold Reservations.confirm Token.sell MemoryLedger.settles
  cases unit : t.unit with
  | seat id label =>
    rw [unit] at sells
    obtain ⟨s, there, held⟩ := sells
    have sold : s.sell? t.hold w.stage.now = some s.sell := Seat.sell?_eq_some_iff.2 ⟨held, rfl⟩
    simp only [Reservations.confirmSeat, Service.play_bind, play_clock, play_sellSeat, there,
      Option.bind_some, sold, Option.isSome_some, if_true]
    exact ⟨_, rfl, rfl, ((w.counts_after _).count _).note _⟩
  | stock =>
    rw [unit] at sells
    obtain ⟨h, there, ready⟩ := sells
    simp only [Reservations.confirmStock, Service.play_bind, play_clock, play_settleStock,
      settle?_isSome_iff]
    split
    · exact ⟨_, rfl, rfl, ((w.counts_after _).count _).note _⟩
    next stuck =>
    -- a place that was bought before cannot be settled again, but a second look finds it bought
    have confirmed : h.state = .confirmed :=
      ready.resolve_left fun live => stuck ⟨h, there, live⟩
    have same := MemoryLedger.after_settleStock_eq_self
      (Option.not_isSome_iff_eq_none.1 (mt settle?_isSome_iff.1 stuck))
    simp only [Service.play_bind, play_stockHold, after_ledger, same, there, confirmed, if_true]
    exact ⟨_, rfl, same, w.counts_after _⟩

/-- A token that may be turned into a sale is. -/
theorem serve_confirm_of_sells {w : Inventory} {t : Token} (sells : w.ledger.Sells t w.stage.now) :
    ∃ w', w.serve (.confirm t) = (.ok (.ok ()), w') ∧
      w'.ledger = w.ledger.after (t.sell w.stage.now) := by
  obtain ⟨w', served, after, -⟩ := serve_confirm_of_sells_counted sells
  exact ⟨w', served, after⟩

/-- A token that may not be turned into a sale is refused, which is counted, and nothing changes. -/
theorem serve_confirm_of_not_sells_counted {w : Inventory} {t : Token}
    (stuck : ¬ w.ledger.Sells t w.stage.now) :
    ∃ e w', w.serve (.confirm t) = (.ok (.error e), w') ∧ e.kind = .conflict ∧
      w'.ledger = w.ledger ∧ w.Counts w' (some (.confirmation t.unit.kind false)) := by
  show ∃ e w', (Reservations.confirm t).run.play answer w = _ ∧ _
  unfold MemoryLedger.Sells at stuck
  unfold Reservations.confirm
  cases unit : t.unit with
  | seat id label =>
    rw [unit] at stuck
    have nothing : (w.ledger.seat? t.category label).bind
        (fun s => s.sell? t.hold w.stage.now) = none := by
      rw [Option.bind_eq_none_iff]
      intro s there
      exact if_neg fun held => stuck ⟨s, there, held⟩
    simp only [Reservations.confirmSeat, Service.play_bind, play_clock, play_sellSeat, nothing,
      Option.isSome_none, Bool.false_eq_true, if_false, play_measure, play_note, Surroundings.count]
    exact ⟨_, _, rfl, rfl, MemoryLedger.after_sellSeat_eq_self nothing,
      ((w.counts_after _).count _).note _⟩
  | stock =>
    rw [unit] at stuck
    have lapsed : ¬ ∃ h, w.ledger.stock? t.category t.hold = some h ∧ h.isLive w.stage.now :=
      fun ⟨h, there, live⟩ => stuck ⟨h, there, .inl live⟩
    have same := MemoryLedger.after_settleStock_eq_self
      (Option.not_isSome_iff_eq_none.1 (mt settle?_isSome_iff.1 lapsed))
    simp only [Reservations.confirmStock, Service.play_bind, play_clock, play_settleStock,
      settle?_isSome_iff, lapsed, if_false, play_stockHold, after_ledger, same]
    cases there : w.ledger.stock? t.category t.hold with
    | none => exact ⟨_, _, rfl, rfl, same, (w.counts_after _).count _⟩
    | some h =>
      have unsold : h.state ≠ .confirmed := fun confirmed => stuck ⟨h, there, .inr confirmed⟩
      simp only [unsold, if_false]
      exact ⟨_, _, rfl, rfl, same, ((w.counts_after _).count _).note _⟩

/-- A token that may not be turned into a sale is refused, and nothing changes. -/
theorem serve_confirm_of_not_sells {w : Inventory} {t : Token}
    (stuck : ¬ w.ledger.Sells t w.stage.now) :
    ∃ e w', w.serve (.confirm t) = (.ok (.error e), w') ∧ e.kind = .conflict ∧
      w'.ledger = w.ledger := by
  obtain ⟨e, w', served, conflict, same, -⟩ := serve_confirm_of_not_sells_counted stuck
  exact ⟨e, w', served, conflict, same⟩

/-! ### Sweeping -/

/-- Measurements change the journal only. -/
theorem play_measures (ms : List Measurement) (w : Inventory) :
    ∃ w', (forIn ms PUnit.unit fun m _ => do
        Surroundings.measure m
        pure (.yield PUnit.unit) : Service InventoryWorld PUnit).run.play answer w =
          (.ok (.ok ()), w') ∧ w'.ledger = w.ledger ∧
      ∀ counter, w'.total counter = w.total counter + Journal.total counter (ms.map .measured) := by
  induction ms generalizing w with
  | nil => exact ⟨w, rfl, rfl, fun _ => rfl⟩
  | cons m ms ih =>
    obtain ⟨w', played, same, grown⟩ := ih (w.record (.measured m))
    refine ⟨w', ?_, same, fun counter => ?_⟩
    · simp only [List.forIn_cons, Service.play_bind, play_measure, Service.play_pure]
      exact played
    · rw [grown counter, total_record, List.map_cons, Journal.total_cons]
      omega

/-- A sweep is one call, and what it reports is counted. -/
theorem sweep_counted (w : Inventory) :
    ∃ w', w.sweep = (.ok (.ok (w.ledger.reclaim w.stage.now).1), w') ∧
      w'.ledger = w.ledger.after (.reclaim w.stage.now) ∧
      ∀ counter, w'.total counter = w.total counter + Journal.total counter
        ((Measurement.ofSweep (w.ledger.reclaim w.stage.now).1 .zero w.stage.now.second).map
          .measured) := by
  obtain ⟨w', played, same, grown⟩ := play_measures
    (Measurement.ofSweep (w.ledger.reclaim w.stage.now).1 .zero w.stage.now.second)
    (w.after (.reclaim w.stage.now))
  unfold sweep Reclaimer.sweep
  simp only [Service.play_bind, play_clock, Service.play_outcome, play_reclaim, played, play_note,
    Service.play_pure]
  refine ⟨_, rfl, same, fun counter => ?_⟩
  rw [total_record, grown counter, growth_notice, Nat.zero_add]
  rfl

theorem sweep_ledger (w : Inventory) :
    ∃ w', w.sweep = (.ok (.ok (w.ledger.reclaim w.stage.now).1), w') ∧
      w'.ledger = w.ledger.after (.reclaim w.stage.now) := by
  obtain ⟨w', swept, after, -⟩ := w.sweep_counted
  exact ⟨w', swept, after⟩

end Inventory

end BoxOffice
