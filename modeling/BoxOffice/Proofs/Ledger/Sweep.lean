import BoxOffice.Proofs.Ledger.Count
import BoxOffice.Proofs.Ledger.Snapshot

/-!
# Sweeps

A sweep frees the seats and expires the holds that have lapsed, puts back one place for each such
hold, reports how many there were, and touches nothing else (`SweptTo`). No snapshot at that time or
later tells that it took place. A sweep followed by a later one does what the later one does alone
(`after_reclaim_reclaim`), and what the two report adds up (`lapsed_add_lapsed`); so a second sweep
at the same time finds nothing.
-/

namespace BoxOffice

/-! ### Two sweeps of a unit -/

namespace Seat

/-- What a sweep makes of a seat. -/
def swept (s : Seat) (now : Instant) : Seat :=
  if s.isLapsed now then s.free else s

variable {s : Seat} {now later : Instant}

theorem swept_of_lapsed (lapsed : s.isLapsed now) : s.swept now = s.free :=
  if_pos lapsed

theorem swept_of_not_lapsed (unlapsed : ¬ s.isLapsed now) : s.swept now = s :=
  if_neg unlapsed

/-- A seat that has lapsed stays so as time goes on. -/
theorem isLapsed_later (lapsed : s.isLapsed now) (le : now ≤ later) : s.isLapsed later := by
  obtain ⟨reserved, last, until_last, past⟩ := isLapsed_iff.1 lapsed
  refine isLapsed_iff.2 ⟨reserved, last, until_last, ?_⟩
  simp only [Instant.lt_def, Instant.le_def] at *
  omega

theorem not_isLapsed_free (s : Seat) (now : Instant) : ¬ s.free.isLapsed now :=
  Bool.false_ne_true

/-- A later sweep does to a seat what both do. -/
theorem swept_swept (s : Seat) (le : now ≤ later) : (s.swept now).swept later = s.swept later := by
  by_cases lapsed : s.isLapsed now
  · rw [swept_of_lapsed lapsed, swept_of_not_lapsed (s.not_isLapsed_free later),
      swept_of_lapsed (isLapsed_later lapsed le)]
  · rw [swept_of_not_lapsed lapsed]

/-- A seat that has lapsed by the later time was swept the first time, or is lapsed still. -/
theorem count_lapsed (s : Seat) (le : now ≤ later) :
    (if s.isLapsed now then 1 else 0) + (if (s.swept now).isLapsed later then 1 else 0) =
      if s.isLapsed later then 1 else 0 := by
  by_cases lapsed : s.isLapsed now
  · rw [swept_of_lapsed lapsed, if_pos lapsed, if_neg (s.not_isLapsed_free later),
      if_pos (isLapsed_later lapsed le)]
  · rw [swept_of_not_lapsed lapsed, if_neg lapsed, Nat.zero_add]

end Seat

namespace StockHold

variable {h : StockHold} {now later : Instant}

/-- A hold that has lapsed stays so as time goes on. -/
theorem isLapsed_later (lapsed : h.isLapsed now) (le : now ≤ later) : h.isLapsed later := by
  obtain ⟨held, past⟩ := isLapsed_iff.1 lapsed
  refine isLapsed_iff.2 ⟨held, ?_⟩
  simp only [Instant.lt_def, Instant.le_def] at *
  omega

theorem not_isLapsed_expired (h : StockHold) (now : Instant) :
    ¬ ({ h with state := .expired } : StockHold).isLapsed now :=
  Bool.false_ne_true

theorem swept_of_lapsed (lapsed : h.isLapsed now) : h.swept now = { h with state := .expired } :=
  if_pos lapsed

/-- A later sweep does to a hold what both do. -/
theorem swept_swept (h : StockHold) (le : now ≤ later) :
    (h.swept now).swept later = h.swept later := by
  by_cases lapsed : h.isLapsed now
  · rw [swept_of_lapsed lapsed, swept_of_not_lapsed (h.not_isLapsed_expired later),
      swept_of_lapsed (isLapsed_later lapsed le)]
  · rw [swept_of_not_lapsed lapsed]

/-- A hold that has lapsed by the later time was swept the first time, or is lapsed still. -/
theorem count_lapsed (h : StockHold) (le : now ≤ later) :
    (if h.isLapsed now then 1 else 0) + (if (h.swept now).isLapsed later then 1 else 0) =
      if h.isLapsed later then 1 else 0 := by
  by_cases lapsed : h.isLapsed now
  · rw [swept_of_lapsed lapsed, if_pos lapsed, if_neg (h.not_isLapsed_expired later),
      if_pos (isLapsed_later lapsed le)]
  · rw [swept_of_not_lapsed lapsed, if_neg lapsed, Nat.zero_add]

end StockHold

/-- Values with a property are counted one by one, before and after they were changed. -/
theorem countP_add_countP {α : Type} {p q r : α → Bool}
    (each : ∀ a, (if p a then 1 else 0) + (if q a then 1 else 0) = if r a then 1 else 0)
    (l : List α) : l.countP p + l.countP q = l.countP r := by
  induction l with
  | nil => rfl
  | cons a l ih =>
    have := each a
    simp only [List.countP_cons]
    omega

namespace Pool

variable {now later : Instant}

/-- The holds that have lapsed by a later time are those that a sweep expires and those that it
leaves to the next one. -/
theorem lapsed_add_lapsed (p : Pool) (le : now ≤ later) (total : UInt32) :
    p.lapsed now + (p.reclaim now total).lapsed later = p.lapsed later := by
  have swept : (p.reclaim now total).lapsed later =
      p.holds.values.countP fun h => (h.swept now).isLapsed later := by
    show ((p.holds.mapValues fun h => h.swept now).values.countP fun h => h.isLapsed later) = _
    rw [Registry.values_mapValues, List.countP_map]
    rfl
  rw [swept]
  exact countP_add_countP (fun h => h.count_lapsed le) p.holds.values

/-- A later sweep does to a pool what both do. -/
theorem reclaim_reclaim (p : Pool) (le : now ≤ later) (total : UInt32) :
    (p.reclaim now total).reclaim later total = p.reclaim later total := by
  have lapsed := p.lapsed_add_lapsed le total
  have holds : ((p.holds.mapEntries fun _ h => h.swept now).mapEntries fun _ h => h.swept later) =
      p.holds.mapEntries fun _ h => h.swept later := by
    rw [Registry.mapEntries_mapEntries]
    exact Registry.mapEntries_congr fun _ h _ => h.swept_swept le
  have places := putBack_putBack { p with holds := p.holds.mapEntries fun _ h => h.swept later }
    (p.lapsed now) ((p.reclaim now total).lapsed later) total
  rw [lapsed] at places
  rw [reclaim_eq p later, ← places, reclaim_eq (p.reclaim now total) later]
  congr 1
  simp only [reclaim_eq, putBack, holds]

end Pool

namespace Section

/-- A later sweep does to a section what both do. -/
theorem after_reclaim_reclaim (s : Section) {now later : Instant} (le : now ≤ later)
    (id : CategoryId) :
    (s.after id (.reclaim now)).after id (.reclaim later) = s.after id (.reclaim later) := by
  have pool := s.pool.reclaim_reclaim le s.category.total
  simp only [after, Registry.mapEntries_mapEntries, mk.injEq, true_and]
  exact ⟨Registry.mapEntries_congr fun _ seat _ => seat.swept_swept le, pool⟩

end Section

/-! ### Sweeps of a ledger -/

namespace MemoryLedger

variable {l l' : MemoryLedger} {now later : Instant}

/-- **A sweep followed by a later one does what the later one does alone.** -/
theorem after_reclaim_reclaim (l : MemoryLedger) (le : now ≤ later) :
    (l.after (.reclaim now)).after (.reclaim later) = l.after (.reclaim later) := by
  simp only [after, Registry.mapEntries_mapEntries, mk.injEq, and_true]
  exact Registry.mapEntries_congr fun id s _ => s.after_reclaim_reclaim le id

/-- What has lapsed by a later time is what a sweep gives back, and what it leaves to the next. -/
theorem lapsed_add_lapsed (l : MemoryLedger) (le : now ≤ later) (kind : UnitKind) :
    l.lapsed now kind + (l.after (.reclaim now)).lapsed later kind = l.lapsed later kind := by
  rw [Nat.add_comm]
  cases kind with
  | seat =>
    refine Registry.sum_mapEntries_add fun id s _ => ?_
    rw [values_seats_reclaim, List.countP_map, Nat.add_comm]
    exact countP_add_countP (fun seat => seat.count_lapsed le) s.seats.values
  | stock =>
    refine Registry.sum_mapEntries_add fun id s _ => ?_
    rw [Nat.add_comm]
    exact s.pool.lapsed_add_lapsed le s.category.total

/-- A sweep at a time leads from one ledger to another, with a report: it frees the lapsed seats,
expires the lapsed holds, puts back as many places, and reports how many there were of each. -/
structure SweptTo (l l' : MemoryLedger) (now : Instant) (report : SweepReport) : Prop where
  nextSeat : l'.nextSeat = l.nextSeat
  category : ∀ id, (l'.sections.get? id).map Section.category =
    (l.sections.get? id).map Section.category
  seats : ∀ id label, l'.seat? id label =
    (l.seat? id label).map fun seat => if seat.isLapsed now then seat.free else seat
  holds : ∀ id hold, l'.stock? id hold =
    (l.stock? id hold).map fun h => if h.isLapsed now then { h with state := .expired } else h
  places : ∀ id s s', l.sections.get? id = some s → l'.sections.get? id = some s' →
    s'.pool.available.toNat = s.pool.available.toNat + s.pool.lapsed now
  reported : ∀ kind, (report.units kind).toNat = l.lapsed now kind

/-- A sweep leaves sold seats alone. -/
theorem SweptTo.sold {report : SweepReport} (h : l.SweptTo l' now report) {id : CategoryId}
    {label : String} {seat : Seat} (there : l.seat? id label = some seat)
    (sold : seat.status = .sold) : l'.seat? id label = some seat := by
  rw [h.seats, there, Option.map_some, if_neg]
  simp [sold]

/-- A sweep leaves sold places alone. -/
theorem SweptTo.confirmed {report : SweepReport} (h : l.SweptTo l' now report) {id : CategoryId}
    {hold : HoldId} {place : StockHold} (there : l.stock? id hold = some place)
    (sold : place.state = .confirmed) : l'.stock? id hold = some place := by
  rw [h.holds, there, Option.map_some, if_neg]
  simp [sold]

theorem answer_reclaim (l : MemoryLedger) (now : Instant) :
    l.answer (.reclaim now) = (.ok (l.reclaim now).1, l.after (.reclaim now)) :=
  Prod.ext rfl (l.answer_eq (.reclaim now))

theorem Reachable.sweptTo (reach : l.Reachable) (now : Instant) :
    l.SweptTo (l.after (.reclaim now)) now (l.reclaim now).1 where
  nextSeat := rfl
  category id := by
    rw [get?_after, Option.map_map]
    rfl
  seats id label := l.seat?_after _ id label
  holds id hold := by
    simp only [stock?, get?_after]
    cases l.sections.get? id with
    | none => rfl
    | some s => exact s.pool.get?_reclaim_holds now s.category.total hold
  places id s s' there there' := by
    rw [get?_after, there, Option.map_some] at there'
    cases there'
    exact Pool.available_reclaim (reach.sound there).fits now
  reported := toNat_reported reach now

/-- No snapshot at the time of a sweep or later tells that it took place. -/
theorem Reachable.looksLike_swept (reach : l.Reachable) (le : now ≤ later) :
    (l.after (.reclaim now)).LooksLike l later := by
  have again := (reach.after (.reclaim now)).looksLike_reclaim later
  rw [after_reclaim_reclaim l le] at again
  exact again.symm.trans (reach.looksLike_reclaim later)

/-- A sweep finds nothing when one was made at that time. -/
theorem Reachable.reclaim_again (reach : l.Reachable) (now : Instant) :
    ((l.after (.reclaim now)).reclaim now).1 = .empty := by
  have none_left (kind : UnitKind) :
      (((l.after (.reclaim now)).reclaim now).1.units kind).toNat = 0 := by
    rw [toNat_reported (reach.after _)]
    have := l.lapsed_add_lapsed (Int.le_refl _ : now ≤ now) kind
    omega
  cases report : ((l.after (.reclaim now)).reclaim now).1 with
  | mk seats stock =>
    rw [report] at none_left
    rw [SweepReport.empty, SweepReport.mk.injEq]
    exact ⟨UInt64.toNat_inj.1 (none_left .seat), UInt64.toNat_inj.1 (none_left .stock)⟩

/-- **A sweep gives back the lapsed holds and does nothing else.** It leads to a ledger that
snapshots at that time and later do not tell from the one before. A second sweep at that time
reports nothing and changes nothing, and one at a later time leaves what it would have left by
itself, the reports of both adding up to the one that it would have made. -/
theorem Reachable.sweep_exact (reach : l.Reachable) (now : Instant) :
    ∃ report l', l.answer (.reclaim now) = (.ok report, l') ∧ l.SweptTo l' now report ∧
      (∀ time, now ≤ time → l'.LooksLike l time) ∧
      l'.answer (.reclaim now) = (.ok .empty, l') ∧
      ∀ later, now ≤ later → ∃ more all l'', l'.answer (.reclaim later) = (.ok more, l'') ∧
        l.answer (.reclaim later) = (.ok all, l'') ∧
        ∀ kind, (all.units kind).toNat = (report.units kind).toNat + (more.units kind).toNat := by
  have again {later : Instant} (le : now ≤ later) :
      (l.after (.reclaim now)).answer (.reclaim later) =
        (.ok ((l.after (.reclaim now)).reclaim later).1, l.after (.reclaim later)) := by
    rw [answer_reclaim, after_reclaim_reclaim l le]
  refine ⟨_, _, l.answer_reclaim now, reach.sweptTo now, fun time => reach.looksLike_swept, ?_,
    fun later le => ⟨_, _, _, again le, l.answer_reclaim later, fun kind => ?_⟩⟩
  · rw [again (Int.le_refl _), reach.reclaim_again now]
  · rw [toNat_reported reach later, toNat_reported reach now, toNat_reported (reach.after _) later,
      lapsed_add_lapsed l le]

/-- A ledger with two seats and a pool, where one hold of each kind ends at the tenth second and one
at the twentieth. -/
def twoOfEach : MemoryLedger :=
  empty.run
    [.addSeated (.seated ⟨10⟩ ⟨1⟩ "Stalls" ⟨9900⟩ 0) ["A1", "A2"],
      .addStanding (.standing ⟨20⟩ ⟨1⟩ "Standing" ⟨4500⟩ 3),
      .call (.reserveSeat ⟨⟨10⟩, "A1", ⟨.random 1⟩, .ofParts 0 0, .ofParts 10 0⟩),
      .call (.reserveSeat ⟨⟨10⟩, "A2", ⟨.random 2⟩, .ofParts 0 0, .ofParts 20 0⟩),
      .call (.takeStock ⟨20⟩ ⟨.random 3⟩ (.ofParts 0 0) (.ofParts 10 0)),
      .call (.takeStock ⟨20⟩ ⟨.random 4⟩ (.ofParts 0 0) (.ofParts 20 0))]

/-- A nanosecond after the tenth second the sweep finds one of each kind, and none at the tenth. -/
theorem sweep_two_of_each :
    twoOfEach.Reachable ∧
    (∃ l', twoOfEach.answer (.reclaim (.ofParts 10 0)) = (.ok ⟨0, 0⟩, l') ∧
      twoOfEach.SweptTo l' (.ofParts 10 0) ⟨0, 0⟩) ∧
    ∃ l', twoOfEach.answer (.reclaim (.ofParts 10 1)) = (.ok ⟨1, 1⟩, l') ∧
      twoOfEach.SweptTo l' (.ofParts 10 1) ⟨1, 1⟩ ∧ l'.LooksLike twoOfEach (.ofParts 20 1) ∧
      l'.answer (.reclaim (.ofParts 10 1)) = (.ok .empty, l') := by
  have reach : twoOfEach.Reachable := ⟨_, rfl⟩
  have early : (twoOfEach.answer (.reclaim (.ofParts 10 0))).1 = .ok ⟨0, 0⟩ :=
    congrArg Except.ok (by decide : (twoOfEach.reclaim (.ofParts 10 0)).1 = ⟨0, 0⟩)
  have late : (twoOfEach.answer (.reclaim (.ofParts 10 1))).1 = .ok ⟨1, 1⟩ :=
    congrArg Except.ok (by decide : (twoOfEach.reclaim (.ofParts 10 1)).1 = ⟨1, 1⟩)
  obtain ⟨report, l', answered, swept, -⟩ := reach.sweep_exact (.ofParts 10 0)
  obtain ⟨report', l'', answered', swept', unseen, again, -⟩ := reach.sweep_exact (.ofParts 10 1)
  rw [answered] at early
  rw [answered'] at late
  cases early
  cases late
  exact ⟨reach, ⟨l', answered, swept⟩, l'', answered', swept', unseen _ (by decide), again⟩

end MemoryLedger

end BoxOffice
