import BoxOffice.Proofs.Reclaimer.Replies
import BoxOffice.Rehearsal.Setup

/-!
# The reclaimer in the background

While acts are played the loop in the background makes the sweeps that come due (`course_sleep`,
`course_playActs`); told to stop, it comes to its end (`course_runReclaimer`). What it did is one of the
courses of the loop, and so all that holds of those holds of it (`sweeps_on_time`).
-/

namespace BoxOffice

namespace Rehearsal.World

open Reclaimer

variable {interval stop : Delay} {x : Watch World}

/-- How much time passes while acts are played. -/
def slept : List Act → Delay
  | [] => .zero
  | .sleep delay :: rest => Stage.lasting delay + slept rest
  | .advance _ :: rest => slept rest

/-- A loop in the background is where it is seen to be. Its sweeps are over, and the next one is not
late. -/
structure Tracks (interval : Delay) (l : Loop) (x : Watch World) : Prop where
  interval : l.interval = interval
  time : l.elapsed = x.time
  due : l.due = x.due
  running : x.running = true
  early : x.time ≤ x.due
  before : ∀ s ∈ x.sweeps, s.time < x.time

theorem Tracks.start (interval : Delay) (w : World) :
    Tracks (Stage.recurring interval) (.start interval) (.start w) where
  interval := rfl
  time := rfl
  due := rfl
  running := rfl
  early := Nat.le_refl _
  before := List.forall_mem_nil _

variable {l : Loop}

/-- While there is a wait, the loop makes the sweeps that come due. -/
theorem course_sleep (positive : 0 < interval.nanos) (tracks : Tracks interval l x) {delay : Delay}
    (within : x.time + Stage.lasting delay ≤ stop) :
    ∃ l' y, (sleep delay l).Gives x.world l' y.world ∧ Tracks interval l' y ∧
      Course inventoryReply Aside interval stop x y ∧ y.time = x.time + Stage.lasting delay := by
  by_cases none : delay = .zero
  · subst none
    exact ⟨l, x, rfl, tracks, .refl, rfl⟩
  -- what comes before the sweeps is the doing of others, and changes nothing that they look at
  obtain ⟨w, finished, aside⟩ := idles_finishAbandoned x.world
  obtain ⟨w', begun, aside'⟩ := idles_begin l w
  have others : Course inventoryReply Aside interval stop x { x with world := w' } :=
    .single (.others x w' (aside.trans aside'))
  obtain ⟨due, sweeps, w'', played, course, late, before⟩ :=
    course_sweepUntil (x := { x with world := w' }) positive replies_inventory tracks.running
      tracks.early (Nat.le_add_right _ _) within
  let t : Delay := x.time + Stage.lasting delay
  refine ⟨⟨l.interval, true, t, due⟩, ⟨t, due, true, x.sweeps ++ sweeps, w''⟩, ?_, ?_,
    others.trans course, rfl⟩
  · have swept : (atInventory (sweepUntil l.interval l.due (l.elapsed + Stage.lasting delay))).Gives w' due
        w'' := by
      rw [tracks.interval, tracks.due, tracks.time]
      exact played
    have ended : (Pure.pure ⟨l.interval, true, l.elapsed + Stage.lasting delay, due⟩ :
        Play World Loop).Gives w'' ⟨l.interval, true, t, due⟩ w'' := by
      rw [tracks.time]
      rfl
    unfold sleep
    rw [if_neg none]
    exact finished.bind (begun.bind (swept.bind ended))
  · refine ⟨tracks.interval, rfl, rfl, rfl, late, List.forall_mem_append.2 ⟨fun s made => ?_, before⟩⟩
    exact Nat.lt_of_lt_of_le (tracks.before s made) (Nat.le_add_right _ _)

/-- The clock is moved for everybody, unless the instant is unknown. -/
theorem advanceClock_cases (span : Span) (w : World) :
    (∃ w', (advanceClock span).Gives w () w' ∧ Aside w w') ∨
      (advanceClock span).run.run w = (.error .outOfTime, w) := by
  unfold Play.Gives advanceClock
  simp only [Play.run_get_bind]
  cases known : w.stage.now.add? span with
  | none => exact .inr rfl
  | some t =>
    exact .inl ⟨{ w with stage := { w.stage with now := t } }, rfl, ⟨_, _, rfl⟩, fun _ => rfl⟩

theorem playActs_advance_of_gives {span : Span} {w w' : World} (h : (advanceClock span).Gives w () w')
    (acts : List Act) (l : Loop) :
    (playActs (.advance span :: acts) l).run.run w = (playActs acts l).run.run w' := by
  have moved : (tryCatch (advanceClock span) fun breakdown => do
      abandon l
      throw breakdown : Play World Unit).Gives w () w' := by
    have go : (advanceClock span).run.run w = (.ok (), w') := h
    show (tryCatch (advanceClock span) _ : Play World Unit).run.run w = _
    rw [ExceptT.run_tryCatch, StateT.run_bind, go]
    rfl
  exact moved.run_bind _

theorem playActs_advance_of_error {span : Span} {w : World}
    (h : (advanceClock span).run.run w = (.error .outOfTime, w)) (acts : List Act) (l : Loop) :
    (playActs (.advance span :: acts) l).run.run w =
      (.error .outOfTime, { w with abandoned := w.abandoned ++ [l] }) := by
  apply Play.run_bind_of_error
  rw [ExceptT.run_tryCatch, StateT.run_bind, h]
  rfl

/-- While acts are played the loop makes the sweeps that come due, unless whoever moves the clock runs out
of time. -/
theorem course_playActs (positive : 0 < interval.nanos) (acts : List Act) (tracks : Tracks interval l x)
    (within : x.time + slept acts ≤ stop) :
    (∃ l' y, (playActs acts l).Gives x.world l' y.world ∧ Tracks interval l' y ∧
      Course inventoryReply Aside interval stop x y ∧ y.time = x.time + slept acts) ∨
    ∃ span w', .advance span ∈ acts ∧ (playActs acts l).run.run x.world = (.error .outOfTime, w') := by
  induction acts generalizing l x with
  | nil => exact .inl ⟨l, x, rfl, tracks, .refl, rfl⟩
  | cons act rest ih =>
    cases act with
    | sleep delay =>
      have sum : x.time + slept (.sleep delay :: rest) = x.time + Stage.lasting delay + slept rest :=
        (Delay.add_assoc _ _ _).symm
      rw [sum] at within ⊢
      obtain ⟨l', y, gives, tracks', course, time⟩ :=
        course_sleep positive tracks (Nat.le_trans (Nat.le_add_right _ _) within)
      rw [← time] at within ⊢
      have played : (playActs (.sleep delay :: rest) l).run.run x.world =
          (playActs rest l').run.run y.world := gives.run_bind _
      rcases ih tracks' within with ⟨l'', z, gives', tracks'', course', time'⟩ | ⟨span, w', act, failed⟩
      · exact .inl ⟨l'', z, played.trans gives', tracks'', course.trans course', time'⟩
      · exact .inr ⟨span, w', List.mem_cons_of_mem _ act, played.trans failed⟩
    | advance span =>
      rcases advanceClock_cases span x.world with ⟨w, moved, aside⟩ | failed
      · have played := playActs_advance_of_gives moved rest l
        have others : Course inventoryReply Aside interval stop x { x with world := w } :=
          .single (.others x w aside)
        have moved' : Tracks interval l { x with world := w } :=
          ⟨tracks.interval, tracks.time, tracks.due, tracks.running, tracks.early, tracks.before⟩
        rcases ih moved' within with ⟨l', y, gives, tracks', course, time⟩ | ⟨span', w', act, failed⟩
        · exact .inl ⟨l', y, played.trans gives, tracks', others.trans course, time⟩
        · exact .inr ⟨span', w', List.mem_cons_of_mem _ act, played.trans failed⟩
      · exact .inr ⟨span, _, List.mem_cons_self, playActs_advance_of_error failed rest l⟩

/-- The loop makes the sweeps that come due until it is told to stop, and comes to a regular end. -/
theorem course_runReclaimer (positive : 0 < (Stage.recurring interval).nanos) (acts : List Act) (w : World) :
    (∃ x, (runReclaimer interval acts).run.run w = (.ok ⟨true, true⟩, x.world) ∧
      Course inventoryReply Aside (Stage.recurring interval) (slept acts) (.start w) x ∧
      x.running = false ∧ ∀ s ∈ x.sweeps, s.time < slept acts) ∨
    ∃ span w', .advance span ∈ acts ∧ (runReclaimer interval acts).run.run w = (.error .outOfTime, w') := by
  have start : Delay.zero + slept acts = slept acts := congrArg Delay.mk (Nat.zero_add _)
  rcases course_playActs positive acts (.start interval w) (Nat.le_of_eq (congrArg Delay.nanos start))
    with ⟨l, x, gives, tracks, course, time⟩ | ⟨span, w', act, failed⟩
  · -- the loop is told to stop at the time that it has come to, and takes its last turn
    obtain ⟨w', finished, aside⟩ := idles_finishAbandoned x.world
    obtain ⟨w'', stopped, aside'⟩ := idles_finish l w'
    have sound : l.isSound = true := by
      rw [Loop.isSound, tracks.interval]
      exact decide_eq_true fun none => Nat.ne_of_gt positive (congrArg Delay.nanos none)
    have alive : l.isAlive = true := by rw [Loop.isAlive, sound, Bool.true_or]
    have rest : (do
        if l.isAlive then finishAbandoned
        finish l
        return { running := l.isAlive, stopped := l.isSound } : Play World LoopReport).Gives x.world
          ⟨true, true⟩ w'' := by
      rw [alive, sound]
      exact finished.bind (stopped.bind rfl)
    have now : x.time = slept acts := time.trans start
    refine .inl ⟨{ x with world := w'', running := false }, gives.bind rest, ?_, rfl, ?_⟩
    · have others := course.tail (.others x w'' (aside.trans aside'))
      exact others.tail (.halt _ tracks.running (Nat.le_of_eq (congrArg Delay.nanos now.symm)))
    · rw [← now]
      exact tracks.before
  · exact .inr ⟨span, w', act, Play.run_bind_of_error failed _⟩

end Rehearsal.World

namespace Reclaimer

open Rehearsal World

theorem recurring_pos {interval : Delay} (positive : 0 < interval.nanos) :
    0 < (Stage.recurring interval).nanos := by
  unfold Stage.recurring
  split
  · exact positive
  · decide

/-- **The loop never dies and never sweeps late.** On every course of a loop that sweeps at an interval
and is told to stop at some time, whatever its sweeps are answered and whatever others do:

* the sweeps are made at the multiples of the interval, in order, and none after the stop; each asks the
  ledger once, and adds what it reports to the counters of reclaimed units, or one to the counter of
  errors if it fails, and moves no other counter;
* while the loop runs, each multiple that has passed was swept at once, and if its calls get replies the
  loop can go on to its end;
* when it has ended each multiple before the stop was swept once, and there are no more sweeps.

In a rehearsal, whose world replies to every call, the loop takes one of these courses, up to the time that
is slept, and it is seen running until it is stopped and comes to a regular end; unless a clock is moved
beyond the instants that it knows. There it sweeps at the multiples strictly before the stop. -/
theorem sweeps_on_time (interval : Delay) (atLeast : .ofMillis 1 ≤ interval) :
    (∀ {ε σ : Type} {answer : σ → (c : InventoryWorld.Call) → Except ε (InventoryWorld.Reply c) × σ}
        {others : σ → σ → Prop} {stop : Delay} {w : σ} {x : Watch σ},
      Course answer others interval stop (.start w) x →
        x.sweeps.map Sweep.time = (List.range x.sweeps.length).map interval.times ∧
        (∀ s ∈ x.sweeps, s.time ≤ stop ∧
          ∃ now result, s.talk = said now result ∧ ∀ c, Journal.total c s.entries = growth c result) ∧
        (x.running = true →
          (∀ k, interval.times k < x.time →
            (x.sweeps.map Sweep.time).count (interval.times k) = 1) ∧
          (Replies answer → ∃ y, Course answer others interval stop x y ∧ y.running = false)) ∧
        (x.running = false →
          (∀ k, interval.times k < stop →
            (x.sweeps.map Sweep.time).count (interval.times k) = 1) ∧
          ∀ y, Course answer others interval stop x y → y.sweeps = x.sweeps)) ∧
    ∀ (acts : List Act) (w : World),
      (∃ x : Watch World, (runReclaimer interval acts).run.run w = (.ok ⟨true, true⟩, x.world) ∧
        Course inventoryReply Aside (Stage.recurring interval) (slept acts) (.start w) x ∧
        x.running = false ∧
        x.sweeps.map Sweep.time =
          (List.range x.sweeps.length).map (Stage.recurring interval).times ∧
        (∀ k, k < x.sweeps.length ↔ (Stage.recurring interval).times k < slept acts) ∧
        ∀ c, IsOwn c →
          x.world.total c = w.total c + (x.sweeps.map fun s => Journal.total c s.entries).sum) ∨
      ∃ span w', .advance span ∈ acts ∧
        (runReclaimer interval acts).run.run w = (.error .outOfTime, w') := by
  have positive : 0 < interval.nanos := Nat.lt_of_lt_of_le (by decide) atLeast
  constructor
  · intro ε σ answer others stop w x course
    have punctual := punctual_of_course course
    refine ⟨punctual.times, ?_, ?_, ?_⟩
    · intro s made
      exact ⟨(punctual.inTime s made).2, punctual.account made⟩
    · intro running
      refine ⟨fun k before => ?_, fun replies => exists_end positive replies punctual running⟩
      exact punctual.count_eq_one positive (Nat.lt_of_lt_of_le before (punctual.running running).1)
    · intro ended
      refine ⟨fun k before => ?_, fun y more => (sweeps_eq_of_course more ended).2⟩
      exact punctual.count_eq_one positive (Nat.lt_of_lt_of_le before (punctual.ended ended).1)
  · intro acts w
    rcases course_runReclaimer (recurring_pos positive) acts w with
      ⟨x, played, course, ended, before⟩ | failed
    · have punctual := punctual_of_course course
      refine .inl ⟨x, played, course, ended, punctual.times, fun k => ⟨fun within => ?_, fun early => ?_⟩,
        fun c own => total_course own course⟩
      · rw [← punctual.time_getElem within]
        exact before _ (List.getElem_mem within)
      · exact punctual.made (Nat.lt_of_lt_of_le early (punctual.ended ended).1)
    · exact .inr failed

/-- The second of three sweeps fails. -/
theorem sweeps_on_time_despite_failure :
    let fault : Fault := ⟨Cause.bookingsUnavailable.error, false⟩
    let w : World :=
      { Setup.plain with faults := [("ledger.reclaim_expired", [none, some fault])] }.emptyWorld
    ∃ x : Watch World,
      (runReclaimer (.ofSeconds 1) [.sleep (.ofMillis 2500)]).run.run w = (.ok ⟨true, true⟩, x.world) ∧
        x.sweeps.map Sweep.time = [.zero, .ofSeconds 1, .ofSeconds 2] := by
  intro fault w
  have background := (sweeps_on_time (.ofSeconds 1) (by decide)).2
  rcases background [.sleep (.ofMillis 2500)] w with
    ⟨x, played, -, -, times, swept, -⟩ | ⟨span, w', act, -⟩
  · refine ⟨x, played, ?_⟩
    have third : 2 < x.sweeps.length := (swept 2).2 (by decide)
    have last : ¬ 3 < x.sweeps.length := fun more => absurd ((swept 3).1 more) (by decide)
    have three : x.sweeps.length = 3 := by omega
    rw [times, three]
    decide
  · simp at act

end Reclaimer

end BoxOffice
