import BoxOffice.Proofs.Conversation
import BoxOffice.Proofs.Ledger.Count
import BoxOffice.Reclaimer
import Mathlib.Logic.Relation

/-!
# The reclaimer's loop

The loop waits for two things at once: that its next sweep is due, and that it is told to stop. If both
have come either may be taken first, so the loop has many courses (`Turn`, `Course`); others act in
between, and the ledger answers as it likes. On every course the sweeps are made at the multiples of
the interval, whatever came of those before (`punctual_of_course`); none that has come due is left out
(`Punctual.made`), and none follows the end of the loop (`sweeps_eq_of_course`). The sweeps up to some
time are one of the courses (`course_sweepUntil`), so a loop whose calls get replies always can go on to
its end (`exists_end`).
-/

namespace BoxOffice.Reclaimer

open Relation

variable {ε σ : Type}

/-! ### One sweep -/

/-- What a sweep writes into the journal, given its time and what came of it. -/
def accounts (now : Instant) : Result SweepReport → List Entry
  | .ok report =>
    (Measurement.ofSweep report .zero now.second).map .measured ++
      [.notice (if report.isEmpty then .sweepFoundNothing else .holdsReclaimed)]
  | .error _ => [.measured (.count .reclaimError 1), .notice .sweepFailed]

/-- All that is said in a sweep: it looks at the clock, asks the ledger once, and gives an account. -/
def said (now : Instant) (result : Result SweepReport) : List (Exchange InventoryWorld) :=
  ⟨.inr .now, now⟩ :: ⟨.inl (.reclaim now), result⟩ ::
    (accounts now result).map fun entry => ⟨.inr (.record entry), ()⟩

/-- An entry that is written into the journal. -/
def recorded? : Exchange InventoryWorld → Option Entry
  | ⟨.inr (.record entry), _⟩ => some entry
  | _ => none

theorem filterMap_said (now : Instant) (result : Result SweepReport) :
    (said now result).filterMap recorded? = accounts now result := by
  rw [said, List.filterMap_cons_none rfl, List.filterMap_cons_none rfl, List.filterMap_map]
  exact List.filterMap_some

/-- How far a sweep moves a counter: one that succeeds adds what it reports to the counters of reclaimed
units, and one that fails adds one to the counter of errors. -/
def growth (c : Counter) : Result SweepReport → Nat
  | .ok report =>
    match c with
    | .reclaimed kind => (report.units kind).toNat
    | _ => 0
  | .error _ => if c = .reclaimError then 1 else 0

theorem total_accounts (c : Counter) (now : Instant) (result : Result SweepReport) :
    Journal.total c (accounts now result) = growth c result := by
  cases result with
  | ok report =>
    cases c with
    | reclaimed kind =>
      cases kind <;> simp [accounts, growth, Measurement.ofSweep, Journal.growth, SweepReport.units]
    | _ => simp [accounts, growth, Measurement.ofSweep, Journal.growth]
  | error e => simp [accounts, growth, Journal.growth, eq_comm]

/-- A sweep comes to its end whatever it is answered. -/
theorem ensures_tick : tick.Ensures some fun talk _ => ∃ now result, talk = said now result := by
  refine ⟨⟨(Instant.ofNanos 0 : Instant)⟩, fun now => ?_⟩
  refine ⟨⟨(.error Cause.bookingsUnavailable.error : Result SweepReport)⟩, fun result => ?_⟩
  cases result with
  | ok report =>
    -- four measurements and a notice
    refine ⟨⟨()⟩, fun _ => ⟨⟨()⟩, fun _ => ⟨⟨()⟩, fun _ => ⟨⟨()⟩, fun _ => ⟨⟨()⟩, fun _ => ?_⟩⟩⟩⟩⟩
    exact ⟨now, .ok report, rfl⟩
  | error e =>
    refine ⟨⟨()⟩, fun _ => ⟨⟨()⟩, fun _ => ?_⟩⟩
    exact ⟨now, .error e, rfl⟩

variable {answer : σ → (c : InventoryWorld.Call) → Except ε (InventoryWorld.Reply c) × σ}

theorem transcript_tick {w w' : σ} (played : tick.play answer w = (.ok (), w')) :
    ∃ now result, tick.transcript answer w = said now result := by
  obtain ⟨now, result, same⟩ := ensures_tick.play played
  rw [List.filterMap_some] at same
  exact ⟨now, result, same⟩

/-- Every call that has a reply gets one. -/
def Replies (answer : σ → (c : InventoryWorld.Call) → Except ε (InventoryWorld.Reply c) × σ) : Prop :=
  ∀ w c, Nonempty (InventoryWorld.Reply c) → ∃ reply w', answer w c = (.ok reply, w')

theorem Replies.exists_tick (h : Replies answer) (w : σ) :
    ∃ w', tick.play answer w = (.ok (), w') := by
  have step : ∀ w c, True → Nonempty (InventoryWorld.Reply c) → True →
      ∃ reply w', answer w c = (.ok reply, w') ∧ True := by
    intro w c _ possible _
    obtain ⟨reply, w', answered⟩ := h w c possible
    exact ⟨reply, w', answered, trivial⟩
  obtain ⟨⟨⟩, w', played⟩ := ensures_tick.plays (Program.Only.any tick) step (R := fun _ => True)
    (w := w) trivial
  exact ⟨w', played⟩

/-! ### Courses of the loop -/

/-- A sweep that was made: when, and all that was said in it. -/
structure Sweep where
  time : Delay
  talk : List (Exchange InventoryWorld)

/-- What a sweep wrote into the journal. -/
def Sweep.entries (s : Sweep) : List Entry :=
  s.talk.filterMap recorded?

/-- The loop some time after it was started, and the world that answers its calls. -/
structure Watch (σ : Type) where
  time : Delay
  /-- When the next sweep is due. -/
  due : Delay
  /-- The loop has not come to its end. -/
  running : Bool
  /-- The sweeps that were made, in their order. -/
  sweeps : List Sweep
  world : σ

/-- The loop as it is started: the first sweep is due at once. -/
def Watch.start (w : σ) : Watch σ where
  time := .zero
  due := .zero
  running := true
  sweeps := []
  world := w

/-- What may happen next to a loop that sweeps at an interval and is told to stop at some time. -/
inductive Turn (answer : σ → (c : InventoryWorld.Call) → Except ε (InventoryWorld.Reply c) × σ)
    (others : σ → σ → Prop) (interval stop : Delay) : Watch σ → Watch σ → Prop
  /-- Others change the world. -/
  | others (x : Watch σ) (w : σ) (acts : others x.world w) :
    Turn answer others interval stop x { x with world := w }
  /-- Time passes. A running loop wakes up when its sweep is due and when it is told to stop. -/
  | wait (x : Watch σ) (t : Delay) (later : x.time < t)
    (asleep : x.running = true → t ≤ x.due ∧ t ≤ stop) :
    Turn answer others interval stop x { x with time := t }
  /-- The loop makes the sweep that is due; no time passes. The next one is due an interval later. -/
  | sweep (x : Watch σ) (w : σ) (running : x.running = true) (due : x.due ≤ x.time)
    (ticked : tick.play answer x.world = (.ok (), w)) :
    Turn answer others interval stop x
      { x with
        due := x.time + interval
        sweeps := x.sweeps ++ [⟨x.time, tick.transcript answer x.world⟩]
        world := w }
  /-- The loop was told to stop, and ends. -/
  | halt (x : Watch σ) (running : x.running = true) (told : stop ≤ x.time) :
    Turn answer others interval stop x { x with running := false }

/-- What may happen to a loop in some time. -/
abbrev Course (answer : σ → (c : InventoryWorld.Call) → Except ε (InventoryWorld.Reply c) × σ)
    (others : σ → σ → Prop) (interval stop : Delay) : Watch σ → Watch σ → Prop :=
  ReflTransGen (Turn answer others interval stop)

variable {others : σ → σ → Prop} {interval stop : Delay} {x y : Watch σ}

/-! ### What every course keeps -/

/-- The sweeps were made at the multiples of the interval, each once and in order; the next multiple is
when the next sweep is due. -/
structure Punctual (interval stop : Delay) (x : Watch σ) : Prop where
  times : x.sweeps.map Sweep.time = (List.range x.sweeps.length).map interval.times
  due : x.due = interval.times x.sweeps.length
  running : x.running = true → x.time ≤ x.due ∧ x.time ≤ stop
  ended : x.running = false → stop ≤ x.due ∧ stop ≤ x.time
  inTime : ∀ s ∈ x.sweeps, s.time ≤ x.time ∧ s.time ≤ stop
  talk : ∀ s ∈ x.sweeps, ∃ now result, s.talk = said now result

theorem Punctual.start (interval stop : Delay) (w : σ) :
    Punctual interval stop (Watch.start w) where
  times := rfl
  due := by simp [Watch.start, Delay.times, Delay.zero]
  running _ := ⟨Nat.le_refl _, Nat.zero_le _⟩
  ended := nofun
  inTime := List.forall_mem_nil _
  talk := List.forall_mem_nil _

theorem Punctual.turn (h : Punctual interval stop x) (turn : Turn answer others interval stop x y) :
    Punctual interval stop y := by
  cases turn with
  | others w acts => exact ⟨h.times, h.due, h.running, h.ended, h.inTime, h.talk⟩
  | wait t later asleep =>
    refine ⟨h.times, h.due, asleep, fun ended => ?_, fun s made => ?_, h.talk⟩
    · obtain ⟨due, time⟩ := h.ended ended
      exact ⟨due, Nat.le_trans time (Nat.le_of_lt later)⟩
    · obtain ⟨time, inTime⟩ := h.inTime s made
      exact ⟨Nat.le_trans time (Nat.le_of_lt later), inTime⟩
  | sweep w running due ticked =>
    obtain ⟨early, inTime⟩ := h.running running
    -- a running loop is never late, so its sweep is made when it is due
    have now : x.time = interval.times x.sweeps.length := by
      rw [← h.due]
      exact congrArg Delay.mk (Nat.le_antisymm early due)
    refine ⟨?_, ?_, fun _ => ⟨Nat.le_add_right _ _, inTime⟩, fun ended => ?_, ?_, ?_⟩
    · simp only [List.map_append, List.length_append, List.length_singleton, List.range_succ, h.times]
      rw [List.map_singleton, List.map_singleton, now]
    · rw [List.length_append, List.length_singleton, Delay.times_succ, now]
    · rw [running] at ended
      cases ended
    · refine List.forall_mem_append.2 ⟨h.inTime, List.forall_mem_singleton.2 ?_⟩
      exact ⟨Nat.le_refl _, inTime⟩
    · exact List.forall_mem_append.2 ⟨h.talk, List.forall_mem_singleton.2 (transcript_tick ticked)⟩
  | halt running told =>
    obtain ⟨early, -⟩ := h.running running
    exact ⟨h.times, h.due, nofun, fun _ => ⟨Nat.le_trans told early, told⟩, h.inTime, h.talk⟩

theorem punctual_of_course {w : σ} (course : Course answer others interval stop (.start w) x) :
    Punctual interval stop x := by
  induction course with
  | refl => exact .start interval stop w
  | tail _ turn ih => exact ih.turn turn

theorem Punctual.time_getElem (h : Punctual interval stop x) {k : Nat} (within : k < x.sweeps.length) :
    (x.sweeps[k]).time = interval.times k := by
  have same := congrArg (·[k]?) h.times
  simpa [within] using same

/-- The loop is never late: it has swept at every multiple of the interval before its next sweep is
due. -/
theorem Punctual.made (h : Punctual interval stop x) {k : Nat} (before : interval.times k < x.due) :
    k < x.sweeps.length := by
  rw [h.due] at before
  exact Nat.lt_of_mul_lt_mul_right (a := interval.nanos) before

theorem Punctual.count_eq_one (h : Punctual interval stop x) (positive : 0 < interval.nanos) {k : Nat}
    (before : interval.times k < x.due) : (x.sweeps.map Sweep.time).count (interval.times k) = 1 := by
  have distinct : Function.Injective fun k => interval.times k := fun i j same =>
    Nat.eq_of_mul_eq_mul_right positive (congrArg Delay.nanos same)
  rw [h.times]
  apply List.count_eq_one_of_mem (List.nodup_range.map distinct)
  exact List.mem_map_of_mem (List.mem_range.2 (h.made before))

/-- Each sweep leaves its account, and moves the counters by what came of it. -/
theorem Punctual.account (h : Punctual interval stop x) {s : Sweep} (made : s ∈ x.sweeps) :
    ∃ now result, s.talk = said now result ∧ ∀ c, Journal.total c s.entries = growth c result := by
  obtain ⟨now, result, talk⟩ := h.talk s made
  refine ⟨now, result, talk, fun c => ?_⟩
  rw [Sweep.entries, talk, filterMap_said, total_accounts]

theorem sweeps_eq_of_turn (turn : Turn answer others interval stop x y) (ended : x.running = false) :
    y.running = false ∧ y.sweeps = x.sweeps := by
  cases turn with
  | others w acts => exact ⟨ended, rfl⟩
  | wait t later asleep => exact ⟨ended, rfl⟩
  | sweep w running due ticked => simp [ended] at running
  | halt running told => simp [ended] at running

/-- Once the loop has come to its end there are no more sweeps. -/
theorem sweeps_eq_of_course (course : Course answer others interval stop x y)
    (ended : x.running = false) : y.running = false ∧ y.sweeps = x.sweeps := by
  induction course with
  | refl => exact ⟨ended, rfl⟩
  | tail _ turn ih =>
    obtain ⟨ended', same⟩ := sweeps_eq_of_turn turn ih.1
    exact ⟨ended', same.trans ih.2⟩

/-! ### Going on -/

/-- A running loop may wait. -/
theorem course_wait {t : Delay} (asleep : x.running = true → t ≤ x.due ∧ t ≤ stop) (later : x.time ≤ t) :
    Course answer others interval stop x { x with time := t } := by
  by_cases now : x.time = t
  · subst now
    exact .refl
  · have passes : x.time.nanos ≠ t.nanos := fun same => now (congrArg Delay.mk same)
    exact .single (.wait x t (Nat.lt_of_le_of_ne later passes) asleep)

/-- A sweep is made when it is due. -/
theorem course_tick {w : σ} (running : x.running = true) (early : x.time ≤ x.due) (due : x.due ≤ stop)
    (ticked : tick.play answer x.world = (.ok (), w)) :
    Course answer others interval stop x
      ⟨x.due, x.due + interval, true, x.sweeps ++ [⟨x.due, tick.transcript answer x.world⟩], w⟩ := by
  apply (course_wait (fun _ => ⟨Nat.le_refl _, due⟩) early).tail
  rw [running]
  exact .sweep ⟨x.due, x.due, true, x.sweeps, x.world⟩ w rfl (Nat.le_refl _) ticked

/-- The sweeps up to some time are made one after the other, each when it is due. -/
theorem course_sweepUntil (positive : 0 < interval.nanos) (replies : Replies answer)
    (running : x.running = true) (early : x.time ≤ x.due) {t : Delay} (later : x.time ≤ t)
    (within : t ≤ stop) :
    ∃ due sweeps w, (sweepUntil interval x.due t).play answer x.world = (.ok due, w) ∧
      Course answer others interval stop x ⟨t, due, true, x.sweeps ++ sweeps, w⟩ ∧
      t ≤ due ∧ ∀ s ∈ sweeps, s.time < t := by
  -- each round of the sweeps is a turn of the loop, after which it watches for the next multiple
  generalize next : x.due = due
  fun_induction sweepUntil interval due t generalizing x with
  | case1 due more ih =>
    subst next
    obtain ⟨w, ticked⟩ := replies.exists_tick x.world
    have dueInTime : x.due ≤ stop := Nat.le_trans (Nat.le_of_lt more.2) within
    obtain ⟨due', sweeps, w', played, course, after, before⟩ := ih
      (x := ⟨x.due, x.due + interval, true, x.sweeps ++ [⟨x.due, tick.transcript answer x.world⟩], w⟩)
      rfl (Nat.le_add_right _ _) (Nat.le_of_lt more.2) rfl
    refine ⟨due', ⟨x.due, tick.transcript answer x.world⟩ :: sweeps, w', ?_, ?_, after, ?_⟩
    · rw [Program.bind_eq, Program.play_bind, ticked]
      exact played
    · rw [List.append_assoc] at course
      exact (course_tick running early dueInTime ticked).trans course
    · exact List.forall_mem_cons.2 ⟨more.2, before⟩
  | case2 due none =>
    subst next
    have notBefore : t ≤ x.due := by
      simp only [Delay.lt_def, Delay.le_def] at *
      omega
    refine ⟨x.due, [], x.world, rfl, ?_, notBefore, List.forall_mem_nil _⟩
    rw [List.append_nil, ← running]
    exact course_wait (fun _ => ⟨notBefore, within⟩) later

/-- A running loop can go on to its end. -/
theorem exists_end (positive : 0 < interval.nanos) (replies : Replies answer)
    (h : Punctual interval stop x) (running : x.running = true) :
    ∃ y, Course answer others interval stop x y ∧ y.running = false := by
  obtain ⟨early, inTime⟩ := h.running running
  obtain ⟨due, sweeps, w, -, course, -, -⟩ :=
    course_sweepUntil positive replies running early inTime (Nat.le_refl _)
  exact ⟨_, course.tail (.halt _ rfl (Nat.le_refl _)), rfl⟩

end BoxOffice.Reclaimer
