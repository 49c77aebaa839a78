import Mathlib.Data.Nat.Find
import BoxOffice.Proofs.Play
import BoxOffice.Rehearsal.Trial

/-!
# How an operation is tried again

The loop goes on as long as the outcomes are errors worth another try and the policy allows one:
`lastTry` is the number of its last try. What one turn of the loop does to a trial is said by
`play_retryAfter_again` and `play_retryAfter_last`; `Underway` is what is known of a trial after
some failed tries, and one turn keeps it (`Underway.failed`). So every try comes when the waits
before it are over, no wait follows the last one, and the counters tell how it went. The count of
the failures, which is kept in 64 bits, does not overflow (`counted_eq_retryAfter`).
-/

namespace BoxOffice

namespace Delay

/-- A delay of whole milliseconds. -/
def IsWhole (d : Delay) : Prop :=
  d.nanos % 1000000 = 0

instance (d : Delay) : Decidable d.IsWhole :=
  inferInstanceAs (Decidable (_ = _))

theorem IsWhole.add {d d' : Delay} (h : d.IsWhole) (h' : d'.IsWhole) : (d + d').IsWhole := by
  show (d.nanos + d'.nanos) % 1000000 = 0
  unfold IsWhole at h h'
  omega

/-- The moment after a number of waits, one after the other. -/
def after (start : Delay) (wait : Nat → Delay) : Nat → Delay
  | 0 => start
  | n + 1 => start.after wait n + wait n

end Delay

namespace RetryPolicy

variable {I : Interface} [Offers I Surroundings] {ε α : Type}

theorem toNat_succ_of_lt {failures allowed : UInt64} (h : failures < allowed) :
    (failures + 1).toNat = failures.toNat + 1 := by
  have below : failures.toNat < allowed.toNat := UInt64.lt_iff_toNat_lt.1 h
  have bound : allowed.toNat < 18446744073709551616 := allowed.toNat_lt
  rw [UInt64.toNat_add, UInt64.toNat_one]
  omega

/-- The loop with its count of the failures so far, which is kept in 64 bits. Without room for one
more failure nothing is answered. -/
def counted (p : RetryPolicy) (isRetryable : ε → Bool) (operation : Program I (Except ε α))
    (failures : UInt64) : Program I (Option (Except ε α)) := do
  match ← operation with
  | .ok a => some <$> succeed failures.toNat a
  | .error e =>
    if !isRetryable e then
      Surroundings.note .notRetryable
      return some (.error e)
    else if h : failures ≥ p.maxRetries then
      Surroundings.count .retryExhausted
      Surroundings.note .retriesExhausted
      return some (.error e)
    else
      Surroundings.count .retryAttempt
      Surroundings.note .retrying
      p.pause failures.toNat
      if failures.toNat + 1 < UInt64.size then
        counted p isRetryable operation (failures + 1)
      else return Option.none
termination_by p.maxRetries.toNat - failures.toNat
decreasing_by
  have below : failures < p.maxRetries := UInt64.not_le.1 h
  have counted := toNat_succ_of_lt below
  have := UInt64.lt_iff_toNat_lt.1 below
  omega

/-- **The count of the failures does not overflow**, however many further tries are allowed. -/
theorem counted_eq_retryAfter (p : RetryPolicy) (isRetryable : ε → Bool)
    (operation : Program I (Except ε α)) {failures : UInt64} {remaining : Nat}
    (h : failures.toNat + remaining = p.maxRetries.toNat) :
    p.counted isRetryable operation failures =
      some <$> p.retryAfter isRetryable operation failures.toNat remaining := by
  induction remaining generalizing failures with
  | zero =>
    have spent : failures ≥ p.maxRetries := UInt64.le_iff_toNat_le.2 (by omega)
    unfold counted retryAfter
    rw [map_bind]
    refine congrArg _ (funext fun r => ?_)
    cases r with
    | ok a => rfl
    | error e =>
      cases worth : isRetryable e <;>
        simp [worth, spent, map_bind, -Program.bind_eq, -Program.pure_eq]
  | succ remaining ih =>
    have below : failures < p.maxRetries := UInt64.lt_iff_toNat_lt.2 (by omega)
    have room : failures.toNat + 1 < UInt64.size :=
      toNat_succ_of_lt below ▸ (failures + 1).toNat_lt
    have counted_on : p.counted isRetryable operation (failures + 1) =
        some <$> p.retryAfter isRetryable operation (failures.toNat + 1) remaining := by
      rw [ih (by rw [toNat_succ_of_lt below]; omega), toNat_succ_of_lt below]
    unfold counted retryAfter
    rw [map_bind]
    refine congrArg _ (funext fun r => ?_)
    cases r with
    | ok a => rfl
    | error e =>
      cases worth : isRetryable e <;>
        simp [worth, UInt64.not_le.2 below, room, counted_on, map_bind, -Program.bind_eq,
          -Program.pure_eq]

/-- An outcome that calls for another try: an error worth one. -/
def callsForMore (isRetryable : ε → Bool) : Except ε α → Bool
  | .ok _ => false
  | .error e => isRetryable e

/-- The number of the last try, counted from zero: the least one whose outcome is a success or an
error that is not worth another try, or that is allowed no further one. -/
def lastTry (script : Nat → Except ε α) (isRetryable : ε → Bool) (allowed : Nat) : Nat :=
  Nat.find (p := fun n => n = allowed ∨ callsForMore isRetryable (script n) = false)
    ⟨allowed, .inl rfl⟩

theorem lastTry_eq {script : Nat → Except ε α} {isRetryable : ε → Bool} {allowed n : Nat}
    (le : n ≤ allowed) (last : n = allowed ∨ callsForMore isRetryable (script n) = false)
    (before : ∀ i < n, callsForMore isRetryable (script i) = true) :
    lastTry script isRetryable allowed = n := by
  refine (Nat.find_eq_iff _).2 ⟨last, ?_⟩
  rintro i lt (spent | final)
  · omega
  · rw [before i lt] at final
    cases final

end RetryPolicy

namespace Rehearsal

open RetryPolicy

namespace Stage

theorem isWhole_lasting {delay : Delay} (whole : delay.IsWhole) : (lasting delay).IsWhole := by
  unfold lasting
  split
  · exact whole
  · show longestWait.IsWhole
    decide

/-- A wait of whole milliseconds that begins on time ends on time. -/
theorem waitUntil_of_isWhole {elapsed delay : Delay} (start : elapsed.IsWhole)
    (whole : delay.IsWhole) : waitUntil elapsed delay = elapsed + lasting delay := by
  have lasts := isWhole_lasting whole
  refine congrArg Delay.mk ?_
  unfold Delay.IsWhole at start lasts
  show _ = elapsed.nanos + (lasting delay).nanos
  omega

end Stage

namespace Trial

variable {ε α β : Type} {p : RetryPolicy} {isRetryable : ε → Bool} {t : Trial ε α}

/-- The operation of a trial. -/
abbrev operation : Program (TrialWorld ε α) (Except ε α) :=
  Offers.call (J := Operation ε α) ()

/-! ### One turn of the loop -/

/-- A trial after an entry was written down. -/
def recorded (t : Trial ε α) (entry : Entry) : Trial ε α :=
  { t with stage := { t.stage with journal := entry :: t.stage.journal } }

/-- A trial after something was counted and noted. -/
def reported (t : Trial ε α) (c : Counter) (n : Notice) : Trial ε α :=
  (t.recorded (.measured (.count c 1))).recorded (.notice n)

theorem total_noted (t : Trial ε α) (c : Counter) (n : Notice) :
    Journal.total c (t.recorded (.notice n)).stage.entries = Journal.total c t.stage.entries := by
  simp [recorded, Stage.entries, Journal.growth]

theorem total_reported (t : Trial ε α) (c counted : Counter) (n : Notice) :
    Journal.total c (t.reported counted n).stage.entries =
      Journal.total c t.stage.entries + if c = counted then 1 else 0 := by
  rw [reported, total_noted]
  simp [recorded, Stage.entries, Journal.growth, eq_comm]

/-- A trial that goes on at some moment. -/
def resumedAt (t : Trial ε α) (elapsed : Delay) : Trial ε α :=
  { t with stage := { t.stage with elapsed } }

@[simp] theorem resumedAt_script (t : Trial ε α) (elapsed : Delay) :
    (t.resumedAt elapsed).script = t.script := rfl

@[simp] theorem resumedAt_tries (t : Trial ε α) (elapsed : Delay) :
    (t.resumedAt elapsed).tries = t.tries := rfl

@[simp] theorem resumedAt_entries (t : Trial ε α) (elapsed : Delay) :
    (t.resumedAt elapsed).stage.entries = t.stage.entries := rfl

/-- A trial after a wait. -/
def waited (t : Trial ε α) (d : Delay) : Trial ε α :=
  t.resumedAt (Stage.waitUntil t.stage.elapsed d)

theorem play_operation (k : Except ε α → Program (TrialWorld ε α) β) (t : Trial ε α) :
    (operation >>= k).play answer t = (k t.next).play answer t.tried := rfl

theorem play_note (n : Notice) (k : Unit → Program (TrialWorld ε α) β) (t : Trial ε α) :
    (Surroundings.note n >>= k).play answer t = (k ()).play answer (t.recorded (.notice n)) := rfl

theorem play_count (c : Counter) (k : Unit → Program (TrialWorld ε α) β) (t : Trial ε α) :
    (Surroundings.count c >>= k).play answer t =
      (k ()).play answer (t.recorded (.measured (.count c 1))) := rfl

theorem play_wait (d : Delay) (k : Unit → Program (TrialWorld ε α) β) (t : Trial ε α) :
    (Surroundings.wait d >>= k).play answer t = (k ()).play answer (t.waited d) := by
  have waits : t.answer (.inr (.wait d)) = (.ok (), t.waited d) := by
    unfold answer waited Trial.resumedAt Stage.answer
    rfl
  exact Program.play_ask_of_ok waits

theorem play_pause (steady : p.jitter = false) (attempt : Nat)
    (k : Unit → Program (TrialWorld ε α) β) (t : Trial ε α) :
    (p.pause attempt >>= k).play answer t =
      (k ()).play answer (t.waited (p.delay attempt .none)) := by
  unfold pause
  rw [steady]
  exact play_wait _ k t

/-- A trial after an error that was followed by a wait for the next try. -/
def failed (p : RetryPolicy) (attempt : Nat) (t : Trial ε α) : Trial ε α :=
  (t.tried.reported .retryAttempt .retrying).waited (p.delay attempt .none)

/-- A trial after the last try. -/
def ended (isRetryable : ε → Bool) (attempt : Nat) (t : Trial ε α) : Trial ε α :=
  match t.next with
  | .ok _ => if attempt > 0 then t.tried.reported .retrySuccess .retrySucceeded else t.tried
  | .error e =>
    if isRetryable e then t.tried.reported .retryExhausted .retriesExhausted
    else t.tried.recorded (.notice .notRetryable)

theorem play_retryAfter_again (steady : p.jitter = false) {attempt remaining : Nat}
    (more : callsForMore isRetryable t.next = true) :
    (p.retryAfter isRetryable operation attempt (remaining + 1)).play answer t =
      (p.retryAfter isRetryable operation (attempt + 1) remaining).play answer
        (t.failed p attempt) := by
  rw [retryAfter, play_operation]
  cases outcome : t.next with
  | ok a =>
    rw [outcome] at more
    cases more
  | error e =>
    rw [outcome] at more
    have worth : isRetryable e = true := more
    simp only [worth, Bool.not_true, Bool.false_eq_true, ↓reduceIte]
    rw [play_count, play_note, play_pause steady, failed, reported]

theorem play_retryAfter_last {attempt remaining : Nat}
    (last : remaining = 0 ∨ callsForMore isRetryable t.next = false) :
    (p.retryAfter isRetryable operation attempt remaining).play answer t =
      (.ok t.next, t.ended isRetryable attempt) := by
  unfold retryAfter ended
  rw [play_operation]
  cases outcome : t.next with
  | ok a =>
    dsimp only
    unfold succeed
    split <;> rfl
  | error e =>
    dsimp only
    cases worth : isRetryable e with
    | false => rfl
    | true =>
      rw [outcome] at last
      have spent : remaining = 0 := last.resolve_right (by simp [callsForMore, worth])
      subst spent
      rfl

/-! ### The turns of a loop -/

/-- How long is waited before each further try. -/
def pauses (p : RetryPolicy) (attempt : Nat) : Delay :=
  Stage.lasting (p.delay attempt .none)

/-- What is known of a trial after a number of failed tries: when they were made, and what was
counted for them. -/
structure Underway (p : RetryPolicy) (stage : Stage) (script : Nat → Except ε α) (n : Nat)
    (t : Trial ε α) : Prop where
  script_eq : t.script = script
  tries : t.tries.reverse = (List.range n).map (stage.elapsed.after (pauses p))
  elapsed : t.stage.elapsed = stage.elapsed.after (pauses p) n
  onTime : t.stage.elapsed.IsWhole
  total (c : Counter) : Journal.total c t.stage.entries =
    Journal.total c stage.entries + if c = .retryAttempt then n else 0

namespace Underway

variable {stage : Stage} {script : Nat → Except ε α} {n : Nat}

theorem opening (p : RetryPolicy) (script : Nat → Except ε α) (onTime : stage.elapsed.IsWhole) :
    Underway p stage script 0 (opening stage script) where
  script_eq := rfl
  tries := rfl
  elapsed := rfl
  onTime := onTime
  total c := by simp [Trial.opening]

theorem next_eq (h : Underway p stage script n t) : t.next = script n := by
  have made : t.tries.length = n := by
    rw [← List.length_reverse, h.tries, List.length_map, List.length_range]
  unfold next
  rw [h.script_eq, made]

theorem tried_tries (h : Underway p stage script n t) :
    t.tried.tries.reverse = (List.range (n + 1)).map (stage.elapsed.after (pauses p)) := by
  show (t.stage.elapsed :: t.tries).reverse = _
  rw [List.reverse_cons, h.tries, h.elapsed, List.range_succ, List.map_append]
  rfl

/-- One failed try and the wait after it. -/
theorem failed (h : Underway p stage script n t) (whole : (p.delay n .none).IsWhole) :
    Underway p stage script (n + 1) (t.failed p n) := by
  have waits : (t.failed p n).stage.elapsed = t.stage.elapsed + pauses p n :=
    Stage.waitUntil_of_isWhole h.onTime whole
  unfold Trial.failed waited at *
  constructor
  · rw [resumedAt_script]
    exact h.script_eq
  · rw [resumedAt_tries]
    exact h.tried_tries
  · rw [waits, h.elapsed, Delay.after]
  · rw [waits]
    exact h.onTime.add (Stage.isWhole_lasting whole)
  · intro c
    rw [resumedAt_entries, total_reported]
    show Journal.total c t.stage.entries + _ = _
    rw [h.total]
    split <;> omega

/-- The last try. -/
theorem ended_tries (h : Underway p stage script n t) :
    (t.ended isRetryable n).tries.reverse =
      (List.range (n + 1)).map (stage.elapsed.after (pauses p)) := by
  have same : (t.ended isRetryable n).tries = t.tried.tries := by
    unfold ended
    split <;> split <;> rfl
  rw [same]
  exact h.tried_tries

/-- Nothing is waited for after the last try. -/
theorem ended_elapsed (h : Underway p stage script n t) :
    (t.ended isRetryable n).stage.elapsed = stage.elapsed.after (pauses p) n := by
  have same : (t.ended isRetryable n).stage.elapsed = t.stage.elapsed := by
    unfold ended
    split <;> split <;> rfl
  rw [same]
  exact h.elapsed

/-- What the last try adds to the counters. -/
theorem total_ended (h : Underway p stage script n t) (isRetryable : ε → Bool) (c : Counter) :
    Journal.total c (t.ended isRetryable n).stage.entries = Journal.total c t.stage.entries +
      ((if c = .retrySuccess ∧ (script n).isOk ∧ 0 < n then 1 else 0) +
        if c = .retryExhausted ∧ callsForMore isRetryable (script n) then 1 else 0) := by
  have quiet : Journal.total c t.tried.stage.entries = Journal.total c t.stage.entries := rfl
  unfold ended
  rw [← h.next_eq]
  cases outcome : t.next with
  | ok a =>
    dsimp only
    split
    · rw [total_reported, quiet]
      simp_all [callsForMore, Except.isOk, Except.toBool]
    · simp_all [callsForMore]
  | error e =>
    dsimp only
    cases worth : isRetryable e with
    | true =>
      rw [if_pos rfl, total_reported, quiet]
      simp [callsForMore, worth, Except.isOk, Except.toBool]
    | false =>
      rw [if_neg Bool.false_ne_true, total_noted, quiet]
      simp [callsForMore, worth, Except.isOk, Except.toBool]

end Underway

/-- The turns of a loop, from a trial with some failed tries on. -/
theorem play_retryAfter (isRetryable : ε → Bool) (steady : p.jitter = false) {stage : Stage}
    {script : Nat → Except ε α} {n remaining : Nat} (h : Underway p stage script n t)
    (whole : ∀ i < n + remaining, (p.delay i .none).IsWhole) :
    ∃ k t', k ≤ n + remaining ∧
      (k = n + remaining ∨ callsForMore isRetryable (script k) = false) ∧
      (∀ i, n ≤ i → i < k → callsForMore isRetryable (script i) = true) ∧
      Underway p stage script k t' ∧
      (p.retryAfter isRetryable operation n remaining).play answer t =
        (.ok (script k), t'.ended isRetryable k) := by
  -- by induction on the tries that are left
  induction remaining generalizing n t with
  | zero =>
    refine ⟨n, t, le_rfl, .inl rfl, ?_, h, ?_⟩
    · intro i le lt
      omega
    · rw [play_retryAfter_last (.inl rfl), h.next_eq]
  | succ remaining ih =>
    cases more : callsForMore isRetryable (script n) with
    | false =>
      refine ⟨n, t, Nat.le_add_right _ _, .inr more, ?_, h, ?_⟩
      · intro i le lt
        omega
      · rw [← h.next_eq] at more
        rw [play_retryAfter_last (.inr more), h.next_eq]
    | true =>
      have next := h.failed (whole n (by omega))
      have later : n + 1 + remaining = n + (remaining + 1) := by omega
      obtain ⟨k, t', le, last, before, underway, played⟩ := ih next (by rwa [later])
      rw [later] at le last
      refine ⟨k, t', le, last, ?_, underway, ?_⟩
      · intro i from_n lt
        rcases Nat.eq_or_lt_of_le from_n with rfl | gt
        · exact more
        · exact before i gt lt
      · rw [← h.next_eq] at more
        rw [play_retryAfter_again steady more, played]

/-- **The loop makes the tries that it should.** It goes on to the first success or error not worth
another try, or to the last try that is allowed, and answers with its outcome. Every further try
comes when the wait after the one before it is over, which is as long as the policy says but no
longer than the longest wait; nothing is waited for in the end. The further tries are counted, and
so are a success after the first try and an error that was worth one more; the count of the failures
does not overflow. -/
theorem tries_are_due (p : RetryPolicy) (steady : p.jitter = false)
    (whole : ∀ i < p.maxRetries.toNat, (p.delay i .none).IsWhole) (isRetryable : ε → Bool)
    (script : Nat → Except ε α) (stage : Stage) (onTime : stage.elapsed.IsWhole) :
    let k := lastTry script isRetryable p.maxRetries.toNat
    ∃ t', (Trial.opening stage script).retry p isRetryable = (.ok (script k), t') ∧
      t'.tries.reverse = (List.range (k + 1)).map (stage.elapsed.after (pauses p)) ∧
      t'.stage.elapsed = stage.elapsed.after (pauses p) k ∧
      Journal.total .retryAttempt t'.stage.entries =
        Journal.total .retryAttempt stage.entries + k ∧
      Journal.total .retrySuccess t'.stage.entries =
        Journal.total .retrySuccess stage.entries + (if (script k).isOk ∧ 0 < k then 1 else 0) ∧
      Journal.total .retryExhausted t'.stage.entries =
        Journal.total .retryExhausted stage.entries +
          (if callsForMore isRetryable (script k) then 1 else 0) ∧
      p.counted isRetryable operation 0 =
        some <$> (p.retry isRetryable operation : Program (TrialWorld ε α) (Except ε α)) := by
  intro k
  have delays : ∀ i < 0 + p.maxRetries.toNat, (p.delay i .none).IsWhole := by simpa using whole
  obtain ⟨last, t, le, ends, before, underway, played⟩ :=
    play_retryAfter isRetryable steady (Underway.opening p script onTime) delays
  rw [Nat.zero_add] at le ends
  have least : k = last := lastTry_eq le ends fun i lt => before i (Nat.zero_le i) lt
  rw [least]
  have totals (c : Counter) := (underway.total_ended isRetryable c).trans
    (congrArg (· + _) (underway.total c))
  refine ⟨_, played, underway.ended_tries, underway.ended_elapsed, ?_, ?_, ?_, ?_⟩
  · simpa using totals .retryAttempt
  · simpa using totals .retrySuccess
  · simpa using totals .retryExhausted
  · exact counted_eq_retryAfter p isRetryable operation (Nat.zero_add _)

/-- Two failures and then a success. -/
def thirdTime : Nat → Except String Int
  | 0 | 1 => .error "not yet"
  | _ => .ok 42

/-- Two failures and a success after waits of 100 and 200 milliseconds. -/
theorem tries_are_due_by_default :
    RetryPolicy.default.jitter = false ∧
      (∀ i < RetryPolicy.default.maxRetries.toNat,
        (RetryPolicy.default.delay i .none).IsWhole) ∧
      (Stage.start t0).elapsed.IsWhole ∧
      ∃ t', (Trial.opening (.start t0) thirdTime).retry .default (fun _ => true) =
          (.ok (.ok 42), t') ∧
        t'.tries.reverse = [.ofMillis 0, .ofMillis 100, .ofMillis 300] ∧
        Journal.total .retryAttempt t'.stage.entries = 2 ∧
        Journal.total .retrySuccess t'.stage.entries = 1 ∧
        Journal.total .retryExhausted t'.stage.entries = 0 := by
  have first : RetryPolicy.default.delay 0 .none = .ofMillis 100 := by decide +kernel
  have second : RetryPolicy.default.delay 1 .none = .ofMillis 200 := by decide +kernel
  have whole : ∀ i < RetryPolicy.default.maxRetries.toNat,
      (RetryPolicy.default.delay i .none).IsWhole := by decide +kernel
  have third : lastTry thirdTime (fun _ => true) RetryPolicy.default.maxRetries.toNat = 2 :=
    lastTry_eq (by decide) (.inr rfl) (by decide)
  have due : (List.range 3).map ((Stage.start t0).elapsed.after (pauses .default)) =
      [.ofMillis 0, .ofMillis 100, .ofMillis 300] := by
    simp only [List.range, List.range.loop, List.map, Delay.after, pauses, first, second]
    decide
  obtain ⟨t', tried, tries, -, again, succeeded, exhausted, -⟩ :=
    tries_are_due .default rfl whole (fun _ => true) thirdTime (.start t0) (by decide)
  rw [third] at tried tries again succeeded exhausted
  exact ⟨rfl, whole, by decide, t', tried, tries.trans due, again, succeeded, exhausted⟩

/-- One more try after 10^9 seconds. -/
def patient : RetryPolicy where
  maxRetries := 1
  initialDelay := .ofSeconds 1000000000
  maxDelay := .ofSeconds 1000000000
  multiplier := 1
  jitter := false

/-- A delay of more than thirty years is not waited out: the second try comes when thirty years are
over. -/
theorem tries_too_soon :
    patient.jitter = false ∧
      (∀ i < patient.maxRetries.toNat, (patient.delay i .none).IsWhole) ∧
      patient.delay 0 .none = .ofSeconds 1000000000 ∧
      ((Trial.opening (.start t0) fun _ => .error "down" : Trial String Int).retry patient
        fun _ => true).2.tries.reverse = [.zero, .ofSeconds 946080000] ∧
      Delay.ofSeconds 946080000 ≠ .zero + patient.delay 0 .none := by
  have delay : patient.delay 0 .none = .ofSeconds 1000000000 := by decide +kernel
  have whole : ∀ i < patient.maxRetries.toNat, (patient.delay i .none).IsWhole := by
    intro i lt
    obtain rfl : i = 0 := Nat.lt_one_iff.1 lt
    rw [delay]
    decide
  refine ⟨rfl, whole, delay, ?_, by rw [delay]; decide⟩
  let start : Trial String Int := .opening (.start t0) fun _ => .error "down"
  have failed : Underway patient (.start t0) start.script 1 (start.failed patient 0) :=
    (Underway.opening patient _ (by decide)).failed (whole 0 Nat.one_pos)
  have played : (start.retry patient fun _ => true) = _ :=
    (play_retryAfter_again rfl rfl).trans (play_retryAfter_last (.inl rfl))
  have due : (List.range 2).map ((Stage.start t0).elapsed.after (pauses patient)) =
      [.zero, .ofSeconds 946080000] := by
    simp only [List.range, List.range.loop, List.map, Delay.after, pauses, delay]
    decide
  rw [played]
  exact failed.ended_tries.trans due

end Trial

end Rehearsal

end BoxOffice
