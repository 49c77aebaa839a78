import BoxOffice.Service.Shutdown

/-!
# How the tasks are drained

The wait for a task begins when those before it have been waited for (`begins`), and meanwhile the
tasks go on. So a task is seen as it ended exactly if it ended before its own wait is over
(`getElem?_await`), which is never before the time allowed for the first wait has passed, whatever
the tasks before it do. No wait takes longer than the time allowed for it (`begins_succ_le`), hence
all of them together take at most that time for each task (`drains_within_budget`).
-/

namespace BoxOffice

/-- How a task is seen that is waited for until a moment: as it ended, if it ended before. -/
def TaskEnd.seenUntil (deadline : Delay) (task : TaskEnd) : TaskOutcome :=
  match task.ending with
  | some (after, outcome) => if after < deadline then outcome else .timedOut
  | none => .timedOut

namespace Shutdown

variable {timeout now : Delay}

/-! ### One wait -/

theorem awaitTask_outcome (timeout now : Delay) (task : TaskEnd) :
    (awaitTask timeout now task).1 = task.seenUntil (now + timeout) := by
  unfold awaitTask TaskEnd.seenUntil
  cases task.ending with
  | none => rfl
  | some ended =>
    dsimp only
    split <;> rfl

/-- A wait takes its time, but not more than is allowed for it. -/
theorem awaitTask_time (timeout now : Delay) (task : TaskEnd) :
    now ≤ (awaitTask timeout now task).2 ∧ (awaitTask timeout now task).2 ≤ now + timeout := by
  have deadline : now ≤ now + timeout := Nat.le_add_right _ _
  unfold awaitTask
  cases task.ending with
  | none => exact ⟨deadline, Nat.le_refl _⟩
  | some ended =>
    dsimp only
    split
    · next early =>
      split
      · next later => exact ⟨later, Nat.le_of_lt early⟩
      · exact ⟨Nat.le_refl _, deadline⟩
    · exact ⟨deadline, Nat.le_refl _⟩

/-- A task that never ends is waited for as long as is allowed. -/
theorem awaitTask_never (timeout now : Delay) :
    awaitTask timeout now .never = (.timedOut, now + timeout) := rfl

/-! ### All waits -/

theorem await_cons (timeout now : Delay) (task : TaskEnd) (tasks : List TaskEnd) :
    await timeout now (task :: tasks) =
      ((awaitTask timeout now task).1 :: (await timeout (awaitTask timeout now task).2 tasks).1,
        (await timeout (awaitTask timeout now task).2 tasks).2) := rfl

/-- When the wait for a task begins: when those before it have been waited for. -/
def begins (timeout now : Delay) (tasks : List TaskEnd) (i : Nat) : Delay :=
  (await timeout now (tasks.take i)).2

theorem begins_zero (timeout now : Delay) (tasks : List TaskEnd) :
    begins timeout now tasks 0 = now := rfl

theorem begins_succ_cons (timeout now : Delay) (task : TaskEnd) (tasks : List TaskEnd) (i : Nat) :
    begins timeout now (task :: tasks) (i + 1) =
      begins timeout (awaitTask timeout now task).2 tasks i := rfl

theorem begins_length (timeout now : Delay) (tasks : List TaskEnd) :
    begins timeout now tasks tasks.length = (await timeout now tasks).2 := by
  rw [begins, List.take_length]

/-- The wait for a task ends where that for the next one begins. -/
theorem begins_succ {tasks : List TaskEnd} {i : Nat} {task : TaskEnd} (h : tasks[i]? = some task) :
    begins timeout now tasks (i + 1) = (awaitTask timeout (begins timeout now tasks i) task).2 := by
  -- by induction on the tasks before this one, each of which moves the moment to start from
  induction tasks generalizing now i with
  | nil => cases h
  | cons first rest ih =>
    cases i with
    | zero =>
      cases h
      rfl
    | succ i =>
      rw [begins_succ_cons, begins_succ_cons]
      exact ih h

/-- Each task is seen as it ended before its own wait is over. -/
theorem getElem?_await (timeout now : Delay) (tasks : List TaskEnd) (i : Nat) :
    (await timeout now tasks).1[i]? =
      tasks[i]?.map fun task => task.seenUntil (begins timeout now tasks i + timeout) := by
  induction tasks generalizing now i with
  | nil => rfl
  | cons first rest ih =>
    cases i with
    | zero => exact congrArg some (awaitTask_outcome timeout now first)
    | succ i =>
      rw [await_cons, List.getElem?_cons_succ, List.getElem?_cons_succ, begins_succ_cons]
      exact ih _ i

theorem length_await (timeout now : Delay) (tasks : List TaskEnd) :
    (await timeout now tasks).1.length = tasks.length := by
  induction tasks generalizing now with
  | nil => rfl
  | cons first rest ih => rw [await_cons, List.length_cons, ih, List.length_cons]

theorem begins_succ_le {tasks : List TaskEnd} {i : Nat} {task : TaskEnd}
    (h : tasks[i]? = some task) :
    begins timeout now tasks i ≤ begins timeout now tasks (i + 1) ∧
      begins timeout now tasks (i + 1) ≤ begins timeout now tasks i + timeout := by
  rw [begins_succ h]
  exact awaitTask_time timeout _ task

/-- So many waits take at most so many times the time that is allowed for one. -/
theorem begins_le (timeout now : Delay) (tasks : List TaskEnd) {i : Nat} (le : i ≤ tasks.length) :
    now ≤ begins timeout now tasks i ∧ begins timeout now tasks i ≤ now + timeout.times i := by
  induction i with
  | zero =>
    rw [begins_zero]
    exact ⟨Nat.le_refl _, Nat.le_add_right _ _⟩
  | succ i ih =>
    obtain ⟨start, budget⟩ := ih (Nat.le_of_succ_le le)
    have ⟨forwards, wait⟩ : begins timeout now tasks i ≤ begins timeout now tasks (i + 1) ∧
        begins timeout now tasks (i + 1) ≤ begins timeout now tasks i + timeout :=
      begins_succ_le (List.getElem?_eq_getElem le)
    simp only [Delay.le_def, Delay.nanos_add, Delay.times_succ] at *
    omega

/-- A task that ended before the time allowed for the first wait was over is seen as it ended. -/
theorem seen_of_early {tasks : List TaskEnd} {i : Nat} {task : TaskEnd} {after : Delay}
    {outcome : TaskOutcome} (h : tasks[i]? = some task) (ended : task.ending = some (after, outcome))
    (early : after < now + timeout) : (await timeout now tasks).1[i]? = some outcome := by
  obtain ⟨within, -⟩ := List.getElem?_eq_some_iff.1 h
  have start := (begins_le timeout now tasks (Nat.le_of_lt within)).1
  have inTime : after < begins timeout now tasks i + timeout := by
    simp only [Delay.le_def, Delay.lt_def, Delay.nanos_add] at *
    omega
  rw [getElem?_await, h, Option.map_some, TaskEnd.seenUntil, ended]
  exact congrArg some (if_pos inTime)

/-- **Every task is drained within its budget.** The waits for the tasks together take at most the
allowed time for each of them, and what came of each is written down once, in their order. A task
that stops or breaks down strictly before the allowed time has passed from the beginning is written
down as it ended, never as one that took too long, whichever tasks before it hang; one that never
ends is written down as one that took too long, after the allowed time was spent on it. -/
theorem drains_within_budget (timeout now : Delay) (tasks : List TaskEnd) :
    let finish := (await timeout now tasks).2
    let report := (await timeout now tasks).1.map TaskOutcome.notice
    now ≤ finish ∧ finish ≤ now + timeout.times tasks.length ∧
      report.length = tasks.length ∧
      (∀ (i : Nat) (after : Delay), tasks[i]? = some (.stops after) → after < now + timeout →
        report[i]? = some .taskStopped) ∧
      (∀ (i : Nat) (after : Delay), tasks[i]? = some (.breaks after) → after < now + timeout →
        report[i]? = some .taskFailed) ∧
      ∀ i : Nat, tasks[i]? = some .never →
        report[i]? = some .taskTimedOut ∧
          begins timeout now tasks (i + 1) = begins timeout now tasks i + timeout := by
  intro finish report
  have time := begins_le timeout now tasks (Nat.le_refl _)
  rw [begins_length] at time
  have reported {i : Nat} {outcome : TaskOutcome}
      (seen : (await timeout now tasks).1[i]? = some outcome) :
      report[i]? = some outcome.notice := by
    rw [List.getElem?_map, seen, Option.map_some]
  refine ⟨time.1, time.2, ?_, ?_, ?_, ?_⟩
  · rw [List.length_map, length_await]
  · intro i after h early
    exact reported (seen_of_early h rfl early)
  · intro i after h early
    exact reported (seen_of_early h rfl early)
  · intro i h
    constructor
    · have seen : (await timeout now tasks).1[i]? = some .timedOut := by
        rw [getElem?_await, h]
        rfl
      exact reported seen
    · rw [begins_succ h, awaitTask_never]

/-- Two tasks hang; the one between them stops while the first is waited for, and the last one breaks
down while the second is. -/
theorem drains_within_budget_two_stuck :
    let tasks : List TaskEnd := [.never, .stops (.ofSeconds 4), .never, .breaks (.ofMillis 4999)]
    (await (.ofSeconds 5) .zero tasks).1.map TaskOutcome.notice =
        [.taskTimedOut, .taskStopped, .taskTimedOut, .taskFailed] ∧
      (await (.ofSeconds 5) .zero tasks).2 = .ofSeconds 10 ∧
      (await (.ofSeconds 5) .zero tasks).2 ≤ .zero + (Delay.ofSeconds 5).times 4 ∧
      begins (.ofSeconds 5) .zero tasks 3 = begins (.ofSeconds 5) .zero tasks 2 + .ofSeconds 5 := by
  intro tasks
  obtain ⟨-, budget, -, -, -, never⟩ := drains_within_budget (.ofSeconds 5) .zero tasks
  exact ⟨by decide, by decide, budget, (never 2 rfl).2⟩

end Shutdown

end BoxOffice
