import BoxOffice.Proofs.Conversation
import BoxOffice.Retry.Loop

/-!
# What a program attains

A program that is played in a state attains something if it comes to its end, with a result and a
state as wanted (`Attains`). What two programs attain one after the other is put together by
`attains_bind`. An operation that is tried again attains what is wanted if each try attains it, or
fails for a reason worth another try and leaves what that try begins with (`attains_retryAfter`);
the surroundings, who are told and asked things in between, have to keep to such states (`Keep`). What
is said meanwhile, but to the surroundings, is what is said in the tries one after the other
(`ensures_retryAfter`).
-/

namespace BoxOffice

variable {I : Interface} {ε σ α β : Type} {answer : σ → (c : I.Call) → Except ε (I.Reply c) × σ}

namespace Program

/-- A program that is played in a state comes to its end, with a result and a state as wanted. -/
def Attains (answer : σ → (c : I.Call) → Except ε (I.Reply c) × σ) :
    Program I α → (α → σ → Prop) → σ → Prop
  | .done a, Q, w => Q a w
  | .ask c k, Q, w => ∃ reply w', answer w c = (.ok reply, w') ∧ (k reply).Attains answer Q w'

theorem attains_iff {p : Program I α} {Q : α → σ → Prop} {w : σ} :
    p.Attains answer Q w ↔ ∃ a w', p.play answer w = (.ok a, w') ∧ Q a w' := by
  induction p generalizing w with
  | done a =>
    constructor
    · intro attained
      exact ⟨a, w, rfl, attained⟩
    · rintro ⟨_, _, played, attained⟩
      cases played
      exact attained
  | ask c k ih =>
    constructor
    · rintro ⟨reply, w₁, answered, attained⟩
      obtain ⟨a, w', played, wanted⟩ := (ih reply).1 attained
      exact ⟨a, w', (play_ask_of_ok answered).trans played, wanted⟩
    · rintro ⟨a, w', played, wanted⟩
      rw [play_ask] at played
      cases answered : answer w c with
      | mk reply w₁ =>
        rw [answered] at played
        cases reply with
        | error b => cases played
        | ok reply => exact ⟨reply, w₁, answered, (ih reply).2 ⟨a, w', played, wanted⟩⟩

namespace Attains

variable {p : Program I α} {Q Q' : α → σ → Prop} {w : σ}

theorem mono (h : p.Attains answer Q w) (le : ∀ a w', Q a w' → Q' a w') :
    p.Attains answer Q' w := by
  obtain ⟨a, w', played, wanted⟩ := attains_iff.1 h
  exact attains_iff.2 ⟨a, w', played, le a w' wanted⟩

end Attains

/-- What comes of two programs is what comes of the second, in whatever the first leaves behind. -/
theorem attains_bind {p : Program I α} {k : α → Program I β} {Q : β → σ → Prop} {w : σ} :
    (p.bind k).Attains answer Q w ↔
      p.Attains answer (fun a w' => (k a).Attains answer Q w') w := by
  induction p generalizing w with
  | done a => rfl
  | ask c next ih => simp only [bind, Attains, ih]

theorem Attains.bind {p : Program I α} {k : α → Program I β} {P : α → σ → Prop} {Q : β → σ → Prop}
    {w : σ} (first : p.Attains answer P w) (rest : ∀ a w', P a w' → (k a).Attains answer Q w') :
    (p >>= k).Attains answer Q w :=
  attains_bind.2 (first.mono rest)

end Program

namespace Service

variable {s : Service I α} {w : σ}

/-- A service goes on with the value of its first part, and ends with its error. -/
theorem attains_bind {k : α → Service I β} {P : Result α → σ → Prop} {Q : Result β → σ → Prop}
    (first : s.run.Attains answer P w)
    (failed : ∀ e w', P (.error e) w' → Q (.error e) w')
    (rest : ∀ a w', P (.ok a) w' → (k a).run.Attains answer Q w') :
    (s >>= k).run.Attains answer Q w := by
  rw [ExceptT.run_bind]
  refine first.bind fun r w' attained => ?_
  cases r with
  | error e => exact failed e w' attained
  | ok a => exact rest a w' attained

theorem attains_outcome {P : Result α → σ → Prop} {Q : Result (Result α) → σ → Prop}
    (first : s.run.Attains answer P w) (looked : ∀ r w', P r w' → Q (.ok r) w') :
    s.outcome.run.Attains answer Q w := by
  show (s.run >>= fun r => .done (.ok r)).Attains answer Q w
  exact first.bind looked

end Service

/-! ### Trying again -/

variable [Offers I Surroundings]

/-- The surroundings answer whatever has an answer, and keep to some states. -/
def Surroundings.Keep (answer : σ → (c : I.Call) → Except ε (I.Reply c) × σ) (R : σ → Prop) :
    Prop :=
  ∀ (c : Surroundings.Call) (w : σ), Nonempty c.Reply → R w →
    (Offers.call (J := Surroundings) c : Program I c.Reply).Attains answer (fun _ => R) w

/-- What is said to the surroundings is not let through by a view. -/
def Surroundings.Unseen (I : Interface) [Offers I Surroundings] {δ : Type}
    (view : Exchange I → Option δ) : Prop :=
  ∀ c : Surroundings.Call, Nonempty c.Reply →
    (Offers.call (J := Surroundings) c : Program I c.Reply).Ensures view fun said _ => said = []

namespace RetryPolicy

section Keep

variable {R : σ → Prop} (keep : Surroundings.Keep answer R)

include keep

theorem attains_note (n : Notice) {w : σ} (start : R w) :
    (Surroundings.note n : Program I Unit).Attains answer (fun _ => R) w :=
  keep (.record (.notice n)) w ⟨()⟩ start

theorem attains_count (c : Counter) {w : σ} (start : R w) :
    (Surroundings.count c : Program I Unit).Attains answer (fun _ => R) w :=
  keep (.record (.measured (.count c 1))) w ⟨()⟩ start

theorem attains_pause (policy : RetryPolicy) (attempt : Nat) {w : σ} (start : R w) :
    (policy.pause attempt : Program I Unit).Attains answer (fun _ => R) w := by
  have waits (scale : Option Float) (w' : σ) (kept : R w') :
      (Surroundings.wait (policy.delay attempt scale) : Program I Unit).Attains answer
        (fun _ => R) w' := keep (.wait _) w' ⟨()⟩ kept
  unfold pause
  cases policy.jitter with
  | true =>
    have drawn : (some <$> Surroundings.draw : Program I (Option Float)).Attains answer
        (fun _ => R) w :=
      (keep .draw w ⟨(0 : Float)⟩ start).bind fun _ _ kept => kept
    exact drawn.bind waits
  | false => exact waits .none w start

end Keep

variable {φ : Type} (isRetryable : φ → Bool)

/-- What one try is to attain that may be followed by some number of others: what is wanted, or, if
its error is worth another try, what that try begins with. -/
def Try (P : Nat → σ → Prop) (Q : Except φ α → σ → Prop) : Nat → Except φ α → σ → Prop
  | n + 1, .error e, w => if isRetryable e then P n w else Q (.error e) w
  | _, r, w => Q r w

variable {isRetryable} {P : Nat → σ → Prop} {Q : Except φ α → σ → Prop}

/-- A success, and an error that is not worth another try, are answered. -/
theorem Try.final {n : Nat} {r : Except φ α} {w : σ} (h : Q r w)
    (final : ∀ e, r = .error e → isRetryable e = false) : Try isRetryable P Q n r w := by
  cases n with
  | zero => cases r <;> exact h
  | succ n =>
    cases r with
    | ok a => exact h
    | error e =>
      rw [Try, final e rfl]
      exact h

theorem attains_succeed (keep : ∀ r, Surroundings.Keep answer (Q r)) (attempt : Nat) {a : α} {w : σ}
    (start : Q (.ok a) w) :
    (succeed attempt a : Program I (Except φ α)).Attains answer Q w := by
  unfold succeed
  split
  · refine (attains_count (keep _) _ start).bind fun _ _ kept => ?_
    exact (attains_note (keep _) _ kept).bind fun _ _ kept => kept
  · exact start

/-- **What is attained by trying again**: each try has to attain it, or to leave the next try in a
state that `P` allows with the tries that are then left. -/
theorem attains_retryAfter (policy : RetryPolicy) {operation : Program I (Except φ α)}
    (keep : ∀ n, Surroundings.Keep answer (P n)) (keep_end : ∀ r, Surroundings.Keep answer (Q r))
    (once : ∀ n w, P n w → operation.Attains answer (Try isRetryable P Q n) w)
    (attempt remaining : Nat) {w : σ} (start : P remaining w) :
    (policy.retryAfter isRetryable operation attempt remaining).Attains answer Q w := by
  -- an error that is not worth another try is written down and answered
  have gives_up {e : φ} {w' : σ} (ended : Q (.error e) w') :
      ((Surroundings.note .notRetryable : Program I Unit) >>= fun _ =>
        pure (Except.error e)).Attains answer Q w' :=
    (attains_note (keep_end _) _ ended).bind fun _ _ kept => kept
  induction remaining generalizing attempt w with
  | zero =>
    unfold retryAfter
    refine (once 0 w start).bind fun r w' attained => ?_
    cases r with
    | ok a => exact attains_succeed keep_end attempt attained
    | error e =>
      dsimp only
      split
      · exact gives_up attained
      · refine (attains_count (keep_end _) _ attained).bind fun _ _ kept => ?_
        exact (attains_note (keep_end _) _ kept).bind fun _ _ kept => kept
  | succ remaining ih =>
    unfold retryAfter
    refine (once (remaining + 1) w start).bind fun r w' attained => ?_
    cases r with
    | ok a => exact attains_succeed keep_end attempt attained
    | error e =>
      simp only [Try] at attained
      dsimp only
      cases worth : isRetryable e with
      | false =>
        rw [worth] at attained
        exact gives_up attained
      | true =>
        rw [worth] at attained
        refine (attains_count (keep _) _ attained).bind fun _ _ kept => ?_
        refine (attains_note (keep _) _ kept).bind fun _ _ kept => ?_
        exact (attains_pause (keep _) policy attempt kept).bind fun _ _ kept => ih _ kept

/-! ### What is said -/

section Said

variable {δ : Type} {view : Exchange I → Option δ}

/-- The conversations in which an operation is tried, with a number of further tries allowed: only an
error worth another try is followed by one, and the last outcome is the answer. -/
inductive Tries (isRetryable : φ → Bool) (Once : List δ → Except φ α → Prop) :
    Nat → List δ → Except φ α → Prop
  | answered (n : Nat) {said : List δ} {a : α} (once : Once said (.ok a)) :
    Tries isRetryable Once n said (.ok a)
  | refused (n : Nat) {said : List δ} {e : φ} (once : Once said (.error e))
    (final : isRetryable e = false) : Tries isRetryable Once n said (.error e)
  | exhausted {said : List δ} {e : φ} (once : Once said (.error e)) (worth : isRetryable e = true) :
    Tries isRetryable Once 0 said (.error e)
  | again {n : Nat} {said more : List δ} {e : φ} {r : Except φ α} (once : Once said (.error e))
    (worth : isRetryable e = true) (rest : Tries isRetryable Once n more r) :
    Tries isRetryable Once (n + 1) (said ++ more) r

variable (unseen : Surroundings.Unseen I view)

include unseen

theorem unseen_note (n : Notice) :
    (Surroundings.note n : Program I Unit).Ensures view fun said _ => said = [] :=
  unseen (.record (.notice n)) ⟨()⟩

theorem unseen_count (c : Counter) :
    (Surroundings.count c : Program I Unit).Ensures view fun said _ => said = [] :=
  unseen (.record (.measured (.count c 1))) ⟨()⟩

theorem unseen_pause (policy : RetryPolicy) (attempt : Nat) :
    (policy.pause attempt : Program I Unit).Ensures view fun said _ => said = [] := by
  have waits (scale : Option Float) :
      (Surroundings.wait (policy.delay attempt scale) : Program I Unit).Ensures view
        fun said _ => said = [] := unseen (.wait _) ⟨()⟩
  unfold pause
  cases policy.jitter with
  | true =>
    have drawn : (some <$> Surroundings.draw : Program I (Option Float)).Ensures view
        fun said _ => said = [] := .bind_of_silent (unseen .draw ⟨(0 : Float)⟩) fun _ => rfl
    exact .bind_of_silent drawn waits
  | false => exact waits .none

theorem unseen_succeed (attempt : Nat) (a : α) :
    (succeed attempt a : Program I (Except φ α)).Ensures view
      fun said r => said = [] ∧ r = .ok a := by
  unfold succeed
  split
  · refine .bind_of_silent (unseen_count unseen _) fun _ => ?_
    exact .bind_of_silent (unseen_note unseen _) fun _ => ⟨rfl, rfl⟩
  · exact ⟨rfl, rfl⟩

/-- **What is said by trying again** is what is said in the tries. -/
theorem ensures_retryAfter (policy : RetryPolicy) {operation : Program I (Except φ α)}
    {Once : List δ → Except φ α → Prop} (once : operation.Ensures view Once)
    (attempt remaining : Nat) :
    (policy.retryAfter isRetryable operation attempt remaining).Ensures view
      (Tries isRetryable Once remaining) := by
  -- what follows a try is not seen unless it is another try
  have succeeds {n : Nat} {said : List δ} {a : α} (attempt : Nat) (once : Once said (.ok a)) :
      (succeed attempt a : Program I (Except φ α)).Ensures view
        fun more r => Tries isRetryable Once n (said ++ more) r := by
    refine (unseen_succeed unseen attempt a).mono ?_
    rintro _ _ ⟨rfl, rfl⟩
    rw [List.append_nil]
    exact .answered n once
  have gives_up {n : Nat} {said : List δ} {e : φ} (once : Once said (.error e))
      (final : isRetryable e = false) :
      ((Surroundings.note .notRetryable : Program I Unit) >>= fun _ =>
        pure (Except.error e)).Ensures view fun more (r : Except φ α) =>
          Tries isRetryable Once n (said ++ more) r := by
    refine .bind_of_silent (unseen_note unseen _) fun _ => ?_
    show Tries isRetryable Once n (said ++ []) (.error e)
    rw [List.append_nil]
    exact .refused n once final
  -- by induction on the tries that are left
  induction remaining generalizing attempt with
  | zero =>
    unfold retryAfter
    refine once.bind fun said r tried => ?_
    cases r with
    | ok a => exact succeeds attempt tried
    | error e =>
      dsimp only
      cases worth : isRetryable e with
      | false => exact gives_up tried worth
      | true =>
        refine .bind_of_silent (unseen_count unseen _) fun _ => ?_
        refine .bind_of_silent (unseen_note unseen _) fun _ => ?_
        show Tries isRetryable Once 0 (said ++ []) (.error e)
        rw [List.append_nil]
        exact .exhausted tried worth
  | succ remaining ih =>
    unfold retryAfter
    refine once.bind fun said r tried => ?_
    cases r with
    | ok a => exact succeeds attempt tried
    | error e =>
      dsimp only
      cases worth : isRetryable e with
      | false => exact gives_up tried worth
      | true =>
        refine .bind_of_silent (unseen_count unseen _) fun _ => ?_
        refine .bind_of_silent (unseen_note unseen _) fun _ => ?_
        refine .bind_of_silent (unseen_pause unseen policy attempt) fun _ => ?_
        exact (ih (attempt + 1)).mono fun more r rest => .again tried worth rest

end Said

end RetryPolicy

end BoxOffice
