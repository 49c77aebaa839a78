import BoxOffice.Proofs.Play

/-!
# Conversations

A program and whoever answers its calls have a conversation, a list of calls with their replies. An
`Environment` answers in the light of all that was said before, and `converse` is the conversation
that a program has with it. What holds of every conversation of a program, whoever answers, is put by
`Ensures`, which looks only at what a view lets through; `ensures_bind` makes one of the promises of
two programs. A program that may break down `Permits` what holds of the conversations that come to an
end; if each of its calls is answered by a conversation with somebody else, so does the program with
those answers put behind it (`Permits.run`). All that holds in particular of the `transcript` of a
program that is played (`Ensures.play`, `Permits.play`), and what each answer does to a state is
followed along it by `play_follows`.
-/

namespace BoxOffice

variable {I : Interface} {α β δ : Type}

/-- A call and the reply to it. -/
structure Exchange (I : Interface) where
  call : I.Call
  reply : I.Reply call

/-- Somebody who replies to every call that has a reply, in the light of all that was said before. -/
structure Environment (I : Interface) where
  reply : List (Exchange I) → (c : I.Call) → Nonempty (I.Reply c) → I.Reply c

/-- Anybody may choose any of the replies. -/
instance : Nonempty (Environment I) :=
  ⟨⟨fun _ _ possible => Classical.choice possible⟩⟩

namespace Program

open Classical in
/-- The conversation of a program with an environment after what was said already, and what the
program ends with. A call without a reply leaves it without an end. -/
noncomputable def converse (E : Environment I) :
    Program I α → List (Exchange I) → List (Exchange I) × Option α
  | .done a, _ => ([], some a)
  | .ask c k, said =>
    if h : Nonempty (I.Reply c) then
      let reply := E.reply said c h
      let (more, a) := (k reply).converse E (said ++ [⟨c, reply⟩])
      (⟨c, reply⟩ :: more, a)
    else ([], none)

theorem converse_ask {E : Environment I} {c : I.Call} {k : I.Reply c → Program I α}
    {said more : List (Exchange I)} {a : Option α} (h : Nonempty (I.Reply c))
    (rest : (k (E.reply said c h)).converse E (said ++ [⟨c, E.reply said c h⟩]) = (more, a)) :
    (ask c k).converse E said = (⟨c, E.reply said c h⟩ :: more, a) := by
  simp only [converse, dif_pos h, rest]

/-- A conversation with two programs is one with the first and then one with the second. -/
theorem converse_bind {E : Environment I} {p : Program I α} {k : α → Program I β}
    {said more rest : List (Exchange I)} {a : α} {b : Option β}
    (first : p.converse E said = (more, some a))
    (second : (k a).converse E (said ++ more) = (rest, b)) :
    (p.bind k).converse E said = (more ++ rest, b) := by
  induction p generalizing said more with
  | done a =>
    cases first
    simpa [bind] using second
  | ask c next ih =>
    by_cases h : Nonempty (I.Reply c)
    · simp only [converse, dif_pos h, Prod.mk.injEq] at first
      obtain ⟨rfl, ended⟩ := first
      exact converse_ask h (ih _ (Prod.ext rfl ended) (by simpa using second))
    · simp [converse, dif_neg h] at first

/-- Whatever is replied, the program ends, and what the view lets through of the conversation is as
promised. -/
def Ensures (view : Exchange I → Option δ) : Program I α → (List δ → α → Prop) → Prop
  | .done a, Q => Q [] a
  | .ask c k, Q =>
    Nonempty (I.Reply c) ∧
      ∀ reply, (k reply).Ensures view fun said a => Q ((view ⟨c, reply⟩).toList ++ said) a

variable {view : Exchange I → Option δ}

namespace Ensures

variable {p : Program I α} {Q Q' : List δ → α → Prop}

theorem mono (h : p.Ensures view Q) (le : ∀ said a, Q said a → Q' said a) : p.Ensures view Q' := by
  induction p generalizing Q Q' with
  | done a => exact le _ _ h
  | ask c k ih => exact ⟨h.1, fun reply => ih reply (h.2 reply) fun said a => le _ _⟩

/-- Every environment is given what is promised. -/
theorem converse (h : p.Ensures view Q) (E : Environment I) (before : List (Exchange I)) :
    ∃ said a, p.converse E before = (said, some a) ∧ Q (said.filterMap view) a := by
  induction p generalizing Q before with
  | done a => exact ⟨[], a, rfl, h⟩
  | ask c k ih =>
    let x : Exchange I := ⟨c, E.reply before c h.1⟩
    obtain ⟨said, a, talked, promised⟩ := ih x.reply (h.2 x.reply) (before ++ [x])
    refine ⟨x :: said, a, converse_ask h.1 talked, ?_⟩
    rw [List.filterMap_cons]
    cases shown : view x <;> simpa [x, shown] using promised

/-- A program of which nothing else is ever heard makes only calls of some kind. -/
theorem only {P : I.Call → Prop} (h : p.Ensures some fun talk _ => ∀ x ∈ talk, P x.call) :
    p.Only P := by
  induction p with
  | done a => trivial
  | ask c k ih =>
    constructor
    · obtain ⟨reply⟩ := h.1
      -- anybody will do to hear the call
      obtain ⟨said, a, -, heard⟩ := (h.2 reply).converse (Classical.choice inferInstance) []
      exact heard ⟨c, reply⟩ List.mem_cons_self
    · intro reply
      apply ih
      exact (h.2 reply).mono fun said a heard x mem => heard x (List.mem_cons_of_mem _ mem)

end Ensures

theorem ensures_bind {p : Program I α} {k : α → Program I β} {Q : List δ → β → Prop} :
    (p.bind k).Ensures view Q ↔
      p.Ensures view fun said a => (k a).Ensures view fun more b => Q (said ++ more) b := by
  induction p generalizing Q with
  | done a => rfl
  | ask c next ih => simp only [bind, Ensures, ih, List.append_assoc]

namespace Ensures

variable {p : Program I α} {k : α → Program I β} {Q : List δ → α → Prop} {R : List δ → β → Prop}

theorem bind (first : p.Ensures view Q)
    (rest : ∀ said a, Q said a → (k a).Ensures view fun more b => R (said ++ more) b) :
    (p >>= k).Ensures view R :=
  ensures_bind.mpr (first.mono rest)

/-- What is made of the result in the end is not seen. -/
theorem map {f : α → β} (h : p.Ensures view fun said a => R said (f a)) :
    (p >>= fun a => pure (f a)).Ensures view R :=
  h.bind fun said a promised => by simpa [Program.Ensures] using promised

/-- Nothing is seen of the first of two programs. -/
theorem bind_of_silent (first : p.Ensures view fun said _ => said = [])
    (rest : ∀ a, (k a).Ensures view R) : (p >>= k).Ensures view R :=
  first.bind fun said a silent => by subst silent; exact rest a

end Ensures

end Program

namespace Service

variable {view : Exchange I → Option δ} {s : Service I α} {Q : List δ → Result α → Prop}

/-- A service that ends with an error goes no further. -/
theorem ensures_bind {k : α → Service I β} {R : List δ → Result β → Prop}
    (first : s.run.Ensures view Q) (failed : ∀ said e, Q said (.error e) → R said (.error e))
    (rest : ∀ said a, Q said (.ok a) →
      (k a).run.Ensures view fun more r => R (said ++ more) r) :
    (s >>= k).run.Ensures view R := by
  rw [ExceptT.run_bind]
  refine Program.Ensures.bind first fun said r h => ?_
  rcases r with e | a
  · show R (said ++ []) (.error e)
    rw [List.append_nil]
    exact failed said e h
  · exact rest said a h

theorem ensures_outcome {R : List δ → Result (Result α) → Prop}
    (h : s.run.Ensures view fun said r => R said (.ok r)) : s.outcome.run.Ensures view R := by
  refine Program.Ensures.bind h fun said r promised => ?_
  show R (said ++ []) (.ok r)
  rw [List.append_nil]
  exact promised

end Service

namespace Program

/-! ### Programs that may have no end -/

/-- If a program comes to an end, its conversation and what it ends with are as promised. -/
def Permits : Program I α → (List (Exchange I) → α → Prop) → Prop
  | .done a, Q => Q [] a
  | .ask c k, Q => ∀ reply, (k reply).Permits fun said a => Q (⟨c, reply⟩ :: said) a

namespace Permits

variable {p : Program I α} {Q Q' : List (Exchange I) → α → Prop}

theorem mono (h : p.Permits Q) (le : ∀ said a, Q said a → Q' said a) : p.Permits Q' := by
  induction p generalizing Q Q' with
  | done a => exact le _ _ h
  | ask c k ih => exact fun reply => ih reply (h reply) fun said a => le _ _

theorem and (h : p.Permits Q) (h' : p.Permits Q') :
    p.Permits fun said a => Q said a ∧ Q' said a := by
  induction p generalizing Q Q' with
  | done a => exact ⟨h, h'⟩
  | ask c k ih => exact fun reply => ih reply (h reply) (h' reply)

theorem bind {k : α → Program I β} {R : List (Exchange I) → β → Prop} (first : p.Permits Q)
    (rest : ∀ said a, Q said a → (k a).Permits fun more b => R (said ++ more) b) :
    (p >>= k).Permits R := by
  induction p generalizing Q R with
  | done a => exact rest [] a first
  | ask c next ih => exact fun reply => ih reply (first reply) fun said a => rest _ a

end Permits

theorem Ensures.permits {view : Exchange I → Option δ} {p : Program I α} {Q : List δ → α → Prop}
    (h : p.Ensures view Q) : p.Permits fun said a => Q (said.filterMap view) a := by
  induction p generalizing Q with
  | done a => exact h
  | ask c k ih =>
    refine fun reply => (ih reply (h.2 reply)).mono fun said a promised => ?_
    show Q ((⟨c, reply⟩ :: said).filterMap view) a
    rw [List.filterMap_cons]
    cases shown : view ⟨c, reply⟩ <;> simpa [shown] using promised

/-- A conversation whose calls are each answered by a conversation with somebody else, and all that
is said with the latter. -/
inductive Threads {J : Interface} (Part : (c : J.Call) → List δ → J.Reply c → Prop) :
    List (Exchange J) → List δ → Prop
  | nil : Threads Part [] []
  | cons {c : J.Call} {reply : J.Reply c} {talk : List (Exchange J)} {part said : List δ}
    (first : Part c part reply) (rest : Threads Part talk said) :
    Threads Part (⟨c, reply⟩ :: talk) (part ++ said)

/-- What answers a call is said in the whole. -/
theorem Threads.exists_part {J : Interface} {Part : (c : J.Call) → List δ → J.Reply c → Prop}
    {talk : List (Exchange J)} {said : List δ} (h : Threads Part talk said) {c : J.Call}
    {reply : J.Reply c} (mem : ⟨c, reply⟩ ∈ talk) : ∃ part, Part c part reply ∧ part ⊆ said := by
  induction h with
  | nil => cases mem
  | @cons c' reply' talk part said first rest ih =>
    rcases List.mem_cons.1 mem with same | later
    · cases same
      exact ⟨part, first, List.subset_append_left part said⟩
    · obtain ⟨part', answers, within⟩ := ih later
      exact ⟨part', answers, fun x mem => List.mem_append_right part (within mem)⟩

/-- All that is said answers some call. -/
theorem Threads.exists_call {J : Interface} {Part : (c : J.Call) → List δ → J.Reply c → Prop}
    {talk : List (Exchange J)} {said : List δ} (h : Threads Part talk said) {x : δ} (mem : x ∈ said) :
    ∃ c reply part, ⟨c, reply⟩ ∈ talk ∧ Part c part reply ∧ x ∈ part := by
  induction h with
  | nil => cases mem
  | @cons c reply talk part said first rest ih =>
    rcases List.mem_append.1 mem with here | later
    · exact ⟨c, reply, part, List.mem_cons_self, first, here⟩
    · obtain ⟨c', reply', part', called, answers, there⟩ := ih later
      exact ⟨c', reply', part', List.mem_cons_of_mem _ called, answers, there⟩

/-- A program whose calls are answered by programs talks as those do, one after the other. -/
theorem Permits.run {J : Interface} {answer : (c : J.Call) → Program I (J.Reply c)}
    {Part : (c : J.Call) → List (Exchange I) → J.Reply c → Prop}
    (once : ∀ c, (answer c).Permits (Part c)) {p : Program J α}
    {R : List (Exchange J) → α → Prop} (h : p.Permits R) :
    (p.run answer).Permits fun said a => ∃ talk, Threads Part talk said ∧ R talk a := by
  induction p generalizing R with
  | done a => exact ⟨[], .nil, h⟩
  | ask c k ih =>
    refine (once c).bind fun part reply answers => (ih reply (h reply)).mono ?_
    rintro said a ⟨talk, threads, promised⟩
    exact ⟨_, .cons answers threads, promised⟩

end Program

/-- A service that may have no end. -/
theorem Service.permits_bind {s : Service I α} {k : α → Service I β}
    {Q : List (Exchange I) → Result α → Prop} {R : List (Exchange I) → Result β → Prop}
    (first : s.run.Permits Q) (failed : ∀ said e, Q said (.error e) → R said (.error e))
    (rest : ∀ said a, Q said (.ok a) → (k a).run.Permits fun more r => R (said ++ more) r) :
    (s >>= k).run.Permits R := by
  rw [ExceptT.run_bind]
  refine Program.Permits.bind first fun said r h => ?_
  rcases r with e | a
  · show R (said ++ []) (.error e)
    rw [List.append_nil]
    exact failed said e h
  · exact rest said a h

namespace Program

/-! ### Played programs -/

variable {view : Exchange I → Option δ} {ε σ : Type}

/-- What is said while a program is played, up to a breakdown. -/
def transcript (answer : σ → (c : I.Call) → Except ε (I.Reply c) × σ) :
    Program I α → σ → List (Exchange I)
  | .done _, _ => []
  | .ask c k, w =>
    match answer w c with
    | (.ok reply, w) => ⟨c, reply⟩ :: (k reply).transcript answer w
    | (.error _, _) => []

section Play

variable {answer : σ → (c : I.Call) → Except ε (I.Reply c) × σ} {p : Program I α} {a : α} {w w' : σ}

/-- A program that is played to its end gives what it promises. -/
theorem Ensures.play {Q : List δ → α → Prop} (h : p.Ensures view Q)
    (played : p.play answer w = (.ok a, w')) : Q ((p.transcript answer w).filterMap view) a := by
  induction p generalizing w Q with
  | done b =>
    cases played
    exact h
  | ask c k ih =>
    rw [play_ask] at played
    rw [transcript]
    cases answered : answer w c with
    | mk reply w₁ =>
      rw [answered] at played
      cases reply with
      | error b => cases played
      | ok reply =>
        have rest := ih reply (h.2 reply) played
        rw [List.filterMap_cons]
        cases shown : view ⟨c, reply⟩ <;> simpa [shown] using rest

/-- A program that is played to its end talks as it is permitted to. -/
theorem Permits.play {Q : List (Exchange I) → α → Prop} (h : p.Permits Q)
    (played : p.play answer w = (.ok a, w')) : Q (p.transcript answer w) a := by
  induction p generalizing w Q with
  | done b =>
    cases played
    exact h
  | ask c k ih =>
    rw [play_ask] at played
    rw [transcript]
    cases answered : answer w c with
    | mk reply w₁ =>
      rw [answered] at played
      cases reply with
      | error b => cases played
      | ok reply => exact ih reply (h reply) played

/-- What is true before anything is said and comes about by one exchange before others, is true of
all that is said while a program is played. Only exchanges of calls that the program makes matter. -/
theorem Only.play_follows {P : I.Call → Prop} (only : p.Only P) (view : Exchange I → Option δ)
    {T : σ → List δ → σ → Prop} (silence : ∀ w, T w [] w)
    (step : ∀ {w c reply w₁ said w'}, P c → answer w c = (.ok reply, w₁) → T w₁ said w' →
      T w ((view ⟨c, reply⟩).toList ++ said) w')
    (played : p.play answer w = (.ok a, w')) :
    T w ((p.transcript answer w).filterMap view) w' := by
  induction p generalizing w with
  | done b =>
    cases played
    exact silence _
  | ask c k ih =>
    rw [play_ask] at played
    rw [transcript]
    cases answered : answer w c with
    | mk reply w₁ =>
      rw [answered] at played
      cases reply with
      | error b => cases played
      | ok reply =>
        have rest := step only.1 answered (ih reply (only.2 reply) played)
        rw [List.filterMap_cons]
        cases shown : view ⟨c, reply⟩ <;> simpa [shown] using rest

theorem play_follows (view : Exchange I → Option δ) {T : σ → List δ → σ → Prop} (silence : ∀ w, T w [] w)
    (step : ∀ {w c reply w₁ said w'}, answer w c = (.ok reply, w₁) → T w₁ said w' →
      T w ((view ⟨c, reply⟩).toList ++ said) w')
    (played : p.play answer w = (.ok a, w')) :
    T w ((p.transcript answer w).filterMap view) w' :=
  (Only.any p).play_follows view silence (fun _ => step) played

/-- A program is played to its end if every call that it makes and that has a reply gets one. -/
theorem Ensures.plays {Q : List δ → α → Prop} (h : p.Ensures view Q) {P : I.Call → Prop}
    (only : p.Only P) {R : σ → Prop}
    (step : ∀ w c, P c → Nonempty (I.Reply c) → R w → ∃ reply w', answer w c = (.ok reply, w') ∧ R w')
    (start : R w) : ∃ a w', p.play answer w = (.ok a, w') := by
  induction p generalizing w Q with
  | done a => exact ⟨a, w, rfl⟩
  | ask c k ih =>
    obtain ⟨reply, w', answered, kept⟩ := step w c only.1 h.1 start
    obtain ⟨a, w'', played⟩ := ih reply (h.2 reply) (only.2 reply) kept
    exact ⟨a, w'', (play_ask_of_ok answered).trans played⟩

end Play

end Program

end BoxOffice
