/-!
# Programs

A program makes calls and goes on with what it is answered, until it is done. It does not know who
answers: an interface lists the calls and the type of each reply, and any answering machine, also an
adversary's, can be put behind it. `run` puts a monad's answers behind a program; `run_bind` says
that programs run one after the other as they are written.
-/

namespace BoxOffice

/-- Calls, and the type of the reply to each. -/
structure Interface where
  Call : Type
  Reply : Call → Type

/-- The calls of two interfaces. -/
def Interface.sum (I J : Interface) : Interface where
  Call := I.Call ⊕ J.Call
  Reply
    | .inl c => I.Reply c
    | .inr c => J.Reply c

/-- A computation that makes calls to an interface. -/
inductive Program (I : Interface) (α : Type) : Type
  | done (value : α)
  | ask (call : I.Call) (next : I.Reply call → Program I α)

namespace Program

variable {I : Interface} {α β γ : Type}

/-- Goes on with another program where the first is done. -/
def bind : Program I α → (α → Program I β) → Program I β
  | done a, next => next a
  | ask call k, next => ask call fun reply => (k reply).bind next

instance : Monad (Program I) where
  pure := done
  bind := bind

@[simp] theorem pure_eq (a : α) : (pure a : Program I α) = done a := rfl

@[simp] theorem bind_eq (p : Program I α) (next : α → Program I β) : p >>= next = p.bind next := rfl

@[simp] theorem bind_done (p : Program I α) : p.bind done = p := by
  induction p with
  | done a => rfl
  | ask call k ih => simp only [bind]; exact congrArg _ (funext ih)

theorem bind_bind (p : Program I α) (f : α → Program I β) (g : β → Program I γ) :
    (p.bind f).bind g = p.bind fun a => (f a).bind g := by
  induction p with
  | done a => rfl
  | ask call k ih => simp only [bind]; exact congrArg _ (funext ih)

instance : LawfulMonad (Program I) :=
  LawfulMonad.mk' (Program I)
    (fun p => bind_done p)
    (fun _ _ => rfl)
    (fun p f g => bind_bind p f g)

/-- One call. -/
def call (c : I.Call) : Program I (I.Reply c) :=
  ask c done

/-- Puts answers behind a program. -/
def run {m : Type → Type} [Monad m] (answer : (c : I.Call) → m (I.Reply c)) :
    Program I α → m α
  | done a => pure a
  | ask c k => answer c >>= fun reply => (k reply).run answer

theorem run_bind {m : Type → Type} [Monad m] [LawfulMonad m]
    (answer : (c : I.Call) → m (I.Reply c)) (p : Program I α) (next : α → Program I β) :
    (p.bind next).run answer = p.run answer >>= fun a => (next a).run answer := by
  induction p with
  | done a => simp [bind, run]
  | ask call k ih => simp [bind, run, ih]

end Program

/-- The calls of `J` can be made through `I`. -/
class Offers (I J : Interface) where
  call (c : J.Call) : Program I (J.Reply c)

instance Offers.left {I J : Interface} : Offers (I.sum J) I where
  call c := .ask (.inl c) .done

instance Offers.right {I J K : Interface} [Offers J K] : Offers (I.sum J) K where
  call c := (Offers.call (I := J) c).run fun d => Program.call (I := I.sum J) (.inr d)

instance Offers.self {I : Interface} : Offers I I where
  call := Program.call

end BoxOffice
