import BoxOffice.Proofs.House.Basic

/-!
# Errands side by side

The front desk works at many errands at a time, and their calls are made in any order, while the
reclaimer sweeps, the clock is set, and the store fails as it likes. `move_cases` says what a single
move may do to the ledger and the store. Whatever the moves, the ledger is one that calls lead to and
what is left of the errands changes bookings only from pending (`Orderly.run`).
-/

namespace BoxOffice

namespace House

/-- Answers a call of the front desk, but a call of the store fails, without effect, if there is a
fault. -/
def answerUnless (fault : Option String) (fresh : BookingId) (w : House) :
    (c : DeskWorld.Call) → Except Halt (DeskWorld.Reply c) × House
  | .inl c => w.answer fresh (.inl c)
  | .inr (.inl c) =>
    match fault with
    | some message => (.ok (.error ⟨.internal, message⟩), w)
    | none => w.answer fresh (.inr (.inl c))
  | .inr (.inr c) => w.answer fresh (.inr (.inr c))

end House

/-- A house with the errands that are under way in it. -/
structure Floor where
  house : House
  /-- What is left of each errand. -/
  errands : List (Program DeskWorld (Result Booking))

/-- Something that happens next. -/
inductive Move
  /-- Somebody comes with an errand. -/
  | enter (e : Desk.Errand)
  /-- An errand makes its next call. A booking that the call stores gets the identifier `fresh`; if
  it is a call of the store it fails where there is a fault. -/
  | proceed (place : Nat) (fresh : BookingId) (fault : Option String)
  | sweep
  | clock (time : Instant)

namespace Floor

/-- The floor before anybody came. -/
def opening (policy : RetryPolicy) (inventory : Inventory) : Floor where
  house := { policy, inventory, store := .empty }
  errands := []

/-- The floor after a move. -/
def move (f : Floor) : Move → Floor
  | .enter e => { f with errands := f.errands ++ [e.program f.house.policy] }
  | .proceed place fresh fault =>
    match f.errands[place]? with
    | some (.ask c next) =>
      match f.house.answerUnless fault fresh c with
      | (.ok reply, house) => { house, errands := f.errands.set place (next reply) }
      | (.error _, house) => { house, errands := f.errands.eraseIdx place }
    | _ => f
  | .sweep => { f with house.inventory := f.house.inventory.sweep.2 }
  | .clock time => { f with house.inventory := f.house.inventory.atTime time }

/-- The floor after some moves. -/
def run (f : Floor) (moves : List Move) : Floor :=
  moves.foldl move f

/-- The errand at a place is about to make a call. -/
def Asks (f : Floor) (place : Nat) (c : DeskWorld.Call) : Prop :=
  ∃ next, f.errands[place]? = some (.ask c next)

variable {f : Floor} {place : Nat} {c : DeskWorld.Call}

/-- The house after an errand made a call. -/
theorem house_proceed (asks : f.Asks place c) (fresh : BookingId) (fault : Option String) :
    (f.move (.proceed place fresh fault)).house = (f.house.answerUnless fault fresh c).2 := by
  obtain ⟨next, errand⟩ := asks
  simp only [move, errand]
  rcases f.house.answerUnless fault fresh c with ⟨_ | _, _⟩ <;> rfl

/-- **What a move may do**: nothing to the ledger and the store, or one sweep, or one call of an
errand to the inventory, or one that does not fail to the store. -/
theorem move_cases (f : Floor) (m : Move) :
    ((f.move m).house.inventory.ledger = f.house.inventory.ledger ∧
      (f.move m).house.store = f.house.store) ∨
    ((f.move m).house.inventory.ledger = f.house.inventory.ledger.after (.reclaim f.house.now) ∧
      (f.move m).house.store = f.house.store) ∨
    (∃ place fresh fault call, m = .proceed place fresh fault ∧ f.Asks place (.inl call) ∧
      (f.move m).house.inventory = (f.house.inventory.serve call).2 ∧
      (f.move m).house.store = f.house.store) ∨
    (∃ place fresh call, m = .proceed place fresh none ∧ f.Asks place (.inr (.inl call)) ∧
      (∀ draft, call = .create draft → f.house.store.Lacks fresh) ∧
      (f.move m).house.inventory = f.house.inventory ∧
      (f.move m).house.store = (f.house.store.answer fresh f.house.now call).2) := by
  cases m with
  | enter e => exact .inl ⟨rfl, rfl⟩
  | clock time => exact .inl ⟨rfl, rfl⟩
  | sweep =>
    obtain ⟨inventory, swept, after⟩ := f.house.inventory.sweep_ledger
    refine .inr (.inl ⟨?_, rfl⟩)
    simp only [move, swept]
    exact after
  | proceed place fresh fault =>
    cases errand : f.errands[place]? with
    | none =>
      have same : f.move (.proceed place fresh fault) = f := by simp only [move, errand]
      exact .inl ⟨by rw [same], by rw [same]⟩
    | some p =>
    cases p with
    | done answer =>
      have same : f.move (.proceed place fresh fault) = f := by simp only [move, errand]
      exact .inl ⟨by rw [same], by rw [same]⟩
    | ask c next =>
    have asks : f.Asks place c := ⟨next, errand⟩
    rw [house_proceed asks]
    rcases c with call | call | call
    · exact .inr (.inr (.inl ⟨place, fresh, fault, call, rfl, asks, rfl, rfl⟩))
    · cases fault with
      -- a call that fails leaves everything as it was
      | some message => exact .inl ⟨rfl, rfl⟩
      | none =>
        rcases f.house.answer_cases fresh (.inr (.inl call)) with
          same | ⟨_, absurd, -⟩ | ⟨_, called, lacks, inventory, store⟩
        · exact .inl same
        · cases absurd
        · cases called
          exact .inr (.inr (.inr ⟨place, fresh, call, rfl, asks, lacks, inventory, store⟩))
    · exact .inl ⟨rfl, rfl⟩

/-- What a move may do to the ledger. -/
theorem ledger_move_cases (f : Floor) (m : Move) :
    (f.move m).house.inventory.ledger = f.house.inventory.ledger ∨
    (f.move m).house.inventory.ledger = f.house.inventory.ledger.after (.reclaim f.house.now) ∨
    ∃ place fresh fault call, m = .proceed place fresh fault ∧ f.Asks place (.inl call) ∧
      (f.move m).house.inventory = (f.house.inventory.serve call).2 ∧
      (f.move m).house.store = f.house.store := by
  rcases f.move_cases m with ⟨same, -⟩ | ⟨swept, -⟩ | served | ⟨_, _, _, -, -, -, same, -⟩
  · exact .inl same
  · exact .inr (.inl swept)
  · exact .inr (.inr served)
  · exact .inl (congrArg Inventory.ledger same)

/-- What a move may do to the store. -/
theorem store_move_cases (f : Floor) (m : Move) :
    (f.move m).house.store = f.house.store ∨
    ∃ place fresh call, m = .proceed place fresh none ∧ f.Asks place (.inr (.inl call)) ∧
      (∀ draft, call = .create draft → f.house.store.Lacks fresh) ∧
      (f.move m).house.store = (f.house.store.answer fresh f.house.now call).2 := by
  rcases f.move_cases m with ⟨-, same⟩ | ⟨-, same⟩ | ⟨_, _, _, _, -, -, -, same⟩ |
    ⟨place, fresh, call, e, asks, lacks, -, store⟩
  · exact .inl same
  · exact .inl same
  · exact .inl same
  · exact .inr ⟨place, fresh, call, e, asks, lacks, store⟩

/-! ### Runs -/

/-- What errands keep to: the ledger is one that calls lead to, and no errand changes a booking that
is not pending. -/
structure Orderly (f : Floor) : Prop where
  reach : f.house.inventory.ledger.Reachable
  lawful : ∀ p ∈ f.errands, p.Only Desk.Lawful

theorem orderly_opening {inventory : Inventory} (reach : inventory.ledger.Reachable)
    (policy : RetryPolicy) : (opening policy inventory).Orderly where
  reach := reach
  lawful := by simp [opening]

/-- The next call of an errand is lawful. -/
theorem Orderly.call (h : f.Orderly) (asks : f.Asks place c) : Desk.Lawful c := by
  obtain ⟨next, errand⟩ := asks
  exact (h.lawful _ (List.mem_of_getElem? errand)).1

theorem Orderly.move (h : f.Orderly) (m : Move) : (f.move m).Orderly where
  reach := by
    rcases f.ledger_move_cases m with same | swept | ⟨_, _, _, call, -, -, served, -⟩
    · rw [same]
      exact h.reach
    · rw [swept]
      exact h.reach.after _
    · rw [served]
      exact Inventory.play_reachable _ h.reach
  lawful := by
    cases m with
    | enter e =>
      intro p m
      rcases List.mem_append.1 m with m | m
      · exact h.lawful p m
      · obtain rfl := List.mem_singleton.1 m
        exact e.only_lawful f.house.policy
    | sweep => exact h.lawful
    | clock time => exact h.lawful
    | proceed place fresh fault =>
      simp only [Floor.move]
      split
      · next c next errand =>
        have lawful := h.lawful _ (List.mem_of_getElem? errand)
        split
        · intro p m
          rcases List.mem_or_eq_of_mem_set m with m | rfl
          · exact h.lawful p m
          · exact lawful.2 _
        -- an errand that breaks down is dropped
        · exact fun p m => h.lawful p (List.mem_of_mem_eraseIdx m)
      · exact h.lawful

theorem Orderly.run (h : f.Orderly) (moves : List Move) : (f.run moves).Orderly := by
  induction moves generalizing f with
  | nil => exact h
  | cons m moves ih => exact ih (h.move m)

end Floor

end BoxOffice
