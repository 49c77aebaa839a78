import BoxOffice.Proofs.Ledger.Effect

/-!
# Runs of the ledger

A ledger is worked on by calls and by further categories, in any order and with any arguments. A
further category leaves those that are there alone (`addSeated_cases`, `addStanding_cases`), so a run
moves each section by its own steps: what every call keeps of a section, every run keeps
(`run_keeps`), and what further categories bring with them and every call keeps, all sections of a
reachable ledger have (`Reachable.sections`).
-/

namespace BoxOffice.MemoryLedger

/-- Something done to a ledger. -/
inductive Act
  | call (c : Ledger.Call)
  | addSeated (category : Category) (labels : List String)
  | addStanding (category : Category)

/-- The ledger after something was done to it. -/
def act (l : MemoryLedger) : Act → MemoryLedger
  | .call c => (l.answer c).2
  | .addSeated category labels => (l.addSeated category labels).2
  | .addStanding category => (l.addStanding category).2

/-- The ledger after some things were done to it, one after the other. -/
def run (l : MemoryLedger) (acts : List Act) : MemoryLedger :=
  acts.foldl act l

/-- A ledger that an empty one may become. -/
def Reachable (l : MemoryLedger) : Prop :=
  ∃ acts, l = empty.run acts

@[simp] theorem run_nil (l : MemoryLedger) : l.run [] = l := rfl

@[simp] theorem run_cons (l : MemoryLedger) (a : Act) (acts : List Act) :
    l.run (a :: acts) = (l.act a).run acts := rfl

theorem run_append (l : MemoryLedger) (acts more : List Act) :
    l.run (acts ++ more) = (l.run acts).run more :=
  List.foldl_append

theorem Reachable.run {l : MemoryLedger} (h : l.Reachable) (acts : List Act) :
    (l.run acts).Reachable := by
  obtain ⟨first, rfl⟩ := h
  exact ⟨first ++ acts, (run_append _ _ _).symm⟩

theorem Reachable.after {l : MemoryLedger} (h : l.Reachable) (c : Ledger.Call) :
    (l.after c).Reachable := by
  rw [← answer_eq]
  exact h.run [.call c]

/-! ### Further categories -/

/-- A category of seats as it is when it comes. -/
def openSeated (category : Category) (seats : Registry String Seat) : Section where
  category :=
    { category with
      total := UInt32.ofNat seats.size
      available := UInt32.ofNat seats.size }
  seats
  pool := { available := 0, holds := ∅ }

/-- A category with a pool as it is when it comes. -/
def openStanding (category : Category) : Section where
  category
  seats := ∅
  pool := { available := category.available, holds := ∅ }

theorem addSection_cases (l : MemoryLedger) (s : Section) :
    (∃ e, l.addSection s = (.error e, l)) ∨
    (l.sections.get? s.category.id = none ∧
      l.addSection s = (.ok (), { l with sections := l.sections.set s.category.id s })) := by
  unfold addSection
  split
  · exact .inl ⟨_, rfl⟩
  · next h =>
    rw [Registry.contains_eq_isSome, Bool.not_eq_true, Option.isSome_eq_false_iff,
      Option.isNone_iff_eq_none] at h
    exact .inr ⟨h, rfl⟩

/-- A category of seats is refused, or it is new and comes with its seats. -/
theorem addSeated_cases (l : MemoryLedger) (category : Category) (labels : List String) :
    (∃ e next, l.addSeated category labels = (.error e, { l with nextSeat := next })) ∨
    (∃ seats next, category.layout = .seated ∧ category.tracking = .fixed ∧
      layOut category.id labels ∅ l.nextSeat = (.ok seats, next) ∧ seats.size < UInt32.size ∧
      l.sections.get? category.id = none ∧
      l.addSeated category labels = (.ok seats.values,
        { sections := l.sections.set category.id (openSeated category seats), nextSeat := next })) := by
  unfold addSeated
  split
  · exact .inl ⟨_, l.nextSeat, rfl⟩
  next kinds =>
  rw [not_or, Decidable.not_not, Decidable.not_not] at kinds
  cases laid : layOut category.id labels ∅ l.nextSeat with
  | mk seats next =>
    cases seats with
    | error e => exact .inl ⟨e, next, rfl⟩
    -- the seats' identifiers are used up also if the category is refused further on
    | ok seats =>
      dsimp only
      split
      · exact .inl ⟨_, next, rfl⟩
      next few =>
      rw [Nat.not_le] at few
      rcases addSection_cases { l with nextSeat := next } (openSeated category seats) with
        ⟨e, he⟩ | ⟨new, he⟩
      · refine .inl ⟨e, next, ?_⟩
        rw [openSeated] at he
        rw [he]
      · refine .inr ⟨seats, next, kinds.1, kinds.2, rfl, few, new, ?_⟩
        rw [openSeated] at he
        rw [he]
        rfl

/-- A category with a pool is refused, or it is new and comes with a pool that is not overfull. -/
theorem addStanding_cases (l : MemoryLedger) (category : Category) :
    (∃ e, l.addStanding category = (.error e, l)) ∨
    (category.layout = .standing ∧ category.tracking = .flexible ∧
      category.available ≤ category.total ∧ l.sections.get? category.id = none ∧
      l.addStanding category = (.ok (),
        { l with sections := l.sections.set category.id (openStanding category) })) := by
  unfold addStanding
  split
  · exact .inl ⟨_, rfl⟩
  next kinds =>
  rw [not_or, Decidable.not_not, Decidable.not_not] at kinds
  split
  · exact .inl ⟨_, rfl⟩
  next fits =>
  rcases addSection_cases l (openStanding category) with ⟨e, he⟩ | ⟨new, he⟩
  · exact .inl ⟨e, he⟩
  · exact .inr ⟨kinds.1, kinds.2, UInt32.not_lt.1 fits, new, he⟩

/-! ### What runs keep -/

/-- What is done to the section with an identifier. -/
def sectionAfter (id : CategoryId) (s : Section) : Act → Section
  | .call c => s.after id c
  | .addSeated _ _ | .addStanding _ => s

/-- A section that is there stays, and only calls move it. -/
theorem get?_act {l : MemoryLedger} {id : CategoryId} {s : Section}
    (h : l.sections.get? id = some s) (a : Act) :
    (l.act a).sections.get? id = some (sectionAfter id s a) := by
  cases a with
  | call c => simp [act, answer_eq, get?_after, h, sectionAfter]
  | addSeated category labels =>
    rcases addSeated_cases l category labels with ⟨e, next, he⟩ | ⟨_, _, _, _, _, _, new, he⟩
    · simp [act, he, h, sectionAfter]
    · have : id ≠ category.id := by
        rintro rfl
        simp [h] at new
      simp [act, he, Registry.get?_set, this, h, sectionAfter]
  | addStanding category =>
    rcases addStanding_cases l category with ⟨e, he⟩ | ⟨_, _, _, new, he⟩
    · simp [act, he, h, sectionAfter]
    · have : id ≠ category.id := by
        rintro rfl
        simp [h] at new
      simp [act, he, Registry.get?_set, this, h, sectionAfter]

/-- A section that was not there comes as a category comes. -/
theorem get?_act_of_none {l : MemoryLedger} {id : CategoryId} (h : l.sections.get? id = none)
    {a : Act} {s : Section} (there : (l.act a).sections.get? id = some s) :
    (∃ category labels seats next, category.id = id ∧ category.layout = .seated ∧
      category.tracking = .fixed ∧ layOut category.id labels ∅ l.nextSeat = (.ok seats, next) ∧
      seats.size < UInt32.size ∧ s = openSeated category seats) ∨
    (∃ category, category.id = id ∧ category.layout = .standing ∧ category.tracking = .flexible ∧
      category.available ≤ category.total ∧ s = openStanding category) := by
  cases a with
  | call c => simp [act, answer_eq, get?_after, h] at there
  | addSeated category labels =>
    rcases addSeated_cases l category labels with
      ⟨e, next, he⟩ | ⟨seats, next, seated, fixed, laid, few, -, he⟩
    · simp [act, he, h] at there
    · simp only [act, he, Registry.get?_set, h] at there
      split at there
      · next hid =>
        exact .inl ⟨category, labels, seats, next, hid.symm, seated, fixed, laid, few,
          (Option.some.inj there).symm⟩
      · cases there
  | addStanding category =>
    rcases addStanding_cases l category with ⟨e, he⟩ | ⟨standing, flexible, fits, -, he⟩
    · simp [act, he, h] at there
    · simp only [act, he, Registry.get?_set, h] at there
      split at there
      · next hid =>
        exact .inr ⟨category, hid.symm, standing, flexible, fits, (Option.some.inj there).symm⟩
      · cases there

/-- What every call keeps of a section, every run keeps. -/
theorem run_keeps {P : Section → Prop} {id : CategoryId}
    (step : ∀ s c, P s → P (s.after id c)) {l : MemoryLedger} {s : Section}
    (there : l.sections.get? id = some s) (start : P s) (acts : List Act) :
    ∃ s, (l.run acts).sections.get? id = some s ∧ P s := by
  induction acts generalizing l s with
  | nil => exact ⟨s, there, start⟩
  | cons a acts ih =>
    refine ih (get?_act there a) ?_
    cases a with
    | call c => exact step s c start
    | addSeated | addStanding => exact start

/-- What categories bring with them and every call keeps, each section of a reachable ledger has. -/
theorem Reachable.sections {P : CategoryId → Section → Prop}
    (seated : ∀ category labels first seats next, category.layout = .seated →
      category.tracking = .fixed → layOut category.id labels ∅ first = (.ok seats, next) →
      seats.size < UInt32.size → P category.id (openSeated category seats))
    (standing : ∀ category, category.layout = .standing → category.tracking = .flexible →
      category.available ≤ category.total → P category.id (openStanding category))
    (step : ∀ id s c, P id s → P id (s.after id c)) {l : MemoryLedger} (reach : l.Reachable)
    {id : CategoryId} {s : Section} (h : l.sections.get? id = some s) : P id s := by
  suffices ∀ acts (l : MemoryLedger), (∀ id s, l.sections.get? id = some s → P id s) →
      ∀ id s, (l.run acts).sections.get? id = some s → P id s by
    obtain ⟨acts, rfl⟩ := reach
    exact this acts empty (fun id s hs => by simp [empty] at hs) id s h
  -- by induction on what is done, from any ledger whose sections have the property
  intro acts
  induction acts with
  | nil => exact fun l hl => hl
  | cons a acts ih =>
    refine fun l hl => ih (l.act a) fun id s hs => ?_
    cases there : l.sections.get? id with
    | some before =>
      obtain rfl : sectionAfter id before a = s := by simpa [get?_act there a] using hs
      cases a with
      | call c => exact step id before c (hl id before there)
      | addSeated | addStanding => exact hl id before there
    | none =>
      rcases get?_act_of_none there hs with
        ⟨category, labels, seats, next, rfl, lay, track, laid, few, rfl⟩ |
        ⟨category, rfl, lay, track, fits, rfl⟩
      · exact seated category labels _ seats next lay track laid few
      · exact standing category lay track fits

end BoxOffice.MemoryLedger
