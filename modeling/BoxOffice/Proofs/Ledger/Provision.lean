import BoxOffice.Proofs.Ledger.Sound

/-!
# Further categories

A category is provided with seats for some labels or, without any, with a pool. A ledger takes it
exactly if it is acceptable (`provision_of_acceptable`, `provision_of_not_acceptable`): it is in order,
its identifier is new, no label is repeated, and its pool is not overfull. Everything else is refused as
an invalid argument.
-/

namespace BoxOffice

namespace Category

/-- A category as it stands when it comes with seats for labels. -/
def opened (c : Category) (labels : List String) : Category :=
  match c.layout with
  | .seated => { c with total := .ofNat labels.length, available := .ofNat labels.length }
  | .standing => c

/-- A category and its labels go together. -/
def InOrder (c : Category) (labels : List String) : Prop :=
  c.layout = .seated ∧ c.tracking = .fixed ∧ (∀ label ∈ labels, ¬ Text.isBlank label) ∨
    c.layout = .standing ∧ c.tracking = .flexible ∧ labels = []

@[simp] theorem opened_id (c : Category) (labels : List String) : (c.opened labels).id = c.id := by
  unfold opened
  split <;> rfl

@[simp] theorem opened_layout (c : Category) (labels : List String) :
    (c.opened labels).layout = c.layout := by
  unfold opened
  split <;> rfl

@[simp] theorem opened_tracking (c : Category) (labels : List String) :
    (c.opened labels).tracking = c.tracking := by
  unfold opened
  split <;> rfl

@[simp] theorem opened_price (c : Category) (labels : List String) :
    (c.opened labels).price = c.price := by
  unfold opened
  split <;> rfl

theorem opened_of_seated {c : Category} (seated : c.layout = .seated) (labels : List String) :
    c.opened labels = { c with total := .ofNat labels.length, available := .ofNat labels.length } := by
  rw [opened, seated]

theorem opened_of_standing {c : Category} (standing : c.layout = .standing) (labels : List String) :
    c.opened labels = c := by
  rw [opened, standing]

end Category

namespace MemoryLedger

/-- Adds a category with a pool if it is standing and has no labels, or else one with seats. -/
def provision (l : MemoryLedger) (c : Category) (labels : List String) : Result Unit × MemoryLedger :=
  match c.layout, labels with
  | .standing, [] => l.addStanding c
  | _, _ =>
    let (seats, l) := l.addSeated c labels
    (seats.map fun _ => (), l)

/-- A category that a ledger takes with seats for labels. -/
structure Acceptable (l : MemoryLedger) (c : Category) (labels : List String) : Prop where
  inOrder : c.InOrder labels
  new : l.sections.get? c.id = none
  distinct : labels.Nodup
  within : (c.opened labels).available ≤ (c.opened labels).total

/-! ### Laying out seats -/

/-- The labels are fit for seats that are laid out after others. -/
structure Free (seats : Registry String Seat) (labels : List String) : Prop where
  named : ∀ label ∈ labels, ¬ Text.isBlank label
  distinct : labels.Nodup
  new : ∀ label ∈ labels, seats.get? label = none

theorem free_nil (seats : Registry String Seat) : Free seats [] :=
  ⟨by simp, List.nodup_nil, by simp⟩

theorem free_cons {seats : Registry String Seat} {label : String} {labels : List String} (seat : Seat) :
    Free seats (label :: labels) ↔
      ¬ Text.isBlank label ∧ seats.get? label = none ∧ Free (seats.set label seat) labels := by
  constructor
  · intro free
    obtain ⟨fresh, distinct⟩ := List.nodup_cons.1 free.distinct
    refine ⟨free.named label (by simp), free.new label (by simp),
      fun other mem => free.named other (by simp [mem]), distinct, fun other mem => ?_⟩
    have differ : other ≠ label := fun same => fresh (same ▸ mem)
    rw [Registry.get?_set, if_neg differ]
    exact free.new other (by simp [mem])
  · rintro ⟨named, new, free⟩
    have later (other : String) (mem : other ∈ labels) : other ≠ label ∧ seats.get? other = none := by
      have after := free.new other mem
      rw [Registry.get?_set] at after
      split at after
      · cases after
      · next differ => exact ⟨differ, after⟩
    refine ⟨fun other mem => ?_, List.nodup_cons.2 ⟨fun mem => (later label mem).1 rfl, free.distinct⟩,
      fun other mem => ?_⟩
    · rcases List.mem_cons.1 mem with rfl | mem
      · exact named
      · exact free.named other mem
    · rcases List.mem_cons.1 mem with rfl | mem
      · exact new
      · exact (later other mem).2

variable {category : CategoryId} {labels : List String} {seats : Registry String Seat}

/-- Seats are laid out in the order of their labels. -/
theorem layOut_of_free (category : CategoryId) (first : SeatId) (free : Free seats labels) :
    ∃ laid next, layOut category labels seats first = (.ok laid, next) ∧
      laid.values.map Seat.unnumbered =
        seats.values.map Seat.unnumbered ++ labels.map (Seat.fresh ⟨0⟩ category) := by
  induction labels generalizing seats first with
  | nil => exact ⟨seats, first, rfl, by simp⟩
  | cons label labels ih =>
    obtain ⟨named, new, free⟩ := (free_cons (Seat.fresh first category label)).1 free
    obtain ⟨laid, next, laid_out, values⟩ := ih ⟨first.value + 1⟩ free
    refine ⟨laid, next, ?_, ?_⟩
    · rw [layOut, if_neg named, if_neg (by simp [Registry.contains_eq_isSome, new]), laid_out]
    · rw [values, Registry.values_set_of_none new, List.map_append, List.append_assoc]
      rfl

/-- As many seats are laid out as there are labels. -/
theorem size_of_laid {laid : Registry String Seat}
    (values : laid.values.map Seat.unnumbered = labels.map (Seat.fresh ⟨0⟩ category)) :
    laid.size = labels.length := by
  have length := congrArg List.length values
  rwa [List.length_map, List.length_map, Registry.values, List.length_map] at length

/-- Labels that are not fit for seats are an invalid argument. -/
theorem layOut_of_not_free (category : CategoryId) (first : SeatId) (taken : ¬ Free seats labels) :
    ∃ e next, layOut category labels seats first = (.error e, next) ∧ e.kind = .invalidArgument := by
  induction labels generalizing seats first with
  | nil => exact absurd (free_nil seats) taken
  | cons label labels ih =>
    rw [free_cons (Seat.fresh first category label)] at taken
    rw [layOut]
    split
    · exact ⟨_, _, rfl, rfl⟩
    next named =>
    split
    · exact ⟨_, _, rfl, rfl⟩
    next new =>
    rw [Registry.contains_eq_isSome, Bool.not_eq_true, Option.isSome_eq_false_iff,
      Option.isNone_iff_eq_none] at new
    exact ih _ fun free => taken ⟨named, new, free⟩

/-! ### Providing a category -/

variable {l : MemoryLedger} {c : Category}

theorem addSection_of_new {s : Section} (new : l.sections.get? s.category.id = none) :
    l.addSection s = (.ok (), { l with sections := l.sections.set s.category.id s }) := by
  rw [addSection, if_neg (by simp [Registry.contains_eq_isSome, new])]

theorem addSection_of_known {s : Section} (known : l.sections.get? s.category.id ≠ none) :
    ∃ e, l.addSection s = (.error e, l) ∧ e.kind = .invalidArgument := by
  rw [addSection, if_pos (by simpa [Registry.contains_eq_isSome, Option.isSome_iff_ne_none] using known)]
  exact ⟨_, rfl, rfl⟩

/-- What is acceptable comes into the ledger as a category with fresh seats and without holds. -/
theorem provision_of_acceptable (few : c.layout = .seated → labels.length < UInt32.size)
    (ok : l.Acceptable c labels) :
    ∃ s next, l.provision c labels =
        (.ok (), { sections := l.sections.set c.id s, nextSeat := next }) ∧
      s.category = c.opened labels ∧ s.current = c.opened labels ∧
      s.seats.values.map Seat.unnumbered = labels.map (Seat.fresh ⟨0⟩ c.id) ∧
      s.pool.holds = ∅ := by
  rcases ok.inOrder with ⟨seated, fixed, named⟩ | ⟨standing, flexible, rfl⟩
  · have few := few seated
    obtain ⟨laid, next, laid_out, values⟩ := layOut_of_free c.id l.nextSeat
      (⟨named, ok.distinct, fun _ _ => rfl⟩ : Free ∅ labels)
    rw [Registry.values_empty, List.map_nil, List.nil_append] at values
    have size : laid.size = labels.length := size_of_laid values
    refine ⟨openSeated c laid, next, ?_, ?_, ?_, values, rfl⟩
    · have added : l.addSeated c labels = (.ok laid.values,
          { sections := l.sections.set c.id (openSeated c laid), nextSeat := next }) := by
        rw [addSeated, if_neg (by simp [seated, fixed]), laid_out]
        dsimp only
        rw [if_neg (by omega), addSection_of_new ok.new]
        rfl
      simp only [provision, seated, added]
      rfl
    · rw [Category.opened_of_seated seated, openSeated, size]
    · rw [Section.current_of_fixed fixed, Category.opened_of_seated seated, openSeated, size]
  · have within := ok.within
    rw [Category.opened_of_standing standing] at within ⊢
    refine ⟨openStanding c, l.nextSeat, ?_, rfl, ?_, rfl, rfl⟩
    · simp only [provision, standing]
      rw [addStanding, if_neg (by simp [standing, flexible]), if_neg (UInt32.not_lt.2 within)]
      exact addSection_of_new ok.new
    · rw [Section.current_of_flexible flexible]
      rfl

theorem addSeated_refused (few : c.layout = .seated → labels.length < UInt32.size)
    (bad : ¬ l.Acceptable c labels) :
    ∃ e next, l.addSeated c labels = (.error e, { l with nextSeat := next }) ∧
      e.kind = .invalidArgument := by
  unfold addSeated
  split
  · exact ⟨_, l.nextSeat, rfl, rfl⟩
  next kinds =>
  rw [not_or, Decidable.not_not, Decidable.not_not] at kinds
  obtain ⟨seated, fixed⟩ := kinds
  have few := few seated
  by_cases free : Free ∅ labels
  · obtain ⟨laid, next, laid_out, values⟩ := layOut_of_free c.id l.nextSeat free
    have size : laid.size = labels.length := size_of_laid values
    have known : l.sections.get? c.id ≠ none := fun new => bad
      ⟨.inl ⟨seated, fixed, free.named⟩, new, free.distinct, by simp [Category.opened_of_seated seated]⟩
    obtain ⟨e, refused, kind⟩ := addSection_of_known (l := { l with nextSeat := next })
      (s := openSeated c laid) known
    refine ⟨e, next, ?_, kind⟩
    rw [laid_out]
    dsimp only
    rw [openSeated] at refused
    rw [if_neg (by omega), refused]
  · obtain ⟨e, next, refused, kind⟩ := layOut_of_not_free c.id l.nextSeat free
    exact ⟨e, next, by rw [refused], kind⟩

theorem addStanding_refused (bad : ¬ l.Acceptable c []) :
    ∃ e, l.addStanding c = (.error e, l) ∧ e.kind = .invalidArgument := by
  unfold addStanding
  split
  · exact ⟨_, rfl, rfl⟩
  next kinds =>
  rw [not_or, Decidable.not_not, Decidable.not_not] at kinds
  obtain ⟨standing, flexible⟩ := kinds
  split
  · exact ⟨_, rfl, rfl⟩
  next within =>
  refine addSection_of_known (s := openStanding c) fun new => bad
    ⟨.inr ⟨standing, flexible, rfl⟩, new, List.nodup_nil, ?_⟩
  rw [Category.opened_of_standing standing]
  exact UInt32.not_lt.1 within

/-- What is not acceptable is an invalid argument, and the ledger stays as it is but for the numbers of
the seats to come. -/
theorem provision_of_not_acceptable (few : c.layout = .seated → labels.length < UInt32.size)
    (bad : ¬ l.Acceptable c labels) :
    ∃ e next, l.provision c labels = (.error e, { l with nextSeat := next }) ∧
      e.kind = .invalidArgument := by
  unfold provision
  split
  · obtain ⟨e, refused, kind⟩ := addStanding_refused bad
    exact ⟨e, l.nextSeat, refused, kind⟩
  · obtain ⟨e, next, refused, kind⟩ := addSeated_refused few bad
    exact ⟨e, next, by rw [refused]; rfl, kind⟩

/-- A ledger stays reachable when a category is provided. -/
theorem Reachable.provision (reach : l.Reachable) (c : Category) (labels : List String) :
    (l.provision c labels).2.Reachable := by
  unfold MemoryLedger.provision
  split
  · exact reach.run [.addStanding c]
  · exact reach.run [.addSeated _ _]

end MemoryLedger

end BoxOffice
