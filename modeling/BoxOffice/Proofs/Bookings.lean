import BoxOffice.Bookings.Memory
import BoxOffice.Proofs.Registry

/-!
# Changes of the booking store

A booking that the store has after a call was there before, or was just created, or was changed from
the status that the call expected (`booking_cases`). Bookings stand under their identifiers, and
each under its attempt (`Sound`), so an attempt has one booking. The index knows no attempts but those
of bookings (`Indexed`), and what it finds for an attempt stays when others are stored
(`findByAttempt?_create`).
-/

namespace BoxOffice.MemoryStore

/-- The store has nothing under an identifier. -/
def Lacks (s : MemoryStore) (id : BookingId) : Prop :=
  s.bookings.get? id = none

theorem lacks_iff {s : MemoryStore} {id : BookingId} :
    s.Lacks id ↔ ¬ s.bookings.contains id := by
  simp [Lacks, Registry.contains_eq_isSome]

/-- The bookings stand under their identifiers, and are found by their attempts. -/
def Sound (s : MemoryStore) : Prop :=
  ∀ id b, s.bookings.get? id = some b → b.id = id ∧ s.byAttempt.get? b.attempt = some id

theorem sound_empty : empty.Sound := by
  intro id b there
  simp [empty] at there

/-- A booking that stands as expected is changed, and no other. -/
theorem transition_eq {s : MemoryStore} {id : BookingId} {b : Booking} {expected : BookingStatus}
    (there : s.bookings.get? id = some b) (stands : b.status = expected) (now : Instant)
    (target : BookingStatus) :
    s.transition id now expected target = (.ok { b with status := target, updatedAt := now },
      { s with bookings :=
          s.bookings.modify id fun _ => { b with status := target, updatedAt := now } }) := by
  rw [transition, there]
  exact if_neg (not_not_intro stands)

theorem get?_transition {s : MemoryStore} {id : BookingId} {b : Booking}
    {expected : BookingStatus} (there : s.bookings.get? id = some b) (stands : b.status = expected)
    (now : Instant) (target : BookingStatus) (other : BookingId) :
    (s.transition id now expected target).2.bookings.get? other =
      if other = id then some { b with status := target, updatedAt := now }
      else s.bookings.get? other := by
  rw [transition_eq there stands]
  exact Registry.get?_modify_of_some there _ other

/-- A booking that is to be changed is missing, or stands elsewhere, or is changed. -/
theorem transition_cases (s : MemoryStore) (id : BookingId) (now : Instant)
    (expected target : BookingStatus) :
    (s.bookings.get? id = none ∧
      s.transition id now expected target = (refuse (.bookingMissing id), s)) ∨
    ∃ b, s.bookings.get? id = some b ∧
      (b.status ≠ expected ∧ s.transition id now expected target =
          (refuse (.bookingElsewhere id b.status expected), s) ∨
        b.status = expected ∧ s.transition id now expected target =
          (.ok { b with status := target, updatedAt := now },
            { s with bookings :=
                s.bookings.modify id fun _ => { b with status := target, updatedAt := now } })) := by
  cases there : s.bookings.get? id with
  | none =>
    refine .inl ⟨rfl, ?_⟩
    rw [transition, there]
  | some b =>
    refine .inr ⟨b, rfl, ?_⟩
    by_cases stands : b.status = expected
    · exact .inr ⟨stands, transition_eq there stands now target⟩
    · refine .inl ⟨stands, ?_⟩
      rw [transition, there]
      exact if_pos stands

/-- A booking that is to be stored is refused if its attempt has one already, and taken if not. -/
theorem create_cases (s : MemoryStore) (fresh : BookingId) (now : Instant) (draft : BookingDraft) :
    (s.byAttempt.contains draft.attempt ∧
      s.create fresh now draft = (refuse (.attemptExists draft.attempt), s)) ∨
    (s.byAttempt.get? draft.attempt = none ∧
      s.create fresh now draft = (.ok (Booking.ofDraft fresh draft now),
        { bookings := s.bookings.set fresh (Booking.ofDraft fresh draft now)
          byAttempt := s.byAttempt.set draft.attempt fresh })) := by
  by_cases taken : s.byAttempt.contains draft.attempt
  · exact .inl ⟨taken, if_pos taken⟩
  · exact .inr ⟨by simpa [Registry.contains_eq_isSome] using taken, if_neg taken⟩

/-- What a call may do to the store. -/
theorem answer_cases (s : MemoryStore) (fresh : BookingId) (now : Instant)
    (c : BookingStore.Call) :
    (s.answer fresh now c).2 = s ∨
    (∃ draft, c = .create draft ∧ s.byAttempt.get? draft.attempt = none ∧
      s.answer fresh now (.create draft) = (.ok (Booking.ofDraft fresh draft now),
        { bookings := s.bookings.set fresh (Booking.ofDraft fresh draft now)
          byAttempt := s.byAttempt.set draft.attempt fresh })) ∨
    (∃ id target b, c = .transition id b.status target ∧ s.bookings.get? id = some b ∧
      s.answer fresh now (.transition id b.status target) =
        (.ok { b with status := target, updatedAt := now },
          { s with bookings :=
              s.bookings.modify id fun _ => { b with status := target, updatedAt := now } })) := by
  cases c with
  | get | findByAttempt => exact .inl rfl
  | create draft =>
    rcases s.create_cases fresh now draft with ⟨-, e⟩ | ⟨new, e⟩
    · exact .inl (congrArg Prod.snd e)
    · exact .inr (.inl ⟨draft, rfl, new, e⟩)
  | transition id expected target =>
    rcases s.transition_cases id now expected target with
      ⟨-, e⟩ | ⟨b, there, ⟨-, e⟩ | ⟨rfl, e⟩⟩
    · exact .inl (congrArg Prod.snd e)
    · exact .inl (congrArg Prod.snd e)
    · exact .inr (.inr ⟨id, target, b, rfl, there, e⟩)

/-- **Where a booking comes from** that the store has after a call. -/
theorem booking_cases {s : MemoryStore} {fresh : BookingId} {now : Instant}
    {c : BookingStore.Call} {id : BookingId} {b : Booking}
    (there : (s.answer fresh now c).2.bookings.get? id = some b) :
    s.bookings.get? id = some b ∨
    (∃ draft, c = .create draft ∧ s.byAttempt.get? draft.attempt = none ∧ id = fresh ∧
      b = Booking.ofDraft fresh draft now) ∨
    (∃ target b₀, c = .transition id b₀.status target ∧ s.bookings.get? id = some b₀ ∧
      b = { b₀ with status := target, updatedAt := now }) := by
  rcases s.answer_cases fresh now c with
    same | ⟨draft, rfl, new, e⟩ | ⟨key, target, b₀, rfl, before, e⟩
  · rw [same] at there
    exact .inl there
  · rw [e] at there
    rw [Registry.get?_set] at there
    split at there
    · next here => exact .inr (.inl ⟨draft, rfl, new, here, (Option.some.inj there).symm⟩)
    · exact .inl there
  · rw [e] at there
    rw [Registry.get?_modify_of_some before] at there
    split at there
    · next here =>
      subst here
      exact .inr (.inr ⟨target, b₀, rfl, before, (Option.some.inj there).symm⟩)
    · exact .inl there

/-- **A booking stays**, with its attempt and its place; a call may change its status from the one
that it expects. -/
theorem booking_stays {s : MemoryStore} {fresh : BookingId} {c : BookingStore.Call}
    (lacks : ∀ draft, c = .create draft → s.Lacks fresh) (now : Instant) {id : BookingId}
    {b : Booking} (there : s.bookings.get? id = some b) :
    (s.answer fresh now c).2.bookings.get? id = some b ∨
    ∃ target, c = .transition id b.status target ∧
      (s.answer fresh now c).2.bookings.get? id =
        some { b with status := target, updatedAt := now } := by
  rcases s.answer_cases fresh now c with
    same | ⟨draft, rfl, new, e⟩ | ⟨key, target, b₀, rfl, before, e⟩
  · rw [same]
    exact .inl there
  · rw [e]
    refine .inl ?_
    rw [Registry.get?_set, if_neg]
    · exact there
    · rintro rfl
      have := lacks draft rfl
      simp [Lacks, there] at this
  · rw [e]
    rw [Registry.get?_modify_of_some before]
    split
    · next here =>
      subst here
      obtain rfl := Option.some.inj (there.symm.trans before)
      exact .inr ⟨target, rfl, rfl⟩
    · exact .inl there

theorem Sound.answer {s : MemoryStore} (h : s.Sound) (fresh : BookingId) (now : Instant)
    (c : BookingStore.Call) : (s.answer fresh now c).2.Sound := by
  rcases s.answer_cases fresh now c with
    same | ⟨draft, rfl, new, e⟩ | ⟨key, target, b₀, rfl, before, e⟩
  · rwa [same]
  · rw [e]
    intro id b there
    rw [Registry.get?_set] at there ⊢
    split at there
    · next here =>
      subst here
      cases there
      exact ⟨rfl, if_pos rfl⟩
    · obtain ⟨id_eq, indexed⟩ := h id b there
      -- the new booking's attempt had none, so the index of the others stays
      refine ⟨id_eq, ?_⟩
      rw [if_neg]
      · exact indexed
      · intro same
        simp [← same, indexed] at new
  · rw [e]
    intro id b there
    rw [Registry.get?_modify_of_some before] at there
    split at there
    · next here =>
      subst here
      cases there
      exact h id b₀ before
    · exact h id b there

/-- An attempt has one booking. -/
theorem Sound.unique {s : MemoryStore} (h : s.Sound) {id id' : BookingId} {b b' : Booking}
    (there : s.bookings.get? id = some b) (there' : s.bookings.get? id' = some b')
    (same : b.attempt = b'.attempt) : b = b' := by
  have indexed := (h id b there).2
  rw [same, (h id' b' there').2] at indexed
  obtain rfl := Option.some.inj indexed
  exact Option.some.inj (there.symm.trans there')

/-- The index leads to bookings. -/
def Indexed (s : MemoryStore) : Prop :=
  ∀ attempt id, s.byAttempt.get? attempt = some id → ∃ b, s.bookings.get? id = some b ∧
    b.attempt = attempt

theorem indexed_empty : empty.Indexed := by
  intro attempt id indexed
  simp [empty] at indexed

theorem Sound.findByAttempt? {s : MemoryStore} (h : s.Sound) {id : BookingId} {b : Booking}
    (there : s.bookings.get? id = some b) : s.findByAttempt? b.attempt = some b := by
  rw [MemoryStore.findByAttempt?, (h id b there).2]
  exact there

theorem Indexed.of_find {s : MemoryStore} (h : s.Indexed) {attempt : HoldId} {b : Booking}
    (found : s.findByAttempt? attempt = some b) :
    (∃ id, s.bookings.get? id = some b) ∧ b.attempt = attempt := by
  obtain ⟨id, indexed, there⟩ := Option.bind_eq_some_iff.1 found
  obtain ⟨b', there', attempt_eq⟩ := h attempt id indexed
  obtain rfl := Option.some.inj (there.symm.trans there')
  exact ⟨⟨id, there⟩, attempt_eq⟩

theorem Indexed.create {s : MemoryStore} (h : s.Indexed) {fresh : BookingId} (lacks : s.Lacks fresh)
    (now : Instant) (draft : BookingDraft) : (s.create fresh now draft).2.Indexed := by
  rcases s.create_cases fresh now draft with ⟨-, e⟩ | ⟨-, e⟩
  · rwa [e]
  · rw [e]
    intro attempt id indexed
    rw [Registry.get?_set] at indexed
    split at indexed
    · next same =>
      obtain rfl := Option.some.inj indexed
      exact ⟨_, by rw [Registry.get?_set, if_pos rfl], same.symm⟩
    · obtain ⟨b, there, attempt_eq⟩ := h attempt id indexed
      refine ⟨b, ?_, attempt_eq⟩
      rw [Registry.get?_set, if_neg]
      · exact there
      · rintro rfl
        exact absurd (lacks.symm.trans there) (by simp)

/-- Storing a booking does not change what is found for attempts that have one. -/
theorem findByAttempt?_create {s : MemoryStore} {fresh : BookingId} (lacks : s.Lacks fresh)
    (now : Instant) (draft : BookingDraft) {attempt : HoldId} {b : Booking}
    (found : s.findByAttempt? attempt = some b) :
    (s.create fresh now draft).2.findByAttempt? attempt = some b := by
  rcases s.create_cases fresh now draft with ⟨-, e⟩ | ⟨new, e⟩
  · rwa [e]
  · obtain ⟨id, indexed, there⟩ := Option.bind_eq_some_iff.1 found
    have other : attempt ≠ draft.attempt := by
      rintro rfl
      exact absurd (new.symm.trans indexed) (by simp)
    have old : id ≠ fresh := by
      rintro rfl
      exact absurd (lacks.symm.trans there) (by simp)
    rw [e, findByAttempt?, Registry.get?_set, if_neg other, indexed]
    show (s.bookings.set fresh _).get? id = some b
    rw [Registry.get?_set, if_neg old, there]

theorem findByAttempt?_of_create_ok {s s' : MemoryStore} {fresh : BookingId} {now : Instant}
    {draft : BookingDraft} {b : Booking} (stored : s.create fresh now draft = (.ok b, s')) :
    s'.findByAttempt? draft.attempt = some b := by
  rcases s.create_cases fresh now draft with ⟨-, e⟩ | ⟨-, e⟩
  · cases e.symm.trans stored
  · obtain ⟨b_eq, rfl⟩ := Prod.mk.inj (e.symm.trans stored)
    obtain rfl := Except.ok.inj b_eq
    rw [findByAttempt?, Registry.get?_set, if_pos rfl]
    show (s.bookings.set fresh _).get? fresh = _
    rw [Registry.get?_set, if_pos rfl]

end BoxOffice.MemoryStore
