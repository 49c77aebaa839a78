import BoxOffice.Proofs.Bookings

/-!
# Histories of the booking store

A store without bookings is called again and again: `MemoryStore.run` is the store after the calls, and
`MemoryStore.history` lists what those did that succeeded. A call does what its event says, and nothing
if there is none (`act_cases`). That a store `Recalls` its history is kept by every call
(`Recalls.act`); whatever the calls were, its bookings and its index are intact (`run_intact`).
-/

namespace BoxOffice

/-! ### Calls -/

namespace BookingStore

/-- A call to a store, and the identifier that is generated for the booking if it is to store one. -/
structure Act where
  call : Call
  now : Instant
  fresh : BookingId

/-- The identifier that is generated. -/
def Act.generated? (a : Act) : Option BookingId :=
  match a.call with
  | .create _ => some a.fresh
  | .get _ | .findByAttempt _ | .transition _ _ _ => none

/-- No identifier is generated twice. -/
def Distinct (acts : List Act) : Prop :=
  (acts.filterMap Act.generated?).Nodup

instance (acts : List Act) : Decidable (Distinct acts) :=
  inferInstanceAs (Decidable (List.Nodup _))

/-- What a call did. -/
inductive Event
  | stored (draft : BookingDraft) (booking : Booking)
  | moved (booking : BookingId) (source target : BookingStatus)

namespace Event

/-- The booking that was stored. -/
def stored? : Event → Option Booking
  | stored _ booking => some booking
  | moved _ _ _ => none

/-- How the status of a booking was changed. -/
def change? (id : BookingId) : Event → Option (BookingStatus × BookingStatus)
  | moved booking source target => if booking = id then some (source, target) else none
  | stored _ _ => none

end Event

/-- The bookings that were stored. -/
def storedIn (history : List Event) : List Booking :=
  history.filterMap Event.stored?

/-- The changes of the status of a booking. -/
def changesIn (history : List Event) (id : BookingId) : List (BookingStatus × BookingStatus) :=
  history.filterMap (Event.change? id)

@[simp] theorem storedIn_append (history more : List Event) :
    storedIn (history ++ more) = storedIn history ++ storedIn more :=
  List.filterMap_append

@[simp] theorem changesIn_append (history more : List Event) (id : BookingId) :
    changesIn (history ++ more) id = changesIn history id ++ changesIn more id :=
  List.filterMap_append

end BookingStore

namespace BookingStatus

/-- Changes lead from one status to another. -/
def Path : BookingStatus → List (BookingStatus × BookingStatus) → BookingStatus → Prop
  | first, [], last => first = last
  | first, (source, target) :: rest, last => first = source ∧ target.Path rest last

theorem Path.snoc {first last : BookingStatus} {changes : List (BookingStatus × BookingStatus)}
    (h : first.Path changes last) (target : BookingStatus) :
    first.Path (changes ++ [(last, target)]) target := by
  induction changes generalizing first with
  | nil => exact ⟨h, rfl⟩
  | cons change changes ih => exact ⟨h.1, ih h.2⟩

/-- A status that nothing leads to is not left. -/
theorem Path.not_left {first last status : BookingStatus}
    {changes : List (BookingStatus × BookingStatus)} (h : first.Path changes last)
    (elsewhere : first ≠ status) (never : ∀ c ∈ changes, c.2 ≠ status) :
    changes.countP (fun c => c.1 = status) = 0 := by
  induction changes generalizing first with
  | nil => rfl
  | cons change changes ih =>
    obtain ⟨rfl, rest⟩ := h
    rw [List.countP_cons_of_neg (by simpa using elsewhere)]
    exact ih rest (never change List.mem_cons_self) fun c mem => never c (List.mem_cons_of_mem _ mem)

/-- A status that nothing leads back to is left once at most. -/
theorem Path.left_once {first last status : BookingStatus}
    {changes : List (BookingStatus × BookingStatus)} (h : first.Path changes last)
    (never : ∀ c ∈ changes, c.2 ≠ status) : changes.countP (fun c => c.1 = status) ≤ 1 := by
  cases changes with
  | nil => exact Nat.zero_le 1
  | cons change changes =>
    have rest := h.2.not_left (never change List.mem_cons_self) fun c mem =>
      never c (List.mem_cons_of_mem _ mem)
    rw [List.countP_cons, rest]
    split <;> omega

end BookingStatus

namespace MemoryStore

open BookingStore

/-- The store after a call. -/
def act (s : MemoryStore) (a : Act) : MemoryStore :=
  (s.answer a.fresh a.now a.call).2

/-- The store after some calls. -/
def run (s : MemoryStore) (acts : List Act) : MemoryStore :=
  acts.foldl act s

/-- What a call does, if it succeeds and does anything. -/
def event? (s : MemoryStore) (a : Act) : Option Event :=
  match a.call with
  | .create draft => (s.create a.fresh a.now draft).1.toOption.map (.stored draft)
  | .transition id expected target =>
    (s.transition id a.now expected target).1.toOption.map fun _ => .moved id expected target
  | .get _ | .findByAttempt _ => none

/-- What some calls do, one after the other. -/
def history (s : MemoryStore) : List Act → List Event
  | [] => []
  | a :: acts => (s.event? a).toList ++ (s.act a).history acts

/-! ### One call -/

/-- **A call does what its event says**, and nothing if there is none. -/
theorem act_cases (s : MemoryStore) (a : Act) :
    (s.event? a = none ∧ s.act a = s) ∨
    (∃ draft, a.call = .create draft ∧ s.byAttempt.get? draft.attempt = none ∧
      s.event? a = some (.stored draft (.ofDraft a.fresh draft a.now)) ∧
      s.act a =
        { bookings := s.bookings.set a.fresh (.ofDraft a.fresh draft a.now)
          byAttempt := s.byAttempt.set draft.attempt a.fresh }) ∨
    ∃ id target b, a.call = .transition id b.status target ∧ s.bookings.get? id = some b ∧
      s.event? a = some (.moved id b.status target) ∧
      s.act a =
        { s with bookings :=
            s.bookings.modify id fun _ => { b with status := target, updatedAt := a.now } } := by
  obtain ⟨call, now, fresh⟩ := a
  cases call with
  | get | findByAttempt => exact .inl ⟨rfl, rfl⟩
  | create draft =>
    rcases s.create_cases fresh now draft with ⟨-, e⟩ | ⟨new, e⟩
    · refine .inl ⟨?_, congrArg Prod.snd e⟩
      simp only [event?, e]
      rfl
    · refine .inr (.inl ⟨draft, rfl, new, ?_, congrArg Prod.snd e⟩)
      simp only [event?, e]
      rfl
  | transition id expected target =>
    rcases s.transition_cases id now expected target with
      ⟨-, e⟩ | ⟨b, there, ⟨-, e⟩ | ⟨rfl, e⟩⟩
    · refine .inl ⟨?_, congrArg Prod.snd e⟩
      simp only [event?, e]
      rfl
    · refine .inl ⟨?_, congrArg Prod.snd e⟩
      simp only [event?, e]
      rfl
    · refine .inr (.inr ⟨id, target, b, rfl, there, ?_, congrArg Prod.snd e⟩)
      simp only [event?, e]
      rfl

/-- The store has nothing under the identifier that is generated for a call. -/
def Awaits (s : MemoryStore) (a : Act) : Prop :=
  ∀ id ∈ a.generated?, s.Lacks id

theorem Awaits.lacks {s : MemoryStore} {a : Act} (h : s.Awaits a) {draft : BookingDraft}
    (creates : a.call = .create draft) : s.Lacks a.fresh := by
  refine h a.fresh ?_
  rw [Act.generated?, creates]
  rfl

theorem Sound.act {s : MemoryStore} (h : s.Sound) (a : Act) : (s.act a).Sound :=
  h.answer a.fresh a.now a.call

theorem Indexed.act {s : MemoryStore} (h : s.Indexed) {a : Act} (new : s.Awaits a) :
    (s.act a).Indexed := by
  rcases s.act_cases a with
    ⟨-, same⟩ | ⟨draft, creates, -, -, -⟩ | ⟨id, target, b, -, there, -, after⟩
  · rwa [same]
  · rw [MemoryStore.act, creates]
    exact h.create (new.lacks creates) a.now draft
  · rw [after]
    intro attempt key indexed
    obtain ⟨b', found, attempt_eq⟩ := h attempt key indexed
    rw [Registry.get?_modify_of_some there]
    split
    · next here =>
      subst here
      obtain rfl := Option.some.inj (there.symm.trans found)
      exact ⟨_, rfl, attempt_eq⟩
    · exact ⟨b', found, attempt_eq⟩

/-! ### Stores and their histories -/

/-- A store is as its history says. -/
structure Recalls (s : MemoryStore) (h : List Event) : Prop where
  sound : s.Sound
  indexed : s.Indexed
  bookings : s.bookings.size = (storedIn h).length
  attempts : s.byAttempt.size = (storedIn h).length
  /-- A booking is as it was stored, up to its status. -/
  kept : ∀ draft b, .stored draft b ∈ h → (∃ now, b = .ofDraft b.id draft now) ∧
    ∃ status now, s.bookings.get? b.id = some { b with status := status, updatedAt := now }
  path : ∀ id b, s.bookings.get? id = some b → BookingStatus.pending.Path (changesIn h id) b.status
  unchanged : ∀ id, s.Lacks id → changesIn h id = []

theorem recalls_empty : empty.Recalls [] where
  sound := sound_empty
  indexed := indexed_empty
  bookings := rfl
  attempts := rfl
  kept _ _ mem := absurd mem List.not_mem_nil
  path id b there := by simp [empty] at there
  unchanged _ _ := rfl

/-- A store that gets a new booking goes on with its history. -/
theorem Recalls.stored {s : MemoryStore} {h : List Event} (recalls : s.Recalls h) {a : Act}
    {draft : BookingDraft} (sound : (s.act a).Sound) (indexed : (s.act a).Indexed)
    (lacks : s.Lacks a.fresh) (new : s.byAttempt.get? draft.attempt = none)
    (after : s.act a =
      { bookings := s.bookings.set a.fresh (.ofDraft a.fresh draft a.now)
        byAttempt := s.byAttempt.set draft.attempt a.fresh }) :
    (s.act a).Recalls (h ++ [.stored draft (.ofDraft a.fresh draft a.now)]) := by
  have changes (id : BookingId) :
      changesIn (h ++ [.stored draft (.ofDraft a.fresh draft a.now)]) id = changesIn h id :=
    (changesIn_append _ _ id).trans (List.append_nil _)
  have found (id : BookingId) : (s.act a).bookings.get? id =
      if id = a.fresh then some (.ofDraft a.fresh draft a.now) else s.bookings.get? id := by
    rw [after]
    exact Registry.get?_set ..
  refine ⟨sound, indexed, ?_, ?_, fun draft' b mem => ?_, fun id b there => ?_, fun id gone => ?_⟩
  · rw [after, storedIn_append, List.length_append, ← recalls.bookings]
    exact Registry.size_set_of_none lacks _
  · rw [after, storedIn_append, List.length_append, ← recalls.attempts]
    exact Registry.size_set_of_none new _
  · rcases List.mem_append.1 mem with old | last
    · obtain ⟨made, status, now, there⟩ := recalls.kept draft' b old
      refine ⟨made, status, now, ?_⟩
      rw [found, if_neg]
      · exact there
      · rintro same
        rw [same, lacks] at there
        cases there
    · cases List.mem_singleton.1 last
      exact ⟨⟨a.now, rfl⟩, .pending, a.now, (found _).trans (if_pos rfl)⟩
  · rw [changes]
    rw [found] at there
    split at there
    · next here =>
      cases there
      rw [here, recalls.unchanged _ lacks]
      exact rfl
    · exact recalls.path id b there
  · rw [changes]
    rw [Lacks, found] at gone
    split at gone
    · cases gone
    · exact recalls.unchanged id gone

/-- A store that changes a booking goes on with its history. -/
theorem Recalls.moved {s : MemoryStore} {h : List Event} (recalls : s.Recalls h) {a : Act}
    {id : BookingId} {target : BookingStatus} {b : Booking} (sound : (s.act a).Sound)
    (indexed : (s.act a).Indexed) (there : s.bookings.get? id = some b)
    (after : s.act a =
      { s with bookings :=
          s.bookings.modify id fun _ => { b with status := target, updatedAt := a.now } }) :
    (s.act a).Recalls (h ++ [.moved id b.status target]) := by
  have stored : storedIn (h ++ [.moved id b.status target]) = storedIn h :=
    (storedIn_append _ _).trans (List.append_nil _)
  have found (other : BookingId) : (s.act a).bookings.get? other =
      if other = id then some { b with status := target, updatedAt := a.now }
      else s.bookings.get? other := by
    rw [after]
    exact Registry.get?_modify_of_some there _ other
  have changes_here : changesIn (h ++ [.moved id b.status target]) id =
      changesIn h id ++ [(b.status, target)] := by
    rw [changesIn_append, changesIn, changesIn]
    simp [Event.change?]
  have changes_of_ne {other : BookingId} (ne : other ≠ id) :
      changesIn (h ++ [.moved id b.status target]) other = changesIn h other := by
    rw [changesIn_append, changesIn, changesIn]
    simp [Event.change?, ne.symm]
  refine ⟨sound, indexed, ?_, ?_, fun draft b' mem => ?_, fun other b' there' => ?_,
    fun other gone => ?_⟩
  · rw [after, stored, ← recalls.bookings]
    exact Registry.size_modify ..
  · rw [after, stored, ← recalls.attempts]
  · rcases List.mem_append.1 mem with old | last
    · obtain ⟨made, status, now, there'⟩ := recalls.kept draft b' old
      refine ⟨made, ?_⟩
      rw [found]
      split
      · next here =>
        rw [← here] at there
        obtain rfl := Option.some.inj (there.symm.trans there')
        exact ⟨target, a.now, rfl⟩
      · exact ⟨status, now, there'⟩
    · cases List.mem_singleton.1 last
  · rw [found] at there'
    split at there'
    · next here =>
      cases there'
      rw [here, changes_here]
      exact (recalls.path id b there).snoc target
    · next ne =>
      rw [changes_of_ne ne]
      exact recalls.path other b' there'
  · rw [Lacks, found] at gone
    split at gone
    · cases gone
    · next ne =>
      rw [changes_of_ne ne]
      exact recalls.unchanged other gone

/-- **A store goes on with its history** whatever it is called for. -/
theorem Recalls.act {s : MemoryStore} {h : List Event} (recalls : s.Recalls h) {a : Act}
    (new : s.Awaits a) : (s.act a).Recalls (h ++ (s.event? a).toList) := by
  have sound := recalls.sound.act a
  have indexed := recalls.indexed.act new
  rcases s.act_cases a with
    ⟨nothing, same⟩ | ⟨draft, creates, taken, event, after⟩ | ⟨id, target, b, -, there, event, after⟩
  · rw [nothing, same, Option.toList_none, List.append_nil]
    exact recalls
  · rw [event]
    exact recalls.stored sound indexed (new.lacks creates) taken after
  · rw [event]
    exact recalls.moved sound indexed there after

/-! ### All calls -/

/-- The identifiers that are generated for some calls are new to the store, and distinct. -/
def AwaitsAll (s : MemoryStore) (acts : List Act) : Prop :=
  Distinct acts ∧ ∀ a ∈ acts, s.Awaits a

theorem awaitsAll_empty {acts : List Act} (distinct : Distinct acts) : empty.AwaitsAll acts :=
  ⟨distinct, fun _ _ _ _ => rfl⟩

/-- What a call stores has its identifier, and what was there stays. -/
theorem lacks_act {s : MemoryStore} {a : Act} {id : BookingId} (lacks : s.Lacks id)
    (other : id ∉ a.generated?) : (s.act a).Lacks id := by
  rcases s.act_cases a with
    ⟨-, same⟩ | ⟨draft, creates, -, -, after⟩ | ⟨key, target, b, -, -, -, after⟩
  · rwa [same]
  · rw [Lacks, after, Registry.get?_set, if_neg]
    · exact lacks
    · rintro rfl
      refine other ?_
      rw [Act.generated?, creates]
      rfl
  · rw [Lacks, after, Registry.get?_modify, lacks]
    exact ite_self _

theorem AwaitsAll.act {s : MemoryStore} {a : Act} {acts : List Act} (h : s.AwaitsAll (a :: acts)) :
    (s.act a).AwaitsAll acts := by
  obtain ⟨distinct, new⟩ := h
  rw [Distinct, List.filterMap_cons] at distinct
  refine ⟨?_, fun a' mem id generated => ?_⟩
  · split at distinct
    · exact distinct
    · exact (List.nodup_cons.1 distinct).2
  · refine lacks_act (new a' (List.mem_cons_of_mem _ mem) id generated) fun same => ?_
    rw [Option.mem_def] at same
    rw [same] at distinct
    exact (List.nodup_cons.1 distinct).1 (List.mem_filterMap.2 ⟨a', mem, generated⟩)

theorem Recalls.run {s : MemoryStore} {h : List Event} (recalls : s.Recalls h) {acts : List Act}
    (new : s.AwaitsAll acts) : (s.run acts).Recalls (h ++ s.history acts) := by
  -- by induction on the calls, from any store with its history
  induction acts generalizing s h with
  | nil =>
    rw [history, List.append_nil]
    exact recalls
  | cons a acts ih =>
    have rest := ih (recalls.act (new.2 a List.mem_cons_self)) new.act
    rwa [List.append_assoc] at rest

/-- What is promised of a store with its history. -/
structure Intact (s : MemoryStore) (h : List Event) : Prop where
  /-- The index leads from the attempt of each booking to the booking, and nowhere else. -/
  indexed : ∀ attempt id, s.byAttempt.get? attempt = some id ↔
    ∃ b, s.bookings.get? id = some b ∧ b.attempt = attempt
  /-- What is found for an attempt is what is there under its own identifier. -/
  found : ∀ attempt b, s.findByAttempt? attempt = some b ↔
    s.bookings.get? b.id = some b ∧ b.attempt = attempt
  /-- There are as many bookings, and as many attempts, as were stored. -/
  sizes : s.bookings.size = (storedIn h).length ∧ s.byAttempt.size = (storedIn h).length
  /-- A booking gives back the token that it was stored for, -/
  token : ∀ token user b, .stored (.ofToken token user) b ∈ h →
    ∃ b', s.bookings.get? b.id = some b' ∧ b'.token = token
  /-- and is all that it was stored as, up to the status and the time of its last change. -/
  kept : ∀ draft b, .stored draft b ∈ h →
    ∃ status now, s.bookings.get? b.id = some { b with status := status, updatedAt := now }
  /-- A booking is stored exactly if its attempt has none yet. -/
  creates : ∀ fresh now draft,
    (s.create fresh now draft).1.isOk ↔ s.findByAttempt? draft.attempt = none
  /-- A status is changed exactly if it is the expected one. -/
  moves : ∀ id now expected target, (s.transition id now expected target).1.isOk ↔
    ∃ b, s.bookings.get? id = some b ∧ b.status = expected
  /-- Such a change changes nothing else, and no other booking. -/
  changed : ∀ id now expected target b s', s.transition id now expected target = (.ok b, s') →
    s'.byAttempt = s.byAttempt ∧ ∃ b₀, s.bookings.get? id = some b₀ ∧ b₀.status = expected ∧
      b = { b₀ with status := target, updatedAt := now } ∧
      ∀ other, s'.bookings.get? other = if other = id then some b else s.bookings.get? other
  /-- A call that fails changes nothing. -/
  failed : ∀ fresh now c e, (s.answer fresh now c).1 = .error e → (s.answer fresh now c).2 = s
  /-- The changes of a booking lead from pending to its status, -/
  path : ∀ id b, s.bookings.get? id = some b → BookingStatus.pending.Path (changesIn h id) b.status
  /-- so it leaves pending once at most, unless it is led back there. -/
  once : ∀ id, (∀ c ∈ changesIn h id, c.2 ≠ .pending) →
    (changesIn h id).countP (fun c => c.1 = .pending) ≤ 1

theorem Indexed.findByAttempt?_eq_none {s : MemoryStore} (h : s.Indexed) {attempt : HoldId} :
    s.findByAttempt? attempt = none ↔ s.byAttempt.get? attempt = none := by
  rw [MemoryStore.findByAttempt?, Option.bind_eq_none_iff]
  refine ⟨fun nothing => Option.eq_none_iff_forall_ne_some.2 fun id indexed => ?_,
    fun new id indexed => ?_⟩
  · obtain ⟨b, there, -⟩ := h attempt id indexed
    cases (nothing id indexed).symm.trans there
  · cases new.symm.trans indexed

theorem Indexed.create_isOk_iff {s : MemoryStore} (h : s.Indexed) (fresh : BookingId) (now : Instant)
    (draft : BookingDraft) :
    (s.create fresh now draft).1.isOk ↔ s.findByAttempt? draft.attempt = none := by
  rw [h.findByAttempt?_eq_none]
  rcases s.create_cases fresh now draft with ⟨taken, e⟩ | ⟨new, e⟩
  · rw [Registry.contains_eq_isSome, Option.isSome_iff_exists] at taken
    obtain ⟨id, indexed⟩ := taken
    rw [e, indexed]
    exact iff_of_false nofun nofun
  · rw [e]
    exact iff_of_true rfl new

theorem transition_isOk_iff (s : MemoryStore) (id : BookingId) (now : Instant)
    (expected target : BookingStatus) : (s.transition id now expected target).1.isOk ↔
      ∃ b, s.bookings.get? id = some b ∧ b.status = expected := by
  rcases s.transition_cases id now expected target with
    ⟨missing, e⟩ | ⟨b, there, ⟨elsewhere, e⟩ | ⟨stands, e⟩⟩
  · rw [e, missing]
    exact iff_of_false nofun nofun
  · rw [e, there]
    refine iff_of_false nofun ?_
    rintro ⟨_, ⟨⟩, stands⟩
    exact elsewhere stands
  · rw [e]
    exact iff_of_true rfl ⟨b, there, stands⟩

theorem answer_of_error {s : MemoryStore} {fresh : BookingId} {now : Instant}
    {c : BookingStore.Call} {e : Error} (failed : (s.answer fresh now c).1 = .error e) :
    (s.answer fresh now c).2 = s := by
  rcases s.answer_cases fresh now c with
    same | ⟨draft, rfl, -, stored⟩ | ⟨id, target, b, rfl, -, moved⟩
  · exact same
  · cases (congrArg Prod.fst stored).symm.trans failed
  · cases (congrArg Prod.fst moved).symm.trans failed

theorem transition_of_ok {s s' : MemoryStore} {id : BookingId} {now : Instant}
    {expected target : BookingStatus} {b : Booking}
    (h : s.transition id now expected target = (.ok b, s')) :
    s'.byAttempt = s.byAttempt ∧ ∃ b₀, s.bookings.get? id = some b₀ ∧ b₀.status = expected ∧
      b = { b₀ with status := target, updatedAt := now } ∧
      ∀ other, s'.bookings.get? other = if other = id then some b else s.bookings.get? other := by
  rcases s.transition_cases id now expected target with
    ⟨-, e⟩ | ⟨b₀, there, ⟨-, e⟩ | ⟨stands, e⟩⟩
  · cases e.symm.trans h
  · cases e.symm.trans h
  · have found := get?_transition there stands now target
    rw [e] at found
    cases e.symm.trans h
    exact ⟨rfl, b₀, there, stands, rfl, found⟩

/-- **The bookings and the index of a store are intact**, whatever it was called for. -/
theorem run_intact (acts : List Act) (distinct : Distinct acts) :
    (empty.run acts).Intact (empty.history acts) := by
  have recalls : (empty.run acts).Recalls (empty.history acts) :=
    recalls_empty.run (awaitsAll_empty distinct)
  have sound := recalls.sound
  refine ⟨fun attempt id => ⟨recalls.indexed attempt id, ?_⟩, fun attempt b => ⟨fun found => ?_, ?_⟩,
    ⟨recalls.bookings, recalls.attempts⟩, fun token user b mem => ?_,
    fun draft b mem => (recalls.kept draft b mem).2, recalls.indexed.create_isOk_iff,
    transition_isOk_iff _, fun id now expected target b s' => transition_of_ok,
    fun fresh now c e => answer_of_error, recalls.path, fun id never => ?_⟩
  · rintro ⟨b, there, rfl⟩
    exact (sound id b there).2
  · obtain ⟨⟨id, there⟩, attempt_eq⟩ := recalls.indexed.of_find found
    rw [(sound id b there).1]
    exact ⟨there, attempt_eq⟩
  · rintro ⟨there, rfl⟩
    exact sound.findByAttempt? there
  · obtain ⟨⟨stored, made⟩, status, now, there⟩ := recalls.kept _ b mem
    refine ⟨_, there, ?_⟩
    rw [made]
    exact Booking.token_ofDraft_ofToken b.id token user stored
  · cases there : (empty.run acts).bookings.get? id with
    | none => simp [recalls.unchanged id there]
    | some b => exact (recalls.path id b there).left_once never

/-- A seat and a place, stored, stored again, confirmed twice, given up and taken back. -/
theorem run_intact_two_bookings :
    let token (n : Nat) (unit : HeldUnit) : Token :=
      { hold := ⟨.random n⟩, event := ⟨7⟩, category := ⟨2⟩, unit, expiresAt := .ofParts 20 0 }
    let visit (n : Nat) (call : Call) : Act := { call, now := .ofParts n 0, fresh := ⟨.random n⟩ }
    let acts : List Act :=
      [visit 1 (.create (.ofToken (token 1 (.seat ⟨5⟩ "A1")) ⟨3⟩)),
        visit 2 (.create (.ofToken (token 1 .stock) ⟨4⟩)),
        visit 3 (.create (.ofToken (token 2 .stock) ⟨4⟩)),
        visit 4 (.transition ⟨.random 1⟩ .pending .confirmed),
        visit 5 (.transition ⟨.random 1⟩ .pending .confirmed),
        visit 6 (.transition ⟨.random 3⟩ .pending .cancelled),
        visit 7 (.transition ⟨.random 3⟩ .cancelled .pending),
        visit 8 (.findByAttempt ⟨.random 2⟩)]
    Distinct acts ∧ (empty.run acts).Intact (empty.history acts) := by
  intro token visit acts
  have distinct : Distinct acts := by decide +kernel
  exact ⟨distinct, run_intact acts distinct⟩

end MemoryStore

end BoxOffice
