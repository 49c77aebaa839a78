import BoxOffice.Proofs.House.Coupling
import BoxOffice.Proofs.Trying

/-!
# Lost answers

A store that may lose a request for a change, or its answer (`Delivery`). The front desk is told of
an internal error in either case and asks again, so it may ask for a change that was made already;
that is refused, and the booking is looked up. What one request does to a booking that is on its way
to a status is said by `attains_transition`, what the tries do together by `attains_tries`. Settling
a booking survives as many losses as there are further tries, and never reports what is not so
(`settle_survives_losses`).
-/

namespace BoxOffice

/-- What becomes of a request for a change of a booking. -/
inductive Delivery
  | answered
  /-- The store is not reached. -/
  | unasked (message : String)
  /-- The store does as it is asked, but its answer is lost. -/
  | unanswered (message : String)

/-- A request for a change is made at some time, and something becomes of it. -/
structure Transit where
  delivery : Delivery
  now : Instant

/-- What the front desk is told of a change that it asked for, and what the store is then. -/
def Transit.answer (t : Transit) (s : MemoryStore) (id : BookingId)
    (expected target : BookingStatus) : Result Booking × MemoryStore :=
  match t.delivery with
  | .answered => s.transition id t.now expected target
  | .unasked message => (.error ⟨.internal, message⟩, s)
  | .unanswered message =>
    (.error ⟨.internal, message⟩, (s.transition id t.now expected target).2)

/-- How often neighbours in a list differ. -/
def changes {α : Type} [DecidableEq α] : List α → Nat
  | a :: b :: rest => (if a = b then 0 else 1) + changes (b :: rest)
  | _ => 0

/-- A house whose store is not reached reliably. -/
structure Lossy where
  house : House
  /-- What the store was before each call, the last call first. -/
  past : List MemoryStore
  /-- What was answered to requests for changes, the last one first. -/
  replies : List (Result Booking)

namespace Lossy

/-- A house where nothing has been asked for yet. -/
def start (house : House) : Lossy where
  house
  past := []
  replies := []

/-- Answers a call of the front desk. What becomes of requests for changes is said by a script; all
other calls are answered reliably. -/
def answer (fresh : BookingId) (script : Nat → Transit) (w : Lossy) :
    (c : DeskWorld.Call) → Except Halt (DeskWorld.Reply c) × Lossy
  | .inr (.inl (.transition id expected target)) =>
    let (reply, store) := (script w.replies.length).answer w.house.store id expected target
    (.ok reply,
      { house := { w.house with store }
        past := w.house.store :: w.past
        replies := reply :: w.replies })
  | c =>
    let (reply, house) := w.house.answer fresh c
    (reply, { w with house, past := w.house.store :: w.past })

/-- How many requests for changes were answered with an internal error. -/
def lost (w : Lossy) : Nat :=
  w.replies.countP fun reply => reply matches .error ⟨.internal, _⟩

/-- The statuses that a booking had, from the present one back to the first. -/
def course (w : Lossy) (id : BookingId) : List (Option BookingStatus) :=
  (w.house.store :: w.past).map fun s => (s.bookings.get? id).map Booking.status

/-- A booking has some status now, to which it came by a number of changes. -/
structure At (w : Lossy) (id : BookingId) (b : Booking) (status : BookingStatus) (n : Nat) :
    Prop where
  stored : w.house.store.bookings.get? id = some b
  status_eq : b.status = status
  changes_eq : changes (w.course id) = n

/-- A booking is pending as it was, or has come to a status by one change. -/
def Under (w : Lossy) (id : BookingId) (target : BookingStatus) : Prop :=
  ∃ b, w.At id b .pending 0 ∨ w.At id b target 1

section Keep

variable {w w' : Lossy} {id : BookingId} {b : Booking} {status target : BookingStatus} {n : Nat}

/-- A call that leaves the store alone does not change where a booking is. -/
theorem At.keep (h : w.At id b status n) (same : w'.house.store = w.house.store)
    (past : w'.past = w.house.store :: w.past) : w'.At id b status n where
  stored := by rw [same, h.stored]
  status_eq := h.status_eq
  changes_eq := by
    rw [← h.changes_eq, course, course, same, past]
    simp [changes]

theorem Under.keep (h : w.Under id target) (same : w'.house.store = w.house.store)
    (past : w'.past = w.house.store :: w.past) : w'.Under id target := by
  obtain ⟨b, waiting | settled⟩ := h
  · exact ⟨b, .inl (waiting.keep same past)⟩
  · exact ⟨b, .inr (settled.keep same past)⟩

/-- A booking that is changed from one status to another has one change more behind it. -/
theorem At.changed (h : w.At id b status n) {b' : Booking} (differs : b'.status ≠ status)
    (stored : w'.house.store.bookings.get? id = some b')
    (past : w'.past = w.house.store :: w.past) : w'.At id b' b'.status (n + 1) where
  stored := stored
  status_eq := rfl
  changes_eq := by
    have before := h.changes_eq
    rw [course, List.map_cons, h.stored] at before
    rw [course, past, List.map_cons, List.map_cons, stored, h.stored]
    simp only [Option.map_some, h.status_eq] at before ⊢
    rw [changes, if_neg (by simpa using differs), before, Nat.add_comm]

end Keep

variable {fresh : BookingId} {script : Nat → Transit} {id : BookingId} {target : BookingStatus}

/-- The surroundings keep to whatever depends on the store, its past and its answers only. -/
theorem keep {R : Lossy → Prop}
    (kept : ∀ w w', w'.house.store = w.house.store → w'.past = w.house.store :: w.past →
      w'.replies = w.replies → R w → R w') :
    Surroundings.Keep (I := DeskWorld) (answer fresh script) R := by
  intro c w possible start
  obtain ⟨reply, replied⟩ := w.house.inventory.stage.answer_of_nonempty c possible
  refine ⟨reply, (w.answer fresh script (.inr (.inr c))).2, ?_, kept w _ rfl rfl rfl start⟩
  refine Prod.ext ?_ rfl
  exact congrArg (Except.mapError Halt.breakdown) replied

/-! ### One request -/

/-- A change that is made, or is refused since it was made before, leaves the booking where it is to
be, and only in the second case is it refused. -/
theorem Under.transition {w : Lossy} (h : w.Under id target) (decided : target ≠ .pending)
    (now : Instant) {w' : Lossy}
    (store : w'.house.store = (w.house.store.transition id now .pending target).2)
    (past : w'.past = w.house.store :: w.past) :
    ∃ b, w'.At id b target 1 ∧
      ((w.house.store.transition id now .pending target).1 = .ok b ∨
        ∃ e, (w.house.store.transition id now .pending target).1 = .error e ∧
          e.kind = .conflict) := by
  obtain ⟨b, waiting | settled⟩ := h
  · have found := MemoryStore.get?_transition waiting.stored waiting.status_eq now target id
    rw [if_pos rfl, ← store] at found
    refine ⟨_, waiting.changed decided found past, .inl ?_⟩
    rw [MemoryStore.transition_eq waiting.stored waiting.status_eq]
  · have elsewhere : b.status ≠ .pending := settled.status_eq ▸ decided
    have refused : w.house.store.transition id now .pending target =
        (refuse (.bookingElsewhere id b.status .pending), w.house.store) := by
      rw [MemoryStore.transition, settled.stored]
      exact if_pos elsewhere
    rw [refused] at store ⊢
    exact ⟨b, settled.keep store past, .inr ⟨_, rfl, rfl⟩⟩

/-- What the front desk is told of a change that it asked for, after some requests or answers were
lost: that the booking is where it is to be, or that the change was made before, or nothing, since
one more was lost. -/
inductive Told (id : BookingId) (target : BookingStatus) (lost : Nat) :
    Result Booking → Lossy → Prop
  | done {b w} (settled : w.At id b target 1) : Told id target lost (.ok b) w
  | elsewhere {b e w} (settled : w.At id b target 1) (conflict : e.kind = .conflict) :
    Told id target lost (.error e) w
  | unheard {e w} (under : w.Under id target) (one_more : w.lost = lost + 1)
    (internal : e.kind = .internal) : Told id target lost (.error e) w

/-- **One request for a change**, whatever becomes of it. -/
theorem attains_transition {w : Lossy} (h : w.Under id target) (decided : target ≠ .pending) :
    (BookingStore.transition id .pending target : Service DeskWorld Booking).run.Attains
      (answer fresh script) (Told id target w.lost) w := by
  let c : DeskWorld.Call := .inr (.inl (.transition id .pending target))
  let t := script w.replies.length
  have answered : w.answer fresh script c =
      (.ok (t.answer w.house.store id .pending target).1, (w.answer fresh script c).2) := rfl
  refine ⟨_, _, answered, ?_⟩
  have past : (w.answer fresh script c).2.past = w.house.store :: w.past := rfl
  have replies : (w.answer fresh script c).2.replies =
      (t.answer w.house.store id .pending target).1 :: w.replies := rfl
  have store : (w.answer fresh script c).2.house.store =
      (t.answer w.house.store id .pending target).2 := rfl
  generalize (w.answer fresh script c).2 = w' at past replies store
  cases delivery : t.delivery with
  | answered =>
    simp only [Transit.answer, delivery] at replies store ⊢
    obtain ⟨b, settled, told | ⟨e, told, conflict⟩⟩ := h.transition decided t.now store past
    · rw [told]
      exact .done settled
    · rw [told]
      exact .elsewhere settled conflict
  | unasked message =>
    simp only [Transit.answer, delivery] at replies store ⊢
    exact .unheard (h.keep store past) (by simp [lost, replies]) rfl
  | unanswered message =>
    simp only [Transit.answer, delivery] at replies store ⊢
    obtain ⟨b, settled, -⟩ := h.transition decided t.now store past
    exact .unheard ⟨b, .inr settled⟩ (by simp [lost, replies]) rfl

/-! ### All requests -/

/-- Before a try: the tries so far, all lost, and those that are left make up the number of further
tries that were allowed. -/
structure Trying (id : BookingId) (target : BookingStatus) (tries left : Nat) (w : Lossy) :
    Prop where
  under : w.Under id target
  lost_add : w.lost + left = tries

/-- After the tries: the booking is where it is to be, and the front desk is told so or is told of a
conflict; or more tries were lost than there were further ones. -/
inductive Tried (id : BookingId) (target : BookingStatus) (tries : Nat) :
    Result Booking → Lossy → Prop
  | done {b w} (settled : w.At id b target 1) : Tried id target tries (.ok b) w
  | elsewhere {b e w} (settled : w.At id b target 1) (conflict : e.kind = .conflict) :
    Tried id target tries (.error e) w
  | allLost {e w} (all : tries < w.lost) (other : e.kind ≠ .conflict) :
    Tried id target tries (.error e) w

variable {tries : Nat}

theorem keep_trying (left : Nat) :
    Surroundings.Keep (I := DeskWorld) (answer fresh script) (Trying id target tries left) :=
  keep fun w w' same past replies h => by
    refine ⟨h.under.keep same past, ?_⟩
    rw [lost, replies]
    exact h.lost_add

theorem keep_tried (r : Result Booking) :
    Surroundings.Keep (I := DeskWorld) (answer fresh script) (Tried id target tries r) :=
  keep fun w w' same past replies h => by
    cases h with
    | done settled => exact .done (settled.keep same past)
    | elsewhere settled conflict => exact .elsewhere (settled.keep same past) conflict
    | allLost all other =>
      refine .allLost ?_ other
      rw [lost, replies]
      exact all

/-- What the front desk is told is the end of it, or one more try is lost. -/
theorem Told.next {left : Nat} {w w' : Lossy} {r : Result Booking}
    (h : Told id target w.lost r w') (left_over : w.lost + left = tries) :
    RetryPolicy.Try Error.isTransient (Trying id target tries) (Tried id target tries)
      left r w' := by
  cases h with
  | done settled => exact .final (.done settled) fun e eq => nomatch eq
  | elsewhere settled conflict =>
    refine .final (.elsewhere settled conflict) ?_
    rintro _ ⟨⟩
    simp [Error.isTransient, conflict]
  | @unheard e _ under one_more internal =>
    cases left with
    | zero => exact Tried.allLost (by omega) (by simp [internal])
    | succ left =>
      have transient : e.isTransient := by simp [Error.isTransient, internal]
      rw [RetryPolicy.Try, if_pos transient]
      exact ⟨under, by omega⟩

/-- **The tries together.** -/
theorem attains_tries {w : Lossy} (h : w.Under id target) (fair : w.lost = 0)
    (decided : target ≠ .pending) (policy : RetryPolicy) :
    (Desk.retryTransient policy (BookingStore.transition id .pending target)).run.Attains
      (answer fresh script) (Tried id target policy.maxRetries.toNat) w :=
  RetryPolicy.attains_retryAfter policy keep_trying keep_tried
    (fun _ _ trying => (attains_transition trying.under decided).mono fun _ _ told =>
      told.next trying.lost_add)
    0 policy.maxRetries.toNat ⟨h, by rw [fair, Nat.zero_add]⟩

/-! ### Settling -/

/-- A booking that is looked up is there. -/
theorem attains_load {w : Lossy} {b : Booking} {n : Nat} {status : BookingStatus}
    (h : w.At id b status n) :
    (Desk.load id).run.Attains (answer fresh script)
      (fun r w' => r = .ok b ∧ w'.At id b status n) w := by
  have looked : (BookingStore.get id : Service DeskWorld (Option Booking)).run.Attains
      (answer fresh script) (fun r w' => r = .ok (some b) ∧ w'.At id b status n) w := by
    refine ⟨.ok (some b), (w.answer fresh script (.inr (.inl (.get id)))).2, ?_, rfl,
      h.keep rfl rfl⟩
    exact Prod.ext (congrArg (fun found => Except.ok (Except.ok found)) h.stored) rfl
  refine Service.attains_bind looked (fun e w' told => nomatch told.1) ?_
  rintro found w' ⟨eq, kept⟩
  obtain rfl := Except.ok.inj eq
  exact ⟨rfl, kept⟩

variable (fresh script) in
/-- What settling comes to: the booking that is answered is where it is to be, or the tries were all
lost. -/
theorem attains_settle {w : Lossy} (h : w.Under id target) (fair : w.lost = 0)
    (decided : target ≠ .pending) (policy : RetryPolicy) :
    (Desk.settle policy id target).run.Attains (answer fresh script)
      (fun r w' => (∃ b, r = .ok b ∧ w'.At id b target 1) ∨
        policy.maxRetries.toNat < w'.lost ∧ ∃ e, r = .error e) w := by
  refine Service.attains_bind (Service.attains_outcome (attains_tries h fair decided policy)
    (Q := fun r w' => ∃ r', r = .ok r' ∧ Tried id target policy.maxRetries.toNat r' w')
    fun r _ tried => ⟨r, rfl, tried⟩) (fun _ _ told => nomatch told) ?_
  rintro r w' ⟨_, ⟨⟩, tried⟩
  cases tried with
  | @done b _ settled => exact .inl ⟨b, rfl, settled⟩
  | elsewhere settled conflict =>
    -- the change was made before: the booking is looked up
    dsimp only
    rw [if_pos conflict]
    refine Service.attains_bind (attains_load settled) (fun e' w'' told => nomatch told.1) ?_
    rintro b' w'' ⟨eq, kept⟩
    obtain rfl := Except.ok.inj eq
    rw [if_pos kept.status_eq]
    exact .inl ⟨b', rfl, kept⟩
  | @allLost e _ all other =>
    dsimp only
    rw [if_neg other]
    exact .inr ⟨all, e, rfl⟩

/-- **Settling survives lost answers.** A pending booking is settled, whatever becomes of the
requests for a change of its status: as long as no more of them are answered with an internal error
than the policy allows further tries, the booking is answered, stored as it is to be and changed
once; and however many there are, a booking is answered only if it is stored so. -/
theorem settle_survives_losses {house : House} {b : Booking}
    (there : house.store.bookings.get? id = some b) (pending : b.status = .pending)
    (decided : target ≠ .pending) (policy : RetryPolicy) (fresh : BookingId)
    (script : Nat → Transit) :
    ∃ r w, (Desk.settle policy id target).run.play (answer fresh script) (start house) =
        (.ok r, w) ∧
      (w.lost ≤ policy.maxRetries.toNat → ∃ b', r = .ok b' ∧ w.At id b' target 1) ∧
      ∀ b', r = .ok b' → w.At id b' target 1 := by
  have under : (start house).Under id target := ⟨b, .inl ⟨there, pending, rfl⟩⟩
  obtain ⟨r, w, played, outcome⟩ :=
    Program.attains_iff.1 (attains_settle fresh script under rfl decided policy)
  refine ⟨r, w, played, ?_⟩
  rcases outcome with ⟨b, rfl, settled⟩ | ⟨all, e, rfl⟩
  · refine ⟨fun _ => ⟨b, rfl, settled⟩, ?_⟩
    rintro _ ⟨⟩
    exact settled
  · exact ⟨fun few => absurd all (Nat.not_lt.2 few), fun _ eq => nomatch eq⟩

/-- The first answer is lost, then a request; the third request is refused, since the first one was
not, and the booking is looked up. -/
theorem settle_survives_losses_two :
    let draft := BookingDraft.ofToken
      { hold := ⟨.random 1⟩, event := ⟨1⟩, category := ⟨10⟩, unit := .stock,
        expiresAt := .ofParts 1300 0 } ⟨42⟩
    let house : House :=
      { policy := .default, inventory := .oneSeat,
        store := (MemoryStore.empty.create ⟨.random 7⟩ (.ofParts 1000 0) draft).2 }
    let script (n : Nat) : Transit :=
      { delivery :=
          match n with
          | 0 => .unanswered "connection reset"
          | 1 => .unasked "no route"
          | _ => .answered
        now := .ofParts (1001 + n) 0 }
    ∃ r w, (Desk.settle .default ⟨.random 7⟩ .confirmed).run.play
        (answer ⟨.random 8⟩ script) (start house) = (.ok r, w) ∧
      w.lost = 2 ∧ w.replies.length = 3 ∧ ∃ b, r = .ok b ∧ w.At ⟨.random 7⟩ b .confirmed 1 := by
  intro draft house script
  have there : house.store.bookings.get? ⟨.random 7⟩ =
      some (Booking.ofDraft ⟨.random 7⟩ draft (.ofParts 1000 0)) := by decide +kernel
  have decided : BookingStatus.confirmed ≠ .pending := by decide
  obtain ⟨r, w, played, reached, -⟩ :=
    settle_survives_losses there rfl decided .default ⟨.random 8⟩ script
  have losses : w.lost = 2 ∧ w.replies.length = 3 := by
    have left_behind := congrArg Prod.snd played
    dsimp only at left_behind
    rw [← left_behind]
    decide +kernel
  exact ⟨r, w, played, losses.1, losses.2, reached (losses.1 ▸ by decide)⟩

end Lossy

end BoxOffice
