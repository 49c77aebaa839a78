import BoxOffice.Desk
import BoxOffice.Proofs.Trying

/-!
# Confirming and cancelling

What the front desk says to the store and to the inventory while it confirms or cancels a booking,
whatever they reply. `Confirms` and `Cancels` list the ways that this can go, each with its whole
conversation and the answer to the caller; there are no others (`ensures_confirm`, `ensures_cancel`).
From the two lists it is read that a confirmation or a cancellation that fails leaves the booking as it
was (`failures_leave_booking`).
-/

namespace BoxOffice.Desk

/-! ### Dealings -/

/-- An exchange with the store or with the inventory. What is said to the surroundings is passed over. -/
def dealing? : Exchange DeskWorld → Option (Exchange DeskWorld)
  | ⟨.inr (.inr _), _⟩ => none
  | x => some x

/-- The store is asked for a booking. -/
def looked (id : BookingId) (reply : Result (Option Booking)) : Exchange DeskWorld :=
  ⟨.inr (.inl (.get id)), reply⟩

/-- The store is asked to change a pending booking. -/
def changed (id : BookingId) (target : BookingStatus) (reply : Result Booking) :
    Exchange DeskWorld :=
  ⟨.inr (.inl (.transition id .pending target)), reply⟩

/-- The inventory is asked to sell what a token holds. -/
def sold (t : Token) (reply : Result Unit) : Exchange DeskWorld :=
  ⟨.inl (.confirm t), reply⟩

/-- The inventory is asked to take back what a token holds. -/
def givenBack (t : Token) (reply : Result Unit) : Exchange DeskWorld :=
  ⟨.inl (.release t), reply⟩

/-- The store is asked to write something. -/
def IsWrite (x : Exchange DeskWorld) : Prop :=
  (∃ draft, x.call = .inr (.inl (.create draft))) ∨
    ∃ id expected target, x.call = .inr (.inl (.transition id expected target))

theorem not_isWrite_looked (id : BookingId) (reply : Result (Option Booking)) :
    ¬ IsWrite (looked id reply) := by
  rintro (⟨_, ⟨⟩⟩ | ⟨_, _, _, ⟨⟩⟩)

theorem not_isWrite_sold (t : Token) (reply : Result Unit) : ¬ IsWrite (sold t reply) := by
  rintro (⟨_, ⟨⟩⟩ | ⟨_, _, _, ⟨⟩⟩)

theorem not_isWrite_givenBack (t : Token) (reply : Result Unit) : ¬ IsWrite (givenBack t reply) := by
  rintro (⟨_, ⟨⟩⟩ | ⟨_, _, _, ⟨⟩⟩)

/-- A service has dealings of a kind. -/
abbrev Deals {α : Type} (s : Service DeskWorld α)
    (Q : List (Exchange DeskWorld) → Result α → Prop) : Prop :=
  s.run.Ensures dealing? Q

theorem unseen_dealing : Surroundings.Unseen DeskWorld dealing? :=
  fun _ possible => ⟨possible, fun _ => rfl⟩

theorem deals_look (id : BookingId) :
    Deals (BookingStore.get id) fun said reply => said = [looked id reply] :=
  ⟨⟨.error ⟨.internal, ""⟩⟩, fun _ => rfl⟩

theorem deals_change (id : BookingId) (target : BookingStatus) :
    Deals (BookingStore.transition id .pending target) fun said reply =>
      said = [changed id target reply] :=
  ⟨⟨.error ⟨.internal, ""⟩⟩, fun _ => rfl⟩

theorem deals_sell (t : Token) :
    Deals (Reservations.askConfirm t) fun said reply => said = [sold t reply] :=
  ⟨⟨.error ⟨.internal, ""⟩⟩, fun _ => rfl⟩

theorem deals_giveBack (t : Token) :
    Deals (Reservations.askRelease t) fun said reply => said = [givenBack t reply] :=
  ⟨⟨.error ⟨.internal, ""⟩⟩, fun _ => rfl⟩

/-- What is counted or written down is passed over. -/
theorem Deals.after_surroundings {α : Type} {p : Service DeskWorld Unit} {k : Unit → Service DeskWorld α}
    {R : List (Exchange DeskWorld) → Result α → Prop}
    (first : Deals p fun said r => said = [] ∧ r = .ok ()) (rest : Deals (k ()) R) :
    Deals (p >>= k) R := by
  refine Service.ensures_bind first ?_ ?_
  · rintro _ _ ⟨_, ⟨⟩⟩
  · rintro _ _ ⟨rfl, _⟩
    exact rest

theorem deals_note (n : Notice) :
    Deals (Surroundings.note n) fun said r => said = [] ∧ r = .ok () :=
  ⟨⟨()⟩, fun _ => ⟨rfl, rfl⟩⟩

theorem deals_count (c : Counter) :
    Deals (Surroundings.count c) fun said r => said = [] ∧ r = .ok () :=
  ⟨⟨()⟩, fun _ => ⟨rfl, rfl⟩⟩

/-- One call with its reply, made again while its error may go away by itself. -/
abbrev Repeats {α : Type} (exchange : Result α → Exchange DeskWorld) :
    Nat → List (Exchange DeskWorld) → Result α → Prop :=
  RetryPolicy.Tries Error.isTransient fun said reply => said = [exchange reply]

theorem deals_retryTransient {α : Type} (policy : RetryPolicy) {call : Service DeskWorld α}
    {exchange : Result α → Exchange DeskWorld}
    (once : Deals call fun said reply => said = [exchange reply]) :
    Deals (retryTransient policy call) (Repeats exchange policy.maxRetries.toNat) :=
  RetryPolicy.ensures_retryAfter unseen_dealing policy once 0 policy.maxRetries.toNat

namespace Repeats

variable {α : Type} {exchange : Result α → Exchange DeskWorld} {n : Nat}
  {said : List (Exchange DeskWorld)} {r : Result α}

/-- The last reply is the outcome. -/
theorem getLast? (h : Repeats exchange n said r) : said.getLast? = some (exchange r) := by
  induction h with
  | answered _ once | refused _ once | exhausted once =>
    subst once
    rfl
  | again once worth rest ih =>
    subst once
    rw [List.getLast?_append, ih]
    rfl

theorem eq_of_mem (h : Repeats exchange n said r) {x : Exchange DeskWorld} (mem : x ∈ said) :
    ∃ reply, x = exchange reply := by
  induction h with
  | answered _ once | refused _ once | exhausted once =>
    subst once
    exact ⟨_, List.mem_singleton.1 mem⟩
  | again once worth rest ih =>
    subst once
    rcases List.mem_append.1 mem with here | later
    · exact ⟨_, List.mem_singleton.1 here⟩
    · exact ih later

end Repeats

/-! ### The parts -/

/-- What comes of a booking that was asked for. -/
def required (id : BookingId) : Result (Option Booking) → Result Booking
  | .ok (some b) => .ok b
  | .ok none => .error (Cause.bookingMissing id).error
  | .error e => .error e

theorem deals_load (id : BookingId) :
    Deals (load id) fun said r => ∃ found, said = [looked id found] ∧ r = required id found := by
  refine Service.ensures_bind (deals_look id) ?_ ?_
  · rintro _ e rfl
    exact ⟨.error e, rfl, rfl⟩
  · rintro _ (_ | b) rfl
    · exact ⟨.ok none, rfl, rfl⟩
    · exact ⟨.ok (some b), rfl, rfl⟩

/-- The ways to settle a booking, with a number of further tries allowed. -/
inductive Settles (id : BookingId) (target : BookingStatus) (n : Nat) :
    List (Exchange DeskWorld) → Result Booking → Prop
  | done {changes : List (Exchange DeskWorld)} (b : Booking)
    (tries : Repeats (changed id target) n changes (.ok b)) : Settles id target n changes (.ok b)
  | failed {changes : List (Exchange DeskWorld)} (e : Error)
    (tries : Repeats (changed id target) n changes (.error e)) (h : e.kind ≠ .conflict) :
    Settles id target n changes (.error e)
  /-- The booking is not pending any more, and what it is now cannot be told. -/
  | lost {changes : List (Exchange DeskWorld)} (e e' : Error) (found : Result (Option Booking))
    (tries : Repeats (changed id target) n changes (.error e)) (h : e.kind = .conflict)
    (untold : required id found = .error e') :
    Settles id target n (changes ++ [looked id found]) (.error e')
  /-- The booking is not pending any more, and is now what it was to become, or is not. -/
  | elsewhere {changes : List (Exchange DeskWorld)} (e : Error) (b : Booking)
    (tries : Repeats (changed id target) n changes (.error e)) (h : e.kind = .conflict) :
    Settles id target n (changes ++ [looked id (.ok (some b))])
      (if b.status = target then .ok b else .error e)

theorem deals_settle (policy : RetryPolicy) (id : BookingId) (target : BookingStatus) :
    Deals (settle policy id target) (Settles id target policy.maxRetries.toNat) := by
  refine Service.ensures_bind (Q := fun said r => ∃ r', r = .ok r' ∧
    Repeats (changed id target) policy.maxRetries.toNat said r') ?_ ?_ ?_
  · exact Service.ensures_outcome
      ((deals_retryTransient policy (deals_change id target)).mono fun said r tries => ⟨r, rfl, tries⟩)
  · rintro _ _ ⟨_, ⟨⟩, _⟩
  rintro changes _ ⟨e | b, ⟨⟩, tries⟩
  · dsimp only
    split
    · next conflict =>
      refine Service.ensures_bind (deals_load id) ?_ ?_
      · rintro _ e' ⟨found, rfl, untold⟩
        exact .lost e e' found tries conflict untold.symm
      · rintro _ b ⟨_ | _ | b, rfl, ⟨⟩⟩
        have told := Settles.elsewhere e b tries conflict
        split
        · next reached =>
          rw [if_pos reached] at told
          simpa [Program.Ensures] using told
        · next missed =>
          rw [if_neg missed] at told
          simpa [Program.Ensures] using told
    · next other =>
      show Settles id target _ (changes ++ []) (.error e)
      rw [List.append_nil]
      exact .failed e tries other
  · show Settles id target _ (changes ++ []) (.ok b)
    rw [List.append_nil]
    exact .done b tries

namespace Settles

variable {id : BookingId} {target : BookingStatus} {n : Nat} {changes : List (Exchange DeskWorld)}
  {r : Result Booking}

/-- The store is asked for a change to the target at least once. -/
theorem changed_mem (h : Settles id target n changes r) :
    ∃ reply, changed id target reply ∈ changes := by
  cases h with
  | done _ tries | failed _ tries => exact ⟨_, List.mem_of_getLast? tries.getLast?⟩
  | lost _ _ _ tries | elsewhere _ _ tries =>
    exact ⟨_, List.mem_append_left _ (List.mem_of_getLast? tries.getLast?)⟩

/-- A booking that is answered has the target's status if every booking that was changed has it. -/
theorem status_eq (h : Settles id target n changes r)
    (right : ∀ b, changed id target (.ok b) ∈ changes → b.status = target) {b : Booking}
    (answered : r = .ok b) : b.status = target := by
  cases h with
  | done b' tries =>
    cases answered
    exact right b (List.mem_of_getLast? tries.getLast?)
  | failed | lost => cases answered
  | elsewhere e b' tries =>
    split at answered
    · next reached =>
      cases answered
      exact reached
    · cases answered

theorem eq_of_mem (h : Settles id target n changes r) {x : Exchange DeskWorld} (mem : x ∈ changes) :
    (∃ reply, x = changed id target reply) ∨ ∃ found, x = looked id found := by
  cases h with
  | done _ tries | failed _ tries => exact .inl (tries.eq_of_mem mem)
  | lost _ _ _ tries | elsewhere _ _ tries =>
    rcases List.mem_append.1 mem with first | last
    · exact .inl (tries.eq_of_mem first)
    · exact .inr ⟨_, List.mem_singleton.1 last⟩

end Settles

/-! ### Confirming -/

/-- The ways to confirm a booking, with a number of further tries allowed. -/
inductive Confirms (id : BookingId) (n : Nat) :
    List (Exchange DeskWorld) → Result Booking → Prop
  /-- There is no booking to confirm, or the store does not tell. -/
  | missing (found : Result (Option Booking)) (e : Error) (h : required id found = .error e) :
    Confirms id n [looked id found] (.error e)
  | already (b : Booking) (h : b.status = .confirmed) :
    Confirms id n [looked id (.ok (some b))] (.ok b)
  | cancelled (b : Booking) (h : b.status = .cancelled) :
    Confirms id n [looked id (.ok (some b))] (.error (Cause.bookingCancelled id).error)
  | bought (b : Booking) (h : b.status = .pending) {changes : List (Exchange DeskWorld)}
    {r : Result Booking} (settles : Settles id .confirmed n changes r) :
    Confirms id n (looked id (.ok (some b)) :: sold b.token (.ok ()) :: changes) r
  /-- The hold is lost. -/
  | lost (b : Booking) (h : b.status = .pending) (e : Error) (conflict : e.kind = .conflict)
    {changes : List (Exchange DeskWorld)} {r : Result Booking}
    (settles : Settles id .cancelled n changes r) :
    Confirms id n (looked id (.ok (some b)) :: sold b.token (.error e) :: changes) (.error e)
  | refused (b : Booking) (h : b.status = .pending) (e : Error) (other : e.kind ≠ .conflict) :
    Confirms id n [looked id (.ok (some b)), sold b.token (.error e)] (.error e)

theorem ensures_confirm (policy : RetryPolicy) (id : BookingId) :
    Deals (confirm policy id) (Confirms id policy.maxRetries.toNat) := by
  refine Service.ensures_bind (deals_load id) ?_ ?_
  · rintro _ e ⟨found, rfl, missing⟩
    exact .missing found e missing.symm
  rintro _ b ⟨_ | _ | _, rfl, ⟨⟩⟩
  cases status : b.status with
  | confirmed => exact .already b status
  | cancelled => exact .cancelled b status
  | pending =>
    refine Service.ensures_bind (Q := fun said r => ∃ r', r = .ok r' ∧ said = [sold b.token r'])
      ?_ ?_ ?_
    · exact Service.ensures_outcome
        ((deals_sell b.token).mono fun said r sells => ⟨r, rfl, sells⟩)
    · rintro _ _ ⟨_, ⟨⟩, _⟩
    rintro _ _ ⟨e | _, ⟨⟩, rfl⟩
    · dsimp only
      split
      · next conflict =>
        refine (deals_note _).after_surroundings ?_
        -- whatever becomes of the cancellation, the error of the sale is the answer
        refine Service.ensures_bind (Q := fun changes r => ∃ r', r = .ok r' ∧
          Settles id .cancelled policy.maxRetries.toNat changes r') ?_ ?_ ?_
        · exact Service.ensures_outcome
            ((deals_settle policy id .cancelled).mono fun said r settles => ⟨r, rfl, settles⟩)
        · rintro _ _ ⟨_, ⟨⟩, _⟩
        rintro changes _ ⟨e' | b', ⟨⟩, settles⟩
        · refine (deals_note _).after_surroundings ?_
          show Confirms id _ (_ :: _ :: (changes ++ [])) (.error e)
          rw [List.append_nil]
          exact .lost b status e conflict settles
        · refine (deals_count _).after_surroundings ?_
          show Confirms id _ (_ :: _ :: (changes ++ [])) (.error e)
          rw [List.append_nil]
          exact .lost b status e conflict settles
      · next other => exact .refused b status e other
    · refine Service.ensures_bind (deals_settle policy id .confirmed) ?_ ?_
      · exact fun changes e settles => .bought b status settles
      · intro changes b' settles
        refine (deals_count _).after_surroundings ((deals_note _).after_surroundings ?_)
        show Confirms id _ (_ :: _ :: (changes ++ [])) (.ok b')
        rw [List.append_nil]
        exact .bought b status settles

/-! ### Cancelling -/

/-- The ways to cancel a booking, with a number of further tries allowed. -/
inductive Cancels (id : BookingId) (n : Nat) :
    List (Exchange DeskWorld) → Result Booking → Prop
  /-- There is no booking to cancel, or the store does not tell. -/
  | missing (found : Result (Option Booking)) (e : Error) (h : required id found = .error e) :
    Cancels id n [looked id found] (.error e)
  | already (b : Booking) (h : b.status = .cancelled) :
    Cancels id n [looked id (.ok (some b))] (.ok b)
  | confirmed (b : Booking) (h : b.status = .confirmed) :
    Cancels id n [looked id (.ok (some b))] (.error (Cause.bookingConfirmed id).error)
  | released (b : Booking) (h : b.status = .pending) {gives changes : List (Exchange DeskWorld)}
    {r : Result Booking} (gaveBack : Repeats (givenBack b.token) n gives (.ok ()))
    (settles : Settles id .cancelled n changes r) :
    Cancels id n (looked id (.ok (some b)) :: gives ++ changes) r
  /-- What the booking holds cannot be given back. -/
  | kept (b : Booking) (h : b.status = .pending) {gives : List (Exchange DeskWorld)} (e : Error)
    (failed : Repeats (givenBack b.token) n gives (.error e)) :
    Cancels id n (looked id (.ok (some b)) :: gives) (.error e)

theorem ensures_cancel (policy : RetryPolicy) (id : BookingId) :
    Deals (cancel policy id) (Cancels id policy.maxRetries.toNat) := by
  refine Service.ensures_bind (deals_load id) ?_ ?_
  · rintro _ e ⟨found, rfl, missing⟩
    exact .missing found e missing.symm
  rintro _ b ⟨_ | _ | _, rfl, ⟨⟩⟩
  cases status : b.status with
  | cancelled => exact .already b status
  | confirmed => exact .confirmed b status
  | pending =>
    refine Service.ensures_bind (deals_retryTransient policy (deals_giveBack b.token)) ?_ ?_
    · exact fun gives e failed => .kept b status e failed
    rintro gives ⟨⟩ gaveBack
    refine Service.ensures_bind (deals_settle policy id .cancelled) ?_ ?_
    · intro changes e settles
      exact (.released b status gaveBack settles :
        Cancels id _ (looked id (.ok (some b)) :: gives ++ changes) (.error e))
    · intro changes b' settles
      refine (deals_count _).after_surroundings ((deals_note _).after_surroundings ?_)
      show Cancels id _ ((_ :: gives) ++ (changes ++ [])) (.ok b')
      rw [List.append_nil]
      exact .released b status gaveBack settles

/-! ### Failures -/

/-- What is promised of a conversation in which a booking is confirmed, and of its answer. -/
structure ConfirmKeeps (id : BookingId) (said : List (Exchange DeskWorld)) (r : Result Booking) :
    Prop where
  /-- First the booking is looked up. Unless it is there and pending, this is all. -/
  notPending : ∃ found more, said = looked id found :: more ∧
    ((∀ b, found = .ok (some b) → b.status ≠ .pending) → more = [])
  /-- A sale that is refused for any other reason than a conflict ends it. -/
  refused : ∀ t e, sold t (.error e) ∈ said → e.kind ≠ .conflict →
    r = .error e ∧ ∀ x ∈ said, ¬ IsWrite x
  /-- A conflict is answered, whatever becomes of the booking that is to be cancelled. -/
  lost : ∀ t e, sold t (.error e) ∈ said → e.kind = .conflict →
    r = .error e ∧ ∃ reply, changed id .cancelled reply ∈ said
  /-- A booking is answered only when it is confirmed, if the store changes bookings as it should. -/
  confirmed : (∀ target b, changed id target (.ok b) ∈ said → b.status = target) →
    ∀ b, r = .ok b → b.status = .confirmed

/-- What the inventory replies when it is asked to take something back, in order. -/
def releases (said : List (Exchange DeskWorld)) : List (Result Unit) :=
  said.filterMap fun
    | ⟨.inl (.release _), reply⟩ => some reply
    | _ => none

/-- What is promised of a conversation in which a booking is cancelled, and of its answer. -/
structure CancelKeeps (id : BookingId) (said : List (Exchange DeskWorld)) (r : Result Booking) :
    Prop where
  /-- First the booking is looked up. Unless it is there and pending, this is all. -/
  notPending : ∃ found more, said = looked id found :: more ∧
    ((∀ b, found = .ok (some b) → b.status ≠ .pending) → more = [])
  /-- If the last attempt to give back what the booking holds fails, that ends it. -/
  kept : ∀ e, (releases said).getLast? = some (.error e) → r = .error e ∧ ∀ x ∈ said, ¬ IsWrite x
  /-- A booking is answered only when it is cancelled, if the store changes bookings as it should. -/
  cancelled : (∀ target b, changed id target (.ok b) ∈ said → b.status = target) →
    ∀ b, r = .ok b → b.status = .cancelled

section Keeps

variable {id : BookingId} {n : Nat} {said : List (Exchange DeskWorld)} {r : Result Booking}

/-- Nothing that is said while a booking is settled is said to the inventory. -/
theorem Settles.not_mem_of_inventory {target : BookingStatus} {changes : List (Exchange DeskWorld)}
    (h : Settles id target n changes r) (c : Reservations.Call) (reply : Reservations.Reply c) :
    (⟨.inl c, reply⟩ : Exchange DeskWorld) ∉ changes := by
  intro mem
  rcases h.eq_of_mem mem with ⟨_, ⟨⟩⟩ | ⟨_, ⟨⟩⟩

/-- First the booking is looked up, and unless it is there and pending this is all. -/
theorem Confirms.looks (h : Confirms id n said r) :
    ∃ found more, said = looked id found :: more ∧
      ((∀ b, found = .ok (some b) → b.status ≠ .pending) → more = []) := by
  cases h with
  | missing | already | cancelled => exact ⟨_, [], rfl, fun _ => rfl⟩
  | bought b status | lost b status | refused b status =>
    exact ⟨_, _, rfl, fun decided => absurd status (decided b rfl)⟩

/-- The error of a sale is the answer. It is followed by a cancellation if the hold is lost, and by
nothing otherwise. -/
theorem Confirms.error_of_sold (h : Confirms id n said r) {t : Token} {e : Error}
    (mem : sold t (.error e) ∈ said) :
    r = .error e ∧ (e.kind = .conflict → ∃ reply, changed id .cancelled reply ∈ said) ∧
      (e.kind ≠ .conflict → ∀ x ∈ said, ¬ IsWrite x) := by
  have not_looked (id : BookingId) (found : Result (Option Booking)) :
      sold t (.error e) ≠ looked id found := nofun
  cases h with
  | missing | already | cancelled => cases List.mem_singleton.1 mem
  | bought b status settles =>
    rcases List.mem_cons.1 (List.mem_of_ne_of_mem (not_looked _ _) mem) with same | mem
    · cases same
    · exact absurd mem (settles.not_mem_of_inventory _ _)
  | lost b status e conflict settles =>
    obtain ⟨reply, tried⟩ := settles.changed_mem
    rcases List.mem_cons.1 (List.mem_of_ne_of_mem (not_looked _ _) mem) with same | mem
    · cases same
      exact ⟨rfl, fun _ => ⟨reply, by simp [tried]⟩, fun other => absurd conflict other⟩
    · exact absurd mem (settles.not_mem_of_inventory _ _)
  | refused b status e other =>
    cases List.mem_singleton.1 (List.mem_of_ne_of_mem (not_looked _ _) mem)
    refine ⟨rfl, fun conflict => absurd conflict other, fun _ x said => ?_⟩
    rcases List.mem_cons.1 said with rfl | said
    · exact not_isWrite_looked _ _
    · rw [List.mem_singleton.1 said]
      exact not_isWrite_sold _ _

theorem Confirms.status_eq (h : Confirms id n said r)
    (right : ∀ target b, changed id target (.ok b) ∈ said → b.status = target) {b : Booking}
    (answered : r = .ok b) : b.status = .confirmed := by
  cases h with
  | missing | cancelled | lost | refused => cases answered
  | already b' status =>
    cases answered
    exact status
  | bought b' status settles =>
    exact settles.status_eq (fun b mem => right _ b (by simp [mem])) answered

theorem Confirms.keeps (h : Confirms id n said r) : ConfirmKeeps id said r where
  notPending := h.looks
  refused _ _ mem other := ⟨(h.error_of_sold mem).1, (h.error_of_sold mem).2.2 other⟩
  lost _ _ mem conflict := ⟨(h.error_of_sold mem).1, (h.error_of_sold mem).2.1 conflict⟩
  confirmed right _ := h.status_eq right

/-- First the booking is looked up, and unless it is there and pending this is all. -/
theorem Cancels.looks (h : Cancels id n said r) :
    ∃ found more, said = looked id found :: more ∧
      ((∀ b, found = .ok (some b) → b.status ≠ .pending) → more = []) := by
  cases h with
  | missing | already | confirmed => exact ⟨_, [], rfl, fun _ => rfl⟩
  | released b status | kept b status =>
    exact ⟨_, _, rfl, fun decided => absurd status (decided b rfl)⟩

theorem Repeats.releases {t : Token} {gives : List (Exchange DeskWorld)} {outcome : Result Unit}
    (h : Repeats (givenBack t) n gives outcome) : (releases gives).getLast? = some outcome := by
  induction h with
  | answered _ once | refused _ once | exhausted once =>
    subst once
    rfl
  | again once worth rest ih =>
    subst once
    rw [Desk.releases, List.filterMap_append, List.getLast?_append]
    rw [Desk.releases] at ih
    rw [ih]
    rfl

theorem Settles.releases {target : BookingStatus} {changes : List (Exchange DeskWorld)}
    (h : Settles id target n changes r) : releases changes = [] := by
  refine List.filterMap_eq_nil_iff.2 fun x mem => ?_
  rcases h.eq_of_mem mem with ⟨_, rfl⟩ | ⟨_, rfl⟩ <;> rfl

/-- If the booking's hold cannot be given back, the last failure is the answer. -/
theorem Cancels.error_of_releases (h : Cancels id n said r) {e : Error}
    (last : (releases said).getLast? = some (.error e)) :
    r = .error e ∧ ∀ x ∈ said, ¬ IsWrite x := by
  cases h with
  | missing | already | confirmed => cases last
  | released b status gaveBack settles =>
    rw [Desk.releases, List.cons_append, List.filterMap_cons_none rfl, List.filterMap_append] at last
    have gave := gaveBack.releases
    have silent := settles.releases
    rw [Desk.releases] at gave silent
    rw [silent, List.append_nil, gave] at last
    cases last
  | kept b status e' failed =>
    rw [Desk.releases, List.filterMap_cons_none rfl] at last
    have fails := failed.releases
    rw [Desk.releases] at fails
    cases fails.symm.trans last
    refine ⟨rfl, fun x mem => ?_⟩
    rcases List.mem_cons.1 mem with rfl | mem
    · exact not_isWrite_looked _ _
    · obtain ⟨reply, rfl⟩ := failed.eq_of_mem mem
      exact not_isWrite_givenBack _ _

theorem Cancels.status_eq (h : Cancels id n said r)
    (right : ∀ target b, changed id target (.ok b) ∈ said → b.status = target) {b : Booking}
    (answered : r = .ok b) : b.status = .cancelled := by
  cases h with
  | missing | confirmed | kept => cases answered
  | already b' status =>
    cases answered
    exact status
  | released b' status gaveBack settles =>
    exact settles.status_eq (fun b mem => right _ b (by simp [mem])) answered

theorem Cancels.keeps (h : Cancels id n said r) : CancelKeeps id said r where
  notPending := h.looks
  kept _ last := h.error_of_releases last
  cancelled right _ := h.status_eq right

end Keeps

/-- **Confirmations and cancellations that fail leave the booking as it was**, whatever the store and
the inventory reply. -/
theorem failures_leave_booking (policy : RetryPolicy) (id : BookingId) (E : Environment DeskWorld)
    (before : List (Exchange DeskWorld)) :
    (∃ said r, (confirm policy id).run.converse E before = (said, some r) ∧
      ConfirmKeeps id (said.filterMap dealing?) r) ∧
    ∃ said r, (cancel policy id).run.converse E before = (said, some r) ∧
      CancelKeeps id (said.filterMap dealing?) r := by
  constructor
  · exact Program.Ensures.converse
      ((ensures_confirm policy id).mono fun said r confirms => confirms.keeps) E before
  · exact Program.Ensures.converse
      ((ensures_cancel policy id).mono fun said r cancels => cancels.keeps) E before

end BoxOffice.Desk
