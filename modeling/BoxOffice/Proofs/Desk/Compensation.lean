import BoxOffice.Proofs.Bookings
import BoxOffice.Proofs.Desk.Phases

/-!
# Giving back what is booked

Many bookings are under way before one store, which may fail; their calls to the inventory and to the
surroundings are answered in any way at all (`Crowd`). A caller whose booking is not stored gives back
what it holds, and the hold may by then be that of a booking which another caller stored. `Threatened`
says that this is about to happen, `Breaks` how it comes about: the store fails where it has the booking
already, when the booking is to be stored or when the refused caller looks for it, or it stores the
booking of a hold that somebody is about to give back. Nothing else does harm, and each of these does
(`compensation_harms_iff_breaks`).
-/

namespace BoxOffice

open Desk

/-- The store has a pending booking of the attempt. -/
def MemoryStore.HasPending (s : MemoryStore) (attempt : HoldId) : Prop :=
  ∃ b ∈ s.bookings.values, b.attempt = attempt ∧ b.status = .pending

instance (s : MemoryStore) (attempt : HoldId) : Decidable (s.HasPending attempt) :=
  inferInstanceAs (Decidable (∃ b ∈ s.bookings.values, _ ∧ _))

/-- The call asks the store to store a booking. -/
def Desk.isCreate : DeskWorld.Call → Bool
  | .inr (.inl (.create _)) => true
  | _ => false

/-- A caller at the front desk. -/
structure Caller where
  /-- It has asked the store to store its booking. -/
  tried : Bool
  /-- What is left of its errand. -/
  left : Program DeskWorld (Result Booking)

/-- The hold that a caller asks the inventory to give back. -/
def Caller.givesBack? (caller : Caller) : Option HoldId :=
  match caller.left with
  | .ask (.inl (.release t)) _ => some t.hold
  | _ => none

/-- A booking store and the callers before it. -/
structure Crowd where
  store : MemoryStore
  callers : List Caller

namespace Crowd

/-- Where the reply to a call comes from. -/
inductive Source
  /-- The store answers; a booking that is stored gets the identifier `fresh`. -/
  | store (fresh : BookingId) (now : Instant)
  /-- The store fails, without effect. -/
  | fault (message : String)
  /-- The inventory or the surroundings answer something. -/
  | outside (reply : (c : DeskWorld.Call) → Option (DeskWorld.Reply c))

/-- Something that happens next. -/
inductive Turn
  | enter (policy : RetryPolicy) (request : BookingRequest)
  /-- The next call of a caller gets a reply. -/
  | proceed (place : Nat) (source : Source)

/-- The crowd before anybody came. -/
def opening (store : MemoryStore) : Crowd where
  store
  callers := []

/-- The reply to a call, if it is one that the source answers, and the store that is left behind. -/
def reply? (c : Crowd) :
    Source → (call : DeskWorld.Call) → Option (DeskWorld.Reply call × MemoryStore)
  | .store fresh now, .inr (.inl call) =>
    if c.store.bookings.contains fresh then none else some (c.store.answer fresh now call)
  | .fault message, .inr (.inl _) => some (.error ⟨.internal, message⟩, c.store)
  | .outside reply, .inl call => (reply (.inl call)).map fun r => (r, c.store)
  | .outside reply, .inr (.inr call) => (reply (.inr (.inr call))).map fun r => (r, c.store)
  | _, _ => none

/-- The crowd after a turn. -/
def turn (c : Crowd) : Turn → Crowd
  | .enter policy request => { c with callers := c.callers ++ [⟨false, Desk.book policy request⟩] }
  | .proceed place source =>
    match c.callers[place]? with
    | some ⟨tried, .ask call next⟩ =>
      match c.reply? source call with
      | some (reply, store) =>
        { store, callers := c.callers.set place ⟨tried || isCreate call, next reply⟩ }
      | none => c
    | _ => c

/-- The crowd after some turns. -/
def run (c : Crowd) (turns : List Turn) : Crowd :=
  turns.foldl turn c

end Crowd

/-- The program gives back the hold next, but for calls to the surroundings. -/
inductive Program.GivesBackNext (hold : HoldId) : Program DeskWorld (Result Booking) → Prop
  | release {t next} (mine : t.hold = hold) : GivesBackNext hold (.ask (.inl (.release t)) next)
  | around {c next} (reply) (later : (next reply).GivesBackNext hold) :
    GivesBackNext hold (.ask (.inr (.inr c)) next)

namespace Crowd

/-- Somebody is about to give back the hold of a pending booking. -/
def Threatened (c : Crowd) : Prop :=
  ∃ caller ∈ c.callers, ∃ hold, caller.left.GivesBackNext hold ∧ c.store.HasPending hold

/-- Somebody asks the inventory to give back the hold of a pending booking. -/
def Harms (c : Crowd) : Prop :=
  ∃ caller ∈ c.callers, ∃ hold ∈ caller.givesBack?, c.store.HasPending hold

instance (c : Crowd) : Decidable c.Harms :=
  inferInstanceAs (Decidable (∃ caller ∈ c.callers, _))

/-- Nothing happens but that a call to the surroundings gets a reply. -/
def Turn.IsQuiet : Turn → Prop
  | .proceed _ (.outside reply) => ∀ c, reply (.inl c) = none
  | _ => False

/-- The caller at a place is about to make a call. -/
def Asks (c : Crowd) (place : Nat) (tried : Bool) (call : DeskWorld.Call) : Prop :=
  ∃ next, c.callers[place]? = some ⟨tried, .ask call next⟩

/-- **The ways in which a stored booking comes to be threatened.** -/
inductive Breaks (c : Crowd) : Turn → Prop
  /-- The store fails to store a booking whose attempt has one. -/
  | notStored {place tried draft message} (asks : c.Asks place tried (.inr (.inl (.create draft))))
      (stored : c.store.HasPending draft.attempt) : Breaks c (.proceed place (.fault message))
  /-- The store fails when a caller that was refused looks for the booking that the attempt has. -/
  | notFound {place attempt message} (asks : c.Asks place true (.inr (.inl (.findByAttempt attempt))))
      (stored : c.store.HasPending attempt) : Breaks c (.proceed place (.fault message))
  /-- A booking is stored while somebody else is about to give its hold back. -/
  | late {place tried draft fresh now other}
      (asks : c.Asks place tried (.inr (.inl (.create draft))))
      (lacks : c.store.Lacks fresh) (new : c.store.byAttempt.get? draft.attempt = none)
      (there : other ∈ c.callers) (gives : other.left.GivesBackNext draft.attempt) :
      Breaks c (.proceed place (.store fresh now))

end Crowd

/-! ### Phases -/

namespace Desk

/-- Whether the booking was to be stored already, as the phase says. -/
def Phase.Fits (tried : Bool) : Phase → Prop
  | .looking | .asking | .holding _ => tried = false
  | .refused _ _ => tried = true
  | _ => True

theorem Phase.Fits.next {request : BookingRequest} {s : Phase} {call : DeskWorld.Call} {tried : Bool}
    (fits : s.Fits tried) (allows : Phase.Allows request s call) (reply : DeskWorld.Reply call) :
    (s.next call reply).Fits (tried || isCreate call) := by
  cases allows with
  | look =>
    rcases reply with e | _ | b
    · trivial
    · exact (Bool.or_false tried).trans fits
    · trivial
  | ask =>
    rcases reply with e | t
    · trivial
    · exact (Bool.or_false tried).trans fits
  | store t =>
    rcases reply with e | b
    · show (Phase.afterStore t (.error e)).Fits _
      unfold Phase.afterStore
      dsimp only
      split
      · exact Bool.or_true tried
      · trivial
    · trivial
  | lookAgain t cause => rcases reply with _ | _ | b <;> trivial
  | lament | giveBack | giveBackAgain | giving | closed => trivial

variable {request : BookingRequest} {p : Program DeskWorld (Result Booking)} {s : Phase}

/-- Whoever is to give back what it holds has no other way on. -/
theorem givesBackNext_of_failing {t : Token} {cause : Error}
    (follows : p.Follows (protocol request) Phase.Ends (.failing t cause)) :
    p.GivesBackNext t.hold := by
  induction p with
  | done a => cases follows
  | ask c k ih =>
    obtain ⟨allows, rest⟩ := follows
    cases allows with
    | giveBack => exact .release rfl
    | lament => exact .around () (ih () (rest ()))

/-- Only those give back next whose booking was not stored. -/
theorem phase_of_givesBackNext {hold : HoldId}
    (follows : p.Follows (protocol request) Phase.Ends s) (gives : p.GivesBackNext hold) :
    ∃ t cause, (s = .failing t cause ∨ s = .giving t cause) ∧ t.hold = hold := by
  induction gives generalizing s with
  | @release t next mine =>
    cases follows.1 with
    | giveBack _ cause => exact ⟨t, cause, .inl rfl, mine⟩
    | giveBackAgain _ cause => exact ⟨t, cause, .inr rfl, mine⟩
  | around reply later ih =>
    obtain ⟨allows, rest⟩ := follows
    have same := ih (rest reply)
    cases allows with
    | lament | giving | closed => exact same

end Desk

namespace Crowd

/-! ### What every turn keeps -/

/-- The callers follow the protocol of booking, and the store is in order. -/
structure Orderly (c : Crowd) : Prop where
  sound : c.store.Sound
  callers : ∀ caller ∈ c.callers, ∃ request s,
    caller.left.Follows (protocol request) Phase.Ends s ∧ s.Fits caller.tried

theorem orderly_opening {store : MemoryStore} (sound : store.Sound) : (opening store).Orderly where
  sound := sound
  callers := nofun

/-- A turn leaves the crowd as it was, or somebody comes, or a caller goes on with a reply. -/
theorem turn_cases (c : Crowd) (m : Turn) :
    c.turn m = c ∨
    (∃ policy request, m = .enter policy request ∧
      c.turn m = { c with callers := c.callers ++ [⟨false, Desk.book policy request⟩] }) ∨
    (∃ place source tried call next reply store, m = .proceed place source ∧
      c.callers[place]? = some ⟨tried, .ask call next⟩ ∧
      c.reply? source call = some (reply, store) ∧
      c.turn m = ⟨store, c.callers.set place ⟨tried || isCreate call, next reply⟩⟩) := by
  cases m with
  | enter policy request => exact .inr (.inl ⟨policy, request, rfl, rfl⟩)
  | proceed place source =>
    simp only [turn]
    split
    · next tried call next there =>
      cases replied : c.reply? source call with
      | none => exact .inl rfl
      | some r =>
        exact .inr (.inr ⟨place, source, tried, call, next, r.1, r.2, rfl, there, replied, rfl⟩)
    · exact .inl rfl

/-- A reply changes the store only if it stores a booking. -/
theorem reply?_cases {c : Crowd} {source : Source} {call : DeskWorld.Call}
    {reply : DeskWorld.Reply call} {store : MemoryStore}
    (replied : c.reply? source call = some (reply, store)) :
    store = c.store ∨ ∃ fresh now call', source = .store fresh now ∧ call = .inr (.inl call') ∧
      c.store.Lacks fresh ∧ store = (c.store.answer fresh now call').2 := by
  rcases call with call | call | call <;> cases source <;>
    simp only [reply?, reduceCtorEq, Option.map_eq_some_iff, Prod.mk.injEq,
      Option.some.injEq] at replied
  · obtain ⟨_, -, -, rfl⟩ := replied
    exact .inl rfl
  · split at replied
    · cases replied
    · next fresh now free =>
      exact .inr ⟨fresh, now, call, rfl, rfl, MemoryStore.lacks_iff.2 free,
        (congrArg Prod.snd (Option.some.inj replied)).symm⟩
  · exact .inl (congrArg Prod.snd replied).symm
  · obtain ⟨_, -, -, rfl⟩ := replied
    exact .inl rfl

theorem Orderly.turn {c : Crowd} (h : c.Orderly) (m : Turn) : (c.turn m).Orderly := by
  rcases c.turn_cases m with same | ⟨policy, request, -, e⟩ |
    ⟨place, source, tried, call, next, reply, store, -, there, replied, e⟩
  · rwa [same]
  · rw [e]
    refine ⟨h.sound, fun caller mem => ?_⟩
    rcases List.mem_append.1 mem with old | new
    · exact h.callers caller old
    · obtain rfl := List.mem_singleton.1 new
      refine ⟨_, .start request, follows_book policy request, ?_⟩
      unfold Phase.start
      split
      · trivial
      · rfl
  · rw [e]
    refine ⟨?_, fun caller mem => ?_⟩
    · rcases reply?_cases replied with same | ⟨fresh, now, call', -, -, -, answered⟩
      · exact same ▸ h.sound
      · exact answered ▸ h.sound.answer fresh now call'
    · rcases List.mem_or_eq_of_mem_set mem with old | rfl
      · exact h.callers caller old
      · obtain ⟨request, s, ⟨allows, rest⟩, fits⟩ := h.callers _ (List.mem_of_getElem? there)
        exact ⟨request, s.next call reply, rest reply, fits.next allows reply⟩

theorem Orderly.run {c : Crowd} (h : c.Orderly) (turns : List Turn) : (c.run turns).Orderly := by
  induction turns generalizing c with
  | nil => exact h
  | cons m turns ih => exact ih (h.turn m)

/-! ### How a booking comes to be threatened -/

variable {c : Crowd}

/-- A booking that is stored is pending; the others stay. -/
theorem hasPending_of_create {s : MemoryStore} {fresh : BookingId} {now : Instant}
    {draft : BookingDraft} {hold : HoldId}
    (pending : (s.create fresh now draft).2.HasPending hold) :
    s.HasPending hold ∨ (s.byAttempt.get? draft.attempt = none ∧ hold = draft.attempt) := by
  rcases s.create_cases fresh now draft with ⟨-, e⟩ | ⟨new, e⟩
  · rw [e] at pending
    exact .inl pending
  · rw [e] at pending
    obtain ⟨b, mem, attempt, status⟩ := pending
    obtain ⟨id, there⟩ := Registry.mem_values.1 mem
    rw [Registry.get?_set] at there
    split at there
    · obtain rfl := Option.some.inj there
      exact .inr ⟨new, attempt.symm⟩
    · exact .inl ⟨b, Registry.mem_values.2 ⟨id, there⟩, attempt, status⟩

/-- What the store may reply to a booking that is to be stored. -/
theorem reply?_create {source : Source} {draft : BookingDraft} {reply : Result Booking}
    {store : MemoryStore}
    (replied : c.reply? source (.inr (.inl (.create draft))) = some (reply, store)) :
    (∃ message, source = .fault message ∧ reply = .error ⟨.internal, message⟩ ∧ store = c.store) ∨
    (∃ fresh now, source = .store fresh now ∧ c.store.Lacks fresh ∧
      c.store.create fresh now draft = (reply, store)) := by
  cases source with
  | outside reply => cases replied
  | fault message =>
    obtain ⟨rfl, rfl⟩ := Prod.mk.inj (Option.some.inj replied)
    exact .inl ⟨message, rfl, rfl, rfl⟩
  | store fresh now =>
    simp only [reply?] at replied
    split at replied
    · cases replied
    · next free =>
      exact .inr ⟨fresh, now, rfl, MemoryStore.lacks_iff.2 free, Option.some.inj replied⟩

/-- What the store may reply to a caller that looks for the booking of an attempt. -/
theorem reply?_find {source : Source} {attempt : HoldId} {reply : Result (Option Booking)}
    {store : MemoryStore}
    (replied : c.reply? source (.inr (.inl (.findByAttempt attempt))) = some (reply, store)) :
    store = c.store ∧ ((∃ message, source = .fault message) ∨
      reply = .ok (c.store.findByAttempt? attempt)) := by
  cases source with
  | outside reply => cases replied
  | fault message =>
    obtain ⟨-, rfl⟩ := Prod.mk.inj (Option.some.inj replied)
    exact ⟨rfl, .inl ⟨message, rfl⟩⟩
  | store fresh now =>
    simp only [reply?] at replied
    split at replied
    · cases replied
    · obtain ⟨rfl, rfl⟩ := Prod.mk.inj (Option.some.inj replied)
      exact ⟨rfl, .inr rfl⟩

/-- Nobody who comes threatens a booking. -/
theorem threatened_of_enter {policy : RetryPolicy} {request : BookingRequest}
    (threatened : (c.turn (.enter policy request)).Threatened) : c.Threatened := by
  obtain ⟨caller, mem, hold, gives, pending⟩ := threatened
  rcases List.mem_append.1 mem with old | new
  · exact ⟨caller, old, hold, gives, pending⟩
  · obtain rfl := List.mem_singleton.1 new
    obtain ⟨t, cause, phase, -⟩ := phase_of_givesBackNext (follows_book policy request) gives
    unfold Phase.start at phase
    split at phase <;> rcases phase with phase | phase <;> cases phase

section Proceed

variable (h : c.Orderly) {place : Nat} {source : Source} {tried : Bool} {call : DeskWorld.Call}
  {next : DeskWorld.Reply call → Program DeskWorld (Result Booking)} {reply : DeskWorld.Reply call}
  {store : MemoryStore} (there : c.callers[place]? = some ⟨tried, .ask call next⟩)
  (replied : c.reply? source call = some (reply, store)) {hold : HoldId}
  (pending : store.HasPending hold)

include h there replied pending

/-- A booking is threatened by a caller that does not go on: it was before, unless the booking was
just stored. -/
theorem Orderly.proceed_other {caller : Caller} (mem : caller ∈ c.callers)
    (gives : caller.left.GivesBackNext hold) :
    c.Threatened ∨ c.Breaks (.proceed place source) := by
  have unchanged (same : store = c.store) : c.Threatened :=
    ⟨caller, mem, hold, gives, same ▸ pending⟩
  obtain ⟨request, s, ⟨allows, -⟩, -⟩ := h.callers _ (List.mem_of_getElem? there)
  rcases reply?_cases replied with same | ⟨fresh, now, call', rfl, rfl, lacks, answered⟩
  · exact .inl (unchanged same)
  cases allows with
  | look | lookAgain => exact .inl (unchanged answered)
  | store t =>
    rw [answered] at pending
    rcases hasPending_of_create pending with before | ⟨new, rfl⟩
    · exact .inl ⟨caller, mem, hold, gives, before⟩
    · exact .inr (.late ⟨next, there⟩ lacks new mem gives)

/-- A booking is threatened by the caller that goes on: it was before, unless the store failed. -/
theorem Orderly.proceed_self (gives : (next reply).GivesBackNext hold) :
    c.Threatened ∨ c.Breaks (.proceed place source) := by
  have mem := List.mem_of_getElem? there
  obtain ⟨request, s, ⟨allows, rest⟩, fits⟩ := h.callers _ mem
  obtain ⟨t, cause, phase, rfl⟩ := phase_of_givesBackNext (rest reply) gives
  cases allows with
  | look => rcases reply with e | _ | b <;> rcases phase with phase | phase <;> cases phase
  | ask => rcases reply with e | t <;> rcases phase with phase | phase <;> cases phase
  | closed => rcases phase with phase | phase <;> cases phase
  | lament _ _ entry | giving _ _ c =>
    rcases reply?_cases replied with same | ⟨_, _, _, _, absurd, -⟩
    · exact .inl ⟨_, mem, _, .around reply gives, same ▸ pending⟩
    · cases absurd
  | giveBack | giveBackAgain =>
    rcases phase with phase | phase <;> cases phase
    rcases reply?_cases replied with same | ⟨_, _, _, _, absurd, -⟩
    · exact .inl ⟨_, mem, _, .release rfl, same ▸ pending⟩
    · cases absurd
  | store t' =>
    rcases reply?_create replied with ⟨message, rfl, rfl, rfl⟩ | ⟨fresh, now, rfl, -, created⟩
    · rcases phase with phase | phase <;> cases phase
      exact .inr (.notStored ⟨next, there⟩ pending)
    -- the store refused, so it is asked again, or it stored the booking, so all is well
    · rcases c.store.create_cases fresh now (BookingDraft.ofToken t' request.user) with
        ⟨-, e⟩ | ⟨-, e⟩
      · cases e.symm.trans created
        rcases phase with phase | phase <;> cases phase
      · cases e.symm.trans created
        rcases phase with phase | phase <;> cases phase
  | lookAgain t' cause' =>
    obtain rfl : tried = true := fits
    obtain ⟨rfl, ⟨message, rfl⟩ | rfl⟩ := reply?_find replied
    · have same : t' = t := by
        rcases reply with _ | _ | b <;> rcases phase with phase | phase <;> cases phase <;> rfl
      exact .inr (.notFound ⟨next, there⟩ (same ▸ pending))
    · replace phase : Phase.afterLookAgain t' cause' (.ok (c.store.findByAttempt? t'.hold)) =
          .failing t cause ∨ Phase.afterLookAgain t' cause' _ = .giving t cause := phase
      -- the store has a pending booking of the attempt, so it would have found it
      obtain ⟨b, mem, attempt, -⟩ := pending
      obtain ⟨id, there⟩ := Registry.mem_values.1 mem
      have found := h.sound.findByAttempt? there
      cases look : c.store.findByAttempt? t'.hold with
      | some b' =>
        rw [look] at phase
        rcases phase with phase | phase <;> cases phase
      | none =>
        rw [look] at phase
        rcases phase with phase | phase <;> cases phase
        rw [attempt, look] at found
        cases found

end Proceed

/-- **Only the ways of `Breaks` threaten a booking.** -/
theorem Orderly.threatened_turn (h : c.Orderly) {m : Turn} (threatened : (c.turn m).Threatened) :
    c.Threatened ∨ c.Breaks m := by
  rcases c.turn_cases m with same | ⟨policy, request, rfl, -⟩ |
    ⟨place, source, tried, call, next, reply, store, rfl, there, replied, e⟩
  · exact .inl (same ▸ threatened)
  · exact .inl (threatened_of_enter threatened)
  · rw [e] at threatened
    obtain ⟨caller, mem, hold, gives, pending⟩ := threatened
    rcases List.mem_or_eq_of_mem_set mem with old | rfl
    · exact h.proceed_other there replied pending old gives
    · exact h.proceed_self there replied pending gives

/-- A caller that gets a reply goes on with it. -/
theorem turn_proceed {place : Nat} {source : Source} {tried : Bool} {call : DeskWorld.Call}
    {next : DeskWorld.Reply call → Program DeskWorld (Result Booking)} {reply : DeskWorld.Reply call}
    {store : MemoryStore} (there : c.callers[place]? = some ⟨tried, .ask call next⟩)
    (replied : c.reply? source call = some (reply, store)) :
    c.turn (.proceed place source) =
      ⟨store, c.callers.set place ⟨tried || isCreate call, next reply⟩⟩ := by
  simp only [turn, there, replied]

/-- A caller that is to give back the hold of a pending booking once it has got its reply. -/
theorem threatened_proceed {place : Nat} {source : Source} {tried : Bool} {call : DeskWorld.Call}
    {next : DeskWorld.Reply call → Program DeskWorld (Result Booking)} {reply : DeskWorld.Reply call}
    {store : MemoryStore} {hold : HoldId}
    (there : c.callers[place]? = some ⟨tried, .ask call next⟩)
    (replied : c.reply? source call = some (reply, store))
    (gives : (next reply).GivesBackNext hold) (pending : store.HasPending hold) :
    (c.turn (.proceed place source)).Threatened := by
  rw [turn_proceed there replied]
  have inside : place < c.callers.length := (List.getElem?_eq_some_iff.1 there).1
  exact ⟨_, List.mem_of_getElem? (List.getElem?_set_self inside), hold, gives, pending⟩

/-- **Each of them does.** -/
theorem Breaks.threatened {m : Turn} (breaks : c.Breaks m) (h : c.Orderly) :
    (c.turn m).Threatened := by
  cases breaks with
  | @notStored place tried draft message asks stored =>
    obtain ⟨next, there⟩ := asks
    obtain ⟨request, s, ⟨allows, rest⟩, -⟩ := h.callers _ (List.mem_of_getElem? there)
    cases allows with
    | store t =>
      exact threatened_proceed there rfl
        (givesBackNext_of_failing (rest (.error ⟨.internal, message⟩))) stored
  | @notFound place attempt message asks stored =>
    obtain ⟨next, there⟩ := asks
    obtain ⟨request, s, ⟨allows, rest⟩, fits⟩ := h.callers _ (List.mem_of_getElem? there)
    cases allows with
    | look => cases fits
    | lookAgain t cause =>
      exact threatened_proceed there rfl
        (givesBackNext_of_failing (rest (.error ⟨.internal, message⟩))) stored
  | @late place tried draft fresh now other asks lacks new mem gives =>
    obtain ⟨next, there⟩ := asks
    have replied : c.reply? (.store fresh now) (.inr (.inl (.create draft))) =
        some (.ok (Booking.ofDraft fresh draft now),
          { bookings := c.store.bookings.set fresh (Booking.ofDraft fresh draft now)
            byAttempt := c.store.byAttempt.set draft.attempt fresh }) := by
      rcases c.store.create_cases fresh now draft with ⟨taken, -⟩ | ⟨-, e⟩
      · rw [Registry.contains_eq_isSome, new] at taken
        cases taken
      · exact (if_neg (MemoryStore.lacks_iff.1 lacks)).trans (congrArg some e)
    rw [turn_proceed there replied]
    obtain ⟨place', there'⟩ := List.getElem?_of_mem mem
    -- the caller that stores its booking is not the one that gives back
    have elsewhere : place ≠ place' := by
      rintro rfl
      obtain rfl := Option.some.inj (there.symm.trans there')
      cases gives
    refine ⟨other, ?_, draft.attempt, gives, Booking.ofDraft fresh draft now, ?_, rfl, rfl⟩
    · exact List.mem_of_getElem? ((List.getElem?_set_ne elsewhere).trans there')
    · exact Registry.mem_values.2 ⟨fresh, by rw [Registry.get?_set, if_pos rfl]⟩

/-! ### What comes of it -/

theorem Harms.threatened (harms : c.Harms) : c.Threatened := by
  obtain ⟨⟨tried, left⟩, mem, hold, gives, pending⟩ := harms
  refine ⟨_, mem, hold, ?_, pending⟩
  unfold Caller.givesBack? at gives
  dsimp only at gives ⊢
  split at gives
  · exact .release (Option.some.inj gives)
  · cases gives

open Classical in
/-- Whoever is about to give back the hold of a pending booking gets there without another call to the
inventory or the store. -/
theorem harms_of_givesBackNext {hold : HoldId} {p : Program DeskWorld (Result Booking)}
    (gives : p.GivesBackNext hold) {place : Nat} {tried : Bool}
    (there : c.callers[place]? = some ⟨tried, p⟩) (pending : c.store.HasPending hold) :
    ∃ more : List Turn, (∀ m ∈ more, m.IsQuiet) ∧ (c.run more).Harms := by
  induction gives generalizing c tried with
  | release mine =>
    exact ⟨[], nofun, _, List.mem_of_getElem? there, hold, congrArg some mine, pending⟩
  | @around call next reply later ih =>
    let reply? : (c : DeskWorld.Call) → Option (DeskWorld.Reply c) := fun c =>
      if same : .inr (.inr call) = c then some (same ▸ reply) else none
    have replied : c.reply? (.outside reply?) (.inr (.inr call)) = some (reply, c.store) :=
      congrArg (Option.map _) (dif_pos rfl)
    have inside : place < c.callers.length := (List.getElem?_eq_some_iff.1 there).1
    have moved := turn_proceed there replied
    obtain ⟨more, quiet, harms⟩ := ih (c := c.turn (.proceed place (.outside reply?)))
      (by rw [moved]; exact List.getElem?_set_self inside) (by rw [moved]; exact pending)
    refine ⟨.proceed place (.outside reply?) :: more, fun m mem => ?_, harms⟩
    rcases List.mem_cons.1 mem with rfl | later
    · exact fun _ => dif_neg nofun
    · exact quiet m later

/-- If a booking is threatened at the end of a run, but none was at its beginning, something happened on
the way. -/
theorem Orderly.breaks_of_threatened (h : c.Orderly) (unharmed : ¬ c.Threatened)
    {turns : List Turn} (threatened : (c.run turns).Threatened) :
    ∃ before m after, turns = before ++ m :: after ∧ (c.run before).Breaks m := by
  induction turns generalizing c with
  | nil => exact absurd threatened unharmed
  | cons m turns ih =>
    by_cases already : (c.turn m).Threatened
    · exact ⟨[], m, turns, rfl, (h.threatened_turn already).resolve_left unharmed⟩
    · obtain ⟨before, m', after, rfl, breaks⟩ := ih (h.turn m) already threatened
      exact ⟨m :: before, m', after, rfl, breaks⟩

/-- **When compensation takes the hold of a stored booking.** Among any bookings before a store that may
fail, it happens only after one of the ways of `Breaks`; and after each of them it happens, with
nothing but calls to the surroundings in between. -/
theorem compensation_harms_iff_breaks {store : MemoryStore} (sound : store.Sound)
    (turns : List Turn) :
    (((opening store).run turns).Harms →
      ∃ before m after, turns = before ++ m :: after ∧ ((opening store).run before).Breaks m) ∧
    ∀ m, ((opening store).run turns).Breaks m →
      ∃ more : List Turn, (∀ m' ∈ more, m'.IsQuiet) ∧
        ((opening store).run (turns ++ m :: more)).Harms := by
  have orderly := orderly_opening sound
  constructor
  · intro harms
    refine orderly.breaks_of_threatened ?_ harms.threatened
    rintro ⟨caller, nobody, -⟩
    cases nobody
  · intro m breaks
    obtain ⟨caller, mem, hold, gives, pending⟩ := breaks.threatened (orderly.run turns)
    obtain ⟨place, there⟩ := List.getElem?_of_mem mem
    obtain ⟨more, quiet, harms⟩ := harms_of_givesBackNext gives there pending
    refine ⟨more, quiet, ?_⟩
    rwa [run, List.foldl_append]

/-! ### A request made twice -/

/-- The inventory gives everybody a place. -/
def generous : (c : DeskWorld.Call) → Option (DeskWorld.Reply c)
  | .inl (.reserve r) => some (.ok ⟨r.hold, r.event, r.category, .stock, .ofParts 1010 0⟩)
  | .inl (.release _) => some (.ok ())
  | .inr (.inr (.record _)) => some ()
  | _ => none

/-- The store answers the caller at a place. -/
def answered (place : Nat) : Turn :=
  .proceed place (.store ⟨.random place⟩ (.ofParts 1000 0))

/-- The store fails the caller at a place. -/
def failed (place : Nat) : Turn :=
  .proceed place (.fault "store unavailable")

/-- The caller at a place is answered by somebody else. -/
def served (place : Nat) : Turn :=
  .proceed place (.outside generous)

/-- A request is made twice, and both makings have the place before either stores a booking. -/
def twice : List Turn :=
  let request : BookingRequest :=
    { attempt := ⟨.random 9⟩, event := ⟨1⟩, category := ⟨20⟩, seatLabel := none, user := ⟨42⟩ }
  [.enter .none request, .enter .none request, answered 0, answered 1, served 0, served 1]

/-- The second making is refused, and the store fails when it looks for the booking of the first. The
hold of that booking is given back, so one of the ways was taken. -/
theorem compensation_harms_refused :
    let turns := twice ++ [answered 0, answered 1, failed 1, served 1]
    MemoryStore.empty.Sound ∧ ((opening .empty).run turns).Harms ∧
      ∃ before m after, turns = before ++ m :: after ∧ ((opening .empty).run before).Breaks m := by
  intro turns
  have harms : ((opening .empty).run turns).Harms := by decide +kernel
  exact ⟨MemoryStore.sound_empty, harms,
    (compensation_harms_iff_breaks MemoryStore.sound_empty _).1 harms⟩

/-- The hold of a stored booking is given back by the making that is refused and then not answered, by
the one whose own booking is not stored, and by the one whose booking was not stored when the other's
was not there yet. -/
theorem compensation_takes_holds :
    ((opening .empty).run (twice ++ [answered 0, answered 1, failed 1, served 1])).Harms ∧
    ((opening .empty).run (twice ++ [answered 0, failed 1, served 1])).Harms ∧
    ((opening .empty).run (twice ++ [failed 0, answered 1, served 0])).Harms := by
  decide +kernel

end Crowd

end BoxOffice
