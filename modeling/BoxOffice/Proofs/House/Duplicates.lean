import BoxOffice.Proofs.Desk.Phases
import BoxOffice.Proofs.House.Floor
import BoxOffice.Proofs.Ledger.Share

/-!
# One request, many times

A request is made again and again, and the calls of all its makings are answered in any order, while
others call the inventory, the reclaimer sweeps and the clock is set (`Rush`). The store never fails
here. Then all makings share one booking and one hold, and none of them gives anything back
(`duplicates_share_one`): whoever is refused by the store finds the booking that was first.
-/

namespace BoxOffice

open Desk

/-- Something that happens while a request is made again and again. -/
inductive Rush
  /-- The request is made once more. -/
  | again
  /-- The next call of one of the makings is answered. -/
  | proceed (place : Nat) (fresh : BookingId)
  | sweep
  | clock (time : Instant)
  /-- Somebody else calls the inventory. -/
  | other (c : Reservations.Call)

/-- Nobody else comes in the name of a hold. -/
def Rush.LeavesAlone (hold : HoldId) : Rush → Prop
  | .other c => c.hold? ≠ some hold
  | _ => True

instance (hold : HoldId) : (r : Rush) → Decidable (r.LeavesAlone hold)
  | .other c => inferInstanceAs (Decidable (c.hold? ≠ some hold))
  | .again | .proceed _ _ | .sweep | .clock _ => .isTrue trivial

/-- The floor after something happened while a request is made again and again. -/
def Floor.rush (request : BookingRequest) (f : Floor) : Rush → Floor
  | .again => f.move (.enter (.book request))
  | .proceed place fresh => f.move (.proceed place fresh none)
  | .sweep => f.move .sweep
  | .clock time => f.move (.clock time)
  | .other c => { f with house.inventory := (f.house.inventory.serve c).2 }

/-- The floor of a house where all this happens from the beginning. -/
def House.rushed (request : BookingRequest) (w : House) (rushes : List Rush) : Floor :=
  rushes.foldl (Floor.rush request) ⟨w, []⟩

/-- What the makings are answered with, if it is a booking. -/
def Floor.booked (f : Floor) : List (Option Booking) :=
  f.errands.map fun
    | .done (.ok b) => some b
    | _ => none

/-- All makings of a request share one booking and one hold, and none is about to give it back. -/
structure Floor.SharesOne (f : Floor) (attempt : HoldId) : Prop where
  stored_once : ∀ id id' b b', f.house.store.bookings.get? id = some b →
    f.house.store.bookings.get? id' = some b' → b.attempt = attempt → b'.attempt = attempt →
    id = id' ∧ b = b'
  answered : ∀ b, some b ∈ f.booked →
    f.house.store.bookings.get? b.id = some b ∧ b.attempt = attempt
  held_once : ∀ share share' : Share, share.hold = attempt → share'.hold = attempt →
    f.house.inventory.ledger.Has share → f.house.inventory.ledger.Has share' → share = share'
  never_released : ∀ place t, ¬ f.Asks place (.inl (.release t))

/-- The reservation that the makings of a request ask for. -/
def BookingRequest.wish (request : BookingRequest) : ReserveRequest :=
  request.normalized.reservation

/-- The share that the makings of a request ask for. -/
def BookingRequest.share (request : BookingRequest) : Share where
  hold := request.attempt
  category := request.category
  label := Reservations.namedSeat request.wish

/-- What is known in a phase of a making, if all goes well. -/
def Desk.Phase.Known (attempt : HoldId) (store : MemoryStore) : Phase → Prop
  | .holding t => t.hold = attempt
  | .refused t _ => t.hold = attempt ∧ ∃ b, store.findByAttempt? attempt = some b
  | .failing _ _ | .giving _ _ => False
  | .closed (.ok b) => store.findByAttempt? attempt = some b
  | _ => True

theorem Desk.Phase.Known.mono {attempt : HoldId} {store store' : MemoryStore} {s : Phase}
    (h : s.Known attempt store)
    (keeps : ∀ b, store.findByAttempt? attempt = some b → store'.findByAttempt? attempt = some b) :
    s.Known attempt store' := by
  cases s with
  | closed answer =>
    cases answer with
    | error e => trivial
    | ok b => exact keeps b h
  | refused t cause =>
    obtain ⟨mine, b, found⟩ := h
    exact ⟨mine, b, keeps b found⟩
  | _ => exact h

/-! ### The ledger -/

namespace Inventory

variable {w : Inventory} {request : BookingRequest}

/-- A request is told to have the share that it asked for, and no other. -/
theorem share_of_granted? (reach : w.ledger.Reachable) {r : ReserveRequest} {share : Share}
    (told : w.granted? ⟨w.stage.now, .call (.reserve r)⟩ = some share) :
    share = ⟨r.hold, r.category, Reservations.namedSeat r⟩ := by
  obtain ⟨a, w', served, way⟩ := serve_reserve reach r
  replace served : (w.atTime w.stage.now).serve (.reserve r) = (a, w') := served
  simp only [granted?, served] at told
  rcases a with b | e | t
  · cases told
  · cases told
  · obtain ⟨-, hold, category, -, label, -⟩ := way.granted
    rw [← hold, ← category, ← label]
    exact (Option.some.inj told).symm

/-- Calls of others and the makings of a request leave its hold with no share but the one that the
request asks for. -/
theorem serve_keeps_share (reach : w.ledger.Reachable) {c : Reservations.Call}
    (own_or_foreign : c = .reserve request.wish ∨ c.hold? ≠ some request.attempt)
    (before : ∀ share : Share, share.hold = request.attempt → w.ledger.Has share →
      share = request.share) :
    ∀ share : Share, share.hold = request.attempt → (w.serve c).2.ledger.Has share →
      share = request.share := by
  intro share mine has
  rcases visit_cases reach ⟨w.stage.now, .call c⟩ with same | ⟨call, after, hold, -, told⟩
  · exact before share mine (same ▸ has)
  · rw [show (w.serve c).2.ledger = w.ledger.after call from after] at has
    rcases MemoryLedger.has_after_cases has with had | gets
    · exact before share mine had
    · rcases own_or_foreign with rfl | foreign
      · exact share_of_granted? reach (told share gets)
      · have named := Ledger.Call.hold?_of_share? gets
        rw [hold, mine] at named
        exact absurd named foreign

theorem serve_places? (reach : w.ledger.Reachable) (c : Reservations.Call) (id : CategoryId) :
    (w.serve c).2.ledger.places? id = w.ledger.places? id := by
  rcases visit_cases reach ⟨w.stage.now, .call c⟩ with same | ⟨call, after, -⟩
  · rw [show (w.serve c).2.ledger = w.ledger from same]
  · rw [show (w.serve c).2.ledger = w.ledger.after call from after]
    exact reach.places?_after call id

end Inventory

/-! ### What the replies say -/

namespace House

/-- A house in order: no hold of the attempt has anything but what the request asks for. -/
structure InOrder (request : BookingRequest) (w : House) : Prop where
  reach : w.inventory.ledger.Reachable
  sound : w.store.Sound
  indexed : w.store.Indexed
  share_eq : ∀ share : Share, share.hold = request.attempt → w.inventory.ledger.Has share →
    share = request.share

/-- After a call the house is in order, no booking of the attempt is forgotten, and the reply leads to a
phase that fits what the store knows then. -/
structure Continues (request : BookingRequest) (w : House) (fresh : BookingId) (s : Phase)
    (c : DeskWorld.Call) : Prop where
  inOrder : (w.answer fresh c).2.InOrder request
  remembers : ∀ b, w.store.findByAttempt? request.attempt = some b →
    (w.answer fresh c).2.store.findByAttempt? request.attempt = some b
  known : ∀ reply, (w.answer fresh c).1 = .ok reply →
    (s.next c reply).Known request.attempt (w.answer fresh c).2.store

variable {request : BookingRequest} {w : House}

namespace InOrder

/-- A call to the inventory by a making or by somebody else leaves the house in order. -/
theorem serve (h : w.InOrder request) {c : Reservations.Call}
    (own_or_foreign : c = .reserve request.wish ∨ c.hold? ≠ some request.attempt) :
    ({ w with inventory := (w.inventory.serve c).2 } : House).InOrder request where
  reach := Inventory.play_reachable _ h.reach
  sound := h.sound
  indexed := h.indexed
  share_eq := Inventory.serve_keeps_share h.reach own_or_foreign h.share_eq

theorem sweep (h : w.InOrder request) :
    ({ w with inventory := w.inventory.sweep.2 } : House).InOrder request := by
  obtain ⟨inventory, swept, after⟩ := w.inventory.sweep_ledger
  rw [swept]
  refine ⟨?_, h.sound, h.indexed, fun share mine has => ?_⟩
  · show inventory.ledger.Reachable
    rw [after]
    exact h.reach.after _
  · replace has : inventory.ledger.Has share := has
    rw [after] at has
    rcases MemoryLedger.has_after_cases has with had | gets
    · exact h.share_eq share mine had
    · cases gets

variable (h : w.InOrder request) (fresh : BookingId)

include h

theorem look : w.Continues request fresh .looking (.inr (.inl (.findByAttempt request.attempt))) where
  inOrder := h
  remembers _ found := found
  known := by
    rintro _ ⟨⟩
    show (Phase.afterLook (.ok (w.store.findByAttempt? request.attempt))).Known _ w.store
    cases found : w.store.findByAttempt? request.attempt with
    | none => trivial
    | some b => exact found

theorem ask : w.Continues request fresh .asking (.inl (.reserve request.wish)) where
  inOrder := h.serve (.inl rfl)
  remembers _ found := found
  known := by
    obtain ⟨a, inventory, served, way⟩ := Inventory.serve_reserve h.reach request.wish
    intro reply replied
    have a_eq : (w.inventory.serve (.reserve request.wish)).1.mapError Halt.breakdown = .ok reply :=
      replied
    rw [served] at a_eq
    rcases a with b | e | t
    · cases a_eq
    · obtain rfl := Except.ok.inj a_eq
      trivial
    · obtain rfl := Except.ok.inj a_eq
      exact way.granted.2.1

/-- A booking of the attempt is stored, or it is refused because there is one already. -/
theorem store {t : Token} (mine : t.hold = request.attempt) (user : UserId) :
    w.Continues request fresh (.holding t) (.inr (.inl (.create (BookingDraft.ofToken t user)))) := by
  by_cases taken : w.store.bookings.contains fresh
  · have same : w.answer fresh (.inr (.inl (.create (BookingDraft.ofToken t user)))) =
        (.error .identifierTaken, w) := if_pos taken
    exact ⟨same ▸ h, fun b found => same ▸ found, fun reply replied => by
      rw [same] at replied
      cases replied⟩
  · have lacks : w.store.Lacks fresh := MemoryStore.lacks_iff.2 taken
    have stored : w.answer fresh (.inr (.inl (.create (BookingDraft.ofToken t user)))) =
        (.ok (w.store.create fresh w.now (BookingDraft.ofToken t user)).1,
          { w with store := (w.store.create fresh w.now (BookingDraft.ofToken t user)).2 }) :=
      if_neg taken
    refine ⟨?_, fun b found => ?_, fun reply replied => ?_⟩
    · rw [stored]
      exact ⟨h.reach, h.sound.answer fresh w.now (.create _), h.indexed.create lacks w.now _,
        h.share_eq⟩
    · rw [stored]
      exact MemoryStore.findByAttempt?_create lacks w.now _ found
    · rw [stored] at replied ⊢
      obtain rfl := Except.ok.inj replied
      have draft : (BookingDraft.ofToken t user).attempt = request.attempt := mine
      rcases w.store.create_cases fresh w.now (BookingDraft.ofToken t user) with
        ⟨exists_already, e⟩ | ⟨-, e⟩
      · rw [e]
        -- the index leads to the booking that was first
        rw [Registry.contains_eq_isSome, Option.isSome_iff_exists] at exists_already
        obtain ⟨id, indexed⟩ := exists_already
        obtain ⟨b, there, attempt⟩ := h.indexed _ id indexed
        refine ⟨mine, b, ?_⟩
        rw [← draft, ← attempt]
        exact h.sound.findByAttempt? there
      · rw [e]
        show MemoryStore.findByAttempt? _ request.attempt = _
        exact (congrArg _ draft.symm).trans (MemoryStore.findByAttempt?_of_create_ok e)

theorem lookAgain {t : Token} {cause : Error}
    (known : (Phase.refused t cause).Known request.attempt w.store) :
    w.Continues request fresh (.refused t cause) (.inr (.inl (.findByAttempt t.hold))) where
  inOrder := h
  remembers _ found := found
  known := by
    obtain ⟨mine, b, found⟩ := known
    rintro _ ⟨⟩
    show (Phase.afterLookAgain t cause (.ok (w.store.findByAttempt? t.hold))).Known _ w.store
    rw [mine, found]
    exact found

theorem around {answer : Result Booking}
    (known : (Phase.closed answer).Known request.attempt w.store) (c : Surroundings.Call) :
    w.Continues request fresh (.closed answer) (.inr (.inr c)) where
  inOrder := ⟨h.reach, h.sound, h.indexed, h.share_eq⟩
  remembers _ found := found
  known _ _ := known

/-- **After every call of a making all goes on in order.** -/
theorem continues {s : Phase} {c : DeskWorld.Call} (allows : Phase.Allows request.normalized s c)
    (known : s.Known request.attempt w.store) : w.Continues request fresh s c := by
  cases allows with
  | look => exact h.look fresh
  | ask => exact h.ask fresh
  | store t => exact h.store fresh known request.user
  | lookAgain t cause => exact h.lookAgain fresh known
  | lament | giveBack | giveBackAgain | giving => exact known.elim
  | closed answer c => exact h.around fresh known c

end InOrder

end House

/-! ### What every step keeps -/

/-- The house is in order, and every making is in a phase that fits what the store knows. -/
structure Floor.Shares (request : BookingRequest) (f : Floor) : Prop where
  inOrder : f.house.InOrder request
  makings : ∀ p ∈ f.errands, ∃ s, p.Follows (protocol request.normalized) Phase.Ends s ∧
    s.Known request.attempt f.house.store

namespace Floor.Shares

variable {request : BookingRequest} {f : Floor}

theorem again (h : f.Shares request) : (f.rush request .again).Shares request where
  inOrder := h.inOrder
  makings := by
    intro p mem
    rcases List.mem_append.1 mem with old | new
    · exact h.makings p old
    · obtain rfl := List.mem_singleton.1 new
      refine ⟨.start request, follows_book f.house.policy request, ?_⟩
      unfold Phase.start
      split <;> trivial

theorem proceed (h : f.Shares request) (place : Nat) (fresh : BookingId) :
    (f.rush request (.proceed place fresh)).Shares request := by
  cases errand : f.errands[place]? with
  | none =>
    have same : f.rush request (.proceed place fresh) = f := by simp only [rush, move, errand]
    rwa [same]
  | some p =>
  cases p with
  | done answer =>
    have same : f.rush request (.proceed place fresh) = f := by simp only [rush, move, errand]
    rwa [same]
  | ask c next =>
  obtain ⟨s, ⟨allows, rest⟩, known⟩ := h.makings _ (List.mem_of_getElem? errand)
  have continues := h.inOrder.continues fresh allows known
  have unfailing : f.house.answerUnless none fresh c = f.house.answer fresh c := by
    rcases c with c | c | c <;> rfl
  have others : ∀ p ∈ f.errands, ∃ s, p.Follows (protocol request.normalized) Phase.Ends s ∧
      s.Known request.attempt (f.house.answer fresh c).2.store := by
    intro p mem
    obtain ⟨s, follows, known⟩ := h.makings p mem
    exact ⟨s, follows, known.mono continues.remembers⟩
  obtain ⟨inOrder, -, known'⟩ := continues
  simp only [rush, move, errand, unfailing]
  rcases answered : f.house.answer fresh c with ⟨halt | reply, house⟩
  all_goals rw [answered] at inOrder others known'
  -- a making that is given up is dropped
  · exact ⟨inOrder, fun p mem => others p (List.mem_of_mem_eraseIdx mem)⟩
  · refine ⟨inOrder, fun p mem => ?_⟩
    rcases List.mem_or_eq_of_mem_set mem with old | rfl
    · exact others p old
    · exact ⟨s.next c reply, rest reply, known' reply rfl⟩

theorem sweep (h : f.Shares request) : (f.rush request .sweep).Shares request where
  inOrder := h.inOrder.sweep
  makings := h.makings

theorem other (h : f.Shares request) {c : Reservations.Call}
    (foreign : c.hold? ≠ some request.attempt) : (f.rush request (.other c)).Shares request where
  inOrder := h.inOrder.serve (.inr foreign)
  makings := h.makings

theorem rush (h : f.Shares request) {r : Rush} (alone : r.LeavesAlone request.attempt) :
    (f.rush request r).Shares request := by
  cases r with
  | again => exact h.again
  | proceed place fresh => exact h.proceed place fresh
  | sweep => exact h.sweep
  | clock time =>
    have ⟨reach, sound, indexed, share_eq⟩ := h.inOrder
    exact ⟨⟨reach, sound, indexed, share_eq⟩, h.makings⟩
  | other c => exact h.other alone

theorem rushes (h : f.Shares request) {rushes : List Rush}
    (alone : ∀ r ∈ rushes, r.LeavesAlone request.attempt) :
    (rushes.foldl (Floor.rush request) f).Shares request := by
  induction rushes generalizing f with
  | nil => exact h
  | cons r rushes ih =>
    exact ih (h.rush (alone r (List.mem_cons_self ..))) fun r' m => alone r' (List.mem_cons_of_mem _ m)

/-- What the makings share. -/
theorem sharesOne (h : f.Shares request) : f.SharesOne request.attempt where
  stored_once := by
    intro id id' b b' there there' mine mine'
    obtain rfl := h.inOrder.sound.unique there there' (mine.trans mine'.symm)
    exact ⟨(h.inOrder.sound id b there).1.symm.trans (h.inOrder.sound id' b there').1, rfl⟩
  answered := by
    intro b mem
    obtain ⟨p, errand, done⟩ := List.mem_map.1 mem
    obtain rfl : p = .done (.ok b) := by
      rcases p with (e | b') | _ <;> cases done
      rfl
    obtain ⟨s, ends, known⟩ := h.makings _ errand
    obtain ⟨-⟩ : s.Ends (.ok b) := ends
    obtain ⟨⟨id, there⟩, attempt⟩ := h.inOrder.indexed.of_find known
    refine ⟨?_, attempt⟩
    rwa [(h.inOrder.sound id b there).1]
  held_once share share' mine mine' has has' :=
    (h.inOrder.share_eq share mine has).trans (h.inOrder.share_eq share' mine' has').symm
  never_released := by
    rintro place t ⟨next, errand⟩
    obtain ⟨s, ⟨allows, -⟩, known⟩ := h.makings _ (List.mem_of_getElem? errand)
    cases allows <;> exact known

end Floor.Shares

/-- Whatever happens while a request is made again and again, no pool gets or loses a place. -/
theorem Floor.rush_places? (request : BookingRequest) {f : Floor}
    (reach : f.house.inventory.ledger.Reachable) (r : Rush) (id : CategoryId) :
    (f.rush request r).house.inventory.ledger.places? id =
      f.house.inventory.ledger.places? id := by
  have moved : ∀ m, (f.move m).house.inventory.ledger.places? id =
      f.house.inventory.ledger.places? id := by
    intro m
    rcases f.ledger_move_cases m with same | swept | ⟨_, _, _, call, -, -, served, -⟩
    · rw [same]
    · rw [swept]
      exact reach.places?_after _ id
    · rw [served]
      exact Inventory.serve_places? reach call id
  cases r with
  | other c => exact Inventory.serve_places? reach c id
  | again | proceed | sweep | clock => exact moved _

namespace House

theorem rushed_places? {request : BookingRequest} {f : Floor} (h : f.Shares request)
    {rushes : List Rush} (alone : ∀ r ∈ rushes, r.LeavesAlone request.attempt) (id : CategoryId) :
    (rushes.foldl (Floor.rush request) f).house.inventory.ledger.places? id =
      f.house.inventory.ledger.places? id := by
  induction rushes generalizing f with
  | nil => rfl
  | cons r rushes ih =>
    have kept := h.rush (alone r (List.mem_cons_self ..))
    exact (ih kept fun r' m => alone r' (List.mem_cons_of_mem _ m)).trans
      (Floor.rush_places? request h.inOrder.reach r id)

/-- **All makings of a request share one booking and one hold.** The request is made any number of
times to a house that does not know its attempt, and the calls of its makings are answered in any
order, among sweeps, settings of the clock and calls to the inventory in the name of other holds. Then
the attempt has one booking at most, and every making that is answered with a booking is answered with
this one; the attempt has one unit at most, no place is lost, and no making ever asks to give anything
back. -/
theorem duplicates_share_one {w : House} {request : BookingRequest}
    (reach : w.inventory.ledger.Reachable) (sound : w.store.Sound) (indexed : w.store.Indexed)
    (unknown : w.inventory.ledger.Unknown request.attempt) {rushes : List Rush}
    (alone : ∀ r ∈ rushes, r.LeavesAlone request.attempt) :
    (w.rushed request rushes).SharesOne request.attempt ∧
      ∀ id, (w.rushed request rushes).house.inventory.ledger.places? id =
        w.inventory.ledger.places? id := by
  have opening : (⟨w, []⟩ : Floor).Shares request := by
    refine ⟨⟨reach, sound, indexed, fun share mine has => ?_⟩, nofun⟩
    rw [← mine] at unknown
    exact absurd has unknown.not_has
  exact ⟨(opening.rushes alone).sharesOne, rushed_places? opening alone⟩

/-- Two makings look into the store before either asks for the seat, and both get it. Somebody else
asks for it in vain, the hold lapses and the reclaimer takes the seat back before the first booking is
stored. The second making is refused by the store and answered with the booking of the first. -/
theorem duplicates_share_one_seat :
    let house := { policy := .none, inventory := .oneSeat, store := .empty : House }
    let request : BookingRequest :=
      { attempt := ⟨.random 1⟩, event := ⟨1⟩, category := ⟨10⟩, seatLabel := some "A1", user := ⟨42⟩ }
    let next (place : Nat) : Rush := .proceed place ⟨.random 7⟩
    let rushes := [.again, .again, next 0, next 1, next 0, next 1,
      .other (.reserve (.seated ⟨.random 2⟩ ⟨1⟩ ⟨10⟩ "A1")), .clock (.ofParts 1020 0), .sweep,
      next 0, next 0, next 0, .proceed 1 ⟨.random 8⟩, next 1, next 1, next 1, next 1]
    let floor := house.rushed request rushes
    (house.inventory.ledger.Reachable ∧ house.store.Sound ∧ house.store.Indexed ∧
      house.inventory.ledger.Unknown request.attempt ∧
      ∀ r ∈ rushes, r.LeavesAlone request.attempt) ∧
    floor.SharesOne request.attempt ∧
    (floor.house.store.bookings.get? ⟨.random 7⟩).isSome ∧
    floor.booked = List.replicate 2 (floor.house.store.bookings.get? ⟨.random 7⟩) := by
  intro house request next rushes floor
  have reach : house.inventory.ledger.Reachable := ⟨[.addSeated _ _], rfl⟩
  have unknown : house.inventory.ledger.Unknown request.attempt := by decide
  have alone : ∀ r ∈ rushes, r.LeavesAlone request.attempt := by decide
  have outcome : (floor.house.store.bookings.get? ⟨.random 7⟩).isSome ∧
      floor.booked = List.replicate 2 (floor.house.store.bookings.get? ⟨.random 7⟩) := by
    decide +kernel
  have shared := duplicates_share_one reach MemoryStore.sound_empty MemoryStore.indexed_empty unknown
    alone
  exact ⟨⟨reach, MemoryStore.sound_empty, MemoryStore.indexed_empty, unknown, alone⟩, shared.1,
    outcome⟩

end House

end BoxOffice
