import BoxOffice.Proofs.Inventory.Exclusive
import BoxOffice.Proofs.Ledger.Share

/-!
# What a snapshot promises

A snapshot says how many units of a category are left. It tells the truth to a hold that the ledger
does not know if such a hold can reserve a unit exactly when some are left (`TellsTruth`). Two things
stand against it (`availability_tells_truth_iff`). What lapsed holds keep of a pool is counted, but
nobody gets it before a sweep (`KeptByLapsed`), while a seat is given away as soon as its hold has
lapsed. And the label in a request is trimmed, while that of a seat may have blanks around it; such a
seat is counted, but cannot be called (`Callable`). After a sweep of a ledger with trimmed labels every
snapshot tells the truth (`tellsTruth_of_swept`).
-/

namespace BoxOffice

open Rehearsal Reservations

/-- The request asks a category for a unit: for a place if the category is standing, for one of its
seats if it is seated. -/
structure ReserveRequest.AsksFor (r : ReserveRequest) (id : CategoryId) (s : Section) : Prop where
  category : r.category = id
  event : r.event = s.category.event
  standing : s.category.layout = .standing → r.seatLabel = none
  seated : s.category.layout = .seated →
    ∃ label seat, r.seatLabel = some label ∧ s.seats.get? label = some seat

namespace Section

/-- Nothing is left of the pool but what lapsed holds keep. -/
def KeptByLapsed (s : Section) (now : Instant) : Prop :=
  s.pool.available = 0 ∧ 0 < s.pool.lapsed now

instance (s : Section) (now : Instant) : Decidable (s.KeptByLapsed now) :=
  inferInstanceAs (Decidable (_ ∧ _))

/-- The seats can be called by their labels, which are trimmed on the way: if one is free, then so is
one with a trimmed label, and if none is free, then at least the trimmed labels are those of seats. -/
structure Callable (s : Section) (now : Instant) : Prop where
  free : ∀ label seat, s.seats.get? label = some seat → seat.isClaimable now →
    ∃ label' seat', s.seats.get? label' = some seat' ∧ Text.trim label' = label' ∧
      seat'.isClaimable now
  taken : (∀ label seat, s.seats.get? label = some seat → ¬ seat.isClaimable now) →
    ∀ label seat, s.seats.get? label = some seat → (s.seats.get? (Text.trim label)).isSome

/-- Trimmed labels can be called. -/
theorem callable_of_trimmed {s : Section}
    (trimmed : ∀ label seat, s.seats.get? label = some seat → Text.trim label = label)
    (now : Instant) : s.Callable now where
  free label seat there claimable := ⟨label, seat, there, trimmed label seat there, claimable⟩
  taken _ label seat there := by rw [trimmed label seat there, there]; rfl

variable {s : Section} {id : CategoryId}

/-- The snapshot of a category of seats counts the seats that may be claimed. -/
theorem toNat_available_of_seated (sound : s.Sound id) (seated : s.category.layout = .seated)
    (now : Instant) : (s.availability now).available.toNat = s.claimable now := by
  rcases sound.kinds with ⟨-, -, size, -⟩ | ⟨standing, -⟩
  · have few : s.claimable now ≤ s.seats.size := by
      unfold claimable Registry.size
      rw [← List.length_map]
      exact List.countP_le_length
    have := s.category.total.toNat_lt
    rw [availability, seated]
    refine UInt32.toNat_ofNat_of_lt' ?_
    show s.claimable now < 4294967296
    omega
  · simp [seated] at standing

/-- The snapshot of a pool counts what is left of it and what lapsed holds keep. -/
theorem toNat_available_of_standing (sound : s.Sound id) (standing : s.category.layout = .standing)
    (now : Instant) :
    (s.availability now).available.toNat = s.pool.available.toNat + s.pool.lapsed now := by
  rcases sound.kinds with ⟨seated, -⟩ | ⟨-, -, -, fits⟩
  · simp [standing] at seated
  · have := s.pool.available_add_lapsed_le_units now
    have := s.category.total.toNat_lt
    simp only [availability, standing, UInt32.toNat_add, UInt32.toNat_ofNat']
    omega

/-- Some seat may be claimed if the number of such seats is not zero. -/
theorem claimable_pos_iff (s : Section) (now : Instant) :
    0 < s.claimable now ↔ ∃ label seat, s.seats.get? label = some seat ∧ seat.isClaimable now := by
  unfold claimable
  rw [List.countP_pos_iff]
  constructor
  · rintro ⟨seat, mem, claimable⟩
    obtain ⟨label, there⟩ := Registry.mem_values.1 mem
    exact ⟨label, seat, there, claimable⟩
  · rintro ⟨label, seat, there, claimable⟩
    exact ⟨seat, Registry.mem_values.2 ⟨label, there⟩, claimable⟩

end Section

namespace MemoryLedger

/-- No seat is laid out under a blank label. -/
theorem layOut_not_blank {category : CategoryId} {labels : List String}
    {seats laid : Registry String Seat} {first next : SeatId}
    (h : layOut category labels seats first = (.ok laid, next))
    (before : ∀ label seat, seats.get? label = some seat → ¬ Text.isBlank label) :
    ∀ label seat, laid.get? label = some seat → ¬ Text.isBlank label := by
  induction labels generalizing seats first with
  | nil =>
    cases h
    exact before
  | cons label rest ih =>
    simp only [layOut] at h
    split at h
    · cases h
    next named =>
    split at h
    · cases h
    refine ih h fun other seat there => ?_
    rw [Registry.get?_set] at there
    split at there
    · next same => rwa [same]
    · exact before other seat there

theorem Reachable.label_not_blank {l : MemoryLedger} (reach : l.Reachable) {id : CategoryId}
    {s : Section} (there : l.sections.get? id = some s) {label : String} {seat : Seat}
    (on_seat : s.seats.get? label = some seat) : ¬ Text.isBlank label := by
  refine reach.sections
    (P := fun _ s => ∀ label seat, s.seats.get? label = some seat → ¬ Text.isBlank label)
    ?_ ?_ ?_ there label seat on_seat
  · intro category labels first seats next _ _ laid _
    exact layOut_not_blank laid (by simp)
  · intro category _ _ _ label seat none
    simp [openStanding] at none
  · intro id s c before label seat after
    rw [Section.get?_after_seats] at after
    obtain ⟨seat₀, there₀, -⟩ := Option.map_eq_some_iff.1 after
    exact before label seat₀ there₀

end MemoryLedger

namespace Inventory

variable {w : Inventory} {id : CategoryId} {s : Section} {hold : HoldId}

theorem serve_availability_eq (there : w.ledger.sections.get? id = some s) :
    w.serve (.availability id) = (.ok (.ok (s.availability w.stage.now)), w) := by
  show (Reservations.availability id).run.play answer w = _
  unfold Reservations.availability
  simp only [Service.play_bind, play_clock, play_availability, there]
  rfl

/-! ### Requests of newcomers -/

/-- The request is answered with a token. -/
def Grants (w : Inventory) (r : ReserveRequest) : Prop :=
  ∃ t w', w.serve (.reserve r) = (.ok (.ok t), w')

/-- The request is refused with a conflict. -/
def Conflicts (w : Inventory) (r : ReserveRequest) : Prop :=
  ∃ e w', w.serve (.reserve r) = (.ok (.error e), w') ∧ e.kind = .conflict

section Newcomer

variable (reach : w.ledger.Reachable) (there : w.ledger.sections.get? id = some s)
  (unknown : w.ledger.Unknown hold) (due : (w.stage.now.add? w.hold).isSome)
  {r : ReserveRequest} (newcomer : r.hold = hold) (asks : r.AsksFor id s)

include reach there unknown due newcomer asks

/-- A newcomer gets a place if the counter of the pool says that one is left. -/
theorem serve_reserve_place (standing : s.category.layout = .standing) :
    (s.pool.available ≠ 0 ∧ w.Grants r) ∨
    (s.pool.available = 0 ∧ ∃ w', w.serve (.reserve r) = (.ok (refuse (.soldOut id)), w')) := by
  obtain ⟨rfl, event, nameless, -⟩ := asks
  subst newcomer
  have suits : r.Suits w.ledger .standing := ⟨s, there, event.symm, standing⟩
  have unnamed : namedSeat r = none := by simp [namedSeat, nameless standing]
  have never : ∀ h, w.ledger.stock? r.category r.hold ≠ some h := by simp [unknown.2]
  obtain ⟨a, w', served, way⟩ := serve_reserve reach r
  generalize w'.ledger = l' at way
  cases way with
  | categoryMissing missing => simp [missing] at there
  | foreignEvent found foreign =>
    obtain rfl := Option.some.inj (there.symm.trans found)
    exact absurd event.symm foreign
  | seatLabelRequired suits' => cases suits.unique suits'
  | seatLabelRefused _ named => simp [unnamed] at named
  | outOfTime _ _ unknown => simp [unknown] at due
  | seatMissing suits' | seatReserved suits' | seatReplayed suits' | seatRefused suits' =>
    cases suits.unique suits'
  | stockTaken _ _ due' found taken =>
    obtain rfl := Option.some.inj (there.symm.trans found)
    refine .inl ⟨fun empty => ?_, _, w', served⟩
    -- an unknown hold has nothing to renew, so from an empty pool it takes nothing
    rcases s.pool.take_cases r.category r.hold w.stage.now _ with
      ⟨h, mine, -⟩ | ⟨h, mine, -⟩ | ⟨-, ⟨-, e⟩ | ⟨left, -⟩⟩
    · exact never h (Option.bind_eq_some_iff.2 ⟨s, there, mine⟩)
    · exact never h (Option.bind_eq_some_iff.2 ⟨s, there, mine⟩)
    · rw [e] at taken
      cases taken
    · exact left empty
  | stockReplayed _ _ _ mine => exact absurd mine (never _)
  | stockSpent _ _ _ mine => exact absurd mine (never _)
  | stockSoldOut _ _ _ found nothing =>
    obtain rfl := Option.some.inj (there.symm.trans found)
    exact .inr ⟨nothing, w', served⟩

theorem grants_iff_of_standing (standing : s.category.layout = .standing) :
    w.Grants r ↔ s.pool.available ≠ 0 := by
  rcases serve_reserve_place reach there unknown due newcomer asks standing with
    ⟨some_left, granted⟩ | ⟨empty, w', refused⟩
  · exact iff_of_true granted some_left
  · refine iff_of_false ?_ fun some_left => some_left empty
    rintro ⟨t, w₁, served⟩
    cases served.symm.trans refused

theorem conflicts_of_standing (standing : s.category.layout = .standing)
    (empty : s.pool.available = 0) : w.Conflicts r := by
  rcases serve_reserve_place reach there unknown due newcomer asks standing with
    ⟨some_left, -⟩ | ⟨-, w', refused⟩
  · exact absurd empty some_left
  · exact ⟨_, w', refused, rfl⟩

/-- A newcomer gets the seat that the trimmed label names, if it may be claimed. -/
theorem serve_reserve_called (seated : s.category.layout = .seated) {label : String} {seat₀ : Seat}
    (labelled : r.seatLabel = some label) (on_seat₀ : s.seats.get? label = some seat₀) :
    (∃ seat, s.seats.get? (Text.trim label) = some seat ∧ seat.isClaimable w.stage.now ∧
      w.Grants r) ∨
    (∃ seat, s.seats.get? (Text.trim label) = some seat ∧ ¬ seat.isClaimable w.stage.now ∧
      w.Conflicts r) ∨
    (s.seats.get? (Text.trim label) = none ∧
      ∃ e w', w.serve (.reserve r) = (.ok (.error e), w') ∧ e.kind = .notFound) := by
  obtain ⟨rfl, event, -, -⟩ := asks
  subst newcomer
  have suits : r.Suits w.ledger .seated := ⟨s, there, event.symm, seated⟩
  have named : namedSeat r = some (Text.trim label) := by
    have filled := mt Text.trim_eq_empty_iff.1 (reach.label_not_blank there on_seat₀)
    simp [namedSeat, labelled, Option.filter, filled]
  have seat_eq : ∀ name, w.ledger.seat? r.category name = s.seats.get? name := by
    simp [MemoryLedger.seat?, there]
  obtain ⟨last, due⟩ := Option.isSome_iff_exists.1 due
  cases on_seat : s.seats.get? (Text.trim label) with
  | some seat =>
    have here : w.ledger.seat? r.category (Text.trim label) = some seat :=
      (seat_eq _).trans on_seat
    obtain ⟨w', ⟨claimable, served⟩ | ⟨held, -⟩ | ⟨taken, -, -, served⟩⟩ :=
      serve_reserve_seat reach suits named due here
    · exact .inl ⟨seat, rfl, claimable, _, w', served⟩
    · exact absurd (Seat.isHeldBy_iff.1 held).2.1 (unknown.1 _ _ seat here)
    · refine .inr (.inl ⟨seat, rfl, taken, _, w', served, ?_⟩)
      split <;> rfl
  | none =>
    have nowhere : w.ledger.seat? r.category (Text.trim label) = none :=
      (seat_eq _).trans on_seat
    refine .inr (.inr ⟨rfl, ?_⟩)
    obtain ⟨a, w', served, way⟩ := serve_reserve reach r
    generalize w'.ledger = l' at way
    cases way with
    | categoryMissing missing => simp [missing] at there
    | foreignEvent found foreign =>
      obtain rfl := Option.some.inj (there.symm.trans found)
      exact absurd event.symm foreign
    | seatLabelRequired _ unnamed => simp [unnamed] at named
    | seatLabelRefused suits' => cases suits.unique suits'
    | outOfTime _ _ unknown => simp [unknown] at due
    | seatMissing => exact ⟨_, w', served, rfl⟩
    | seatReserved _ named' _ found | seatReplayed _ named' _ found
    | seatRefused _ named' _ found =>
      obtain rfl := Option.some.inj (named.symm.trans named')
      simp [nowhere] at found
    | stockTaken suits' | stockReplayed suits' | stockSpent suits' | stockSoldOut suits' =>
      cases suits.unique suits'

theorem grants_iff_of_seated (seated : s.category.layout = .seated) {label : String} {seat₀ : Seat}
    (labelled : r.seatLabel = some label) (on_seat₀ : s.seats.get? label = some seat₀) :
    w.Grants r ↔
      ∃ seat, s.seats.get? (Text.trim label) = some seat ∧ seat.isClaimable w.stage.now := by
  rcases serve_reserve_called reach there unknown due newcomer asks seated labelled on_seat₀ with
    ⟨seat, on_seat, claimable, granted⟩ | ⟨seat, on_seat, taken, e, w', refused, -⟩ |
    ⟨missing, e, w', refused, -⟩
  · exact iff_of_true granted ⟨seat, on_seat, claimable⟩
  · refine iff_of_false ?_ (by simp [on_seat, taken])
    rintro ⟨t, w₁, served⟩
    cases served.symm.trans refused
  · refine iff_of_false ?_ (by simp [missing])
    rintro ⟨t, w₁, served⟩
    cases served.symm.trans refused

theorem conflicts_iff_of_seated (seated : s.category.layout = .seated) {label : String}
    {seat₀ : Seat} (labelled : r.seatLabel = some label)
    (on_seat₀ : s.seats.get? label = some seat₀) :
    w.Conflicts r ↔
      ∃ seat, s.seats.get? (Text.trim label) = some seat ∧ ¬ seat.isClaimable w.stage.now := by
  rcases serve_reserve_called reach there unknown due newcomer asks seated labelled on_seat₀ with
    ⟨seat, on_seat, claimable, t, w', granted⟩ | ⟨seat, on_seat, taken, refused⟩ |
    ⟨missing, e, w', refused, kind⟩
  · refine iff_of_false ?_ (by simp [on_seat, claimable])
    rintro ⟨e, w₁, served, -⟩
    cases served.symm.trans granted
  · exact iff_of_true refused ⟨seat, on_seat, taken⟩
  · refine iff_of_false ?_ (by simp [missing])
    rintro ⟨e', w₁, served, kind'⟩
    cases served.symm.trans refused
    cases kind.symm.trans kind'

end Newcomer

/-! ### The truth of a snapshot -/

/-- What is promised to a hold by saying that so many units of a category are left: it can reserve one
exactly if the number is not zero, and a conflict is the answer to each of its requests if it is. -/
structure Promises (w : Inventory) (id : CategoryId) (s : Section) (hold : HoldId)
    (left : UInt32) : Prop where
  pos_iff : 0 < left ↔ ∃ r, r.hold = hold ∧ r.AsksFor id s ∧ w.Grants r
  conflicts : left = 0 → ∀ r, r.hold = hold → r.AsksFor id s → w.Conflicts r

/-- The snapshot that the inventory gives of a category keeps what it promises to a hold. -/
def TellsTruth (w : Inventory) (id : CategoryId) (hold : HoldId) : Prop :=
  ∃ s a w', w.ledger.sections.get? id = some s ∧
    w.serve (.availability id) = (.ok (.ok a), w') ∧ w.Promises id s hold a.available

theorem tellsTruth_iff_promises (there : w.ledger.sections.get? id = some s) :
    w.TellsTruth id hold ↔ w.Promises id s hold (s.availability w.stage.now).available := by
  constructor
  · rintro ⟨s', a, w', there', served, promises⟩
    obtain rfl : s = s' := Option.some.inj (there.symm.trans there')
    rw [serve_availability_eq there] at served
    cases served
    exact promises
  · exact fun promises => ⟨s, _, w, there, serve_availability_eq there, promises⟩

section Layouts

variable (reach : w.ledger.Reachable) (there : w.ledger.sections.get? id = some s)
  (unknown : w.ledger.Unknown hold) (due : (w.stage.now.add? w.hold).isSome)

include reach there unknown due

/-- The places that lapsed holds keep are counted, but a newcomer gets none of them. -/
theorem promises_iff_of_standing (standing : s.category.layout = .standing) :
    w.Promises id s hold (s.availability w.stage.now).available ↔
      ¬ s.KeptByLapsed w.stage.now := by
  have count := Section.toNat_available_of_standing (reach.sound there) standing w.stage.now
  have empty_iff : s.pool.available = 0 ↔ s.pool.available.toNat = 0 := UInt32.toNat_inj.symm
  have left_iff : 0 < (s.availability w.stage.now).available ↔
      0 < s.pool.available.toNat + s.pool.lapsed w.stage.now := by
    rw [UInt32.lt_iff_toNat_lt, count, UInt32.toNat_zero]
  have grants : ∀ {r : ReserveRequest}, r.hold = hold → r.AsksFor id s →
      (w.Grants r ↔ s.pool.available ≠ 0) :=
    fun newcomer asks => grants_iff_of_standing reach there unknown due newcomer asks standing
  constructor
  · rintro promises ⟨empty, lapsed⟩
    obtain ⟨r, newcomer, asks, granted⟩ := promises.pos_iff.1 (left_iff.2 (by omega))
    exact (grants newcomer asks).1 granted empty
  · intro kept
    have some_left : 0 < (s.availability w.stage.now).available → s.pool.available ≠ 0 := by
      intro counted empty
      have := left_iff.1 counted
      have := empty_iff.1 empty
      exact kept ⟨empty, by omega⟩
    refine ⟨⟨fun counted => ?_, ?_⟩, fun nothing r newcomer asks => ?_⟩
    · have asks : (⟨hold, s.category.event, id, none⟩ : ReserveRequest).AsksFor id s :=
        ⟨rfl, rfl, fun _ => rfl, fun seated => by simp [standing] at seated⟩
      exact ⟨_, rfl, asks, (grants rfl asks).2 (some_left counted)⟩
    · rintro ⟨r, newcomer, asks, granted⟩
      have := mt empty_iff.2 ((grants newcomer asks).1 granted)
      exact left_iff.2 (by omega)
    · have zero : (s.availability w.stage.now).available.toNat = 0 := congrArg UInt32.toNat nothing
      exact conflicts_of_standing reach there unknown due newcomer asks standing
        (empty_iff.2 (by omega))

/-- A newcomer may claim the same seats as are counted, if it can call them. -/
theorem promises_iff_of_seated (seated : s.category.layout = .seated) :
    w.Promises id s hold (s.availability w.stage.now).available ↔ s.Callable w.stage.now := by
  have left_iff : 0 < (s.availability w.stage.now).available ↔
      ∃ label seat, s.seats.get? label = some seat ∧ seat.isClaimable w.stage.now := by
    rw [UInt32.lt_iff_toNat_lt,
      Section.toNat_available_of_seated (reach.sound there) seated w.stage.now,
      ← s.claimable_pos_iff]
    rfl
  have asks : ∀ label seat, s.seats.get? label = some seat →
      (⟨hold, s.category.event, id, some label⟩ : ReserveRequest).AsksFor id s :=
    fun label seat on_seat =>
      ⟨rfl, rfl, fun standing => by simp [seated] at standing, fun _ => ⟨label, seat, rfl, on_seat⟩⟩
  constructor
  · intro promises
    refine ⟨fun label seat on_seat claimable => ?_, fun taken label seat on_seat => ?_⟩
    · obtain ⟨r, newcomer, asks', granted⟩ :=
        promises.pos_iff.1 (left_iff.2 ⟨label, seat, on_seat, claimable⟩)
      obtain ⟨called, seat₀, labelled, on_seat₀⟩ := asks'.seated seated
      obtain ⟨seat', on_seat', claimable'⟩ := (grants_iff_of_seated reach there unknown due
        newcomer asks' seated labelled on_seat₀).1 granted
      exact ⟨Text.trim called, seat', on_seat', Text.trim_trim called, claimable'⟩
    · have nothing : (s.availability w.stage.now).available = 0 := by
        have none_left := mt left_iff.1 fun ⟨label, seat, on_seat, claimable⟩ =>
          taken label seat on_seat claimable
        rw [UInt32.lt_iff_toNat_lt, UInt32.toNat_zero] at none_left
        exact UInt32.toNat_inj.1 (Nat.eq_zero_of_not_pos none_left)
      have refused := promises.conflicts nothing _ rfl (asks label seat on_seat)
      obtain ⟨seat', on_seat', -⟩ := (conflicts_iff_of_seated reach there unknown due rfl
        (asks label seat on_seat) seated rfl on_seat).1 refused
      rw [on_seat']
      rfl
  · intro callable
    refine ⟨left_iff.trans ⟨?_, ?_⟩, fun nothing r newcomer asks' => ?_⟩
    · rintro ⟨label₀, seat₀, on_seat₀, claimable₀⟩
      obtain ⟨label, seat, on_seat, trimmed, claimable⟩ :=
        callable.free label₀ seat₀ on_seat₀ claimable₀
      refine ⟨_, rfl, asks label seat on_seat, ?_⟩
      exact (grants_iff_of_seated reach there unknown due rfl (asks label seat on_seat) seated rfl
        on_seat).2 ⟨seat, by rw [trimmed, on_seat], claimable⟩
    · rintro ⟨r, newcomer, asks', granted⟩
      obtain ⟨called, seat₀, labelled, on_seat₀⟩ := asks'.seated seated
      obtain ⟨seat, on_seat, claimable⟩ := (grants_iff_of_seated reach there unknown due newcomer
        asks' seated labelled on_seat₀).1 granted
      exact ⟨_, seat, on_seat, claimable⟩
    · have taken : ∀ label seat, s.seats.get? label = some seat →
          ¬ seat.isClaimable w.stage.now := by
        intro label seat on_seat claimable
        have counted := left_iff.2 ⟨label, seat, on_seat, claimable⟩
        rw [nothing] at counted
        exact absurd counted (by decide)
      obtain ⟨called, seat₀, labelled, on_seat₀⟩ := asks'.seated seated
      obtain ⟨seat, on_seat⟩ :=
        Option.isSome_iff_exists.1 (callable.taken taken called seat₀ on_seat₀)
      exact (conflicts_iff_of_seated reach there unknown due newcomer asks' seated labelled
        on_seat₀).2 ⟨seat, on_seat, taken _ seat on_seat⟩

theorem promises_iff :
    w.Promises id s hold (s.availability w.stage.now).available ↔
      ¬ s.KeptByLapsed w.stage.now ∧ s.Callable w.stage.now := by
  rcases (reach.sound there).kinds with ⟨seated, -, -, no_pool⟩ | ⟨standing, -, no_seats, -⟩
  · have kept : ¬ s.KeptByLapsed w.stage.now := by
      rintro ⟨-, lapsed⟩
      simp [no_pool, Pool.lapsed, Pool.empty] at lapsed
    rw [promises_iff_of_seated reach there unknown due seated, and_iff_right kept]
  · have callable : s.Callable w.stage.now :=
      Section.callable_of_trimmed (by simp [no_seats]) w.stage.now
    rw [promises_iff_of_standing reach there unknown due standing, and_iff_left callable]

end Layouts

/-- **When a snapshot tells the truth** to a hold that the ledger does not know: it is not so that
lapsed holds keep the last places of a pool, and the seats can be called. -/
theorem availability_tells_truth_iff (reach : w.ledger.Reachable)
    (there : w.ledger.sections.get? id = some s) (unknown : w.ledger.Unknown hold)
    (due : (w.stage.now.add? w.hold).isSome) :
    w.TellsTruth id hold ↔ ¬ s.KeptByLapsed w.stage.now ∧ s.Callable w.stage.now :=
  (tellsTruth_iff_promises there).trans (promises_iff reach there unknown due)

/-- An inventory of one place, whose holds last for ten seconds. -/
def onePlace : Inventory where
  hold := .ofSeconds 10
  stage := .start (.ofParts 1000 0)
  ledger := (MemoryLedger.empty.addStanding (.standing ⟨20⟩ ⟨1⟩ "Standing" ⟨4500⟩ 1)).2

/-- The inventory when the hold on its only place has just lapsed. -/
def onePlaceLapsed : Inventory :=
  (onePlace.serve (.reserve ⟨⟨.random 1⟩, ⟨1⟩, ⟨20⟩, none⟩)).2.atTime (.ofParts 1010 1)

/-- Once a sweep has freed the place, the snapshot tells the truth to the next hold. -/
theorem availability_tells_truth_one_place :
    onePlaceLapsed.sweep.2.ledger.Reachable ∧
    onePlaceLapsed.sweep.2.ledger.Unknown ⟨.random 2⟩ ∧
    (onePlaceLapsed.sweep.2.stage.now.add? onePlaceLapsed.sweep.2.hold).isSome ∧
    onePlaceLapsed.sweep.2.TellsTruth ⟨20⟩ ⟨.random 2⟩ := by
  have reach : onePlaceLapsed.sweep.2.ledger.Reachable := by
    have first : onePlace.ledger.Reachable := ⟨[.addStanding _], rfl⟩
    exact play_reachable _ (play_reachable _ first : onePlaceLapsed.ledger.Reachable)
  have unknown : onePlaceLapsed.sweep.2.ledger.Unknown ⟨.random 2⟩ := by decide
  have due : (onePlaceLapsed.sweep.2.stage.now.add? onePlaceLapsed.sweep.2.hold).isSome := by decide
  refine ⟨reach, unknown, due, (availability_tells_truth_iff reach rfl unknown due).2 ⟨by decide, ?_⟩⟩
  exact Section.callable_of_trimmed (fun label seat there => by cases there) _

/-- An inventory of one seat with a label that begins with a blank. -/
def onePadded : Inventory :=
  { oneSeat with
    ledger := (MemoryLedger.empty.addSeated (.seated ⟨10⟩ ⟨1⟩ "Stalls" ⟨9900⟩ 0) [" A1"]).2 }

/-- The place is counted when its hold has lapsed, but the next hold is told that the category is sold
out. The seat with a blank is counted, but cannot be found. -/
theorem availability_lies :
    (onePlaceLapsed.ledger.Reachable ∧ onePlaceLapsed.ledger.Unknown ⟨.random 2⟩ ∧
      (∃ a w', onePlaceLapsed.serve (.availability ⟨20⟩) = (.ok (.ok a), w') ∧ a.available = 1) ∧
      (∃ w', onePlaceLapsed.serve (.reserve ⟨⟨.random 2⟩, ⟨1⟩, ⟨20⟩, none⟩) =
        (.ok (refuse (.soldOut ⟨20⟩)), w')) ∧
      ¬ onePlaceLapsed.TellsTruth ⟨20⟩ ⟨.random 2⟩) ∧
    (onePadded.ledger.Reachable ∧ onePadded.ledger.Unknown ⟨.random 2⟩ ∧
      (∃ a w', onePadded.serve (.availability ⟨10⟩) = (.ok (.ok a), w') ∧ a.available = 1) ∧
      (∃ w', onePadded.serve (.reserve ⟨⟨.random 2⟩, ⟨1⟩, ⟨10⟩, some " A1"⟩) =
        (.ok (refuse (.seatMissing ⟨10⟩ "A1")), w')) ∧
      ¬ onePadded.TellsTruth ⟨10⟩ ⟨.random 2⟩) := by
  constructor
  · have reach : onePlaceLapsed.ledger.Reachable :=
      play_reachable _ (⟨[.addStanding _], rfl⟩ : onePlace.ledger.Reachable)
    have unknown : onePlaceLapsed.ledger.Unknown ⟨.random 2⟩ := by decide
    refine ⟨reach, unknown, ⟨_, _, rfl, by decide⟩, ⟨_, rfl⟩, fun truth => ?_⟩
    have promises := (tellsTruth_iff_promises rfl).1 truth
    exact ((promises_iff reach rfl unknown (by decide)).1 promises).1 (by decide)
  · have reach : onePadded.ledger.Reachable := ⟨[.addSeated _ _], rfl⟩
    have unknown : onePadded.ledger.Unknown ⟨.random 2⟩ := by decide
    refine ⟨reach, unknown, ⟨_, _, rfl, by decide⟩, ⟨_, rfl⟩, fun truth => ?_⟩
    have promises := (tellsTruth_iff_promises rfl).1 truth
    -- the seat is free, so one with a trimmed label would have to be
    obtain ⟨label, seat, there, trimmed, -⟩ :=
      ((promises_iff reach rfl unknown (by decide)).1 promises).2.free " A1" _ rfl (by decide)
    replace there : (Registry.set ∅ " A1" (Seat.fresh ⟨1⟩ ⟨10⟩ " A1")).get? label = some seat :=
      there
    rw [Registry.get?_set] at there
    split at there
    · next same =>
      rw [same] at trimmed
      exact absurd trimmed (by decide)
    · cases there

/-- **After a sweep every snapshot of trimmed labels tells the truth.** -/
theorem tellsTruth_of_swept (reach : w.ledger.Reachable)
    (there : w.sweep.2.ledger.sections.get? id = some s)
    (trimmed : ∀ label seat, s.seats.get? label = some seat → Text.trim label = label)
    (unknown : w.sweep.2.ledger.Unknown hold) (due : (w.stage.now.add? w.hold).isSome) :
    w.sweep.2.TellsTruth id hold := by
  have same : w.sweep.2.stage.now = w.stage.now ∧ w.sweep.2.hold = w.hold := play_now _ w
  have reach' : w.sweep.2.ledger.Reachable := play_reachable _ reach
  obtain ⟨w', swept, after⟩ := w.sweep_ledger
  rw [swept] at there unknown reach' same ⊢
  obtain ⟨now, span⟩ := same
  have nothing_lapsed : s.pool.lapsed w'.stage.now = 0 := by
    rw [after, MemoryLedger.get?_after] at there
    obtain ⟨before, -, rfl⟩ := Option.map_eq_some_iff.1 there
    rw [now, Section.after_pool]
    exact before.pool.lapsed_reclaim w.stage.now _
  refine (tellsTruth_iff_promises there).2
    ((promises_iff reach' there unknown (by rwa [now, span])).2 ⟨?_, ?_⟩)
  · rintro ⟨-, lapsed⟩
    rw [nothing_lapsed] at lapsed
    exact absurd lapsed (Nat.lt_irrefl 0)
  · exact Section.callable_of_trimmed trimmed _

end Inventory

end BoxOffice
