import BoxOffice.Proofs.Inventory.Reserve
import BoxOffice.Rehearsal.Setup

/-!
# Holds as they are configured

How long a hold lasts is configured in seconds, from one to as many as fit the number. A service that is
put together from a configuration honours it at a time if every hold that begins then ends that many
seconds later (`Config.Honours`). Spans of that many seconds need not exist, and the clock may not
know the instant at which a hold would end; a configuration that is accepted is honoured exactly as long
as the clock knows it (`Config.honours_iff`), which not every one is (`Config.accepted_not_honoured`).
-/

namespace BoxOffice

open Rehearsal

/-! ### Seconds later -/

namespace Instant

/-- The instant some seconds later, at the same point of its second. A leap second is counted as the
second before it. -/
def later (t : Instant) (seconds : Nat) : Instant :=
  ofParts (t.second + seconds) (t.nano % 1000000000)

/-- The instant lies in one of some years. -/
def Within (t : Instant) (first last : Int) : Prop :=
  firstSecond { year := first, month := 1, day := 1 } ≤ t.second ∧
    t.second < firstSecond { year := last + 1, month := 1, day := 1 }

instance (t : Instant) (first last : Int) : Decidable (t.Within first last) :=
  inferInstanceAs (Decidable (_ ∧ _))

theorem ofNanos_of_parts (second : Int) {nano : Nat} (h : nano < 1000000000) :
    ofNanos (second * 1000000000 + nano) = ofParts second nano := by
  rw [ofNanos]
  congr 1 <;> omega

theorem nano_lt (t : Instant) : t.nano < 2000000000 := by
  unfold nano
  omega

/-- A span of seconds leads that many seconds on. -/
theorem shift_ofSeconds (t : Instant) {n : Nat} (pos : 0 < n) :
    t.shift (.ofSeconds n) = t.later n := by
  have lt := t.nano_lt
  have ends : t.nano % 1000000000 < 1000000000 := Nat.mod_lt _ (by decide)
  have seconds : (Span.ofSeconds n).seconds = n := Int.mul_tdiv_cancel _ (by decide)
  have nanos : (Span.ofSeconds n).nanos = n * 1000000000 := rfl
  rw [later, ← ofNanos_of_parts _ ends, shift, seconds, nanos, Instant.nanos, isLeap]
  split
  · next leap =>
    have leap := of_decide_eq_true leap
    rw [if_neg (by omega), if_pos (by omega)]
    congr 1
    omega
  · next usual =>
    have usual := of_decide_eq_false (Bool.not_eq_true _ ▸ usual)
    congr 1
    omega

theorem latest_eq : latest = ofParts 8210266876799 999999999 := by decide

theorem earliest_eq : earliest = ofParts (-8334601228800) 0 := by decide

theorem second_latest : latest.second = 8210266876799 := by decide

/-- The clock knows the instant some seconds later exactly if it knows the second. -/
theorem add?_ofSeconds {t : Instant} (recent : 0 ≤ t.second) {n : Nat} (pos : 0 < n) :
    t.add? (.ofSeconds n) = if t.second + n ≤ latest.second then some (t.later n) else none := by
  have known : earliest ≤ t.later n ∧ t.later n ≤ latest ↔ t.second + n ≤ latest.second := by
    rw [second_latest, latest_eq, earliest_eq, later, ofParts, ofParts, ofParts, le_def, le_def]
    dsimp only
    omega
  unfold add?
  simp only [shift_ofSeconds t pos, known]

end Instant

/-! ### What is asked of the ledger -/

/-- The clock says a time; anything may be said to everything else. -/
def Says (now : Instant) : (c : InventoryWorld.Call) → InventoryWorld.Reply c → Prop
  | .inr .now, reply => reply = now
  | _, _ => True

/-- A unit is asked for at a time and until an instant, if one is asked for, and the clock knows the
instant. -/
def AsksUntil (now last : Instant) : InventoryWorld.Call → Prop
  | .inl (.reserveSeat claim) => claim.now = now ∧ claim.expiresAt = last
  | .inl (.takeStock _ _ now' expiresAt) => now' = now ∧ expiresAt = last
  | .inr .outOfTime => False
  | _ => True

namespace Reservations

variable {hold : Span} {now last : Instant}

theorem onlyIf_note (n : Notice) :
    (Surroundings.note n : Service InventoryWorld Unit).run.OnlyIf (Says now)
      (AsksUntil now last) :=
  ⟨trivial, fun _ _ => trivial⟩

theorem onlyIf_count (c : Counter) :
    (Surroundings.count c : Service InventoryWorld Unit).run.OnlyIf (Says now)
      (AsksUntil now last) :=
  ⟨trivial, fun _ _ => trivial⟩

theorem onlyIf_ask {c : Ledger.Call} (asks : AsksUntil now last (.inl c)) :
    (Ledger.ask c : Service InventoryWorld c.Answer).run.OnlyIf (Says now) (AsksUntil now last) :=
  ⟨asks, fun _ _ => trivial⟩

/-- What follows the clock follows its time. -/
theorem onlyIf_now {α : Type} {k : Instant → Service InventoryWorld α}
    (rest : (k now).run.OnlyIf (Says now) (AsksUntil now last)) :
    (Surroundings.now >>= k).run.OnlyIf (Says now) (AsksUntil now last) := by
  refine ⟨trivial, fun reply told => ?_⟩
  obtain rfl : reply = now := told
  exact rest

theorem later_of_some (due : now.add? hold = some last) :
    (Surroundings.later now hold : Service InventoryWorld Instant) = pure last := by
  unfold Surroundings.later
  rw [due]

theorem onlyIf_requestedCategory (r : ReserveRequest) :
    (requestedCategory r).run.OnlyIf (Says now) (AsksUntil now last) := by
  refine Service.onlyIf_bind (onlyIf_ask trivial) fun category => ?_
  cases category with
  | none => trivial
  | some category =>
    dsimp only
    split <;> trivial

theorem onlyIf_reserveSeat (due : now.add? hold = some last) (r : ReserveRequest) (c : Category) :
    (reserveSeat hold r c).run.OnlyIf (Says now) (AsksUntil now last) := by
  unfold reserveSeat
  cases namedSeat r with
  | none => trivial
  | some label =>
    refine onlyIf_now ?_
    rw [later_of_some due, pure_bind]
    refine Service.onlyIf_bind (onlyIf_ask ⟨rfl, rfl⟩) fun seat => ?_
    cases seat with
    | some seat =>
      exact Service.onlyIf_bind (onlyIf_count _) fun _ =>
        Service.onlyIf_bind (onlyIf_note _) fun _ => trivial
    | none =>
      refine Service.onlyIf_bind (onlyIf_ask trivial) fun seat => ?_
      cases seat with
      | none => trivial
      | some seat =>
        dsimp only
        split <;> exact Service.onlyIf_bind (onlyIf_count _) fun _ =>
          Service.onlyIf_bind (onlyIf_note _) fun _ => trivial

theorem onlyIf_reserveStock (due : now.add? hold = some last) (r : ReserveRequest) (c : Category) :
    (reserveStock hold r c).run.OnlyIf (Says now) (AsksUntil now last) := by
  unfold reserveStock
  split
  · exact trivial
  · refine onlyIf_now ?_
    rw [later_of_some due, pure_bind]
    refine Service.onlyIf_bind (onlyIf_ask ⟨rfl, rfl⟩) fun outcome => ?_
    cases outcome with
    | taken h =>
      exact Service.onlyIf_bind (onlyIf_count _) fun _ =>
        Service.onlyIf_bind (onlyIf_note _) fun _ => trivial
    | existing h =>
      dsimp only
      split
      · exact Service.onlyIf_bind (onlyIf_count _) fun _ =>
          Service.onlyIf_bind (onlyIf_note _) fun _ => trivial
      · exact Service.onlyIf_bind (onlyIf_count _) fun _ => trivial
    | soldOut =>
      exact Service.onlyIf_bind (onlyIf_count _) fun _ =>
        Service.onlyIf_bind (onlyIf_note _) fun _ => trivial

/-- A request asks the ledger, whichever it is, for a unit until the hold's end. -/
theorem onlyIf_reserve (due : now.add? hold = some last) (r : ReserveRequest) :
    (reserve hold r).run.OnlyIf (Says now) (AsksUntil now last) := by
  refine Service.onlyIf_bind (onlyIf_requestedCategory r) fun category => ?_
  cases category.layout with
  | seated => exact onlyIf_reserveSeat due r category
  | standing => exact onlyIf_reserveStock due r category

theorem not_onlyIf_later (unknown : now.add? hold = none) {α : Type}
    (k : Instant → Service InventoryWorld α) :
    ¬ (Surroundings.later now hold >>= k).run.OnlyIf (Says now) (AsksUntil now last) := by
  unfold Surroundings.later
  rw [unknown]
  intro asked
  exact asked.1

/-- A request for a place breaks down if the clock does not know the hold's end. -/
theorem not_onlyIf_reserve (unknown : now.add? hold = none) (last : Instant) :
    ¬ (reserve hold (.standing ⟨.random 1⟩ ⟨1⟩ ⟨1⟩)).run.OnlyIf (Says now) (AsksUntil now last) := by
  intro asked
  let category : Category :=
    { id := ⟨1⟩, event := ⟨1⟩, name := "", layout := .standing, tracking := .flexible,
      price := ⟨0⟩, total := 1, available := 1 }
  have found : (reserveStock hold (.standing ⟨.random 1⟩ ⟨1⟩ ⟨1⟩) category).run.OnlyIf (Says now)
      (AsksUntil now last) := asked.2 (.ok (some category)) trivial
  exact not_onlyIf_later unknown _ (found.2 now rfl)

end Reservations

/-! ### Configurations that are honoured -/

/-- The inventory of a service that is put together as set up. -/
def Rehearsal.Setup.inventory (s : Setup) (stage : Stage) (ledger : MemoryLedger) : Inventory where
  hold := s.emptyWorld.hold
  stage
  ledger

namespace Config

/-- The instant at which a hold is to end that begins at a time. -/
def expiry (c : Config) (now : Instant) : Instant :=
  now.later c.reservation.holdSeconds.toNat

/-- **A configuration is honoured at a time** by the services that are put together from it. -/
structure Honours (c : Config) (now : Instant) : Prop where
  /-- Their holds last for as many seconds as it says. -/
  lasts : ∀ s : Setup, s.config = some c →
    s.emptyWorld.hold = .ofSeconds c.reservation.holdSeconds.toNat
  /-- Whichever ledger they work with, they ask it for units until that many seconds later. -/
  asks : ∀ s : Setup, s.config = some c → ∀ r : ReserveRequest,
    (Reservations.reserve s.emptyWorld.hold r).run.OnlyIf (Says now) (AsksUntil now (c.expiry now))
  /-- A ledger in memory answers every request, and a token ends then unless the ledger holds its
  unit already. -/
  grants : ∀ s : Setup, s.config = some c → ∀ stage l r, stage.now = now → l.Reachable →
    ∃ a w, (s.inventory stage l).serve (.reserve r) = (.ok a, w) ∧
      ∀ t, a = .ok t → t.expiresAt = c.expiry now ∨ l.Holds t

end Config

/-- A request is answered if the clock knows when its hold would end, and a token ends then unless its
unit is held already. -/
theorem Reserving.ends {l l' : MemoryLedger} {hold : Span} {now last : Instant} {r : ReserveRequest}
    {a : Except Breakdown (Result Token)} (way : Reserving l hold now r a l')
    (due : now.add? hold = some last) :
    ∃ answer, a = .ok answer ∧ ∀ t, answer = .ok t → t.expiresAt = last ∨ l.Holds t := by
  cases way with
  | outOfTime suits fits unknown => cases unknown.symm.trans due
  | seatReserved suits named due' there claimable =>
    refine ⟨_, rfl, ?_⟩
    rintro _ ⟨⟩
    exact .inl (Option.some.inj (due'.symm.trans due))
  | stockTaken suits unnamed due' there taken =>
    refine ⟨_, rfl, ?_⟩
    rintro _ ⟨⟩
    exact .inl ((Pool.take_taken taken).2.2.trans (Option.some.inj (due'.symm.trans due)))
  | seatReplayed suits named due' there held =>
    refine ⟨_, rfl, ?_⟩
    rintro _ ⟨⟩
    exact .inr (Reserving.seatReplayed suits named due' there held).granted.1
  | stockReplayed suits unnamed due' there live =>
    refine ⟨_, rfl, ?_⟩
    rintro _ ⟨⟩
    exact .inr (Reserving.stockReplayed suits unnamed due' there live).granted.1
  | _ =>
    refine ⟨_, rfl, ?_⟩
    rintro _ ⟨⟩

namespace Config

variable {c : Config} {now : Instant}

theorem hold_emptyWorld {s : Setup} (configured : s.config = some c) :
    s.emptyWorld.hold = c.holdDuration := by
  show s.config.elim s.hold holdDuration = c.holdDuration
  rw [configured]
  rfl

theorem accepted_of_isOk (h : c.validate.isOk) : c.validate = .ok () := by
  cases checked : c.validate with
  | ok => rfl
  | error problem =>
    rw [checked] at h
    cases h

theorem holdSeconds_pos (accepted : c.validate = .ok ()) :
    0 < c.reservation.holdSeconds.toNat := by
  refine Nat.pos_of_ne_zero fun none => ?_
  have zero : c.reservation.holdSeconds = 0 := UInt64.toNat_inj.1 none
  rw [validate, if_pos zero] at accepted
  cases accepted

/-- Spans of more seconds than there may be are replaced by another one. -/
theorem holdDuration_eq_iff : c.holdDuration = .ofSeconds c.reservation.holdSeconds.toNat ↔
    c.reservation.holdSeconds.toNat ≤ maxHoldSeconds := by
  unfold holdDuration
  split
  · next few => exact iff_of_true rfl few
  · next many =>
    refine iff_of_false (fun same => many ?_) many
    have seconds := congrArg Span.nanos same
    simp only [defaultHold, Span.ofSeconds] at seconds
    unfold maxHoldSeconds
    omega

theorem honours_of_known (accepted : c.validate = .ok ()) (recent : 0 ≤ now.second)
    (known : now.second + c.reservation.holdSeconds.toNat ≤ Instant.latest.second) :
    c.Honours now := by
  have lasts : c.holdDuration = .ofSeconds c.reservation.holdSeconds.toNat := by
    rw [holdDuration_eq_iff, maxHoldSeconds]
    rw [Instant.second_latest] at known
    omega
  have due : now.add? c.holdDuration = some (c.expiry now) := by
    rw [lasts, Instant.add?_ofSeconds recent (holdSeconds_pos accepted), if_pos known]
    rfl
  refine ⟨fun s configured => ?_, fun s configured r => ?_,
    fun s configured stage l r time reach => ?_⟩
  · rw [hold_emptyWorld configured, lasts]
  · rw [hold_emptyWorld configured]
    exact Reservations.onlyIf_reserve due r
  · obtain ⟨a, w, served, way⟩ := (s.inventory stage l).serve_reserve reach r
    have due' : stage.now.add? (s.inventory stage l).hold = some (c.expiry now) := by
      rw [time, Setup.inventory, hold_emptyWorld configured, due]
    obtain ⟨answer, rfl, ends⟩ := way.ends due'
    exact ⟨answer, w, served, ends⟩

theorem known_of_honours (accepted : c.validate = .ok ()) (recent : 0 ≤ now.second)
    (honours : c.Honours now) :
    now.second + c.reservation.holdSeconds.toNat ≤ Instant.latest.second := by
  let s : Setup := { Setup.plain with config := some c }
  have lasts := honours.lasts s rfl
  have asks := honours.asks s rfl (.standing ⟨.random 1⟩ ⟨1⟩ ⟨1⟩)
  rw [lasts] at asks
  refine Decidable.byContradiction fun late => ?_
  refine Reservations.not_onlyIf_reserve ?_ _ asks
  rw [Instant.add?_ofSeconds recent (holdSeconds_pos accepted), if_neg late]

/-- **A configuration that is accepted is honoured** at a time of the years 1970 to 9999 exactly if the
clock knows the instant at which a hold that begins then is to end: at all of these times exactly if a
hold lasts for at most 7956864576000 seconds. -/
theorem honours_iff (c : Config) (accepted : c.validate = .ok ()) :
    (∀ now : Instant, now.Within 1970 9999 → (c.Honours now ↔
      now.second + c.reservation.holdSeconds.toNat ≤ Instant.latest.second)) ∧
    ((∀ now : Instant, now.Within 1970 9999 → c.Honours now) ↔
      c.reservation.holdSeconds.toNat ≤ 7956864576000) := by
  have within {now : Instant} :
      now.Within 1970 9999 ↔ 0 ≤ now.second ∧ now.second < 253402300800 := Iff.rfl
  have known {now : Instant} (recent : now.Within 1970 9999) : c.Honours now ↔
      now.second + c.reservation.holdSeconds.toNat ≤ Instant.latest.second :=
    ⟨known_of_honours accepted (within.1 recent).1, honours_of_known accepted (within.1 recent).1⟩
  refine ⟨fun now => known, fun honours => ?_, fun few now recent => ?_⟩
  · have last : (Instant.ofParts 253402300799 0).Within 1970 9999 := by decide
    have known := (known last).1 (honours _ last)
    rw [Instant.second_ofParts (by decide), Instant.second_latest] at known
    omega
  · rw [known recent, Instant.second_latest]
    have early := (within.1 recent).2
    omega

/-- Nothing is configured, and holds last a quarter of an hour. -/
theorem default_honoured :
    let c := ofLookup fun _ => none
    c.validate = .ok () ∧ ∀ now : Instant, now.Within 1970 9999 → c.Honours now := by
  intro c
  have accepted : c.validate = .ok () := accepted_of_isOk (by decide +kernel)
  exact ⟨accepted, (honours_iff c accepted).2.2 (by decide +kernel)⟩

/-- Holds that are to last too long for a span last a quarter of an hour instead, and one second too many
for the clock is too many for the service; both configurations are accepted. -/
theorem accepted_not_honoured :
    let lasting (text : String) : Config :=
      ofLookup fun key => if key = "RESERVATION_HOLD_SECONDS" then some text else none
    let now : Instant := .ofParts 1735689600 0
    now.Within 1970 9999 ∧
      ((lasting "9223372036854776").validate = .ok () ∧
        (lasting "9223372036854776").holdDuration = .ofSeconds 900 ∧
        ¬ (lasting "9223372036854776").Honours now) ∧
      (lasting "8208531187200").validate = .ok () ∧
        now.add? (lasting "8208531187200").holdDuration = none ∧
        ¬ (lasting "8208531187200").Honours now := by
  intro lasting now
  have short : (lasting "9223372036854776").validate = .ok () := accepted_of_isOk (by decide +kernel)
  have long : (lasting "8208531187200").validate = .ok () := accepted_of_isOk (by decide +kernel)
  refine ⟨by decide, ⟨short, by decide +kernel, fun honours => ?_⟩, long, by decide +kernel,
    fun honours => ?_⟩
  · exact absurd (known_of_honours short (by decide) honours) (by decide +kernel)
  · exact absurd (known_of_honours long (by decide) honours) (by decide +kernel)

end Config

end BoxOffice
