import BoxOffice.Proofs.Inventory.Visit
import BoxOffice.Proofs.Ledger.Replace
import BoxOffice.Proofs.Ledger.Share
import Mathlib.Logic.ExistsUnique

/-!
# How a request is decided

A request may meet with one of fourteen verdicts. Each has a condition of its own on the ledger,
the request and the clock (`Verdict.Applies`), and brings its own answer and its own ledger
(`Verdict.Brings`). They are tried in a fixed order, and the first one whose condition is met
decides (`serve_reserve_decides`). Only the verdicts that hold a unit change the ledger, and they
change that unit alone.
-/

namespace BoxOffice

open Rehearsal Reservations

namespace ReserveRequest

/-- The request has no label, or a blank one. -/
def isNameless (r : ReserveRequest) : Bool :=
  r.seatLabel.all Text.isBlank

/-- The seat with the label of a request, the blanks around it left out. -/
def seat? (r : ReserveRequest) (l : MemoryLedger) : Option Seat :=
  r.seatLabel.bind fun label => l.seat? r.category (Text.trim label)

variable {r : ReserveRequest} {label : String}

theorem namedSeat_eq_some_iff :
    namedSeat r = some label ↔
      ∃ given, r.seatLabel = some given ∧ Text.isBlank given = false ∧ label = Text.trim given := by
  have filled (given : String) :
      (!(Text.trim given).isEmpty) = true ↔ Text.isBlank given = false := by
    rw [Bool.not_eq_true', ← Bool.not_eq_true, ← Bool.not_eq_true, String.isEmpty_iff,
      Text.trim_eq_empty_iff]
  unfold namedSeat
  cases r.seatLabel with
  | none => simp
  | some given =>
    rw [Option.map_some, Option.filter_some, Option.ite_none_right_eq_some, filled,
      Option.some.injEq]
    constructor
    · rintro ⟨full, same⟩
      exact ⟨given, rfl, full, same.symm⟩
    · rintro ⟨_, ⟨⟩, full, same⟩
      exact ⟨full, same.symm⟩

theorem namedSeat_eq_none_iff : namedSeat r = none ↔ r.isNameless := by
  rw [Option.eq_none_iff_forall_ne_some, isNameless]
  simp only [ne_eq, namedSeat_eq_some_iff]
  cases r.seatLabel with
  | none => simp
  | some given => simp

/-- A request that names a seat has a label that is not blank. -/
theorem not_isNameless_of_named (named : namedSeat r = some label) : r.isNameless = false := by
  rw [← Bool.not_eq_true, ← namedSeat_eq_none_iff, named]
  exact Option.some_ne_none label

theorem seat?_of_named (named : namedSeat r = some label) (l : MemoryLedger) :
    r.seat? l = l.seat? r.category label := by
  obtain ⟨given, labelled, -, rfl⟩ := namedSeat_eq_some_iff.1 named
  rw [seat?, labelled, Option.bind_some]

end ReserveRequest

/-- The ways in which a request may be decided. -/
inductive Verdict
  | categoryMissing
  | foreignEvent
  /-- A category of seats is asked for no seat. -/
  | labelRequired
  /-- A pool is asked for a seat. -/
  | labelRefused
  /-- The clock does not know the instant at which the hold would end. -/
  | outOfTime
  | seatMissing
  | seatClaimed
  /-- The request has the seat already. -/
  | seatKept
  | seatTaken
  /-- The request has its place already. -/
  | placeKept
  | placeRenewed
  | placeSold
  | placeTaken
  | soldOut
  deriving DecidableEq

namespace Verdict

/-- The verdicts that are reached before any unit is looked at. -/
def early : List Verdict :=
  [.categoryMissing, .foreignEvent, .labelRequired, .labelRefused, .outOfTime]

/-- The verdicts about seats. -/
def seats : List Verdict :=
  [.seatMissing, .seatClaimed, .seatKept, .seatTaken]

/-- The verdicts about places. -/
def places : List Verdict :=
  [.placeKept, .placeRenewed, .placeSold, .placeTaken, .soldOut]

/-- The verdicts in the order in which they are tried. -/
def order : List Verdict :=
  early ++ seats ++ places

/-- The condition of a verdict by itself, whatever was tried before it. -/
def Applies (w : Inventory) (r : ReserveRequest) : Verdict → Prop
  | .categoryMissing => w.ledger.sections.get? r.category = none
  | .foreignEvent => ∃ s, w.ledger.sections.get? r.category = some s ∧ s.category.event ≠ r.event
  | .labelRequired => r.Suits w.ledger .seated ∧ r.isNameless
  | .labelRefused => r.Suits w.ledger .standing ∧ ¬ r.isNameless
  | .outOfTime => w.stage.now.add? w.hold = none
  | .seatMissing => r.Suits w.ledger .seated ∧ r.seat? w.ledger = none
  | .seatClaimed => r.Suits w.ledger .seated ∧ ∃ seat, r.seat? w.ledger = some seat ∧
      (seat.status = .available ∨
        seat.status = .reserved ∧ ∃ last, seat.reservedUntil = some last ∧ last < w.stage.now)
  | .seatKept => r.Suits w.ledger .seated ∧ ∃ seat, r.seat? w.ledger = some seat ∧
      seat.status = .reserved ∧ seat.hold = some r.hold ∧
        ∃ last, seat.reservedUntil = some last ∧ w.stage.now ≤ last
  | .seatTaken => r.Suits w.ledger .seated ∧ ∃ seat, r.seat? w.ledger = some seat
  | .placeKept => r.Suits w.ledger .standing ∧ ∃ h, w.ledger.stock? r.category r.hold = some h ∧
      h.state = .held ∧ w.stage.now ≤ h.expiresAt
  | .placeRenewed => r.Suits w.ledger .standing ∧ ∃ h, w.ledger.stock? r.category r.hold = some h ∧
      h.state = .held ∧ h.expiresAt < w.stage.now
  | .placeSold => r.Suits w.ledger .standing ∧ ∃ h, w.ledger.stock? r.category r.hold = some h ∧
      h.state = .confirmed
  | .placeTaken => r.Suits w.ledger .standing ∧ ∃ s, w.ledger.sections.get? r.category = some s ∧
      0 < s.pool.available
  | .soldOut => r.Suits w.ledger .standing

/-- The first verdict that applies. -/
def IsFirst (v : Verdict) (w : Inventory) (r : ReserveRequest) : Prop :=
  ∃ before after, order = before ++ v :: after ∧ v.Applies w r ∧ ∀ u ∈ before, ¬ u.Applies w r

/-- A request is refused with an error of a kind, and the ledger is as it was. -/
def Refuses (w : Inventory) (kind : ErrorKind) (cause : Cause)
    (a : Except Breakdown (Result Token)) (l' : MemoryLedger) : Prop :=
  cause.error.kind = kind ∧ a = .ok (refuse cause) ∧ l' = w.ledger

/-- What a verdict answers to a request, and the ledger that it leaves behind. -/
def Brings (w : Inventory) (r : ReserveRequest) (a : Except Breakdown (Result Token))
    (l' : MemoryLedger) : Verdict → Prop
  | .categoryMissing => Refuses w .notFound (.categoryMissing r.category) a l'
  | .foreignEvent => Refuses w .invalidArgument (.foreignEvent r.category r.event) a l'
  | .labelRequired => Refuses w .invalidArgument (.seatLabelRequired r.category) a l'
  | .labelRefused => Refuses w .invalidArgument (.seatLabelRefused r.category) a l'
  | .outOfTime => a = .error .outOfTime ∧ l' = w.ledger
  | .seatMissing => ∃ label, r.seatLabel = some label ∧
      Refuses w .notFound (.seatMissing r.category (Text.trim label)) a l'
  | .seatClaimed => ∃ seat last,
      r.seat? w.ledger = some seat ∧ w.stage.now.add? w.hold = some last ∧
      a = .ok (.ok (r.token (.seat seat.id seat.label) last)) ∧
      l' = w.ledger.withSeat r.category seat.label (seat.reserve r.hold last)
  | .seatKept => ∃ seat last, r.seat? w.ledger = some seat ∧ seat.reservedUntil = some last ∧
      a = .ok (.ok (r.token (.seat seat.id seat.label) last)) ∧ l' = w.ledger
  | .seatTaken => ∃ seat, r.seat? w.ledger = some seat ∧ Refuses w .conflict
      (if seat.status = .sold then .seatSold seat.label else .seatReserved seat.label) a l'
  | .placeKept => ∃ h, w.ledger.stock? r.category r.hold = some h ∧
      a = .ok (.ok (r.token .stock h.expiresAt)) ∧ l' = w.ledger
  | .placeRenewed => ∃ s last, w.ledger.sections.get? r.category = some s ∧
      w.stage.now.add? w.hold = some last ∧ a = .ok (.ok (r.token .stock last)) ∧
      l' = w.ledger.withPool r.category
        { s.pool with holds := s.pool.holds.modify r.hold fun h => { h with expiresAt := last } }
  | .placeSold => Refuses w .conflict (.holdSpent r.hold .confirmed) a l'
  | .placeTaken => ∃ s last, w.ledger.sections.get? r.category = some s ∧
      w.stage.now.add? w.hold = some last ∧ a = .ok (.ok (r.token .stock last)) ∧
      l' = w.ledger.withPool r.category
        { available := s.pool.available - 1
          holds := s.pool.holds.set r.hold
            { hold := r.hold, category := r.category, state := .held, expiresAt := last } }
  | .soldOut => Refuses w .conflict (.soldOut r.category) a l'

/-! ### Verdicts that are passed over -/

section

variable {w : Inventory} {r : ReserveRequest}

/-- Once the category is known to be of the request's event, the first two verdicts are passed. -/
theorem not_applies_of_suits {layout : Layout} (suits : r.Suits w.ledger layout) :
    ∀ u ∈ [categoryMissing, foreignEvent], ¬ u.Applies w r := by
  obtain ⟨s, there, event, -⟩ := suits
  simp [Applies, there, event]

/-- A request with a label that suits its category is not decided by the label. -/
theorem not_applies_of_fits {layout : Layout} (suits : r.Suits w.ledger layout)
    (fits : r.isNameless = false ↔ layout = .seated) :
    ∀ u ∈ [categoryMissing, foreignEvent] ++ [labelRequired, labelRefused], ¬ u.Applies w r := by
  refine List.forall_mem_append.2 ⟨not_applies_of_suits suits, ?_⟩
  simp only [List.forall_mem_cons, List.not_mem_nil, false_implies, implies_true, and_true]
  constructor
  · rintro ⟨seated, nameless⟩
    simp [fits.2 (suits.unique seated)] at nameless
  · rintro ⟨standing, named⟩
    cases suits.unique standing
    simp [fits] at named

/-- With an end that the clock knows it is not decided early at all. -/
theorem not_applies_early {layout : Layout} {last : Instant} (suits : r.Suits w.ledger layout)
    (fits : r.isNameless = false ↔ layout = .seated) (due : w.stage.now.add? w.hold = some last) :
    ∀ u ∈ early, ¬ u.Applies w r := by
  refine List.forall_mem_append.2 ⟨not_applies_of_fits suits fits, ?_⟩
  simp [Applies, due]

/-- A pool has no seats to decide about. -/
theorem not_applies_seats (suits : r.Suits w.ledger .standing) :
    ∀ u ∈ seats, ¬ u.Applies w r := by
  intro u about applies
  have seated : r.Suits w.ledger .seated := by
    simp only [seats, List.mem_cons, List.not_mem_nil, or_false] at about
    rcases about with rfl | rfl | rfl | rfl <;> exact applies.1
  cases suits.unique seated

/-- A verdict about a seat is the first one if it is the first of these. -/
theorem isFirst_seats {v : Verdict} {last : Instant} {after : List Verdict} (before : List Verdict)
    (suits : r.Suits w.ledger .seated) (named : r.isNameless = false)
    (due : w.stage.now.add? w.hold = some last) (split : seats = before ++ v :: after)
    (applies : v.Applies w r) (passed : ∀ u ∈ before, ¬ u.Applies w r) : v.IsFirst w r := by
  refine ⟨early ++ before, after ++ places, by simp [order, split], applies, fun u tried => ?_⟩
  rcases List.mem_append.1 tried with first | later
  · exact not_applies_early suits (by simp [named]) due u first
  · exact passed u later

/-- A verdict about a place is the first one if it is the first of these. -/
theorem isFirst_places {v : Verdict} {last : Instant} {after : List Verdict} (before : List Verdict)
    (suits : r.Suits w.ledger .standing) (unnamed : r.isNameless = true)
    (due : w.stage.now.add? w.hold = some last) (split : places = before ++ v :: after)
    (applies : v.Applies w r) (passed : ∀ u ∈ before, ¬ u.Applies w r) : v.IsFirst w r := by
  refine ⟨early ++ seats ++ before, after, by simp [order, split], applies, fun u tried => ?_⟩
  rcases List.mem_append.1 tried with first | later
  · rcases List.mem_append.1 first with first | about_seats
    · exact not_applies_early suits (by simp [unnamed]) due u first
    · exact not_applies_seats suits u about_seats
  · exact passed u later

/-- Only one verdict is the first. -/
theorem IsFirst.unique {u v : Verdict} (hu : u.IsFirst w r) (hv : v.IsFirst w r) : u = v := by
  obtain ⟨before, after, split, applies, passed⟩ := hu
  obtain ⟨before', after', split', applies', passed'⟩ := hv
  rcases List.append_eq_append_iff.1 (split.symm.trans split') with
    ⟨more, rfl, rest⟩ | ⟨more, rfl, rest⟩
  all_goals
    cases more with
    | nil =>
      simp only [List.nil_append, List.cons.injEq] at rest
      first | exact rest.1 | exact rest.1.symm
    | cons x more =>
      simp only [List.cons_append, List.cons.injEq] at rest
      obtain ⟨rfl, -⟩ := rest
      first
      | exact absurd applies (passed' _ (by simp))
      | exact absurd applies' (passed _ (by simp))

/-! ### Conditions on one unit -/

section

variable {seat : Seat}

theorem not_applies_seatMissing (found : r.seat? w.ledger = some seat) :
    ¬ seatMissing.Applies w r := by
  rintro ⟨-, missing⟩
  cases found.symm.trans missing

theorem applies_seatClaimed_iff (suits : r.Suits w.ledger .seated)
    (found : r.seat? w.ledger = some seat) (well : seat.WellFormed) :
    seatClaimed.Applies w r ↔ seat.isClaimable w.stage.now := by
  rw [well.claimable_iff, Seat.isLapsed_iff]
  simp [Applies, suits, found]

theorem applies_seatKept_iff (suits : r.Suits w.ledger .seated)
    (found : r.seat? w.ledger = some seat) :
    seatKept.Applies w r ↔ seat.isHeldBy r.hold w.stage.now := by
  rw [Seat.isHeldBy_iff]
  simp [Applies, suits, found]

/-- A hold that never was, or whose place went back, is neither kept nor renewed nor sold. -/
theorem not_applies_of_gone (gone : ∀ h, w.ledger.stock? r.category r.hold = some h →
      h.state = .released ∨ h.state = .expired) :
    ∀ u ∈ [placeKept, placeRenewed, placeSold], ¬ u.Applies w r := by
  have not_state {state : HoldState} (other : state ≠ .released ∧ state ≠ .expired) {h : StockHold}
      (there : w.ledger.stock? r.category r.hold = some h) : h.state ≠ state := by
    rintro rfl
    rcases gone h there with e | e
    · exact other.1 e
    · exact other.2 e
  simp only [List.forall_mem_cons, List.not_mem_nil, false_implies, implies_true, and_true]
  refine ⟨?_, ?_, ?_⟩
  · rintro ⟨-, h, there, held, -⟩
    exact not_state (by decide) there held
  · rintro ⟨-, h, there, held, -⟩
    exact not_state (by decide) there held
  · rintro ⟨-, h, there, sold⟩
    exact not_state (by decide) there sold

end

/-! ### Verdicts that decide -/

/-- However a request ends, the first verdict that applies to it brings this. -/
theorem exists_isFirst (reach : w.ledger.Reachable) {a : Except Breakdown (Result Token)}
    {l' : MemoryLedger} (way : Reserving w.ledger w.hold w.stage.now r a l') :
    ∃ v : Verdict, v.IsFirst w r ∧ v.Brings w r a l' := by
  cases way with
  | categoryMissing missing =>
    exact ⟨.categoryMissing, ⟨[], _, rfl, missing, by simp⟩, rfl, rfl, rfl⟩
  | foreignEvent there foreign =>
    refine ⟨.foreignEvent, ⟨[.categoryMissing], _, rfl, ⟨_, there, foreign⟩, ?_⟩, rfl, rfl, rfl⟩
    simp [Applies, there]
  | seatLabelRequired suits unnamed =>
    refine ⟨.labelRequired, ⟨[.categoryMissing, .foreignEvent], _, rfl,
      ⟨suits, ReserveRequest.namedSeat_eq_none_iff.1 unnamed⟩, not_applies_of_suits suits⟩,
      rfl, rfl, rfl⟩
  | seatLabelRefused suits named =>
    have passed : ¬ labelRequired.Applies w r := fun required => by
      cases suits.unique required.1
    refine ⟨.labelRefused, ⟨[.categoryMissing, .foreignEvent] ++ [.labelRequired], _, rfl,
      ⟨suits, by simp [ReserveRequest.not_isNameless_of_named named]⟩, ?_⟩, rfl, rfl, rfl⟩
    exact List.forall_mem_append.2 ⟨not_applies_of_suits suits, by simpa using passed⟩
  | outOfTime suits fits unknown =>
    refine ⟨.outOfTime, ⟨_, _, rfl, unknown, not_applies_of_fits suits ?_⟩, rfl, rfl⟩
    rw [← fits, Option.isSome_iff_ne_none, ne_eq, ReserveRequest.namedSeat_eq_none_iff,
      Bool.not_eq_true]
  | seatMissing suits named due missing =>
    obtain ⟨given, labelled, -, rfl⟩ := ReserveRequest.namedSeat_eq_some_iff.1 named
    have missing' := (ReserveRequest.seat?_of_named named w.ledger).trans missing
    have first := isFirst_seats [] suits (ReserveRequest.not_isNameless_of_named named) due rfl
      ⟨suits, missing'⟩ (by simp)
    exact ⟨.seatMissing, first, given, labelled, rfl, rfl, rfl⟩
  | seatReserved suits named due there claimable =>
    rename_i label last seat
    obtain ⟨rfl, -, well⟩ := reach.seat there
    have found := (ReserveRequest.seat?_of_named named w.ledger).trans there
    have first := isFirst_seats [.seatMissing] suits
      (ReserveRequest.not_isNameless_of_named named) due rfl
      ((applies_seatClaimed_iff suits found well).2 claimable)
      (by simpa using not_applies_seatMissing found)
    exact ⟨.seatClaimed, first, seat, last, found, due, rfl,
      MemoryLedger.after_reserveSeat_eq there claimable⟩
  | seatReplayed suits named due there held =>
    rename_i label last seat
    obtain ⟨rfl, -, well⟩ := reach.seat there
    have found := (ReserveRequest.seat?_of_named named w.ledger).trans there
    obtain ⟨-, -, kept_until, until_then, -⟩ := Seat.isHeldBy_iff.1 held
    have taken : ¬ seat.isClaimable w.stage.now := fun claimable => by
      rw [Seat.not_isHeldBy_of_claimable claimable] at held
      cases held
    have first := isFirst_seats [.seatMissing, .seatClaimed] suits
      (ReserveRequest.not_isNameless_of_named named) due rfl
      ((applies_seatKept_iff suits found).2 held)
      (by simpa using ⟨not_applies_seatMissing found,
        mt (applies_seatClaimed_iff suits found well).1 taken⟩)
    exact ⟨.seatKept, first, seat, kept_until, found, until_then,
      by rw [until_then, Option.getD_some], rfl⟩
  | seatRefused suits named due there taken other =>
    rename_i label last seat
    obtain ⟨rfl, -, well⟩ := reach.seat there
    have found := (ReserveRequest.seat?_of_named named w.ledger).trans there
    have first := isFirst_seats [.seatMissing, .seatClaimed, .seatKept] suits
      (ReserveRequest.not_isNameless_of_named named) due rfl ⟨suits, seat, found⟩
      (by simpa using ⟨not_applies_seatMissing found,
        mt (applies_seatClaimed_iff suits found well).1 taken,
        mt (applies_seatKept_iff suits found).1 other⟩)
    refine ⟨.seatTaken, first, seat, found, ?_, rfl, rfl⟩
    split <;> rfl
  | stockTaken suits unnamed due there taken =>
    rename_i last s h
    have nameless := ReserveRequest.namedSeat_eq_none_iff.1 unnamed
    have mine : w.ledger.stock? r.category r.hold = s.pool.holds.get? r.hold := by
      rw [MemoryLedger.stock?, there, Option.bind_some]
    have after := MemoryLedger.after_takeStock_eq there r.hold w.stage.now last
    rcases s.pool.take_cases r.category r.hold w.stage.now last with
      ⟨_, -, -, e⟩ | ⟨h₀, found, lapsed, e⟩ | ⟨gone, ⟨-, e⟩ | ⟨left, e⟩⟩ <;> rw [e] at taken after
    · cases taken
    · cases taken
      obtain ⟨held, past⟩ := StockHold.isLapsed_iff.1 lapsed
      have known := mine.trans found
      refine ⟨.placeRenewed, isFirst_places [.placeKept] suits nameless due rfl
        ⟨suits, h₀, known, held, past⟩ ?_, s, last, there, due, rfl, after⟩
      simpa [Applies, known, held] using fun _ => Instant.not_le.2 past
    · cases taken
    · cases taken
      exact ⟨.placeTaken, isFirst_places [.placeKept, .placeRenewed, .placeSold] suits nameless
        due rfl ⟨suits, s, there, UInt32.pos_iff_ne_zero.2 left⟩
        (not_applies_of_gone (mine ▸ gone)), s, last, there, due, rfl, after⟩
  | stockReplayed suits unnamed due there live =>
    have first := isFirst_places [] suits (ReserveRequest.namedSeat_eq_none_iff.1 unnamed) due rfl
      ⟨suits, _, there, StockHold.isLive_iff.1 live⟩ (by simp)
    exact ⟨.placeKept, first, _, there, rfl, rfl⟩
  | stockSpent suits unnamed due there sold =>
    have first := isFirst_places [.placeKept, .placeRenewed] suits
      (ReserveRequest.namedSeat_eq_none_iff.1 unnamed) due rfl ⟨suits, _, there, sold⟩
      (by simp [Applies, there, sold])
    exact ⟨.placeSold, first, rfl, rfl, rfl⟩
  | stockSoldOut suits unnamed due there nothing gone =>
    have none_left : ¬ placeTaken.Applies w r := by simp [Applies, there, nothing]
    have first := isFirst_places (v := .soldOut)
      ([.placeKept, .placeRenewed, .placeSold] ++ [.placeTaken]) suits
      (ReserveRequest.namedSeat_eq_none_iff.1 unnamed) due rfl suits
      (List.forall_mem_append.2 ⟨not_applies_of_gone gone, by simpa using none_left⟩)
    exact ⟨.soldOut, first, rfl, rfl, rfl⟩

end

end Verdict

namespace Inventory

/-- **A request is decided by the first verdict that applies, and all or nothing.** Only a request
that is answered with a token changes the ledger; it changes nothing but the share of the token, and
its hold has that share then until the instant on the token. -/
theorem serve_reserve_decides {w : Inventory} (reach : w.ledger.Reachable) (r : ReserveRequest) :
    ∃ a w', w.serve (.reserve r) = (a, w') ∧
      (∃! v : Verdict, v.IsFirst w r ∧ v.Brings w r a w'.ledger) ∧
      ((∀ t, a ≠ .ok (.ok t)) → w'.ledger = w.ledger) ∧
      ∀ t, a = .ok (.ok t) → t.hold = r.hold ∧ w'.ledger.Holds t ∧
        w.ledger.SameBut w'.ledger t.share ∧ w'.ledger.nextSeat = w.ledger.nextSeat := by
  obtain ⟨a, w', served, way⟩ := serve_reserve reach r
  obtain ⟨v, first, brings⟩ := Verdict.exists_isFirst reach way
  refine ⟨a, w', served, ⟨v, ⟨first, brings⟩, fun u other => other.1.unique first⟩, ?_, ?_⟩
  · intro refused
    rcases way.ledger_cases with same | ⟨t, -, granted, -⟩
    · exact same
    · exact absurd granted (refused t)
  · rintro t rfl
    obtain ⟨holds, hold, -⟩ := way.granted
    refine ⟨hold, holds, ?_⟩
    rcases way.ledger_cases with same | ⟨t', c, granted, after, -, -, share, -⟩
    · rw [same]
      exact ⟨.refl, rfl⟩
    · cases granted
      rw [after]
      exact ⟨reach.sameBut share, rfl⟩

/-- Its label written with blanks, the only seat is claimed and then held for ten seconds. -/
theorem serve_reserve_decides_one_seat :
    let r : ReserveRequest := .seated ⟨.random 1⟩ ⟨1⟩ ⟨10⟩ " A1 "
    let t : Token := r.token (.seat ⟨1⟩ "A1") (.ofParts 1010 0)
    oneSeat.ledger.Reachable ∧ (oneSeat.serve (.reserve r)).1 = .ok (.ok t) ∧
      (∃! v : Verdict, v.IsFirst oneSeat r ∧
        v.Brings oneSeat r (.ok (.ok t)) (oneSeat.serve (.reserve r)).2.ledger) ∧
      (oneSeat.serve (.reserve r)).2.ledger.Holds t := by
  intro r t
  have reach : oneSeat.ledger.Reachable := ⟨[.addSeated _ _], rfl⟩
  have answered : (oneSeat.serve (.reserve r)).1 = .ok (.ok t) := rfl
  obtain ⟨a, w', served, first, -, held⟩ := serve_reserve_decides reach r
  obtain rfl : a = .ok (.ok t) := by rw [← answered, served]
  rw [served]
  exact ⟨reach, rfl, first, (held t rfl).2.1⟩

end Inventory

end BoxOffice
