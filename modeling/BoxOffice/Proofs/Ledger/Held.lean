import BoxOffice.Proofs.Ledger.Sound
import BoxOffice.Reservation

/-!
# Live and lapsed holds

What a token says its hold has may be there (`Holds`), and calls in the name of others leave it so up
to the expiry (`Holds.after`). Unless the hold gets the unit again, what it has of it is unsold and
ends at that expiry (`Expires`), whatever else is called and whenever (`Expires.after`).
-/

namespace BoxOffice

/-- A place that a hold may have: a seat of a category, or a place of its pool. -/
structure Share where
  hold : HoldId
  category : CategoryId
  label : Option String
  deriving DecidableEq

namespace Token

/-- The share that a token is about. -/
def share (t : Token) : Share where
  hold := t.hold
  category := t.category
  label := t.seatLabel

/-- The ledger call that gives back what a token holds. -/
def giveBack (t : Token) : Ledger.Call :=
  match t.unit with
  | .seat _ label => .releaseSeat t.category label t.hold
  | .stock => .returnStock t.category t.hold

/-- The ledger call that sells what a token holds. -/
def sell (t : Token) (now : Instant) : Ledger.Call :=
  match t.unit with
  | .seat _ label => .sellSeat t.category label t.hold now
  | .stock => .settleStock t.category t.hold now

end Token

namespace Ledger.Call

/-- The hold in whose name a call is made. -/
def hold? : Call → Option HoldId
  | .reserveSeat claim => some claim.hold
  | .releaseSeat _ _ hold => some hold
  | .sellSeat _ _ hold _ => some hold
  | .takeStock _ hold _ _ => some hold
  | .returnStock _ hold => some hold
  | .settleStock _ hold _ => some hold
  | _ => none

/-- The reading of the clock that decides what a call does. -/
def time? : Call → Option Instant
  | .reserveSeat claim => some claim.now
  | .sellSeat _ _ _ now => some now
  | .takeStock _ _ now _ => some now
  | .settleStock _ _ now => some now
  | .reclaim now => some now
  | _ => none

/-- The share that a call may reserve or sell. -/
def share? : Call → Option Share
  | .reserveSeat claim => some ⟨claim.hold, claim.category, some claim.label⟩
  | .sellSeat id label hold _ => some ⟨hold, id, some label⟩
  | .takeStock id hold _ _ => some ⟨hold, id, none⟩
  | .settleStock id hold _ => some ⟨hold, id, none⟩
  | _ => none

end Ledger.Call

namespace MemoryLedger

/-- The hold of a token has what the token says, until the instant that the token says. -/
def Holds (l : MemoryLedger) (t : Token) : Prop :=
  match t.unit with
  | .seat id label => ∃ s, l.seat? t.category label = some s ∧ s.id = id ∧ s.status = .reserved ∧
      s.hold = some t.hold ∧ s.reservedUntil = some t.expiresAt
  | .stock => ∃ h, l.stock? t.category t.hold = some h ∧ h.state = .held ∧ h.expiresAt = t.expiresAt

/-- What the hold of a token still has of its unit is unsold and ends at the instant that the token
says. -/
def Expires (l : MemoryLedger) (t : Token) : Prop :=
  match t.unit with
  | .seat id label => ∃ s, l.seat? t.category label = some s ∧ s.id = id ∧
      (s.hold = some t.hold → s.status = .reserved ∧ s.reservedUntil = some t.expiresAt)
  | .stock => ∃ h, l.stock? t.category t.hold = some h ∧ h.state ≠ .confirmed ∧
      (h.state = .held → h.expiresAt = t.expiresAt)

/-- A token may be turned into a sale: its hold has the seat and has not lapsed, or it has a place
that is sold already or has not lapsed. -/
def Sells (l : MemoryLedger) (t : Token) (now : Instant) : Prop :=
  match t.unit with
  | .seat _ label => ∃ s, l.seat? t.category label = some s ∧ s.isHeldBy t.hold now
  | .stock => ∃ h, l.stock? t.category t.hold = some h ∧ (h.isLive now ∨ h.state = .confirmed)

instance (l : MemoryLedger) (t : Token) (now : Instant) : Decidable (l.Sells t now) :=
  match unit : t.unit with
  | .seat _ label =>
    decidable_of_iff ((l.seat? t.category label).any fun s => s.isHeldBy t.hold now)
      (by simp [Sells, unit, Option.any_eq_true])
  | .stock =>
    decidable_of_iff ((l.stock? t.category t.hold).any fun h => h.isLive now || h.state == .confirmed)
      (by simp [Sells, unit, Option.any_eq_true])

/-- The hold of a token has something that it may give back. -/
def returns (l : MemoryLedger) (t : Token) : Bool :=
  match t.unit with
  | .seat _ label => ((l.seat? t.category label).bind fun s => s.release? t.hold).isSome
  | .stock =>
    ((l.sections.get? t.category).bind fun s => s.pool.giveBack? t.hold s.category.total).isSome

/-- The hold of a token has something that it may buy. -/
def settles (l : MemoryLedger) (t : Token) (now : Instant) : Bool :=
  match t.unit with
  | .seat _ label => ((l.seat? t.category label).bind fun s => s.sell? t.hold now).isSome
  | .stock => ((l.sections.get? t.category).bind fun s => s.pool.settle? t.hold now).isSome

variable {l : MemoryLedger} {t : Token}

theorem Holds.expires (h : l.Holds t) : l.Expires t := by
  unfold Holds at h
  unfold Expires
  cases unit : t.unit with
  | seat id label =>
    rw [unit] at h
    obtain ⟨s, there, id_eq, reserved, -, last⟩ := h
    exact ⟨s, there, id_eq, fun _ => ⟨reserved, last⟩⟩
  | stock =>
    rw [unit] at h
    obtain ⟨h, there, held, last⟩ := h
    exact ⟨h, there, by simp [held], fun _ => last⟩

/-- A live hold can be sold up to and including its expiry. -/
theorem Holds.sells (h : l.Holds t) {now : Instant} (early : now ≤ t.expiresAt) :
    l.Sells t now := by
  unfold Holds at h
  unfold Sells
  cases unit : t.unit with
  | seat id label =>
    rw [unit] at h
    obtain ⟨s, there, -, reserved, mine, last⟩ := h
    exact ⟨s, there, Seat.isHeldBy_iff.2 ⟨reserved, mine, _, last, early⟩⟩
  | stock =>
    rw [unit] at h
    obtain ⟨h, there, held, last⟩ := h
    exact ⟨h, there, .inl (StockHold.isLive_iff.2 ⟨held, last ▸ early⟩)⟩

/-- A hold that was not got again cannot be sold after its expiry. -/
theorem Expires.not_sells (h : l.Expires t) {now : Instant} (late : t.expiresAt < now) :
    ¬ l.Sells t now := by
  unfold Expires at h
  unfold Sells
  cases unit : t.unit with
  | seat id label =>
    rw [unit] at h
    obtain ⟨s, there, -, mine⟩ := h
    rintro ⟨s', there', held⟩
    obtain rfl : s = s' := Option.some.inj (there.symm.trans there')
    obtain ⟨-, own, last, until_last, early⟩ := Seat.isHeldBy_iff.1 held
    obtain rfl : last = t.expiresAt := Option.some.inj (until_last.symm.trans (mine own).2)
    exact Instant.not_le.2 late early
  | stock =>
    rw [unit] at h
    obtain ⟨h, there, unsold, mine⟩ := h
    rintro ⟨h', there', ready⟩
    obtain rfl : h = h' := Option.some.inj (there.symm.trans there')
    rcases ready with live | sold
    · obtain ⟨held, early⟩ := StockHold.isLive_iff.1 live
      rw [mine held] at early
      exact Instant.not_le.2 late early
    · exact unsold sold

/-- **A live hold stays as it is** while calls are made in the name of others and no clock shows an
instant after its expiry. -/
theorem Holds.after (h : l.Holds t) {c : Ledger.Call} (foreign : c.hold? ≠ some t.hold)
    (early : ∀ now, c.time? = some now → now ≤ t.expiresAt) : (l.after c).Holds t := by
  unfold Holds at h ⊢
  cases unit : t.unit with
  | seat id label =>
    rw [unit] at h
    obtain ⟨s, there, id_eq, reserved, mine, last⟩ := h
    simp only [seat?_after, there]
    -- what could move the seat acts in the hold's own name, or by a clock past its expiry
    have kept : s.after t.category label c = s := by
      rcases s.after_cases t.category label c with
        e | ⟨claim, rfl, -, -, claimable, -⟩ | ⟨hold, rfl, -, held, -⟩ | ⟨hold, now, rfl, held, -⟩ |
        ⟨now, rfl, lapsed, -⟩
      · exact e
      · have past : t.expiresAt < claim.now := by
          rcases Seat.isClaimable_iff.1 claimable with free | ⟨-, past⟩
          · simp [reserved] at free
          · exact past _ last
        exact absurd (early claim.now rfl) (Instant.not_le.2 past)
      · exact absurd (held.symm.trans mine) foreign
      · exact absurd ((Seat.isHeldBy_iff.1 held).2.1.symm.trans mine) foreign
      · obtain ⟨-, until_last, last', past⟩ := Seat.isLapsed_iff.1 lapsed
        obtain rfl : until_last = t.expiresAt := Option.some.inj (last'.symm.trans last)
        exact absurd (early now rfl) (Instant.not_le.2 past)
    exact ⟨s, by rw [Option.map_some, kept], id_eq, reserved, mine, last⟩
  | stock =>
    rw [unit] at h
    obtain ⟨h, there, held, last⟩ := h
    rcases l.stock?_after_cases c t.category t.hold with
      e | ⟨now, expiresAt, rfl, -⟩ | ⟨_, now, expiresAt, rfl, -⟩ | ⟨_, rfl, -⟩ | ⟨_, now, rfl, -⟩ |
      ⟨h', now, rfl, there', lapsed, -⟩
    · exact ⟨h, e.trans there, held, last⟩
    · exact absurd rfl foreign
    · exact absurd rfl foreign
    · exact absurd rfl foreign
    · exact absurd rfl foreign
    · obtain rfl : h = h' := Option.some.inj (there.symm.trans there')
      have past := (StockHold.isLapsed_iff.1 lapsed).2
      rw [last] at past
      exact absurd (early now rfl) (Instant.not_le.2 past)

/-- **A hold that is neither sold nor got again ends at its expiry**, whatever is called otherwise. -/
theorem Expires.after (h : l.Expires t) {c : Ledger.Call} (other : c.share? ≠ some t.share) :
    (l.after c).Expires t := by
  unfold Expires at h ⊢
  cases unit : t.unit with
  | seat id label =>
    rw [unit] at h
    have share : t.share = ⟨t.hold, t.category, some label⟩ := by
      simp [Token.share, Token.seatLabel, unit]
    obtain ⟨s, there, id_eq, mine⟩ := h
    -- only a claim or a sale makes the seat the hold's, and these are about its share
    simp only [seat?_after, there, Option.map_some]
    refine ⟨_, rfl, (s.after_place t.category label c).1.trans id_eq, ?_⟩
    rcases s.after_cases t.category label c with
      e | ⟨claim, rfl, category_eq, label_eq, -, e⟩ | ⟨_, rfl, -, -, e⟩ | ⟨hold, now, rfl, held, e⟩ |
      ⟨now, rfl, -, e⟩ <;> rw [e]
    · exact mine
    · rintro own
      have : claim.hold = t.hold := Option.some.inj own
      simp [Ledger.Call.share?, share, category_eq, label_eq, this] at other
    · rintro ⟨⟩
    · rintro own
      have : hold = t.hold :=
        Option.some.inj ((Seat.isHeldBy_iff.1 held).2.1.symm.trans own)
      simp [Ledger.Call.share?, share, this] at other
    · rintro ⟨⟩
  | stock =>
    rw [unit] at h
    have share : t.share = ⟨t.hold, t.category, none⟩ := by
      simp [Token.share, Token.seatLabel, unit]
    obtain ⟨h, there, unsold, mine⟩ := h
    rcases l.stock?_after_cases c t.category t.hold with
      e | ⟨now, expiresAt, rfl, -⟩ | ⟨_, now, expiresAt, rfl, -⟩ | ⟨h', rfl, there', -, e⟩ |
      ⟨_, now, rfl, -⟩ | ⟨h', now, rfl, there', -, e⟩
    · exact ⟨h, e.trans there, unsold, mine⟩
    · simp [Ledger.Call.share?, share] at other
    · simp [Ledger.Call.share?, share] at other
    · exact ⟨_, e, by simp, by simp⟩
    · simp [Ledger.Call.share?, share] at other
    · exact ⟨_, e, by simp, by simp⟩

end MemoryLedger

end BoxOffice
