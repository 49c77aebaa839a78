import BoxOffice.Proofs.Ledger.Replace
import BoxOffice.Proofs.Ledger.Sold

/-!
# Giving back

A hold waits with a share while the seat is reserved for it or its place is held, whether the hold
has lapsed or not (`Waits`). That and nothing else goes back when a token is given back
(`GivesBack`), and afterwards the hold does not wait with the share any more. It comes to do so
again only by a call that reserves the share (`waits_after_cases`); and it buys only what it waits
with (`sold_after_waits`).
-/

namespace BoxOffice

/-- Within the capacity, a held place goes back to what is left. -/
theorem Pool.giveBack?_of_held {p : Pool} {total : UInt32} (fits : p.units ≤ total.toNat)
    {hold : HoldId} {h : StockHold} (there : p.holds.get? hold = some h) (held : h.state = .held) :
    p.giveBack? hold total = some
      { available := p.available + 1
        holds := p.holds.modify hold fun h => { h with state := .released } } := by
  have back : p.giveBack? hold total =
      some ((p.changeHold hold fun h => { h with state := .released }).putBack 1 total) :=
    giveBack?_eq_some_iff.2 ⟨h, there, held, rfl⟩
  have left := available_giveBack fits back
  have room := available_lt_units there held
  have := total.toNat_lt
  rw [back]
  have one_more :
      ((p.changeHold hold fun h => { h with state := .released }).putBack 1 total).available =
        p.available + 1 := by
    rw [← UInt32.toNat_inj, left, UInt32.toNat_add, Nat.mod_eq_of_lt]
    · rfl
    · show p.available.toNat + 1 < 2 ^ 32
      omega
  rw [← one_more]
  rfl

/-- A hold that had no place, and has one held when it has asked for one, was told so. -/
theorem Pool.taken_of_held {p : Pool} {category : CategoryId} {hold : HoldId} {now last : Instant}
    (gone : ∀ h, p.holds.get? hold = some h → h.state = .released ∨ h.state = .expired)
    {h : StockHold} (there : (p.take category hold now last).2.holds.get? hold = some h)
    (held : h.state = .held) : ∃ h, (p.take category hold now last).1 = .taken h := by
  rcases p.take_cases category hold now last with
    ⟨h', there', live | sold, -⟩ | ⟨h', there', lapsed, -⟩ | ⟨-, ⟨-, e⟩ | ⟨-, e⟩⟩
  · rcases gone h' there' with state | state <;> simp [state] at live
  · rcases gone h' there' with state | state <;> simp [state] at sold
  · rcases gone h' there' with state | state <;> simp [state] at lapsed
  · rw [e] at there
    rcases gone h there with state | state <;> simp [state] at held
  · exact ⟨_, congrArg Prod.fst e⟩

namespace MemoryLedger

/-- The hold waits with the share: the seat is reserved for it, or its place is held. -/
def Waits (l : MemoryLedger) (share : Share) : Prop :=
  match share.label with
  | some label => ∃ s, l.seat? share.category label = some s ∧ s.status = .reserved ∧
      s.hold = some share.hold
  | none => ∃ h, l.stock? share.category share.hold = some h ∧ h.state = .held

/-- **What becomes of a ledger when a token is given back**: the unit that the hold waits with goes
back, and without such a unit nothing changes. -/
inductive GivesBack (l : MemoryLedger) (t : Token) : MemoryLedger → Prop
  | seat {id label seat} (unit : t.unit = .seat id label)
      (there : l.seat? t.category label = some seat) (reserved : seat.status = .reserved)
      (mine : seat.hold = some t.hold) :
    GivesBack l t (l.withSeat t.category label
      { seat with status := .available, reservedUntil := none, hold := none })
  | place {s h} (unit : t.unit = .stock) (there : l.sections.get? t.category = some s)
      (mine : s.pool.holds.get? t.hold = some h) (held : h.state = .held)
      (room : s.pool.available.toNat + 1 ≤ s.category.total.toNat) :
    GivesBack l t (l.withPool t.category
      { available := s.pool.available + 1
        holds := s.pool.holds.modify t.hold fun h => { h with state := .released } })
  | nothing (idle : ¬ l.Waits t.share) : GivesBack l t l

/-- A call reserves a share, and is told so. -/
def Reserves (l : MemoryLedger) (share : Share) : Ledger.Call → Prop
  | .reserveSeat claim => share = ⟨claim.hold, claim.category, some claim.label⟩ ∧
      ∃ seat, (l.answer (.reserveSeat claim)).1 = .ok (some seat)
  | .takeStock id hold now last => share = ⟨hold, id, none⟩ ∧
      ∃ h, (l.answer (.takeStock id hold now last)).1 = .ok (.taken h)
  | _ => False

variable {l : MemoryLedger} {t : Token} {share : Share}

theorem Reserves.share? {c : Ledger.Call} (h : l.Reserves share c) : c.share? = some share := by
  cases c <;> first | exact congrArg some h.1.symm | exact h.elim

/-! ### What goes back -/

theorem waits_seat {id : SeatId} {label : String} (unit : t.unit = .seat id label) :
    l.Waits t.share ↔ ∃ s, l.seat? t.category label = some s ∧ s.status = .reserved ∧
      s.hold = some t.hold := by
  simp [Waits, Token.share, Token.seatLabel, unit]

theorem waits_stock (unit : t.unit = .stock) :
    l.Waits t.share ↔ ∃ h, l.stock? t.category t.hold = some h ∧ h.state = .held := by
  simp [Waits, Token.share, Token.seatLabel, unit]

/-- A hold that does not wait with the share of a token has nothing to give back. -/
theorem after_giveBack_of_not_waits (idle : ¬ l.Waits t.share) : l.after t.giveBack = l := by
  unfold Token.giveBack
  cases unit : t.unit with
  | seat id label =>
    rw [waits_seat unit] at idle
    refine after_eq_self_of_seat (c := .releaseSeat t.category label t.hold) (fun _ _ _ => rfl)
      (fun _ _ _ => rfl) (Option.bind_eq_none_iff.2 fun s there => ?_)
    exact if_neg fun waiting => idle ⟨s, there, waiting⟩
  | stock =>
    rw [waits_stock unit] at idle
    refine after_eq_self_of_pool (c := .returnStock t.category t.hold)
      (fun _ _ => rfl) (fun _ _ _ => rfl) (Option.bind_eq_none_iff.2 fun s found => ?_)
    rw [Option.eq_none_iff_forall_ne_some]
    intro q back
    obtain ⟨h, mine, held, -⟩ := Pool.giveBack?_eq_some_iff.1 back
    exact idle ⟨h, Option.bind_eq_some_iff.2 ⟨s, found, mine⟩, held⟩

/-- **A token gives back what its hold waits with, and nothing else.** -/
theorem Reachable.givesBack (reach : l.Reachable) (t : Token) :
    l.GivesBack t (l.after t.giveBack) := by
  by_cases waits : l.Waits t.share
  · cases unit : t.unit with
    | seat id label =>
      obtain ⟨seat, there, reserved, mine⟩ := (waits_seat unit).1 waits
      have freed : l.after t.giveBack = l.withSeat t.category label seat.free := by
        rw [Token.giveBack, unit]
        exact after_releaseSeat_eq there reserved mine
      rw [freed]
      exact .seat unit there reserved mine
    | stock =>
      obtain ⟨h, there, held⟩ := (waits_stock unit).1 waits
      obtain ⟨s, found, mine⟩ := Option.bind_eq_some_iff.1 there
      have fits := (reach.sound found).fits
      have returned := after_returnStock_eq found (Pool.giveBack?_of_held fits mine held)
      have room := Pool.available_lt_units mine held
      rw [Token.giveBack, unit]
      dsimp only
      rw [returned]
      exact .place unit found mine held (Nat.le_trans room fits)
  · rw [after_giveBack_of_not_waits waits]
    exact .nothing waits

/-- What was given back the hold does not wait with any more. -/
theorem GivesBack.not_waits {l' : MemoryLedger} (h : l.GivesBack t l') : ¬ l'.Waits t.share := by
  cases h with
  | seat unit there reserved mine =>
    rw [waits_seat unit]
    rintro ⟨s, there', reserved', -⟩
    rw [seat?_withSeat there, if_pos ⟨rfl, rfl⟩] at there'
    cases there'
    cases reserved'
  | place unit there mine held room =>
    rw [waits_stock unit]
    rintro ⟨h, there', held'⟩
    rw [stock?_withPool there, if_pos rfl, Registry.get?_modify_of_some mine, if_pos rfl] at there'
    cases there'
    cases held'
  | nothing idle => exact idle

/-! ### What a hold comes to wait with, or buys -/

/-- A hold that waits with a share after a call did so before, or the call reserved the share. -/
theorem waits_after_cases {c : Ledger.Call} (h : (l.after c).Waits share) :
    l.Waits share ∨ l.Reserves share c := by
  obtain ⟨hold, category, label⟩ := share
  unfold Waits at h ⊢
  cases label with
  | some label =>
    obtain ⟨s, there, reserved, mine⟩ := h
    simp only at there reserved mine ⊢
    rw [seat?_after] at there
    obtain ⟨s₀, there₀, rfl⟩ := Option.map_eq_some_iff.1 there
    rcases s₀.after_cases category label c with
      e | ⟨claim, rfl, rfl, rfl, claimable, e⟩ | ⟨_, -, -, -, e⟩ | ⟨_, _, -, -, e⟩ | ⟨_, -, -, e⟩
    all_goals rw [e] at reserved mine
    · exact .inl ⟨s₀, there₀, reserved, mine⟩
    · obtain rfl : claim.hold = hold := Option.some.inj mine
      refine .inr ⟨rfl, s₀.reserve claim.hold claim.expiresAt, ?_⟩
      rw [answer_reserveSeat, there₀, Option.bind_some, Seat.claim?_eq_some_iff.2 ⟨claimable, rfl⟩]
    · cases reserved
    · cases reserved
    · cases reserved
  | none =>
    obtain ⟨h, there, held⟩ := h
    simp only at there held ⊢
    rcases l.stock?_after_cases c category hold with
      e | ⟨now, last, rfl, gone, -⟩ | ⟨h', _, _, -, there', lapsed, -⟩ | ⟨h', -, -, -, e⟩ |
      ⟨h', _, -, -, -, e⟩ | ⟨h', _, -, -, -, e⟩
    · exact .inl ⟨h, e.symm.trans there, held⟩
    · obtain ⟨_, found, mine⟩ := Option.bind_eq_some_iff.1 there
      rw [get?_after] at found
      obtain ⟨s, before, rfl⟩ := Option.map_eq_some_iff.1 found
      rw [stock?, before, Option.bind_some] at gone
      rw [Section.after_pool, Pool.after, if_pos rfl] at mine
      obtain ⟨h', taken⟩ := Pool.taken_of_held gone mine held
      refine .inr ⟨rfl, h', ?_⟩
      rw [answer, takeStock, before, ← taken]
      rfl
    · exact .inl ⟨h', there', (StockHold.isLapsed_iff.1 lapsed).1⟩
    all_goals
      cases e.symm.trans there
      cases held

/-- A share that is sold after a call was sold before, or the hold waited with it. -/
theorem sold_after_waits {c : Ledger.Call} (h : (l.after c).Sold share) :
    l.Sold share ∨ l.Waits share := by
  obtain ⟨hold, category, label⟩ := share
  unfold Sold at h ⊢
  unfold Waits
  cases label with
  | some label =>
    obtain ⟨s, there, sold, own⟩ := h
    simp only at there sold own ⊢
    rw [seat?_after] at there
    obtain ⟨s₀, there₀, rfl⟩ := Option.map_eq_some_iff.1 there
    rcases s₀.after_cases category label c with
      e | ⟨_, -, -, -, -, e⟩ | ⟨_, -, -, -, e⟩ | ⟨_, _, -, held, e⟩ | ⟨_, -, -, e⟩ <;>
      rw [e] at sold own
    · exact .inl ⟨s₀, there₀, sold, own⟩
    · cases sold
    · cases sold
    · exact .inr ⟨s₀, there₀, (Seat.isHeldBy_iff.1 held).1, own⟩
    · cases sold
  | none =>
    obtain ⟨h, there, sold⟩ := h
    simp only at there sold ⊢
    rcases l.stock?_after_cases c category hold with
      e | ⟨_, _, -, -, e⟩ | ⟨h', _, _, -, there', lapsed, -⟩ | ⟨h', -, -, -, e⟩ |
      ⟨h', _, -, there', live, -⟩ | ⟨h', _, -, -, -, e⟩
    · exact .inl ⟨h, e.symm.trans there, sold⟩
    · cases e.symm.trans there
      cases sold
    · exact .inr ⟨h', there', (StockHold.isLapsed_iff.1 lapsed).1⟩
    · cases e.symm.trans there
      cases sold
    · exact .inr ⟨h', there', (StockHold.isLive_iff.1 live).1⟩
    · cases e.symm.trans there
      cases sold

/-- Only what the hold of a token waits with can be turned into a sale, or a place that it has
bought. -/
theorem Sells.waits_or_sold {now : Instant} (h : l.Sells t now) :
    l.Waits t.share ∨ t.unit = .stock ∧ l.Sold t.share := by
  unfold Sells at h
  cases unit : t.unit with
  | seat id label =>
    rw [unit] at h
    obtain ⟨s, there, held⟩ := h
    obtain ⟨reserved, mine, -⟩ := Seat.isHeldBy_iff.1 held
    exact .inl ((waits_seat unit).2 ⟨s, there, reserved, mine⟩)
  | stock =>
    rw [unit] at h
    obtain ⟨h, there, live | sold⟩ := h
    · exact .inl ((waits_stock unit).2 ⟨h, there, (StockHold.isLive_iff.1 live).1⟩)
    · refine .inr ⟨rfl, ?_⟩
      simp only [Sold, Token.share, Token.seatLabel, unit]
      exact ⟨h, there, sold⟩

/-! ### Further categories -/

section Provision

variable {a : Act}

/-- A seat that is there once a category has come was there before, or is free. -/
theorem seat?_provision (provision : a.isProvision) {id : CategoryId} {label : String} {s : Seat}
    (there : (l.act a).seat? id label = some s) :
    l.seat? id label = some s ∨ s.status = .available := by
  obtain ⟨sect, found, on_seat⟩ := Option.bind_eq_some_iff.1 there
  rcases provision_cases provision found with before | unsold
  · exact .inl (Option.bind_eq_some_iff.2 ⟨sect, before, on_seat⟩)
  · exact .inr (unsold.1 label s on_seat)

/-- What a hold has once a category has come it had before. -/
theorem stock?_provision (provision : a.isProvision) {id : CategoryId} {hold : HoldId}
    {h : StockHold} (there : (l.act a).stock? id hold = some h) : l.stock? id hold = some h := by
  obtain ⟨sect, found, mine⟩ := Option.bind_eq_some_iff.1 there
  rcases provision_cases provision found with before | unsold
  · exact Option.bind_eq_some_iff.2 ⟨sect, before, mine⟩
  · simp [unsold.2] at mine

theorem waits_provision (provision : a.isProvision) (h : (l.act a).Waits share) :
    l.Waits share := by
  unfold Waits at h ⊢
  cases label : share.label with
  | some label =>
    rw [label] at h
    obtain ⟨s, there, reserved, mine⟩ := h
    rcases seat?_provision provision there with before | free
    · exact ⟨s, before, reserved, mine⟩
    · simp [free] at reserved
  | none =>
    rw [label] at h
    obtain ⟨h, there, held⟩ := h
    exact ⟨h, stock?_provision provision there, held⟩

theorem sold_provision (provision : a.isProvision) (h : (l.act a).Sold share) : l.Sold share := by
  unfold Sold at h ⊢
  cases label : share.label with
  | some label =>
    rw [label] at h
    obtain ⟨s, there, sold, own⟩ := h
    rcases seat?_provision provision there with before | free
    · exact ⟨s, before, sold, own⟩
    · simp [free] at sold
  | none =>
    rw [label] at h
    obtain ⟨h, there, sold⟩ := h
    exact ⟨h, stock?_provision provision there, sold⟩

end Provision

end MemoryLedger

end BoxOffice
