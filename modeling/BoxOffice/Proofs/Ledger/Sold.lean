import BoxOffice.Proofs.Ledger.Held

/-!
# Sales

What is sold stays sold (`Sold.after`), and only a call that sells a share makes it so
(`sold_after_cases`). In a ledger that has only been laid out nothing is sold
(`Provisioned.not_sold`).
-/

namespace BoxOffice

/-- The share that a call may sell. -/
def Ledger.Call.sale? : Ledger.Call → Option Share
  | .sellSeat id label hold _ => some ⟨hold, id, some label⟩
  | .settleStock id hold _ => some ⟨hold, id, none⟩
  | _ => none

namespace MemoryLedger

/-- A hold has bought its share. -/
def Sold (l : MemoryLedger) (share : Share) : Prop :=
  match share.label with
  | some label => ∃ s, l.seat? share.category label = some s ∧ s.status = .sold ∧
      s.hold = some share.hold
  | none => ∃ h, l.stock? share.category share.hold = some h ∧ h.state = .confirmed

variable {l : MemoryLedger} {share : Share}

/-- No call takes back a sale. -/
theorem Sold.after (h : l.Sold share) (c : Ledger.Call) : (l.after c).Sold share := by
  unfold Sold at h ⊢
  cases label : share.label with
  | some label =>
    rw [label] at h
    obtain ⟨s, there, sold, own⟩ := h
    refine ⟨s, ?_, sold, own⟩
    rw [seat?_after, there, Option.map_some, Seat.after_of_sold sold]
  | none =>
    rw [label] at h
    obtain ⟨h, there, sold⟩ := h
    rcases l.stock?_after_cases c share.category share.hold with
      e | ⟨_, _, -, gone, -⟩ | ⟨h', _, _, -, there', lapsed, -⟩ | ⟨h', -, there', held, -⟩ |
      ⟨h', _, -, there', -, e⟩ | ⟨h', _, -, there', lapsed, -⟩
    · exact ⟨h, e.trans there, sold⟩
    · rcases gone h there with gone | gone <;> simp [sold] at gone
    · obtain rfl := Option.some.inj (there.symm.trans there')
      simp [sold] at lapsed
    · obtain rfl := Option.some.inj (there.symm.trans there')
      simp [sold] at held
    · exact ⟨_, e, rfl⟩
    · obtain rfl := Option.some.inj (there.symm.trans there')
      simp [sold] at lapsed

/-- A share that is sold after a call was sold before, or the call sold it. -/
theorem sold_after_cases {c : Ledger.Call} (h : (l.after c).Sold share) :
    l.Sold share ∨ c.sale? = some share := by
  obtain ⟨hold, category, label⟩ := share
  unfold Sold at h ⊢
  cases label with
  | some label =>
    obtain ⟨s, there, sold, own⟩ := h
    simp only at there sold own ⊢
    rw [seat?_after] at there
    obtain ⟨s₀, there₀, rfl⟩ := Option.map_eq_some_iff.1 there
    rcases s₀.after_cases category label c with
      e | ⟨_, -, -, -, -, e⟩ | ⟨_, -, -, -, e⟩ | ⟨_, now, rfl, held, e⟩ | ⟨_, -, -, e⟩ <;>
      rw [e] at sold own
    · exact .inl ⟨s₀, there₀, sold, own⟩
    · cases sold
    · cases sold
    · obtain ⟨-, mine, -⟩ := Seat.isHeldBy_iff.1 held
      obtain rfl := Option.some.inj (own.symm.trans mine)
      exact .inr rfl
    · cases sold
  | none =>
    obtain ⟨h, there, sold⟩ := h
    simp only at there sold ⊢
    rcases l.stock?_after_cases c category hold with
      e | ⟨_, _, -, -, e⟩ | ⟨h', _, _, -, there', lapsed, e⟩ | ⟨h', -, -, -, e⟩ |
      ⟨h', _, rfl, -⟩ | ⟨h', _, -, -, -, e⟩
    · exact .inl ⟨h, e.symm.trans there, sold⟩
    · obtain rfl := Option.some.inj (e.symm.trans there)
      cases sold
    · obtain rfl := Option.some.inj (e.symm.trans there)
      exact absurd ((StockHold.isLapsed_iff.1 lapsed).1.symm.trans sold) (by decide)
    · obtain rfl := Option.some.inj (e.symm.trans there)
      cases sold
    · exact .inr rfl
    · obtain rfl := Option.some.inj (e.symm.trans there)
      cases sold

/-- A token that may be turned into a sale is sold by its call. -/
theorem Sells.sold {t : Token} {now : Instant} (h : l.Sells t now) :
    (l.after (t.sell now)).Sold t.share := by
  unfold Sells at h
  unfold Token.sell Token.share Token.seatLabel
  cases unit : t.unit with
  | seat id label =>
    rw [unit] at h
    obtain ⟨s, there, held⟩ := h
    have sold : s.sell? t.hold now = some s.sell := Seat.sell?_eq_some_iff.2 ⟨held, rfl⟩
    refine ⟨s.sell, ?_, rfl, (Seat.isHeldBy_iff.1 held).2.1⟩
    rw [seat?_after, there, Option.map_some, Seat.after, if_pos ⟨rfl, rfl⟩, sold]
    rfl
  | stock =>
    rw [unit] at h
    obtain ⟨h, there, live | sold⟩ := h
    · obtain ⟨s, found, mine⟩ := Option.bind_eq_some_iff.1 there
      have sold := Pool.settle?_eq_some_iff.2 ⟨h, mine, live, rfl⟩
      refine ⟨{ h with state := .confirmed }, ?_, rfl⟩
      simp only [stock?, get?_after, found, Option.map_some, Option.bind_some,
        Section.after_pool, Pool.after, if_true, sold, Option.getD_some]
      rw [Pool.get?_changeHold, if_pos rfl, mine]
      rfl
    · have before : l.Sold ⟨t.hold, t.category, none⟩ := ⟨h, there, sold⟩
      exact before.after _

/-- What is sold already may be confirmed again only if it is a place, not a seat. -/
theorem Sold.sells_iff {t : Token} (h : l.Sold t.share) (now : Instant) :
    l.Sells t now ↔ t.unit = .stock := by
  unfold Sold Token.share Token.seatLabel at h
  unfold Sells
  cases unit : t.unit with
  | seat id label =>
    rw [unit] at h
    obtain ⟨s, there, sold, -⟩ := h
    refine iff_of_false ?_ (by simp)
    rintro ⟨s', there', held⟩
    obtain rfl := Option.some.inj (there.symm.trans there')
    have reserved := (Seat.isHeldBy_iff.1 held).1
    simp [sold] at reserved
  | stock =>
    rw [unit] at h
    obtain ⟨h, there, sold⟩ := h
    exact iff_of_true ⟨h, there, .inr sold⟩ rfl

theorem sale?_sell (t : Token) (now : Instant) : (t.sell now).sale? = some t.share := by
  unfold Token.sell Token.share Token.seatLabel
  cases t.unit <;> rfl

theorem sale?_giveBack (t : Token) : t.giveBack.sale? = none := by
  unfold Token.giveBack
  cases t.unit <;> rfl

/-! ### Laying out -/

/-- Nothing is called on a ledger, a category comes. -/
def Act.isProvision : Act → Bool
  | .call _ => false
  | _ => true

/-- A ledger that has only been laid out. -/
def Provisioned (l : MemoryLedger) : Prop :=
  ∃ acts : List Act, (∀ a ∈ acts, a.isProvision) ∧ l = empty.run acts

theorem Provisioned.reachable (h : l.Provisioned) : l.Reachable := by
  obtain ⟨acts, -, rfl⟩ := h
  exact ⟨acts, rfl⟩

/-- Nothing of a section is sold. -/
def Unsold (s : Section) : Prop :=
  (∀ label seat, s.seats.get? label = some seat → seat.status = .available) ∧
    s.pool.holds = ∅

/-- A further category leaves the others alone. -/
theorem get?_provision {a : Act} (provision : a.isProvision) {id : CategoryId} {s : Section}
    (there : l.sections.get? id = some s) : (l.act a).sections.get? id = some s := by
  rw [get?_act there]
  cases a with
  | call c => cases provision
  | addSeated | addStanding => rfl

/-- A category that is there once a category has come was there before, or nothing of it is sold. -/
theorem provision_cases {a : Act} (provision : a.isProvision) {id : CategoryId} {s : Section}
    (there : (l.act a).sections.get? id = some s) :
    l.sections.get? id = some s ∨ Unsold s := by
  cases found : l.sections.get? id with
  | some s₀ =>
    rw [get?_provision provision found] at there
    exact .inl there
  | none =>
    refine .inr ?_
    rcases get?_act_of_none found there with
      ⟨category, labels, seats, next, -, -, -, laid, -, rfl⟩ | ⟨category, -, -, -, -, rfl⟩
    · refine ⟨fun label seat seated => ?_, rfl⟩
      obtain ⟨first, rfl⟩ := layOut_fresh laid (by simp) label seat seated
      rfl
    · exact ⟨by simp [openStanding], rfl⟩

theorem Provisioned.unsold (h : l.Provisioned) :
    ∀ id s, l.sections.get? id = some s → Unsold s := by
  obtain ⟨acts, all, rfl⟩ := h
  suffices ∀ (l : MemoryLedger), (∀ id s, l.sections.get? id = some s → Unsold s) →
      ∀ id s, (l.run acts).sections.get? id = some s → Unsold s from
    this empty (by simp [empty])
  induction acts with
  | nil => exact fun l before => before
  | cons a acts ih =>
    intro l before
    refine ih (fun b m => all b (List.mem_cons_of_mem _ m)) (l.act a) fun id s there => ?_
    exact (provision_cases (all a (List.mem_cons_self ..)) there).elim (before id s) fun new => new

/-- Nothing is sold in a ledger that has only been laid out. -/
theorem Provisioned.not_sold (h : l.Provisioned) (share : Share) : ¬ l.Sold share := by
  obtain ⟨hold, category, label⟩ := share
  unfold Sold
  cases label with
  | some label =>
    rintro ⟨s, there, sold, -⟩
    obtain ⟨sect, found, seat⟩ := Option.bind_eq_some_iff.1 there
    simp [(h.unsold _ _ found).1 label s seat] at sold
  | none =>
    rintro ⟨h', there, -⟩
    obtain ⟨sect, found, stock⟩ := Option.bind_eq_some_iff.1 there
    simp [(h.unsold _ _ found).2] at stock

end MemoryLedger

end BoxOffice
