import BoxOffice.Proofs.Ledger.Share
import Mathlib.Data.List.Nodup
import Mathlib.Data.Finset.Card

/-!
# The units of a hold

At a time a hold keeps the seats that are reserved for it and have not lapsed, the places it has taken
that have not lapsed, and whatever is sold to it: `unitsOf` lists them over all categories, each once
(`nodup_unitsOf`). What is kept at a time was kept at all earlier ones, so a hold keeps at most one unit
at every time exactly if it has at most one, lapsed or not (`Reachable.length_unitsOf_iff`).
-/

namespace BoxOffice

/-- The seat is reserved by the hold and has not lapsed, or it is sold to the hold. -/
def Seat.isKeptBy (s : Seat) (hold : HoldId) (now : Instant) : Bool :=
  s.isHeldBy hold now || (s.status == .sold && s.hold == some hold)

/-- The place is held and has not lapsed, or it is sold. -/
def StockHold.isKept (h : StockHold) (now : Instant) : Bool :=
  h.isLive now || h.state == .confirmed

/-- The units of a section that a hold keeps at a time. -/
def Section.unitsOf (s : Section) (id : CategoryId) (hold : HoldId) (now : Instant) : List Share :=
  (s.seats.entries.filter fun e => e.2.isKeptBy hold now).map (fun e => ⟨hold, id, some e.1⟩) ++
    ((s.pool.holds.get? hold).filter fun h => h.isKept now).toList.map fun _ => ⟨hold, id, none⟩

theorem Registry.mem_entries {κ α : Type} [DecidableEq κ] {r : Registry κ α} {key : κ} {a : α} :
    (key, a) ∈ r.entries ↔ r.get? key = some a := by
  refine ⟨get?_of_mem, fun h => ?_⟩
  obtain ⟨before, after, e, -⟩ := entries_eq h
  rw [e]
  simp

theorem Seat.isKeptBy_iff {s : Seat} {hold : HoldId} {now : Instant} :
    s.isKeptBy hold now ↔ s.isHeldBy hold now ∨ (s.status = .sold ∧ s.hold = some hold) := by
  simp only [isKeptBy, Bool.or_eq_true, Bool.and_eq_true, beq_iff_eq]

theorem StockHold.isKept_iff {h : StockHold} {now : Instant} :
    h.isKept now ↔ h.isLive now ∨ h.state = .confirmed := by
  simp only [isKept, Bool.or_eq_true, beq_iff_eq]

namespace MemoryLedger

/-- The units of a ledger that a hold keeps at a time. -/
def unitsOf (l : MemoryLedger) (hold : HoldId) (now : Instant) : List Share :=
  l.sections.entries.flatMap fun e => e.2.unitsOf e.1 hold now

/-- A hold keeps its share at a time. -/
def Keeps (l : MemoryLedger) (share : Share) (now : Instant) : Prop :=
  match share.label with
  | some label => ∃ s, l.seat? share.category label = some s ∧ s.isKeptBy share.hold now
  | none => ∃ h, l.stock? share.category share.hold = some h ∧ h.isKept now

/-- A hold has one share at most, lapsed or not. -/
def HasOne (l : MemoryLedger) (hold : HoldId) : Prop :=
  ∀ share share' : Share, share.hold = hold → share'.hold = hold → l.Has share → l.Has share' →
    share = share'

variable {l : MemoryLedger} {share : Share} {hold : HoldId} {now : Instant}

/-! ### Counting units -/

theorem mem_unitsOf : share ∈ l.unitsOf hold now ↔ share.hold = hold ∧ l.Keeps share now := by
  obtain ⟨owner, category, label⟩ := share
  simp only [unitsOf, Section.unitsOf, List.mem_flatMap, List.mem_append, List.mem_map,
    List.mem_filter, Option.mem_toList, Option.filter_eq_some_iff, Prod.exists, Share.mk.injEq]
  cases label with
  | some label =>
    constructor
    · rintro ⟨id, s, found, ⟨name, seat, ⟨on_seat, kept⟩, rfl, rfl, ⟨⟩⟩ | ⟨_, _, _, _, ⟨⟩⟩⟩
      refine ⟨rfl, seat, ?_, kept⟩
      exact Option.bind_eq_some_iff.2 ⟨s, Registry.mem_entries.1 found, Registry.mem_entries.1 on_seat⟩
    · rintro ⟨rfl, seat, there, kept⟩
      obtain ⟨s, found, on_seat⟩ := Option.bind_eq_some_iff.1 there
      exact ⟨category, s, Registry.mem_entries.2 found, .inl
        ⟨label, seat, ⟨Registry.mem_entries.2 on_seat, kept⟩, rfl, rfl, rfl⟩⟩
  | none =>
    constructor
    · rintro ⟨id, s, found, ⟨_, _, _, _, _, ⟨⟩⟩ | ⟨h, ⟨mine, kept⟩, rfl, rfl, -⟩⟩
      exact ⟨rfl, h, Option.bind_eq_some_iff.2 ⟨s, Registry.mem_entries.1 found, mine⟩, kept⟩
    · rintro ⟨rfl, h, there, kept⟩
      obtain ⟨s, found, mine⟩ := Option.bind_eq_some_iff.1 there
      exact ⟨category, s, Registry.mem_entries.2 found, .inr ⟨h, ⟨mine, kept⟩, rfl, rfl, rfl⟩⟩

theorem nodup_section_unitsOf (s : Section) (id : CategoryId) (hold : HoldId) (now : Instant) :
    (s.unitsOf id hold now).Nodup := by
  unfold Section.unitsOf
  refine List.Nodup.append ?_ ?_ ?_
  · have labels : ((s.seats.entries.filter fun e => e.2.isKeptBy hold now).map Prod.fst).Nodup :=
      s.seats.distinct.sublist (List.filter_sublist.map _)
    have shares := labels.map (f := fun label => (⟨hold, id, some label⟩ : Share))
      fun a b e => Option.some.inj (congrArg Share.label e)
    rwa [List.map_map] at shares
  · cases (s.pool.holds.get? hold).filter fun h => h.isKept now with
    | none => exact List.nodup_nil
    | some h => exact List.nodup_singleton _
  -- a seat has a label, a place has none
  · intro share seat place
    obtain ⟨e, -, rfl⟩ := List.mem_map.1 seat
    obtain ⟨h, -, e⟩ := List.mem_map.1 place
    cases e

/-- No unit is listed twice. -/
theorem nodup_unitsOf (l : MemoryLedger) (hold : HoldId) (now : Instant) :
    (l.unitsOf hold now).Nodup := by
  have placed : ∀ (s : Section) id share, share ∈ s.unitsOf id hold now → share.category = id := by
    intro s id share mem
    rcases List.mem_append.1 mem with mem | mem <;> obtain ⟨_, -, rfl⟩ := List.mem_map.1 mem <;> rfl
  refine List.nodup_flatMap.2 ⟨fun e _ => nodup_section_unitsOf e.2 e.1 hold now, ?_⟩
  refine (List.pairwise_map.1 l.sections.distinct).imp fun {a b} other share first second => ?_
  exact other ((placed a.2 a.1 share first).symm.trans (placed b.2 b.1 share second))

theorem length_unitsOf_le_one_iff :
    (l.unitsOf hold now).length ≤ 1 ↔ ∀ share share' : Share, share.hold = hold →
      share'.hold = hold → l.Keeps share now → l.Keeps share' now → share = share' := by
  rw [← List.toFinset_card_of_nodup (l.nodup_unitsOf hold now), Finset.card_le_one]
  simp only [List.mem_toFinset, mem_unitsOf]
  constructor
  · exact fun one share share' own own' keeps keeps' => one share ⟨own, keeps⟩ share' ⟨own', keeps'⟩
  · exact fun one share keeps share' keeps' =>
      one share share' keeps.1 keeps'.1 keeps.2 keeps'.2

/-! ### Keeping and having -/

/-- What is kept at a time was kept before. -/
theorem Keeps.earlier (h : l.Keeps share now) {before : Instant} (le : before ≤ now) :
    l.Keeps share before := by
  have early {last : Instant} (h : now ≤ last) : before ≤ last := by
    simp only [Instant.le_def] at *
    omega
  unfold Keeps at h ⊢
  cases label : share.label with
  | some label =>
    rw [label] at h
    obtain ⟨s, there, kept⟩ := h
    refine ⟨s, there, Seat.isKeptBy_iff.2 ((Seat.isKeptBy_iff.1 kept).imp_left fun held => ?_)⟩
    obtain ⟨reserved, mine, last, until_last, le'⟩ := Seat.isHeldBy_iff.1 held
    exact Seat.isHeldBy_iff.2 ⟨reserved, mine, last, until_last, early le'⟩
  | none =>
    rw [label] at h
    obtain ⟨h, there, kept⟩ := h
    refine ⟨h, there, StockHold.isKept_iff.2 ((StockHold.isKept_iff.1 kept).imp_left fun live => ?_)⟩
    obtain ⟨held, le'⟩ := StockHold.isLive_iff.1 live
    exact StockHold.isLive_iff.2 ⟨held, early le'⟩

/-- What is kept at a time, the hold has. -/
theorem Keeps.has (h : l.Keeps share now) : l.Has share := by
  unfold Keeps at h
  unfold Has
  cases label : share.label with
  | some label =>
    rw [label] at h
    obtain ⟨s, there, kept⟩ := h
    rcases Seat.isKeptBy_iff.1 kept with held | ⟨-, mine⟩
    · exact ⟨s, there, (Seat.isHeldBy_iff.1 held).2.1⟩
    · exact ⟨s, there, mine⟩
  | none =>
    rw [label] at h
    obtain ⟨h, there, kept⟩ := h
    refine ⟨h, there, (StockHold.isKept_iff.1 kept).imp_left fun live => ?_⟩
    exact (StockHold.isLive_iff.1 live).1

/-- What a hold has, it keeps up to its expiry. -/
theorem Reachable.keeps_of_has (reach : l.Reachable) (h : l.Has share) :
    ∃ now, l.Keeps share now := by
  unfold Has at h
  unfold Keeps
  cases label : share.label with
  | some label =>
    rw [label] at h
    obtain ⟨s, there, mine⟩ := h
    have well := (reach.seat there).2.2
    unfold Seat.WellFormed at well
    cases status : s.status with
    | available => simp [status, mine] at well
    | sold => exact ⟨⟨0⟩, s, there, Seat.isKeptBy_iff.2 (.inr ⟨status, mine⟩)⟩
    | reserved =>
      simp only [status] at well
      obtain ⟨last, until_last⟩ := Option.isSome_iff_exists.1 well.2
      refine ⟨last, s, there, Seat.isKeptBy_iff.2 (.inl (Seat.isHeldBy_iff.2 ?_))⟩
      exact ⟨status, mine, last, until_last, Int.le_refl _⟩
  | none =>
    rw [label] at h
    obtain ⟨h, there, held | sold⟩ := h
    · refine ⟨h.expiresAt, h, there, StockHold.isKept_iff.2 (.inl ?_)⟩
      exact StockHold.isLive_iff.2 ⟨held, Int.le_refl _⟩
    · exact ⟨⟨0⟩, h, there, StockHold.isKept_iff.2 (.inr sold)⟩

/-- **A hold keeps one unit at most at every time exactly if it has one at most.** -/
theorem Reachable.length_unitsOf_iff (reach : l.Reachable) (hold : HoldId) :
    (∀ now, (l.unitsOf hold now).length ≤ 1) ↔ l.HasOne hold := by
  simp only [length_unitsOf_le_one_iff]
  constructor
  · intro one share share' own own' has has'
    obtain ⟨now, keeps⟩ := reach.keeps_of_has has
    obtain ⟨now', keeps'⟩ := reach.keeps_of_has has'
    -- two units that are kept until some time each were kept both before
    by_cases le : now ≤ now'
    · exact one now share share' own own' keeps (keeps'.earlier le)
    · have le' : now' ≤ now := by
        simp only [Instant.le_def] at *
        omega
      exact one now' share share' own own' (keeps.earlier le') keeps'
  · exact fun one now share share' own own' keeps keeps' =>
      one share share' own own' keeps.has keeps'.has

end MemoryLedger

end BoxOffice
