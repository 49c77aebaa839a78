import BoxOffice.Proofs.Ledger.Run

/-!
# Calls about different units

A call that may change the ledger, other than a sweep, is about one unit: a seat, or the pool of a
category. It reads nothing but its unit (`answer_congr`) and changes nothing but its unit
(`differsAt_after`), whether the unit is there or not. So calls about different units can be made in
either order (`independent`), and any number of them in every order (`run_perm`).
-/

namespace BoxOffice

namespace Ledger

/-- A unit of the ledger: a seat, or a pool. -/
inductive Target
  | seat (category : CategoryId) (label : String)
  | pool (category : CategoryId)
  deriving DecidableEq

/-- The unit that a call may change. A call that only looks is about none, and a sweep is about all of
them. -/
def Call.target? : Call → Option Target
  | .reserveSeat claim => some (.seat claim.category claim.label)
  | .releaseSeat id label _ | .sellSeat id label _ _ => some (.seat id label)
  | .takeStock id _ _ _ | .returnStock id _ | .settleStock id _ _ => some (.pool id)
  | .category _ | .seat _ _ | .stockHold _ _ | .reclaim _ | .availability _ _ => none

end Ledger

open Ledger (Target)

variable {c d : Ledger.Call} {t u : Target} {id : CategoryId}

/-! ### What a call leaves alone -/

/-- A call leaves every seat alone that it is not about. -/
theorem Seat.after_of_ne (about : c.target? = some t) {label : String} (other : t ≠ .seat id label)
    (seat : Seat) : seat.after id label c = seat := by
  cases c with
  | reserveSeat | releaseSeat | sellSeat =>
    cases about
    refine if_neg fun ⟨here, named⟩ => other ?_
    rw [here, named]
  | takeStock | returnStock | settleStock => rfl
  | category | seat | stockHold | reclaim | availability => cases about

/-- A call leaves every pool alone that it is not about. -/
theorem Pool.after_of_ne (about : c.target? = some t) (other : t ≠ .pool id) (total : UInt32)
    (p : Pool) : p.after id total c = p := by
  cases c with
  | reserveSeat | releaseSeat | sellSeat => rfl
  | takeStock | returnStock | settleStock =>
    cases about
    refine if_neg fun here => other ?_
    rw [here]
  | category | seat | stockHold | reclaim | availability => cases about

/-- The section differs from another at most in the unit. -/
structure Section.DiffersAt (s : Section) (id : CategoryId) (t : Target) (s' : Section) : Prop where
  category : s'.category = s.category
  /-- It has the same labels, in the same order. -/
  labels : s'.seats.entries.map Prod.fst = s.seats.entries.map Prod.fst
  seats : ∀ label, t ≠ .seat id label → s'.seats.get? label = s.seats.get? label
  pool : t ≠ .pool id → s'.pool = s.pool

theorem Section.differsAt_after (about : c.target? = some t) (s : Section) (id : CategoryId) :
    s.DiffersAt id t (s.after id c) where
  category := rfl
  labels := List.map_map
  seats label other := by
    rw [get?_after_seats]
    simp only [Seat.after_of_ne about other, Option.map_id']
  pool other := Pool.after_of_ne about other _ _

namespace MemoryLedger

/-- The ledger differs from another at most in the unit. -/
structure DiffersAt (l : MemoryLedger) (t : Target) (l' : MemoryLedger) : Prop where
  nextSeat : l'.nextSeat = l.nextSeat
  /-- It has the same categories, in the same order. -/
  categories : l'.sections.entries.map Prod.fst = l.sections.entries.map Prod.fst
  sections : ∀ id s, l.sections.get? id = some s →
    ∃ s', l'.sections.get? id = some s' ∧ s.DiffersAt id t s'

/-- A call changes nothing but its unit. -/
theorem differsAt_after (about : c.target? = some t) (l : MemoryLedger) : l.DiffersAt t (l.after c) where
  nextSeat := rfl
  categories := List.map_map
  sections id s found := by
    refine ⟨s.after id c, ?_, s.differsAt_after about id⟩
    rw [get?_after, found]
    rfl

/-! ### What a call reads -/

/-- Two ledgers agree on a unit: on the seat, or on the pool and on whose it is. -/
def AgreeAt (l l' : MemoryLedger) : Target → Prop
  | .seat id label => l.seat? id label = l'.seat? id label
  | .pool id =>
    (l.sections.get? id).map (fun s => (s.category, s.pool)) =
      (l'.sections.get? id).map fun s => (s.category, s.pool)

/-- What is made of a pool and its category is the same where they are. -/
theorem AgreeAt.bind_eq {l l' : MemoryLedger} (agree : l.AgreeAt l' (.pool id)) {β : Type}
    (f : Category → Pool → Option β) :
    ((l.sections.get? id).bind fun s => f s.category s.pool) =
      (l'.sections.get? id).bind fun s => f s.category s.pool := by
  have same := congrArg (fun found => found.bind fun (x : Category × Pool) => f x.1 x.2) agree
  simpa only [Option.bind_map, Function.comp_def] using same

/-- A call reads nothing but its unit. -/
theorem answer_congr (about : c.target? = some t) {l l' : MemoryLedger} (agree : l.AgreeAt l' t) :
    (l.answer c).1 = (l'.answer c).1 := by
  cases c with
  | reserveSeat claim =>
    cases about
    rw [answer_reserveSeat, answer_reserveSeat, show l.seat? _ _ = l'.seat? _ _ from agree]
  | releaseSeat id label hold =>
    cases about
    rw [answer_releaseSeat, answer_releaseSeat, show l.seat? _ _ = l'.seat? _ _ from agree]
  | sellSeat id label hold now =>
    cases about
    rw [answer_sellSeat, answer_sellSeat, show l.seat? _ _ = l'.seat? _ _ from agree]
  | takeStock id hold now last =>
    cases about
    have taken := agree.bind_eq fun _ p => some (p.take id hold now last).1
    rw [answer, answer, takeStock_eq, takeStock_eq]
    generalize l.sections.get? id = found, l'.sections.get? id = found' at taken ⊢
    rcases found with _ | s <;> rcases found' with _ | s'
    · rfl
    · cases taken
    · cases taken
    · exact congrArg Except.ok (Option.some.inj taken)
  | returnStock id hold =>
    cases about
    rw [answer_returnStock, answer_returnStock,
      agree.bind_eq fun category p => p.giveBack? hold category.total]
  | settleStock id hold now =>
    cases about
    rw [answer_settleStock, answer_settleStock, agree.bind_eq fun _ p => p.settle? hold now]
  | category | seat | stockHold | reclaim | availability => cases about

/-- A call about another unit makes no difference to a unit. -/
theorem agreeAt_after (about : c.target? = some t) (other : t ≠ u) (l : MemoryLedger) :
    (l.after c).AgreeAt l u := by
  cases u with
  | seat id label =>
    show (l.after c).seat? id label = l.seat? id label
    rw [seat?_after]
    simp only [Seat.after_of_ne about other, Option.map_id']
  | pool id =>
    show ((l.after c).sections.get? id).map _ = _
    rw [get?_after, Option.map_map]
    refine congrArg (Option.map · _) (funext fun s => ?_)
    exact Prod.ext rfl (Pool.after_of_ne about other _ _)

/-! ### Calls about different units -/

/-- Calls about different units leave the same ledger behind in either order. -/
theorem after_after (about_c : c.target? = some t) (about_d : d.target? = some u) (other : t ≠ u)
    (l : MemoryLedger) : (l.after c).after d = (l.after d).after c := by
  -- whatever is not the unit of the one is left alone by the other
  have seats (id : CategoryId) (label : String) (seat : Seat) :
      (seat.after id label c).after id label d = (seat.after id label d).after id label c := by
    by_cases here : t = .seat id label
    · have there : u ≠ .seat id label := fun same => other (here.trans same.symm)
      rw [Seat.after_of_ne about_d there, Seat.after_of_ne about_d there]
    · rw [Seat.after_of_ne about_c here, Seat.after_of_ne about_c here]
  have pools (id : CategoryId) (total : UInt32) (p : Pool) :
      (p.after id total c).after id total d = (p.after id total d).after id total c := by
    by_cases here : t = .pool id
    · have there : u ≠ .pool id := fun same => other (here.trans same.symm)
      rw [Pool.after_of_ne about_d there, Pool.after_of_ne about_d there]
    · rw [Pool.after_of_ne about_c here, Pool.after_of_ne about_c here]
  simp only [after, Section.after, Registry.mapEntries_mapEntries, seats, pools]

/-- The two calls have the same answers, and leave the same ledger behind, in either order. -/
structure Commute (l : MemoryLedger) (c d : Ledger.Call) : Prop where
  /-- What the first is answered does not depend on the second. -/
  first : ((l.answer d).2.answer c).1 = (l.answer c).1
  /-- What the second is answered does not depend on the first. -/
  second : ((l.answer c).2.answer d).1 = (l.answer d).1
  ledger : ((l.answer c).2.answer d).2 = ((l.answer d).2.answer c).2

/-- **Calls about different units can be made in either order**: each is answered as if the other was not
made, the ledger is the same in the end, and each changes nothing but its own unit. -/
theorem independent (about_c : c.target? = some t) (about_d : d.target? = some u) (other : t ≠ u)
    (l : MemoryLedger) :
    l.Commute c d ∧ l.DiffersAt t (l.answer c).2 ∧ l.DiffersAt u (l.answer d).2 := by
  simp only [answer_eq]
  refine ⟨⟨?_, ?_, ?_⟩, differsAt_after about_c l, differsAt_after about_d l⟩
  · rw [answer_eq]
    exact answer_congr about_c (agreeAt_after about_d other.symm l)
  · rw [answer_eq]
    exact answer_congr about_d (agreeAt_after about_c other l)
  · simp only [answer_eq]
    exact after_after about_c about_d other l

/-- A ledger with one seat. -/
def oneSeat : MemoryLedger :=
  empty.run [.addSeated (.seated ⟨10⟩ ⟨1⟩ "Stalls" ⟨9900⟩ 0) ["A1"]]

/-- A claim on its seat. -/
def claimSeat : Ledger.Call :=
  .reserveSeat
    { category := ⟨10⟩, label := "A1", hold := ⟨.random 1⟩, now := ⟨0⟩, expiresAt := ⟨900⟩ }

/-- Asking the pool of the same category for a place. -/
def askPool : Ledger.Call :=
  .takeStock ⟨10⟩ ⟨.random 2⟩ ⟨0⟩ ⟨900⟩

/-- A seat and the pool of its category are different units. -/
theorem independent_seat_pool :
    (claimSeat.target? = some (.seat ⟨10⟩ "A1") ∧ askPool.target? = some (.pool ⟨10⟩) ∧
      Target.seat ⟨10⟩ "A1" ≠ .pool ⟨10⟩) ∧
    oneSeat.Commute claimSeat askPool ∧
      oneSeat.DiffersAt (.seat ⟨10⟩ "A1") (oneSeat.answer claimSeat).2 ∧
      oneSeat.DiffersAt (.pool ⟨10⟩) (oneSeat.answer askPool).2 :=
  have other : Target.seat ⟨10⟩ "A1" ≠ .pool ⟨10⟩ := nofun
  ⟨⟨rfl, rfl, other⟩, independent rfl rfl other oneSeat⟩

/-! ### Any number of calls -/

/-- The calls are about different units. -/
def Apart (c d : Ledger.Call) : Prop :=
  ∃ t u, c.target? = some t ∧ d.target? = some u ∧ t ≠ u

theorem run_calls (l : MemoryLedger) (cs : List Ledger.Call) :
    l.run (cs.map .call) = cs.foldl after l := by
  rw [run, List.foldl_map]
  exact congrArg (fun step => cs.foldl step l) (funext fun l => funext fun c => answer_eq l c)

/-- Calls about other units make no difference to what a call is answered. -/
theorem answer_run {before : List Ledger.Call} (apart : ∀ d ∈ before, Apart d c) (l : MemoryLedger) :
    ((l.run (before.map .call)).answer c).1 = (l.answer c).1 := by
  induction before generalizing l with
  | nil => rfl
  | cons d before ih =>
    obtain ⟨t, u, about_d, about_c, other⟩ := apart d (by simp)
    rw [List.map_cons, run_cons, ih fun e mem => apart e (by simp [mem])]
    show ((l.answer d).2.answer c).1 = _
    rw [answer_eq]
    exact answer_congr about_c (agreeAt_after about_d other l)

/-- **Any number of calls about different units can be made in every order**: the ledger is the same in
the end, and each call is answered as if it was the first. -/
theorem run_perm {cs ds : List Ledger.Call} (apart : cs.Pairwise Apart) (perm : cs.Perm ds)
    (l : MemoryLedger) :
    l.run (cs.map .call) = l.run (ds.map .call) ∧
      ∀ before c more, cs = before ++ c :: more →
        ((l.run (before.map .call)).answer c).1 = (l.answer c).1 := by
  constructor
  · rw [run_calls, run_calls]
    have swap : cs.Pairwise fun c d => ∀ l : MemoryLedger, (l.after c).after d = (l.after d).after c :=
      apart.imp fun ⟨_, _, about_c, about_d, other⟩ => after_after about_c about_d other
    refine perm.foldl_eq' (fun c mem d mem' => ?_) l
    exact swap.forall_of_forall_of_flip (fun _ _ _ => rfl) (swap.imp fun all l => (all l).symm) mem mem'
  · rintro before c more rfl
    exact answer_run (fun d mem => (List.pairwise_append.1 apart).2.2 d mem c (by simp)) l

end MemoryLedger

end BoxOffice
