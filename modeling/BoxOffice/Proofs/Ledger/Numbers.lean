import Mathlib.Algebra.GroupWithZero.Nat
import BoxOffice.Proofs.Ledger.Lifecycle
import BoxOffice.Proofs.Ledger.Provision

/-!
# The numbers of seats

Seats are numbered through all categories: a number is drawn for each seat that is laid out, also if
the category is refused in the end (`layOut_number`, `addSeated_number`). So the next number tells
how many seats were made, and each seat of the ledger has a number of its own among them
(`Numbered`), whatever is done (`Numbered.act`, `Numbered.run`), until the numbers are used up. A
category comes with all its seats (`addSeated_gains`), or nothing comes (`sections_of_fails`).
-/

namespace BoxOffice

/-- The identifier with a number. The numbers begin again after 2^32. -/
def SeatId.nth (n : Nat) : SeatId :=
  ⟨.ofNat n⟩

namespace SeatId

theorem nth_succ (n : Nat) : (⟨(nth n).value + 1⟩ : SeatId) = nth (n + 1) :=
  congrArg SeatId.mk (Int32.ofNat_add n 1).symm

theorem toInt_nth {n : Nat} (h : n < 2147483648) : (nth n).value.toInt = n :=
  Int32.toInt_ofNat_of_lt h

theorem nth_pos {n : Nat} (pos : 0 < n) (h : n < 2147483648) : 0 < (nth n).value := by
  rw [Int32.lt_iff_toInt_lt, toInt_nth h]
  simpa using pos

theorem nth_inj {m n : Nat} (hm : m < 2147483648) (hn : n < 2147483648) (same : nth m = nth n) :
    m = n := by
  have numbers := congrArg (fun id => id.value.toInt) same
  simp only [toInt_nth hm, toInt_nth hn] at numbers
  omega

end SeatId

namespace MemoryLedger

/-! ### Laying out seats -/

/-- How many seats are made for labels, where some labels are taken: one for each label before the
first that is blank or taken. -/
def seatsMade (taken : List String) : List String → Nat
  | [] => 0
  | label :: rest =>
    if Text.isBlank label ∨ label ∈ taken then 0 else seatsMade (label :: taken) rest + 1

/-- A registry has some keys. -/
def HasKeys (seats : Registry String Seat) (taken : List String) : Prop :=
  ∀ label, seats.contains label ↔ label ∈ taken

theorem hasKeys_empty : HasKeys ∅ [] := by
  intro label
  simp [Registry.contains_eq_isSome]

theorem HasKeys.set {seats : Registry String Seat} {taken : List String} (h : HasKeys seats taken)
    (label : String) (seat : Seat) : HasKeys (seats.set label seat) (label :: taken) := by
  intro other
  have before := h other
  rw [Registry.contains_eq_isSome] at before
  rw [Registry.contains_eq_isSome, Registry.get?_set, List.mem_cons]
  split
  · next same => simp [same]
  · next differ => simp [differ, before]

variable {category : CategoryId} {labels taken : List String} {seats laid : Registry String Seat}
  {next : SeatId}

/-- A number is drawn for each seat that is made. -/
theorem layOut_number (h : HasKeys seats taken) (category : CategoryId) (labels : List String)
    (n : Nat) :
    (layOut category labels seats (.nth n)).2 = .nth (n + seatsMade taken labels) := by
  induction labels generalizing seats taken n with
  | nil => rfl
  | cons label rest ih =>
    rw [layOut, seatsMade]
    by_cases blank : Text.isBlank label
    · simp [blank]
    by_cases repeated : label ∈ taken
    · simp [blank, repeated, (h label).2 repeated]
    · have new : ¬ seats.contains label := fun known => repeated ((h label).1 known)
      have later := ih (h.set label (Seat.fresh (.nth n) category label)) (n + 1)
      rw [if_neg blank, if_neg new, if_neg (by simp [blank, repeated]), SeatId.nth_succ, later]
      congr 1
      omega

/-- The seats that are laid out for labels, with their numbers. -/
def numbered (category : CategoryId) (n : Nat) (labels : List String) : List Seat :=
  (labels.zipIdx n).map fun e => Seat.fresh (.nth e.2) category e.1

theorem numbered_cons (category : CategoryId) (n : Nat) (label : String) (labels : List String) :
    numbered category n (label :: labels) =
      Seat.fresh (.nth n) category label :: numbered category (n + 1) labels := rfl

theorem numbered_labels (category : CategoryId) (n : Nat) (labels : List String) :
    (numbered category n labels).map Seat.label = labels := by
  simp [numbered, Function.comp_def, Seat.fresh]

/-- Seats are laid out in the order of their labels, and numbered so. -/
theorem layOut_values (h : HasKeys seats taken) {n : Nat}
    (done : layOut category labels seats (.nth n) = (.ok laid, next)) :
    laid.values = seats.values ++ numbered category n labels ∧
      seatsMade taken labels = labels.length := by
  induction labels generalizing seats taken n with
  | nil =>
    cases done
    simp [numbered, seatsMade]
  | cons label rest ih =>
    simp only [layOut] at done
    split at done
    · cases done
    next named =>
    split at done
    · cases done
    next new =>
    rw [SeatId.nth_succ] at done
    obtain ⟨values, made⟩ := ih (h.set label (Seat.fresh (.nth n) category label)) done
    have fresh : label ∉ taken := fun known => new ((h label).2 known)
    have absent : seats.get? label = none := by
      simpa [Registry.contains_eq_isSome] using new
    constructor
    · rw [values, Registry.values_set_of_none absent, numbered_cons, List.append_assoc]
      rfl
    · simp [seatsMade, named, fresh, made]

theorem mem_numbered {n : Nat} {seat : Seat} (h : seat ∈ numbered category n labels) :
    ∃ k, n ≤ k ∧ k < n + labels.length ∧ labels[k - n]? = some seat.label ∧ seat.id = .nth k := by
  obtain ⟨⟨label, k⟩, mem, rfl⟩ := List.mem_map.1 h
  obtain ⟨le, found⟩ := List.mem_zipIdx_iff_le_and_getElem?_sub.1 mem
  obtain ⟨-, lt, -⟩ := List.mem_zipIdx mem
  exact ⟨k, le, lt, found, rfl⟩

/-! ### Further categories -/

/-- How many seats are made when something is done, also if it fails in the end. -/
def Act.made : Act → Nat
  | .addSeated category labels =>
    if category.layout = .seated ∧ category.tracking = .fixed then seatsMade [] labels else 0
  | .call _ | .addStanding _ => 0

variable {l : MemoryLedger} {c : Category} {n : Nat}

theorem addSeated_number (h : l.nextSeat = .nth n) (c : Category) (labels : List String) :
    (l.addSeated c labels).2.nextSeat = .nth (n + (Act.addSeated c labels).made) := by
  have laid_out := layOut_number hasKeys_empty c.id labels n
  rw [← h] at laid_out
  simp only [Act.made]
  unfold addSeated
  by_cases kinds : c.layout = .seated ∧ c.tracking = .fixed
  · rw [if_pos kinds, if_neg (by simp [kinds]), ← laid_out]
    cases layOut c.id labels ∅ l.nextSeat with
    | mk seats next =>
      cases seats with
      | error e => rfl
      | ok seats =>
        dsimp only
        split
        · rfl
        · rcases addSection_cases { l with nextSeat := next } (openSeated c seats) with
            ⟨e, refused⟩ | ⟨-, taken⟩
          · rw [openSeated] at refused
            rw [refused]
          · rw [openSeated] at taken
            rw [taken]
  · rw [if_neg kinds, if_pos (by rwa [← Decidable.not_and_iff_not_or_not]), h, Nat.add_zero]

/-- A ledger gets a category with one available seat for each label, in the order of the labels, and
nothing else changes. -/
structure Gains (l : MemoryLedger) (c : Category) (labels : List String) (created : List Seat)
    (l' : MemoryLedger) (s : Section) : Prop where
  new : l.sections.get? c.id = none
  sections_eq : l'.sections = l.sections.set c.id s
  category_eq : s.category = { c with total := s.category.total, available := s.category.available }
  total : s.category.total.toNat = labels.length
  available : s.category.available.toNat = labels.length
  reported : ∀ now, s.availability now =
    { total := s.category.total, available := s.category.total, reserved := 0, sold := 0 }
  seats : s.seats.values = created
  named : ∀ label seat, s.seats.get? label = some seat → seat.label = label
  labels_eq : created.map Seat.label = labels
  distinct : labels.Nodup
  fresh : ∀ seat ∈ created, seat = .fresh seat.id c.id seat.label

/-- All seats of a category that comes are available. -/
theorem openSeated_availability (seated : c.layout = .seated)
    (fresh : ∀ seat ∈ seats.values, seat = .fresh seat.id c.id seat.label) (now : Instant) :
    (openSeated c seats).availability now =
      { total := .ofNat seats.size, available := .ofNat seats.size, reserved := 0, sold := 0 } := by
  have size : seats.values.length = seats.size := List.length_map _
  have claimable : (openSeated c seats).claimable now = seats.size := by
    rw [← size]
    refine List.countP_eq_length.2 fun seat mem => ?_
    rw [fresh seat mem]
    rfl
  have sold : (openSeated c seats).soldSeats = 0 := by
    refine List.countP_eq_zero.2 fun seat mem => ?_
    rw [fresh seat mem]
    exact Bool.false_ne_true
  have layout : (openSeated c seats).category.layout = .seated := seated
  simp only [Section.availability, layout, claimable, sold]
  simp [openSeated]

theorem addSeated_gains (h : l.nextSeat = .nth n) {created : List Seat}
    (added : (l.addSeated c labels).1 = .ok created) :
    created = numbered c.id n labels ∧ (Act.addSeated c labels).made = labels.length ∧
      ∃ s, l.Gains c labels created (l.addSeated c labels).2 s := by
  rcases addSeated_cases l c labels with
    ⟨e, next, refused⟩ | ⟨seats, next, seated, fixed, laid, few, new, taken⟩
  · rw [refused] at added
    cases added
  rw [h] at laid
  obtain ⟨values, made⟩ := layOut_values hasKeys_empty laid
  rw [Registry.values_empty, List.nil_append] at values
  have size : seats.size = labels.length := by
    have lengths := congrArg List.length values
    simpa [Registry.values, Registry.size, numbered] using lengths
  have free : Free ∅ labels := by
    refine Classical.byContradiction fun bad => ?_
    obtain ⟨e, next', refused, -⟩ := layOut_of_not_free c.id (.nth n) bad
    rw [refused] at laid
    cases laid
  rw [taken] at added ⊢
  cases added
  have fresh : ∀ seat ∈ seats.values, seat = .fresh seat.id c.id seat.label := by
    intro seat mem
    rw [values] at mem
    obtain ⟨e, -, rfl⟩ := List.mem_map.1 mem
    rfl
  refine ⟨values, ?_, openSeated c seats, ?_⟩
  · simp [Act.made, seated, fixed, made]
  · have total : (UInt32.ofNat seats.size).toNat = labels.length :=
      (UInt32.toNat_ofNat_of_lt' few).trans size
    constructor
    · exact new
    · rfl
    · rfl
    · exact total
    · exact total
    · exact openSeated_availability seated fresh
    · rfl
    · intro label seat there
      obtain ⟨id, rfl⟩ := layOut_fresh laid (by simp) label seat there
      rfl
    · rw [values]
      exact numbered_labels _ _ _
    · exact free.distinct
    · exact fresh

/-! ### The numbers of a ledger -/

/-- A number was drawn for each seat of a ledger, and for no two the same. -/
structure Numbered (l : MemoryLedger) (n : Nat) : Prop where
  next : l.nextSeat = .nth (n + 1)
  drawn : ∀ category label s, l.seat? category label = some s →
    ∃ k, 0 < k ∧ k ≤ n ∧ s.id = .nth k
  distinct : ∀ category label s category' label' s', l.seat? category label = some s →
    l.seat? category' label' = some s' → s.id = s'.id → category = category' ∧ label = label'

namespace Numbered

theorem empty : Numbered empty 0 := by
  constructor
  · rfl
  · intro category label s there
    cases there
  · intro category label s category' label' s' there
    cases there

/-- Numbers may be drawn in vain, and seats may be moved, but not get another number. -/
theorem mono (h : l.Numbered n) {l' : MemoryLedger} {m : Nat} (le : n ≤ m)
    (next : l'.nextSeat = .nth (m + 1))
    (before : ∀ category label s, l'.seat? category label = some s →
      ∃ t, l.seat? category label = some t ∧ t.id = s.id) : l'.Numbered m := by
  constructor
  · exact next
  · intro category label s there
    obtain ⟨t, found, same⟩ := before category label s there
    obtain ⟨k, pos, le', id⟩ := h.drawn category label t found
    exact ⟨k, pos, by omega, same.symm.trans id⟩
  · intro category label s category' label' s' there there' same
    obtain ⟨t, found, id⟩ := before category label s there
    obtain ⟨t', found', id'⟩ := before category' label' s' there'
    exact h.distinct _ _ t _ _ t' found found' (id.trans (same.trans id'.symm))

/-- The seats of a further category have the numbers that come next. -/
theorem gains (h : l.Numbered n) {c : Category} {l' : MemoryLedger} {s : Section}
    (few : n + labels.length < 2147483648)
    (gained : l.Gains c labels (numbered c.id (n + 1) labels) l' s)
    (next : l'.nextSeat = .nth (n + 1 + labels.length)) :
    l'.Numbered (n + labels.length) := by
  have seat (category : CategoryId) (label : String) : l'.seat? category label =
      if category = c.id then s.seats.get? label else l.seat? category label := by
    unfold seat?
    rw [gained.sections_eq, Registry.get?_set]
    split <;> rfl
  -- a seat of the further category has a number that was not drawn before
  have later {label : String} {t : Seat} (there : s.seats.get? label = some t) :
      ∃ k, n < k ∧ k ≤ n + labels.length ∧ labels[k - (n + 1)]? = some t.label ∧ t.id = .nth k := by
    have mem : t ∈ numbered c.id (n + 1) labels := by
      rw [← gained.seats]
      exact Registry.mem_values.2 ⟨label, there⟩
    obtain ⟨k, le, lt, found, id⟩ := mem_numbered mem
    exact ⟨k, le, by omega, found, id⟩
  have apart {category : CategoryId} {label label' : String} {t t' : Seat}
      (old : l.seat? category label = some t) (new : s.seats.get? label' = some t') :
      t.id ≠ t'.id := by
    obtain ⟨k, -, le, id⟩ := h.drawn category label t old
    obtain ⟨k', gt, le', -, id'⟩ := later new
    intro same
    rw [id, id'] at same
    have := SeatId.nth_inj (by omega) (by omega) same
    omega
  have sum : n + 1 + labels.length = n + labels.length + 1 := by omega
  constructor
  · rw [next, sum]
  · intro category label t there
    rw [seat] at there
    split at there
    · obtain ⟨k, gt, le, -, id⟩ := later there
      exact ⟨k, by omega, le, id⟩
    · obtain ⟨k, pos, le, id⟩ := h.drawn category label t there
      exact ⟨k, pos, by omega, id⟩
  · intro category label t category' label' t' there there' same
    rw [seat] at there there'
    split at there <;> split at there'
    · next here here' =>
      obtain ⟨k, gt, le, found, id⟩ := later there
      obtain ⟨k', gt', le', found', id'⟩ := later there'
      rw [id, id'] at same
      obtain rfl := SeatId.nth_inj (by omega) (by omega) same
      constructor
      · rw [here, here']
      · rw [← gained.named label t there, ← gained.named label' t' there']
        exact Option.some.inj (found.symm.trans found')
    · exact absurd same.symm (apart there' there)
    · exact absurd same (apart there there')
    · exact h.distinct _ _ t _ _ t' there there' same

/-- Whatever is done, the numbers of the seats that are made for it are drawn. -/
theorem act (h : l.Numbered n) {a : Act} (few : n + a.made < 2147483648) :
    (l.act a).Numbered (n + a.made) := by
  cases a with
  | call c =>
    show (l.answer c).2.Numbered n
    rw [answer_eq]
    refine h.mono (Nat.le_refl n) h.next ?_
    intro category label s there
    rw [seat?_after] at there
    obtain ⟨t, found, rfl⟩ := Option.map_eq_some_iff.1 there
    exact ⟨t, found, (t.after_place category label c).1.symm⟩
  | addSeated c labels =>
    have drawn := addSeated_number h.next c labels
    show (l.addSeated c labels).2.Numbered _
    cases added : (l.addSeated c labels).1 with
    | error e =>
      rcases addSeated_cases l c labels with ⟨e', next, refused⟩ | ⟨_, _, _, _, _, _, _, taken⟩
      · rw [refused] at drawn ⊢
        rw [Nat.add_right_comm] at drawn
        exact h.mono (Nat.le_add_right _ _) drawn fun _ _ s there => ⟨s, there, rfl⟩
      · rw [taken] at added
        cases added
    | ok created =>
      obtain ⟨rfl, made, s, gained⟩ := addSeated_gains h.next added
      rw [made] at few drawn ⊢
      exact h.gains few gained drawn
  | addStanding c =>
    show (l.addStanding c).2.Numbered n
    rcases addStanding_cases l c with ⟨e, refused⟩ | ⟨-, -, -, new, taken⟩
    · rw [refused]
      exact h
    · rw [taken]
      refine h.mono (Nat.le_refl n) h.next ?_
      intro category label s there
      simp only [seat?, Registry.get?_set] at there
      split at there
      · cases there
      · exact ⟨s, there, rfl⟩

/-- Whatever is done, one thing after the other, the numbers of the seats that are made for it are
drawn. -/
theorem run (h : l.Numbered n) {acts : List Act}
    (few : n + (acts.map Act.made).sum < 2147483648) :
    (l.run acts).Numbered (n + (acts.map Act.made).sum) := by
  induction acts generalizing l n with
  | nil => exact h
  | cons a acts ih =>
    rw [List.map_cons, List.sum_cons, ← Nat.add_assoc] at few ⊢
    have first := h.act (a := a) (by omega)
    exact ih first few

end Numbered

/-! ### What is done to a ledger -/

/-- Something that is done to a ledger fails. -/
def Act.Fails (l : MemoryLedger) : Act → Prop
  | .call c => ∃ e, (l.answer c).1 = .error e
  | .addSeated c labels => ∃ e, (l.addSeated c labels).1 = .error e
  | .addStanding c => ∃ e, (l.addStanding c).1 = .error e

/-- What fails leaves every category as it is, with its seats, its pool and its holds. -/
theorem sections_of_fails {a : Act} (h : a.Fails l) : (l.act a).sections = l.sections := by
  cases a with
  | call c =>
    obtain ⟨e, failed⟩ := h
    show (l.answer c).2.sections = l.sections
    cases c with
    | takeStock category hold now expiresAt =>
      -- only a place that is asked for in an unknown category is refused
      simp only [answer, takeStock] at failed ⊢
      cases there : l.sections.get? category with
      | none => rfl
      | some s => simp [there] at failed
    | category | seat | reserveSeat | releaseSeat | sellSeat | stockHold | returnStock | settleStock
    | reclaim | availability => cases failed
  | addSeated c labels =>
    obtain ⟨e, failed⟩ := h
    show (l.addSeated c labels).2.sections = l.sections
    rcases addSeated_cases l c labels with ⟨e', next, refused⟩ | ⟨_, _, _, _, _, _, _, taken⟩
    · rw [refused]
    · rw [taken] at failed
      cases failed
  | addStanding c =>
    obtain ⟨e, failed⟩ := h
    show (l.addStanding c).2.sections = l.sections
    rcases addStanding_cases l c with ⟨e', refused⟩ | ⟨_, _, _, _, taken⟩
    · rw [refused]
    · rw [taken] at failed
      cases failed

/-- What is promised of something that is done to a ledger. -/
structure Act.Atomic (l : MemoryLedger) (a : Act) : Prop where
  /-- What fails changes nothing. -/
  unchanged : a.Fails l → (l.act a).sections = l.sections
  /-- A category of seats comes as a whole. -/
  whole : ∀ c labels created, a = .addSeated c labels →
    (l.addSeated c labels).1 = .ok created → ∃ s, l.Gains c labels created (l.act a) s
  /-- A category that is there stays, and further categories leave it as it is. -/
  kept : ∀ id s, l.sections.get? id = some s →
    ∃ s', (l.act a).sections.get? id = some s' ∧ s'.category = s.category ∧
      ((∀ c, a ≠ .call c) → s' = s)

theorem Numbered.atomic (h : l.Numbered n) (a : Act) : a.Atomic l := by
  constructor
  · exact sections_of_fails
  · rintro c labels created rfl added
    exact (addSeated_gains h.next added).2.2
  · intro id s there
    refine ⟨sectionAfter id s a, get?_act there a, ?_, ?_⟩
    · cases a with
      | call c => exact Section.after_category s id c
      | addSeated | addStanding => rfl
    · intro further
      cases a with
      | call c => exact absurd rfl (further c)
      | addSeated | addStanding => rfl

/-- **Categories come as a whole or not at all, and seats have numbers of their own**, whatever is
done to a ledger, as long as fewer than 2^31 seats are made for it. A seat that was there at some
time and one that was there at another are the same if they have the same number. -/
theorem run_atomic (acts : List Act) (few : (acts.map Act.made).sum < 2147483648) :
    (∀ before a after, acts = before ++ a :: after → a.Atomic (empty.run before)) ∧
    ∀ before before', before <+: acts → before' <+: acts →
      ∀ category label s category' label' s',
        (empty.run before).seat? category label = some s →
        (empty.run before').seat? category' label' = some s' →
        0 < s.id.value ∧ (s.id = s'.id → category = category' ∧ label = label') := by
  constructor
  · rintro before a after rfl
    have made : 0 + (before.map Act.made).sum < 2147483648 := by
      rw [List.map_append, List.sum_append] at few
      omega
    exact (Numbered.empty.run made).atomic a
  · intro before before' earlier earlier' category label s category' label' s' there there'
    have numbered : (empty.run acts).Numbered (0 + (acts.map Act.made).sum) :=
      Numbered.empty.run (by omega)
    -- both seats are still there in the end
    have last {before : List Act} (earlier : before <+: acts) {category : CategoryId}
        {label : String} {s : Seat} (there : (empty.run before).seat? category label = some s) :
        ∃ t, (empty.run acts).seat? category label = some t ∧ t.id = s.id := by
      obtain ⟨rest, rfl⟩ := earlier
      obtain ⟨t, found, id, -⟩ := Reachable.seat?_run ⟨before, rfl⟩ there rest
      rw [run_append]
      exact ⟨t, found, id⟩
    obtain ⟨t, found, id⟩ := last earlier there
    obtain ⟨t', found', id'⟩ := last earlier' there'
    constructor
    · obtain ⟨k, pos, le, drawn⟩ := numbered.drawn category label t found
      rw [← id, drawn]
      exact SeatId.nth_pos pos (by omega)
    · intro same
      exact numbered.distinct _ _ t _ _ t' found found' (id.trans (same.trans id'.symm))

/-- A category of seats is refused for a label that is repeated, comes without it, is refused when
it comes again, and another one comes. -/
def refusedAndTaken : List Act :=
  let stalls (id : Int32) : Category := .seated ⟨id⟩ ⟨1⟩ "Stalls" ⟨9900⟩ 0
  [.addSeated (stalls 10) ["A1", "A1"], .addSeated (stalls 10) ["A1", "A2"],
    .addSeated (stalls 10) ["B1"], .addSeated (stalls 11) ["A1"]]

/-- The seats of the two categories that came have the numbers 2, 3 and 5: two numbers were drawn in
vain. -/
theorem run_atomic_refusedAndTaken :
    (refusedAndTaken.map Act.made).sum = 5 ∧
      (∀ before a after, refusedAndTaken = before ++ a :: after → a.Atomic (empty.run before)) ∧
      ∃ s s' s'', (empty.run refusedAndTaken).seat? ⟨10⟩ "A1" = some s ∧
        (empty.run refusedAndTaken).seat? ⟨10⟩ "A2" = some s' ∧
        (empty.run refusedAndTaken).seat? ⟨11⟩ "A1" = some s'' ∧
        s.id.value = 2 ∧ s'.id.value = 3 ∧ s''.id.value = 5 ∧ 0 < s.id.value ∧ s.id ≠ s''.id := by
  have made : (refusedAndTaken.map Act.made).sum = 5 := by decide
  obtain ⟨atomic, distinct⟩ := run_atomic refusedAndTaken (by rw [made]; decide)
  have first : (empty.run refusedAndTaken).seat? ⟨10⟩ "A1" = some (.fresh ⟨2⟩ ⟨10⟩ "A1") := by
    decide
  have second : (empty.run refusedAndTaken).seat? ⟨10⟩ "A2" = some (.fresh ⟨3⟩ ⟨10⟩ "A2") := by
    decide
  have third : (empty.run refusedAndTaken).seat? ⟨11⟩ "A1" = some (.fresh ⟨5⟩ ⟨11⟩ "A1") := by
    decide
  have apart := distinct _ _ (List.prefix_refl _) (List.prefix_refl _) _ _ _ _ _ _ first third
  refine ⟨made, atomic, _, _, _, first, second, third, rfl, rfl, rfl, apart.1, ?_⟩
  intro same
  exact absurd (apart.2 same).1 (by decide)

end MemoryLedger

end BoxOffice
