import BoxOffice.Proofs.Database.Refinement

/-!
# Snapshots while others work

A `SharedServer` is a database that other clients work with too: each statement finds it as they have
left it. A snapshot of a pool is made of two statements, so it shows what was left before the others
worked and which holds there are after that (`yields_availability_shared`). It adds up to no more than
the capacity exactly if what is left has not fallen too far in between (`availability_adds_up_iff`).
-/

namespace BoxOffice

open Database MemoryLedger Rehearsal Server

/-- A call that takes no place of a pool leaves it at least as much as it had. -/
theorem Pool.available_le_after {p : Pool} {id : CategoryId} {total : UInt32}
    (fits : p.units ≤ total.toNat) {c : Ledger.Call}
    (quiet : ∀ hold now last, c ≠ .takeStock id hold now last) :
    p.available.toNat ≤ (p.after id total c).available.toNat := by
  cases c with
  | takeStock category hold now last =>
    have elsewhere : id ≠ category := by
      rintro rfl
      exact quiet hold now last rfl
    simp only [after, if_neg elsewhere, Nat.le_refl]
  | returnStock category hold =>
    rw [after]
    split
    · cases back : p.giveBack? hold total with
      | none => exact Nat.le_refl _
      | some q =>
        have more := available_giveBack fits back
        show p.available.toNat ≤ q.available.toNat
        omega
    · exact Nat.le_refl _
  | settleStock category hold now =>
    rw [after]
    split
    · cases sold : p.settle? hold now with
      | none => exact Nat.le_refl _
      | some q =>
        obtain ⟨h, -, -, rfl⟩ := settle?_eq_some_iff.1 sold
        exact Nat.le_refl _
    · exact Nat.le_refl _
  | reclaim now =>
    have more := available_reclaim fits now
    show p.available.toNat ≤ (p.reclaim now total).available.toNat
    omega
  | _ => exact Nat.le_refl _

/-! ### The ledger after some steps -/

namespace MemoryLedger

variable {l : MemoryLedger} {first more steps : List Ledger.Step} {id : CategoryId} {s : Section}

/-- The ledger after some steps, one after the other. -/
def afterSteps (l : MemoryLedger) (steps : List Ledger.Step) : MemoryLedger :=
  steps.foldl (fun l s => (l.report s).2) l

theorem afterSteps_append (l : MemoryLedger) (first more : List Ledger.Step) :
    l.afterSteps (first ++ more) = (l.afterSteps first).afterSteps more :=
  List.foldl_append

theorem admits_append :
    l.Admits (first ++ more) ↔ l.Admits first ∧ (l.afterSteps first).Admits more := by
  induction first generalizing l with
  | nil => exact (iff_of_eq (true_and _)).symm
  | cons s first ih =>
    show (s.Fits l ∧ (l.report s).2.Admits (first ++ more)) ↔ _
    rw [ih, ← and_assoc]
    rfl

/-- A section that is there stays, and only calls move it. -/
theorem get?_report (there : l.sections.get? id = some s) (step : Ledger.Step) :
    ∃ s', (l.report step).2.sections.get? id = some s' ∧
      ((∃ c, step = .call c ∧ s' = s.after id c) ∨ s' = s) := by
  cases step with
  | call c => exact ⟨_, get?_act there (.call c), .inl ⟨c, rfl, rfl⟩⟩
  | provision c labels =>
    refine ⟨s, ?_, .inr rfl⟩
    show (l.provision c labels).2.sections.get? id = some s
    unfold provision
    split
    · exact get?_act there (.addStanding c)
    · exact get?_act there (.addSeated _ _)

/-- What the calls among some steps keep of a section, the steps keep. -/
theorem afterSteps_keeps {P : Section → Prop}
    (keeps : ∀ s c, .call c ∈ steps → P s → P (s.after id c))
    (there : l.sections.get? id = some s) (start : P s) :
    ∃ s', (l.afterSteps steps).sections.get? id = some s' ∧ P s' := by
  -- by induction on the steps, from any ledger with a section of the kind
  induction steps generalizing l s with
  | nil => exact ⟨s, there, start⟩
  | cons step steps ih =>
    obtain ⟨s', there', moved⟩ := get?_report there step
    refine ih (fun s c mem => keeps s c (List.mem_cons_of_mem _ mem)) there' ?_
    rcases moved with ⟨c, rfl, rfl⟩ | rfl
    · exact keeps s c List.mem_cons_self start
    · exact start

/-- A category stays as it is, and its pool has as many places as it had. -/
theorem Reachable.units_afterSteps (reach : l.Reachable) (there : l.sections.get? id = some s)
    (steps : List Ledger.Step) :
    ∃ s', (l.afterSteps steps).sections.get? id = some s' ∧ s'.category = s.category ∧
      s'.pool.units = s.pool.units := by
  refine afterSteps_keeps ?_ there ⟨rfl, rfl⟩
  rintro s' c - ⟨category, units⟩
  have fits : s'.pool.units ≤ s'.category.total.toNat := by
    rw [category, units]
    exact (reach.sound there).fits
  refine ⟨category, ?_⟩
  rw [Section.after_pool, Pool.units_after fits, units]

/-- Steps that take no place of a category leave it at least as much as it had. -/
theorem Reachable.available_le_afterSteps (reach : l.Reachable)
    (there : l.sections.get? id = some s)
    (quiet : ∀ hold now last, .call (.takeStock id hold now last) ∉ steps) {s' : Section}
    (there' : (l.afterSteps steps).sections.get? id = some s') :
    s.pool.available.toNat ≤ s'.pool.available.toNat := by
  obtain ⟨_, same, -, le⟩ : ∃ s', (l.afterSteps steps).sections.get? id = some s' ∧
      s'.pool.units ≤ s'.category.total.toNat ∧
      s.pool.available.toNat ≤ s'.pool.available.toNat := by
    refine afterSteps_keeps ?_ there ⟨(reach.sound there).fits, Nat.le_refl _⟩
    rintro s' c mem ⟨fits, le⟩
    have more : s'.pool.available.toNat ≤ (s'.after id c).pool.available.toNat := by
      refine Pool.available_le_after fits ?_
      rintro hold now last rfl
      exact quiet hold now last mem
    refine ⟨?_, Nat.le_trans le more⟩
    rw [Section.after_pool, Pool.units_after fits]
    exact fits
  obtain rfl := Option.some.inj (there'.symm.trans same)
  exact le

end MemoryLedger

/-! ### The database after some steps -/

variable {number : Tables → Nat → Int32} {stage : Stage} {l : MemoryLedger} {t : Tables}

/-- The database after some steps, one after the other. -/
def Server.afterSteps (number : Tables → Nat → Int32) (stage : Stage) (d : Server)
    (steps : List Ledger.Step) : Server :=
  steps.foldl (fun d s => (d.report number stage s).2) d

/-- Steps that fit leave the database at rest, with tables that mirror the ledger. -/
theorem Mirrors.afterSteps (number : Tables → Nat → Int32) (stage : Stage) (m : Mirrors l t)
    (ok : l.Storable) {steps : List Ledger.Step} (fits : l.Admits steps) :
    ∃ t', (resting t).afterSteps number stage steps = resting t' ∧
      Mirrors (l.afterSteps steps) t' ∧ (l.afterSteps steps).Storable := by
  -- by induction on the steps, from any ledger with tables that mirror it
  induction steps generalizing l t with
  | nil => exact ⟨t, rfl, m, ok⟩
  | cons s steps ih =>
    obtain ⟨fits, rest⟩ := fits
    obtain ⟨t', reported, mirrors, storable⟩ := report_eq number stage m ok fits
    obtain ⟨t'', worked, mirrors, storable⟩ := ih mirrors storable rest
    refine ⟨t'', ?_, mirrors, storable⟩
    show Server.afterSteps number stage ((resting t).report number stage s).2 steps = _
    rw [reported]
    exact worked

/-! ### A database that is shared -/

/-- The database and what other clients do with it: they take some steps before the next statement of
a client who is in no transaction, some before the one after, and so on. -/
structure SharedServer where
  server : Server
  others : List (List Ledger.Step)

namespace SharedServer

variable {α β : Type} {d d₁ d₂ : SharedServer} {s : Service DatabaseWorld α}

/-- The database as the next statement finds it. -/
def found (number : Tables → Nat → Int32) (stage : Stage) (d : SharedServer) : Server :=
  d.server.afterSteps number stage (d.others.headD [])

/-- Answers a statement, after what the others do before it. -/
def execute (number : Tables → Nat → Int32) (stage : Stage) (d : SharedServer) (s : Statement) :
    Except SqlFailure SqlAnswer × SharedServer :=
  let (reply, server) := (d.found number stage).execute number s
  (reply, { server, others := d.others.tail })

/-- Answers a call. What is said to the surroundings does not reach the database. -/
def answer (number : Tables → Nat → Int32) (stage : Stage) (d : SharedServer) :
    (c : DatabaseWorld.Call) → Except Breakdown (DatabaseWorld.Reply c) × SharedServer
  | .inl s => (.ok (d.execute number stage s).1, (d.execute number stage s).2)
  | .inr c => ((stage.answer c).1, d)

/-- A service that is played with a shared database comes to a result. -/
def Yields (number : Tables → Nat → Int32) (stage : Stage) (d : SharedServer)
    (s : Service DatabaseWorld α) (r : Result α) (d' : SharedServer) : Prop :=
  s.run.play (answer number stage) d = (.ok r, d')

/-- What is said to the surroundings is answered by the stage. -/
theorem answer_surroundings (d : SharedServer) (c : Surroundings.Call)
    (possible : Nonempty (DatabaseWorld.Reply (.inr c))) :
    ∃ reply, d.answer number stage (.inr c) = (.ok reply, d) :=
  (stage.answer_of_nonempty c possible).imp fun _ answered => Prod.ext answered rfl

/-- A shared database hears statements one after the other, and answers them. -/
inductive Hears (number : Tables → Nat → Int32) (stage : Stage) :
    SharedServer → Talk → SharedServer → Prop
  | nothing (d : SharedServer) : Hears number stage d [] d
  | more (d : SharedServer) (s : Statement) {talk : Talk} {d' : SharedServer}
    (rest : Hears number stage (d.execute number stage s).2 talk d') :
    Hears number stage d ((s, (d.execute number stage s).1) :: talk) d'

theorem Yields.bind {k : α → Service DatabaseWorld β} {a : α} {r : Result β}
    (first : d.Yields number stage s (.ok a) d₁) (rest : d₁.Yields number stage (k a) r d₂) :
    d.Yields number stage (s >>= k) r d₂ := by
  unfold Yields at *
  rw [Service.play_bind, first]
  exact rest

theorem talks {Q : Talk → Result α → Prop} (h : Talks s Q) (d : SharedServer) :
    ∃ talk r d', d.Yields number stage s r d' ∧ d.Hears number stage talk d' ∧ Q talk r :=
  h.plays .nothing (fun d s => ⟨_, _, rfl, .more d s⟩) answer_surroundings d

theorem computes {r : Result α} (h : Computes s r) (d : SharedServer) :
    d.Yields number stage s r d := by
  obtain ⟨_, _, d', played, heard, rfl, rfl⟩ := talks h d
  cases heard
  exact played

/-- A service that sends one statement yields what it yields with the database as the others have left
it. -/
theorem sends {statement : Statement} {result : Except SqlFailure SqlAnswer → Result α}
    (h : Sends s statement result) {r : Result α} {server : Server}
    (there : (d.found number stage).Yields number stage s r server) :
    d.Yields number stage s r { server, others := d.others.tail } := by
  obtain ⟨_, _, d', played, heard, reply, rfl, rfl⟩ := talks h d
  have alone : (d.found number stage).Yields number stage s _ _ := h.yields (d.found number stage)
  obtain ⟨same, rfl⟩ := Prod.mk.inj (there.symm.trans alone)
  cases same
  cases heard with
  | more _ _ rest =>
    cases rest
    exact played

end SharedServer

/-! ### Snapshots of a pool -/

namespace Section

/-- The places that the pool lacks of the capacity. -/
def spare (s : Section) : Nat :=
  s.category.total.toNat - s.pool.units

/-- A snapshot of a section with a pool, with the holds counted in the pool as it is later. -/
def availabilityAcross (s : Section) (later : Pool) (now : Instant) : Availability where
  total := s.category.total
  available := s.pool.available + .ofNat (later.lapsed now)
  reserved := .ofNat (later.holds.values.countP fun h => h.isLive now)
  sold := .ofNat (later.countState .confirmed)

variable {s : Section} {later : Pool}

/-- What such a snapshot shows adds up to what was left and what is kept later. -/
theorem availabilityAcross_sum (fits : s.pool.units ≤ s.category.total.toNat)
    (small : s.category.total.toNat ≤ 2147483647) (units : later.units = s.pool.units)
    (now : Instant) :
    (s.availabilityAcross later now).available.toNat + (s.availabilityAcross later now).reserved.toNat +
        (s.availabilityAcross later now).sold.toNat =
      s.pool.available.toNat + later.countState .held + later.countState .confirmed := by
  have held := later.lapsed_add_countP_live now
  have all : later.available.toNat + later.countState .held + later.countState .confirmed =
      s.pool.units := units
  have left : s.pool.available.toNat ≤ s.pool.units := by
    unfold Pool.units
    omega
  -- no count reaches the size of a number, so none of the sums overflows
  simp only [availabilityAcross, UInt32.toNat_add, UInt32.toNat_ofNat']
  omega

/-- It adds up to no more than the capacity exactly if no more places went in between than the pool
lacks. -/
theorem availabilityAcross_le_iff (fits : s.pool.units ≤ s.category.total.toNat)
    (small : s.category.total.toNat ≤ 2147483647) (units : later.units = s.pool.units)
    (now : Instant) :
    (s.availabilityAcross later now).available.toNat + (s.availabilityAcross later now).reserved.toNat +
        (s.availabilityAcross later now).sold.toNat ≤ (s.availabilityAcross later now).total.toNat ↔
      s.pool.available.toNat ≤ later.available.toNat + s.spare := by
  have total : (s.availabilityAcross later now).total = s.category.total := rfl
  rw [availabilityAcross_sum fits small units now, total, spare, ← units]
  rw [← units] at fits
  unfold Pool.units at fits ⊢
  omega

end Section

namespace DatabaseLedger

variable {l' : MemoryLedger} {t' : Tables} {id : CategoryId} {s s' : Section}

/-- A snapshot shows what is left of a pool when the first statement is answered, and which holds there
are when the second is. -/
theorem yields_availability_shared {d : SharedServer} (first : d.found number stage = resting t)
    (m : Mirrors l t) (ok : l.Storable) (there : l.sections.get? id = some s)
    (standing : s.category.layout = .standing)
    (second : (resting t).afterSteps number stage (d.others.tail.headD []) = resting t')
    (m' : Mirrors l' t') (ok' : l'.Storable) (there' : l'.sections.get? id = some s')
    (same : s'.category = s.category) (now : Instant) :
    d.Yields number stage (DatabaseLedger.availability id now)
      (.ok (some (s.availabilityAcross s'.pool now)))
      { server := resting t', others := d.others.tail.tail } := by
  -- the first statement reads the counter, and leaves the tables to the others
  let met : SharedServer := { server := resting t, others := d.others.tail }
  have read : (d.found number stage).Yields number stage (category id)
      (.ok ((l.sections.get? id).map Section.current)) (resting t) := by
    rw [first]
    exact yields_category m ok id
  rw [there] at read
  -- the second one counts the holds in what they made of them
  have tallied : (met.found number stage).Yields number stage
      (fetchOne (.countHolds id now) readHoldCounts)
      (.ok (.ofInt (s'.pool.countState .confirmed),
        .ofInt (s'.pool.holds.values.countP fun h => h.isLive now), .ofInt (s'.pool.lapsed now)))
      (resting t') := by
    have found : met.found number stage = resting t' := second
    rw [found]
    exact (sends_fetchOne _ readHoldCounts).yields_resting (countHolds_eq m' there' now) rfl
  have found : d.Yields number stage (category id) (.ok (some s.current)) met :=
    SharedServer.sends (sends_lookUp _ CategoryRow.ofRow CategoryRow.read) read
  have counted : met.Yields number stage (fetchOne (.countHolds id now) readHoldCounts) _ _ :=
    SharedServer.sends (sends_fetchOne _ readHoldCounts) tallied
  have current : s.current = { s.category with available := s.pool.available } := by
    rcases (ok.reach.sound there).kinds with ⟨seated, -⟩ | ⟨-, flexible, -⟩
    · cases seated.symm.trans standing
    · exact Section.current_of_flexible flexible
  have within : s'.pool.units ≤ s.category.total.toNat := by
    rw [← same]
    exact (ok'.reach.sound there').fits
  have few : s.category.total.toNat < UInt32.size := s.category.total.toNat_lt
  have all := s'.pool.lapsed_add_countP_live now
  unfold Pool.units at within
  refine found.bind ?_
  simp only [current, standing]
  refine counted.bind ?_
  exact SharedServer.computes
    (computes_snapshot { s.category with available := s.pool.available } (by omega)) _

/-- So it does from the start, whatever steps others take before it and while it is taken. -/
theorem yields_availability_between (number : Tables → Nat → Int32) (stage : Stage)
    {first between : List Ledger.Step} (fits : MemoryLedger.empty.Admits (first ++ between))
    (there : (MemoryLedger.empty.afterSteps first).sections.get? id = some s)
    (standing : s.category.layout = .standing) (now : Instant) :
    ∃ s' d, (MemoryLedger.empty.afterSteps (first ++ between)).sections.get? id = some s' ∧
      SharedServer.Yields number stage { server := resting .empty, others := [first, between] }
        (DatabaseLedger.availability id now) (.ok (some (s.availabilityAcross s'.pool now))) d ∧
      (MemoryLedger.empty.afterSteps first).Storable ∧ s'.pool.units = s.pool.units := by
  obtain ⟨fits, rest⟩ := admits_append.1 fits
  obtain ⟨t, worked, mirrors, storable⟩ := mirrors_empty.afterSteps number stage storable_empty fits
  obtain ⟨t', worked', mirrors', storable'⟩ := mirrors.afterSteps number stage storable rest
  obtain ⟨s', there', category, units⟩ := storable.reach.units_afterSteps there between
  refine ⟨s', { server := resting t', others := [] }, ?_, ?_, storable, units⟩
  · rw [afterSteps_append]
    exact there'
  · exact yields_availability_shared (d := { server := resting .empty, others := [first, between] })
      worked mirrors storable there standing worked' mirrors' storable' there' category now

/-- **A snapshot of a pool adds up exactly if not too many places went while it was taken.** Others may
take any steps before its first statement and between its two. It always comes to a result, whose sum is
within the capacity exactly if in between the counter fell by no more than the places that the pool
lacks of the capacity. -/
theorem availability_adds_up_iff (number : Tables → Nat → Int32) (stage : Stage)
    {first between : List Ledger.Step} (fits : MemoryLedger.empty.Admits (first ++ between))
    {id : CategoryId} {s : Section}
    (there : (MemoryLedger.empty.afterSteps first).sections.get? id = some s)
    (standing : s.category.layout = .standing) (now : Instant) :
    ∃ s' a d, (MemoryLedger.empty.afterSteps (first ++ between)).sections.get? id = some s' ∧
      SharedServer.Yields number stage { server := resting .empty, others := [first, between] }
        (DatabaseLedger.availability id now) (.ok (some a)) d ∧
      a = s.availabilityAcross s'.pool now ∧
      (a.available.toNat + a.reserved.toNat + a.sold.toNat ≤ a.total.toNat ↔
        s.pool.available.toNat ≤ s'.pool.available.toNat + s.spare) := by
  obtain ⟨s', d, there', yields, storable, units⟩ :=
    yields_availability_between number stage fits there standing now
  have adds_up := Section.availabilityAcross_le_iff (storable.reach.sound there).fits
    (storable.total id s there) units now
  exact ⟨s', _, d, there', yields, rfl, adds_up⟩

/-- A pool of places that comes whole. -/
def wholePool (places : UInt32) : Ledger.Step :=
  .provision (.standing ⟨1⟩ ⟨7⟩ "floor" ⟨500⟩ places) []

/-- A place of it that is taken for a hold. -/
def takePlace (hold : Nat) : Ledger.Step :=
  .call (.takeStock ⟨1⟩ ⟨.random hold⟩ (.ofParts 10 0) (.ofParts 20 0))

/-- A place is given back while another one is taken: in the end as much is left as before. -/
theorem availability_adds_up_exchange :
    let number (t : Tables) (place : Nat) : Int32 := .ofInt (100 + t.seats.length + place)
    let first := [wholePool 2, takePlace 1]
    let between := [takePlace 2, .call (.returnStock ⟨1⟩ ⟨.random 1⟩)]
    MemoryLedger.empty.Admits (first ++ between) ∧
      ∃ s, (MemoryLedger.empty.afterSteps first).sections.get? ⟨1⟩ = some s ∧
        s.category.layout = .standing ∧
        ∃ a d, SharedServer.Yields number (.start (.ofParts 0 0))
            { server := resting .empty, others := [first, between] }
            (DatabaseLedger.availability ⟨1⟩ (.ofParts 10 0)) (.ok (some a)) d ∧
          a.available.toNat + a.reserved.toNat + a.sold.toNat ≤ a.total.toNat := by
  intro number first between
  have fits : MemoryLedger.empty.Admits (first ++ between) := by decide +kernel
  obtain ⟨s, there⟩ : ∃ s, (MemoryLedger.empty.afterSteps first).sections.get? ⟨1⟩ = some s :=
    ⟨_, rfl⟩
  have standing : s.category.layout = .standing := by
    cases there
    rfl
  refine ⟨fits, s, there, standing, ?_⟩
  obtain ⟨s', a, d, there', yields, -, adds_up⟩ :=
    availability_adds_up_iff number (.start (.ofParts 0 0)) fits there standing (.ofParts 10 0)
  have counter : ((MemoryLedger.empty.afterSteps first).sections.get? ⟨1⟩).map
      (fun s => s.pool.available) = some 1 := by decide +kernel
  have counter' : ((MemoryLedger.empty.afterSteps (first ++ between)).sections.get? ⟨1⟩).map
      (fun s => s.pool.available) = some 1 := by decide +kernel
  rw [there] at counter
  rw [there'] at counter'
  have before : s.pool.available = 1 := Option.some.inj counter
  have later : s'.pool.available = 1 := Option.some.inj counter'
  refine ⟨a, d, yields, adds_up.2 ?_⟩
  rw [before, later]
  exact Nat.le_add_right _ _

/-- The place of a pool of one is taken by another client between the two statements. Before and after
that it is in one piece, and the snapshot shows it twice. -/
theorem availability_shows_place_twice :
    let number (t : Tables) (place : Nat) : Int32 := .ofInt (100 + t.seats.length + place)
    (MemoryLedger.empty.afterSteps [wholePool 1]).places? ⟨1⟩ = some 1 ∧
      (MemoryLedger.empty.afterSteps [wholePool 1, takePlace 1]).places? ⟨1⟩ = some 1 ∧
      ∃ d, SharedServer.Yields number (.start (.ofParts 0 0))
        { server := resting .empty, others := [[wholePool 1], [takePlace 1]] }
        (DatabaseLedger.availability ⟨1⟩ (.ofParts 10 0))
        (.ok (some { total := 1, available := 1, reserved := 1, sold := 0 })) d := by
  intro number
  refine ⟨by decide +kernel, by decide +kernel, ?_⟩
  have fits : MemoryLedger.empty.Admits ([wholePool 1] ++ [takePlace 1]) := by decide +kernel
  let s : Section := openStanding (.standing ⟨1⟩ ⟨7⟩ "floor" ⟨500⟩ 1)
  have there : (MemoryLedger.empty.afterSteps [wholePool 1]).sections.get? ⟨1⟩ = some s := rfl
  obtain ⟨s', d, there', yields, -⟩ :=
    yields_availability_between number (.start (.ofParts 0 0)) fits there rfl (.ofParts 10 0)
  have shown : ((MemoryLedger.empty.afterSteps ([wholePool 1] ++ [takePlace 1])).sections.get? ⟨1⟩).map
      (fun s' => s.availabilityAcross s'.pool (.ofParts 10 0)) =
        some { total := 1, available := 1, reserved := 1, sold := 0 } := by decide +kernel
  rw [there'] at shown
  have twice : s.availabilityAcross s'.pool (.ofParts 10 0) =
      { total := 1, available := 1, reserved := 1, sold := 0 } := Option.some.inj shown
  rw [twice] at yields
  exact ⟨d, yields⟩

/-- A snapshot adds up if others take no place of the pool while it is taken. They may take others',
give places back, have them sold and sweep. -/
theorem availability_adds_up_of_quiet (number : Tables → Nat → Int32) (stage : Stage)
    {first between : List Ledger.Step} (fits : MemoryLedger.empty.Admits (first ++ between))
    (there : (MemoryLedger.empty.afterSteps first).sections.get? id = some s)
    (standing : s.category.layout = .standing)
    (quiet : ∀ hold now last, .call (.takeStock id hold now last) ∉ between) (now : Instant) :
    ∃ a d, SharedServer.Yields number stage
        { server := resting .empty, others := [first, between] }
        (DatabaseLedger.availability id now) (.ok (some a)) d ∧
      a.available.toNat + a.reserved.toNat + a.sold.toNat ≤ a.total.toNat := by
  obtain ⟨s', d, there', yields, storable, units⟩ :=
    yields_availability_between number stage fits there standing now
  rw [afterSteps_append] at there'
  have left := storable.reach.available_le_afterSteps there quiet there'
  refine ⟨_, d, yields, ?_⟩
  rw [Section.availabilityAcross_le_iff (storable.reach.sound there).fits
    (storable.total id s there) units now]
  exact Nat.le_trans left (Nat.le_add_right _ _)

end DatabaseLedger

end BoxOffice
