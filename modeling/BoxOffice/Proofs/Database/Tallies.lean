import BoxOffice.Proofs.Database.Answers
import BoxOffice.Proofs.Ledger.Count

/-!
# Sweeps and snapshots that are answered by the database

The two calls whose answers are counts: a sweep adds up what is found lapsed in all categories, a
snapshot counts in one category what is sold, live and lapsed, and gets what is left by subtraction
where the ledger counts it (`sold_add_live_add_claimable`).
-/

namespace BoxOffice

open Database MemoryLedger Rehearsal Server

variable {number : Tables → Nat → Int32} {stage : Stage} {l : MemoryLedger} {t : Tables}

/-! ### Sweeps -/

/-- Counts that fit their column are added up as they are. -/
theorem foldl_counts {ns : List Nat} (small : ∀ n ∈ ns, n ≤ 2147483647) (start : Nat) :
    (ns.map fun n : Nat => Int32.ofInt n).foldl (fun total n => total + n.toInt.toNat) start =
      start + ns.sum := by
  induction ns generalizing start with
  | nil => rfl
  | cons n ns ih =>
    rw [List.map_cons, List.foldl_cons, Int32.toInt_ofInt_natCast (small n (by simp)),
      ih fun k mem => small k (by simp [mem])]
    simp [Nat.add_assoc]

namespace DatabaseLedger

theorem answersAs_reclaim (m : Mirrors l t) (ok : l.Storable) (now : Instant) :
    AnswersAs number stage l t (.reclaim now) := by
  obtain ⟨seats, freed, seatsMirror⟩ := Tables.run_freeLapsedSeats number now ok
    (m.ids ok.reach) m.seats
  obtain ⟨ns, holds, expired, holdsMirror, small, sum⟩ := Tables.run_expireLapsedHolds
    number now (t := { t with seats }) ok m.categories m.holds
  have first : (resting t).Yields number stage _ _ _ :=
    (sends_execute (.freeLapsedSeats now)).yields_resting freed rfl
  have second : (resting { t with seats }).Yields number stage _ _ _ :=
    (sends_fetchAll (.expireLapsedHolds now)
      fun row => row.column (α := Int32) 0).yields_resting expired rfl
  have counts : (received (.ok (Tables.ofIntegers "n" .int4 (ns.map Int.ofNat))) >>=
      allOf fun row => row.column (α := Int32) 0) = .ok (ns.map fun n : Nat => Int32.ofInt n) := by
    have read : allOf (fun row => row.column (α := Int32) 0)
        (Tables.ofIntegers "n" .int4 (ns.map Int.ofNat)) = .ok ((ns.map Int.ofNat).map Int32.ofInt) :=
      allOf_ofRows (f := Int32.ofInt) (by intro; rfl) _
    exact read.trans (congrArg Except.ok List.map_map)
  rw [counts] at second
  refine ⟨_, _, first.bind (second.bind (.pure _)), ?_, rfl, seatsMirror, holdsMirror⟩
  show Except.ok _ = Except.ok _
  rw [foldl_reports, foldl_counts small, sum]
  simp only [SweepReport.empty, UInt64.zero_add, Nat.zero_add]
  rfl

/-! ### Snapshots -/

end DatabaseLedger

/-- A seat is sold, or may be claimed, or is reserved until now or longer. -/
theorem countP_seats (seats : List Seat) (now : Instant)
    (well : ∀ s ∈ seats, s.WellFormed) :
    (seats.countP fun s => s.status == .sold) +
        (seats.countP fun s => Tables.seatLive now (.write s)) +
      (seats.countP fun s => s.isClaimable now) = seats.length := by
  induction seats with
  | nil => rfl
  | cons s seats ih =>
    have rest := ih fun s mem => well s (by simp [mem])
    have one : (if s.status == .sold then 1 else 0) + (if Tables.seatLive now (.write s) then 1 else 0) +
        (if s.isClaimable now then 1 else 0) = 1 := by
      have here := well s (by simp)
      obtain ⟨id, category, label, status, last, hold⟩ := s
      cases status with
      | available => rfl
      | sold => rfl
      | reserved =>
        obtain ⟨last, rfl⟩ := Option.isSome_iff_exists.1 here.2
        by_cases live : now ≤ last
        · have early : ¬ last < now := fun past => Instant.not_le.2 past live
          simp [SeatRow.seatLive_write, Seat.isClaimable, live, early]
        · simp [SeatRow.seatLive_write, Seat.isClaimable, live, Instant.not_le.1 live]
    simp only [List.countP_cons, List.length_cons]
    omega

/-- What is left by subtraction is what may be claimed. -/
theorem sub_taken {sold live claimable : Nat} {total : UInt32}
    (all : sold + live + claimable = total.toNat) :
    (if UInt32.ofNat sold + UInt32.ofNat live ≤ total then
      total - (UInt32.ofNat sold + UInt32.ofNat live) else 0) = UInt32.ofNat claimable := by
  have small : total.toNat < UInt32.size := total.toNat_lt
  have taken : (UInt32.ofNat sold + UInt32.ofNat live).toNat = sold + live := by
    rw [← UInt32.ofNat_add, UInt32.toNat_ofNat_of_lt' (by omega)]
  have le : UInt32.ofNat sold + UInt32.ofNat live ≤ total := by
    rw [UInt32.le_iff_toNat_le, taken]
    omega
  rw [if_pos le, ← UInt32.toNat_inj, UInt32.toNat_sub_of_le _ _ le, taken,
    UInt32.toNat_ofNat_of_lt' (by omega)]
  omega

namespace DatabaseLedger

/-- A count is read as it is. -/
theorem computes_count (what : String) {n : Nat} (small : n < UInt32.size) :
    Computes (interpret (countOf what (Int64.ofInt n).toInt)) (.ok (UInt32.ofNat n)) := by
  rw [Int64.toInt_ofInt_natCast (by simp [UInt32.size] at small; omega), countOf_natCast what small]
  exact computes_interpret _

theorem yields_count (what : String) {n : Nat} (small : n < UInt32.size) (d : Server) :
    d.Yields number stage (interpret (countOf what (Int64.ofInt n).toInt)) (.ok (UInt32.ofNat n)) d :=
  (computes_count what small).yields d

/-- The seats of a category are counted as the ledger would count them. -/
theorem countSeats_eq (m : Mirrors l t) {id : CategoryId} {s : Section}
    (there : l.sections.get? id = some s) (now : Instant) :
    t.run number (.countSeats id now) = .ok (Tables.ofCounts [s.soldSeats,
      s.seats.values.countP fun s => Tables.seatLive now (.write s)], t) := by
  have sold := m.seats.countP_filter (p := fun row => row.status = "SOLD") (fun _ => rfl) id
  have live := m.seats.countP_filter (p := Tables.seatLive now) (fun _ => rfl) id
  simp only [SeatRow.sold_write, seatsOf, there, Option.map_some, Option.getD_some] at sold live
  simp only [Tables.run]
  rw [sold, live]
  rfl

theorem yields_availability_seated (m : Mirrors l t) (ok : l.Storable) {id : CategoryId} {s : Section}
    (there : l.sections.get? id = some s) (seated : s.category.layout = .seated) (now : Instant) :
    (resting t).Yields number stage (DatabaseLedger.availability id now)
      (.ok (some (s.availability now))) (resting t) := by
  have found : (resting t).Yields number stage _ _ (resting t) := yields_category m ok id
  have counted : (resting t).Yields number stage _ _ (resting t) :=
    (sends_fetchOne (.countSeats id now) readSeatCounts).yields_resting (countSeats_eq m there now) rfl
  rw [there] at found
  obtain ⟨current, size⟩ : s.current = s.category ∧ s.seats.size = s.category.total.toNat := by
    rcases (ok.reach.sound there).kinds with ⟨-, fixed, size, -⟩ | ⟨standing, -⟩
    · exact ⟨Section.current_of_fixed fixed, size⟩
    · cases standing.symm.trans seated
  have few : s.category.total.toNat < UInt32.size := s.category.total.toNat_lt
  have all := countP_seats s.seats.values now fun seat mem => by
    obtain ⟨label, at_label⟩ := Registry.mem_values.1 mem
    exact ((ok.reach.sound there).seats label seat at_label).2.2
  have length : s.seats.values.length = s.category.total.toNat := by
    rw [Registry.values, List.length_map, ← size]
    rfl
  rw [length] at all
  refine found.bind ?_
  simp only [Option.map_some, current, seated]
  refine counted.bind ((yields_count "sold" (by unfold Section.soldSeats; omega) _).bind
    ((yields_count "reserved" (by omega) _).bind ?_))
  have left := sub_taken all
  have reserved : s.seats.size - s.soldSeats - s.claimable now =
      s.seats.values.countP fun s => Tables.seatLive now (.write s) := by
    unfold Section.soldSeats Section.claimable
    omega
  have same : s.availability now =
      { total := s.category.total
        available := UInt32.ofNat (s.claimable now)
        reserved := UInt32.ofNat (s.seats.values.countP fun s => Tables.seatLive now (.write s))
        sold := UInt32.ofNat s.soldSeats } := by
    rw [Section.availability, seated, ← reserved]
  rw [same, Section.claimable, ← left]
  exact .pure _

/-- So are the holds of a category. -/
theorem countHolds_eq (m : Mirrors l t) {id : CategoryId} {s : Section}
    (there : l.sections.get? id = some s) (now : Instant) :
    t.run number (.countHolds id now) = .ok (Tables.ofCounts [s.pool.countState .confirmed,
      s.pool.holds.values.countP fun h => h.isLive now, s.pool.lapsed now], t) := by
  have sold := m.holds.countP_filter (fun row => row.state = "CONFIRMED") id
  have live := m.holds.countP_filter (Tables.holdLive now) id
  have lapsed := m.holds.countP_filter (Tables.holdLapsed now) id
  simp only [HoldRow.confirmed_write, HoldRow.holdLive_write, HoldRow.holdLapsed_write, holdsOf, there,
    Option.map_some, Option.getD_some] at sold live lapsed
  simp only [Tables.run]
  rw [sold, live, lapsed]
  rfl

/-- The counts of a pool are made into a snapshot as they are. -/
theorem computes_snapshot (c : Category) {sold live lapsed : Nat}
    (small : sold + live + lapsed < UInt32.size) :
    Computes (do
        let lapsed ← interpret (countOf "lapsed" (Int64.ofInt lapsed).toInt)
        let reserved ← interpret (countOf "reserved" (Int64.ofInt live).toInt)
        let sold ← interpret (countOf "sold" (Int64.ofInt sold).toInt)
        return some ({ total := c.total, available := c.available + lapsed, reserved, sold } :
          Availability))
      (.ok (some
        { total := c.total
          available := c.available + UInt32.ofNat lapsed
          reserved := UInt32.ofNat live
          sold := UInt32.ofNat sold })) := by
  refine (computes_count "lapsed" (by omega)).bind ?_
  refine (computes_count "reserved" (by omega)).bind ?_
  refine (computes_count "sold" (by omega)).bind ?_
  exact computes_pure _

theorem yields_availability_standing (m : Mirrors l t) (ok : l.Storable) {id : CategoryId} {s : Section}
    (there : l.sections.get? id = some s) (standing : s.category.layout = .standing) (now : Instant) :
    (resting t).Yields number stage (DatabaseLedger.availability id now)
      (.ok (some (s.availability now))) (resting t) := by
  have found : (resting t).Yields number stage _ _ (resting t) := yields_category m ok id
  have counted : (resting t).Yields number stage _ _ (resting t) :=
    (sends_fetchOne (.countHolds id now) readHoldCounts).yields_resting (countHolds_eq m there now) rfl
  rw [there] at found
  obtain ⟨current, within⟩ : s.current = { s.category with available := s.pool.available } ∧
      s.pool.units ≤ s.category.total.toNat := by
    rcases (ok.reach.sound there).kinds with ⟨seated, -⟩ | ⟨-, flexible, -, within⟩
    · cases seated.symm.trans standing
    · exact ⟨Section.current_of_flexible flexible, within⟩
  have few : s.category.total.toNat < UInt32.size := s.category.total.toNat_lt
  have all := s.pool.lapsed_add_countP_live now
  unfold Pool.units at within
  have reserved : s.pool.countState .held - s.pool.lapsed now =
      s.pool.holds.values.countP fun h => h.isLive now := by omega
  have same : s.availability now =
      { total := s.category.total
        available := s.pool.available + UInt32.ofNat (s.pool.lapsed now)
        reserved := UInt32.ofNat (s.pool.holds.values.countP fun h => h.isLive now)
        sold := UInt32.ofNat (s.pool.countState .confirmed) } := by
    rw [Section.availability, standing, ← reserved]
  rw [same]
  refine found.bind ?_
  simp only [Option.map_some, current, standing]
  refine counted.bind ?_
  exact (computes_snapshot { s.category with available := s.pool.available } (by omega)).yields _

theorem answersAs_availability (m : Mirrors l t) (ok : l.Storable) (id : CategoryId) (now : Instant) :
    AnswersAs number stage l t (.availability id now) := by
  have yields : (resting t).Yields number stage (DatabaseLedger.availability id now)
      (.ok ((l.sections.get? id).map fun s => s.availability now)) (resting t) := by
    cases there : l.sections.get? id with
    | none =>
      have found : (resting t).Yields number stage _ _ (resting t) := yields_category m ok id
      rw [there] at found
      exact found.bind (.pure _)
    | some s =>
      cases layout : s.category.layout with
      | seated => exact yields_availability_seated m ok there layout now
      | standing => exact yields_availability_standing m ok there layout now
  exact ⟨_, t, yields, rfl, m.after_read rfl⟩

end DatabaseLedger

end BoxOffice
