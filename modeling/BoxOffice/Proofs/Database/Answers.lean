import BoxOffice.Proofs.Database.Counting
import BoxOffice.Proofs.Database.Server
import BoxOffice.Proofs.Database.Atomic

/-!
# Calls that are answered by the database

Played with tables that mirror a ledger, each call to the ledger in the database comes to the result
that the ledger itself gives, and leaves tables that mirror the ledger after the call (`AnswersAs`).
Results are compared up to the numbers of seats and the wording of errors.
-/

namespace BoxOffice

open Database MemoryLedger Rehearsal

namespace Ledger.Call

/-- An answer without the numbers of seats. -/
def unnumbered : (c : Ledger.Call) → c.Answer → c.Answer
  | .seat _ _, found | .reserveSeat _, found => Option.map Seat.unnumbered found
  | .category _, a | .releaseSeat _ _ _, a | .sellSeat _ _ _ _, a | .takeStock _ _ _ _, a
  | .stockHold _ _, a | .returnStock _ _, a | .settleStock _ _ _, a | .reclaim _, a
  | .availability _ _, a => a

/-- What is compared of a result: the answer without the numbers of seats, or the kind of the error. -/
def outcome (c : Ledger.Call) (r : Result c.Answer) : Except ErrorKind c.Answer :=
  (r.mapError Error.kind).map c.unnumbered

end Ledger.Call

/-- The database answers a call as the ledger does that its tables mirror. -/
def AnswersAs (number : Tables → Nat → Int32) (stage : Stage) (l : MemoryLedger) (t : Tables)
    (c : Ledger.Call) : Prop :=
  ∃ r t', (DatabaseLedger.answer c).play (Server.answer number stage) (.resting t) =
      (.ok r, .resting t') ∧
    c.outcome r = c.outcome (l.answer c).1 ∧ Mirrors (l.after c) t'

/-! ### What is read -/

section Reads

/-- The first row of an answer is read, whatever it means. -/
theorem first_row {ρ : Type} {columns : List (String × SqlType)} {values : ρ → List SqlValue}
    {read : SqlRow → Except SqlFailure ρ} (back : ∀ row, read ⟨columns, values row⟩ = .ok row)
    (rows : List ρ) :
    (received (.ok (.ofRows columns (rows.map values))) >>= firstOf read) = .ok rows.head? := by
  have first := firstOf_ofRows (f := id) back rows
  rwa [Option.map_id_apply] at first

theorem read_categories (rows : List CategoryRow) :
    ((received (.ok (Tables.ofCategories rows)) >>= firstOf CategoryRow.ofRow) >>=
      meant CategoryRow.read) = meant CategoryRow.read rows.head? := by
  rw [Tables.ofCategories, first_row CategoryRow.ofRow_values]
  rfl

theorem read_seats (rows : List SeatRow) :
    ((received (.ok (Tables.ofSeats rows)) >>= firstOf SeatRow.ofRow) >>= meant SeatRow.read) =
      meant SeatRow.read rows.head? := by
  rw [Tables.ofSeats, first_row SeatRow.ofRow_values]
  rfl

theorem read_holds (rows : List HoldRow) :
    ((received (.ok (Tables.ofHolds rows)) >>= firstOf HoldRow.ofRow) >>= meant HoldRow.read) =
      meant HoldRow.read rows.head? := by
  rw [Tables.ofHolds, first_row HoldRow.ofRow_values]
  rfl

/-- The row of a seat is read as that seat. -/
theorem meant_seats {rows : List SeatRow} {found : Option Seat}
    (h : rows.map SeatRow.unnumbered = found.toList.map fun s => (SeatRow.write s).unnumbered) :
    ((meant SeatRow.read rows.head?).mapError Error.kind).map (Option.map Seat.unnumbered) =
      .ok (found.map Seat.unnumbered) := by
  cases found with
  | none =>
    rw [List.map_eq_nil_iff.1 h]
    rfl
  | some s =>
    obtain ⟨row, rest, rfl, same, -⟩ := List.map_eq_cons_iff.1 h
    have read := SeatRow.read_of_unnumbered same
    cases meaning : SeatRow.read row with
    | error e =>
      rw [meaning] at read
      cases read
    | ok s' =>
      rw [meaning] at read
      show ((some <$> SeatRow.read row).mapError _).map _ = _
      rw [meaning]
      exact congrArg Except.ok (congrArg some (Except.ok.inj read))

theorem meant_hold (found : Option StockHold) :
    meant HoldRow.read (found.toList.map HoldRow.write).head? = .ok found := by
  cases found with
  | none => rfl
  | some h =>
    show some <$> HoldRow.read (.write h) = _
    rw [HoldRow.read_write]
    rfl

end Reads

variable {number : Tables → Nat → Int32} {stage : Stage} {l : MemoryLedger} {t : Tables}

theorem Mirrors.after_read (m : Mirrors l t) {c : Ledger.Call} (same : (l.answer c).2 = l) :
    Mirrors (l.after c) t := by
  rwa [← answer_eq, same]

namespace DatabaseLedger

open Server

theorem sends_changesOne (s : Statement) :
    Sends (changesOne s) s fun reply =>
      received reply >>= fun a => .ok (decide (a.affected = 1)) := by
  refine Program.Ensures.mono ((sends_execute s).then fun n => computes_pure (decide (n = 1))) ?_
  rintro _ _ ⟨reply, rfl, rfl⟩
  refine ⟨reply, rfl, ?_⟩
  cases reply <;> rfl

section Reading

theorem yields_category (m : Mirrors l t) (ok : l.Storable) (id : CategoryId) :
    (resting t).Yields number stage (DatabaseLedger.category id)
      (.ok ((l.sections.get? id).map Section.current)) (resting t) := by
  have read : (resting t).Yields number stage (DatabaseLedger.category id) _ (resting t) :=
    (sends_lookUp (.selectCategory id) CategoryRow.ofRow CategoryRow.read).yields_resting rfl rfl
  rw [read_categories, m.categories, filter_categoryRows ok.reach] at read
  have found : meant CategoryRow.read
      ((l.sections.get? id).toList.map fun s => CategoryRow.write s.current).head? =
        .ok ((l.sections.get? id).map Section.current) := by
    cases there : l.sections.get? id with
    | none => rfl
    | some s =>
      show some <$> CategoryRow.read (.write s.current) = _
      rw [CategoryRow.read_write (ok.fits there)]
      rfl
  rwa [found] at read

theorem answersAs_category (m : Mirrors l t) (ok : l.Storable) (id : CategoryId) :
    AnswersAs number stage l t (.category id) :=
  ⟨_, t, yields_category m ok id, rfl, m.after_read rfl⟩

theorem answersAs_seat (m : Mirrors l t) (ok : l.Storable) (category : CategoryId) (label : String) :
    AnswersAs number stage l t (.seat category label) := by
  have read : (resting t).Yields number stage
      (lookUp (.selectSeat category label) SeatRow.ofRow SeatRow.read) _ (resting t) :=
    (sends_lookUp _ SeatRow.ofRow SeatRow.read).yields_resting rfl rfl
  rw [read_seats] at read
  exact ⟨_, t, read, meant_seats (m.seats.filter_isSeat ok.reach category label), m.after_read rfl⟩

theorem answersAs_stockHold (m : Mirrors l t) (ok : l.Storable) (category : CategoryId)
    (hold : HoldId) : AnswersAs number stage l t (.stockHold category hold) := by
  have read : (resting t).Yields number stage (DatabaseLedger.stockHold category hold) _ (resting t) :=
    (sends_lookUp (.selectHold category hold) HoldRow.ofRow HoldRow.read).yields_resting rfl rfl
  rw [read_holds, m.holds.filter_isHold ok.reach, meant_hold] at read
  exact ⟨_, t, read, rfl, m.after_read rfl⟩

end Reading

/-! ### Seats -/

section Seats

theorem answersAs_reserveSeat (m : Mirrors l t) (ok : l.Storable) (claim : SeatClaim) :
    AnswersAs number stage l t (.reserveSeat claim) := by
  obtain ⟨rows, t', changed, given, mirrors⟩ := Tables.changeSeat_eq (c := .reserveSeat claim)
    m ok claim.category claim.label (Tables.changesAs_claim claim)
    (fun _ _ _ => rfl) fun _ _ _ => rfl
  have ran : t.run number (.reserveSeat claim) = .ok (Tables.ofSeats rows, t') := by
    simp only [Tables.run]
    rw [changed]
    rfl
  have read : (resting t).Yields number stage
      (lookUp (.reserveSeat claim) SeatRow.ofRow SeatRow.read) _ (resting t') :=
    (sends_lookUp _ SeatRow.ofRow SeatRow.read).yields_resting ran rfl
  rw [read_seats] at read
  refine ⟨_, t', read, ?_, mirrors⟩
  rw [answer_reserveSeat]
  exact meant_seats given

theorem decide_length_eq_one {rows : List SeatRow} {found : Option Seat}
    (h : rows.map SeatRow.unnumbered = found.toList.map fun s => (SeatRow.write s).unnumbered) :
    decide (rows.length = 1) = found.isSome := by
  have length := congrArg List.length h
  rw [List.length_map, List.length_map] at length
  rw [length]
  cases found <;> rfl

theorem answersAs_releaseSeat (m : Mirrors l t) (ok : l.Storable) (category : CategoryId)
    (label : String) (hold : HoldId) :
    AnswersAs number stage l t (.releaseSeat category label hold) := by
  obtain ⟨rows, t', changed, given, mirrors⟩ := Tables.changeSeat_eq
    (c := .releaseSeat category label hold) m ok category label
    (Tables.changesAs_release hold) (fun _ _ _ => rfl) fun _ _ _ => rfl
  have ran : t.run number (.releaseSeat category label hold) = .ok (.ofAffected rows.length, t') := by
    simp only [Tables.run]
    rw [changed]
    rfl
  refine ⟨_, t', (sends_changesOne _).yields_resting ran rfl, ?_, mirrors⟩
  rw [answer_releaseSeat, ← decide_length_eq_one given]
  rfl

theorem answersAs_sellSeat (m : Mirrors l t) (ok : l.Storable) (category : CategoryId)
    (label : String) (hold : HoldId) (now : Instant) :
    AnswersAs number stage l t (.sellSeat category label hold now) := by
  obtain ⟨rows, t', changed, given, mirrors⟩ := Tables.changeSeat_eq
    (c := .sellSeat category label hold now) m ok category label
    (Tables.changesAs_sell hold now) (fun _ _ _ => rfl) fun _ _ _ => rfl
  have ran : t.run number (.sellSeat category label hold now) =
      .ok (.ofAffected rows.length, t') := by
    simp only [Tables.run]
    rw [changed]
    rfl
  refine ⟨_, t', (sends_changesOne _).yields_resting ran rfl, ?_, mirrors⟩
  rw [answer_sellSeat, ← decide_length_eq_one given]
  rfl

end Seats

/-! ### Pools -/

section Pools

variable {category : CategoryId} {hold : HoldId}

theorem length_toList_map {α β : Type} (x? : Option α) (f : α → β) :
    (x?.toList.map f).length = if x?.isSome then 1 else 0 := by
  cases x? <;> rfl

/-- A pool is changed exactly if it has a hold that may be. -/
theorem isSome_bind_stock? (l : MemoryLedger) (category : CategoryId) (hold : HoldId)
    {change : Section → Option Pool} {may : StockHold → Prop} [DecidablePred may]
    (f : StockHold → StockHold)
    (iff : ∀ s, (change s).isSome ↔ ∃ h, s.pool.holds.get? hold = some h ∧ may h) :
    ((l.sections.get? category).bind change).isSome =
      ((l.stock? category hold).bind fun h => if may h then some (f h) else none).isSome := by
  rw [stock?, Option.bind_assoc, Bool.eq_iff_iff]
  cases l.sections.get? category with
  | none => rfl
  | some s =>
    rw [Option.bind_some, Option.bind_some, iff]
    cases s.pool.holds.get? hold with
    | none => simp
    | some h => by_cases allowed : may h <;> simp [allowed]

theorem bind_settle? (l : MemoryLedger) (category : CategoryId) (hold : HoldId) (now : Instant) :
    ((l.sections.get? category).bind fun s => s.pool.settle? hold now).isSome =
      ((l.stock? category hold).bind fun h =>
        if h.isLive now then some { h with state := .confirmed } else none).isSome :=
  isSome_bind_stock? l category hold _ fun s => by
    simp [Option.isSome_iff_exists, Pool.settle?_eq_some_iff]

theorem answersAs_settleStock (m : Mirrors l t) (ok : l.Storable) (now : Instant) :
    AnswersAs number stage l t (.settleStock category hold now) := by
  obtain ⟨given, rows, changed, is, mirrors⟩ := Tables.changeHold_eq (c := .settleStock category hold now)
    ok.reach (m.ids ok.reach) m.holds category hold (Tables.holdChangesAs_settle now)
    fun id s _ => s.pool.holds_after_settleStock id category _ hold now
  have ran : t.run number (.settleHold category hold now) =
      .ok (.ofAffected given.length, { t with holds := rows }) := by
    simp only [Tables.run]
    rw [changed]
    rfl
  refine ⟨_, _, (sends_changesOne _).yields_resting ran rfl, ?_, ?_, ?_, mirrors⟩
  · rw [answer_settleStock, bind_settle?, is]
    cases (l.stock? category hold).bind _ <;> rfl
  · rw [categoryRows_after_of_eq fun id s _ => s.pool.available_after_settleStock id category _ hold now]
    exact m.categories
  · exact m.seats.after_of_eq fun _ _ _ => rfl

theorem bind_giveBack? (l : MemoryLedger) (category : CategoryId) (hold : HoldId) :
    ((l.sections.get? category).bind fun s => s.pool.giveBack? hold s.category.total).isSome =
      ((l.stock? category hold).bind fun h =>
        if h.state = .held then some { h with state := .released } else none).isSome :=
  isSome_bind_stock? l category hold _ fun s => by
    simp [Option.isSome_iff_exists, Pool.giveBack?_eq_some_iff]

theorem answersAs_returnStock (m : Mirrors l t) (ok : l.Storable) :
    AnswersAs number stage l t (.returnStock category hold) := by
  obtain ⟨given, rows, changed, is, mirrors⟩ := Tables.changeHold_eq (c := .returnStock category hold)
    ok.reach (m.ids ok.reach) m.holds category hold Tables.holdChangesAs_return
    fun id s _ => s.pool.holds_after_returnStock id category _ hold
  have ran : t.run number (.releaseHold category hold) =
      .ok (.ofAffected given.length, { t with holds := rows }) := by
    simp only [Tables.run]
    rw [changed]
    rfl
  have released : (working t t).Yields number stage (execute (.releaseHold category hold))
      (.ok given.length) (working t { t with holds := rows }) :=
    (sends_execute _).yields_working ran rfl
  have length : given.length = if ((l.sections.get? category).bind fun s =>
      s.pool.giveBack? hold s.category.total).isSome then 1 else 0 := by
    rw [bind_giveBack?, is, length_toList_map]
  cases back : ((l.sections.get? category).bind fun s =>
      s.pool.giveBack? hold s.category.total) with
  | none =>
    have none : given.length = 0 := by simpa [back] using length
    refine ⟨.ok false, t, Yields.rolledBack (t := { t with holds := rows }) (released.bind ?_), ?_, ?_⟩
    · rw [if_pos none]
      exact .pure _
    · rw [answer_returnStock, back]
      rfl
    · rwa [after_eq_self_of_pool (c := .returnStock category hold) (fun _ _ => rfl)
        (fun _ _ _ => rfl) back]
  | some p =>
    have one : given.length = 1 := by simpa [back] using length
    obtain ⟨s, there, back'⟩ := Option.bind_eq_some_iff.1 back
    have put := Tables.addPlaces_eq (c := .returnStock category hold) ok
      (t := { t with holds := rows }) m.categories
      (fun row => if row.id = category.value then some 1 else none) fun id s' there' => by
        simp only [ok.reach.id_write there', CategoryId.value_inj]
        by_cases here : id = category
        · subst here
          obtain rfl := Option.some.inj (there.symm.trans there')
          rw [if_pos rfl, Pool.after, if_pos rfl, back', Option.getD_some]
          exact Pool.available_giveBack (ok.reach.sound there).fits back'
        · rw [if_neg here, Pool.after, if_neg here]
          rfl
    have ran : ({ t with holds := rows } : Tables).run number (.returnPlace category) =
        .ok (.ofAffected ((l.after (.returnStock category hold)).categoryRows.countP fun row =>
          row.id = category.value),
          { t with
            categories := (l.after (.returnStock category hold)).categoryRows
            holds := rows }) := by
      simp only [Tables.run]
      rw [put]
      rfl
    refine ⟨.ok true, _, Yields.committed (t := { t with
      categories := (l.after (.returnStock category hold)).categoryRows
      holds := rows }) (released.bind ?_), ?_, rfl, m.seats.after_of_eq fun _ _ _ => rfl, mirrors⟩
    · rw [if_neg (by omega)]
      exact ((sends_execute _).yields_working ran rfl).bind (.pure _)
    · rw [answer_returnStock, back]
      rfl

end Pools

/-! ### Taking a place -/

section Take

variable {category : CategoryId} {hold : HoldId} {now expiresAt : Instant} {s : Section}

/-- The whole numbers of an answer are read. -/
theorem first_integer (name : String) (ns : List Int) :
    (received (.ok (Tables.ofIntegers name .int4 ns)) >>= firstOf fun row => row.column (α := Int32) 0) =
      .ok (ns.head?.map Int32.ofInt) := by
  cases ns <;> rfl

/-- A transaction that takes a place first looks up its category and the hold. -/
theorem yields_takeInside (m : Mirrors l t) (ok : l.Storable)
    (there : l.sections.get? category = some s) {r : Result (Ending × Take)} {d : Server}
    (rest : (working t t).Yields number stage (match s.pool.holds.get? hold with
      | none => takeFresh category hold expiresAt
      | some existing =>
        match existing.state with
        | .confirmed => return (.commit, .kept existing)
        | .held =>
          if now ≤ existing.expiresAt then return (.commit, .kept existing)
          else
            return (.commit, .written (← fetchOne (.renewHold category hold expiresAt) HoldRow.ofRow))
        | .released | .expired => takeFresh category hold expiresAt) r d) :
    (working t t).Yields number stage (takeInside category hold now expiresAt) r d := by
  have found : (working t t).Yields number stage _ _ (working t t) :=
    (sends_fetchOptional (.findCategory category)
      fun row => row.column (α := Int32) 0).yields_working rfl rfl
  rw [first_integer, m.categories, filter_categoryRows ok.reach, there] at found
  have locked : (working t t).Yields number stage _ _ (working t t) :=
    (sends_lookUp (.lockHold category hold) HoldRow.ofRow HoldRow.read).yields_working rfl rfl
  rw [read_holds, m.holds.filter_isHold ok.reach, meant_hold, stock?, there] at locked
  exact found.bind (locked.bind rest)

theorem yields_takeFresh_of_empty (m : Mirrors l t) (ok : l.Storable)
    (there : l.sections.get? category = some s) (flexible : s.category.tracking = .flexible)
    (empty : s.pool.available = 0) :
    (working t t).Yields number stage (takeFresh category hold expiresAt)
      (.ok (.rollback, .soldOut)) (working t t) := by
  have none_left : (working t t).Yields number stage _ _ (working t t) :=
    (sends_fetchOptional (.takePlace category)
      fun row => row.column (α := Int32) 0).yields_working
        (Tables.run_takePlace_of_empty number ok m.categories there flexible empty) rfl
  rw [first_integer] at none_left
  exact none_left.bind (.pure _)

/-- A call takes a place afresh. -/
structure TakesFresh (s : Section) (category : CategoryId) (hold : HoldId) (now expiresAt : Instant) :
    Prop where
  gone : ∀ h, s.pool.holds.get? hold = some h → h.state = .released ∨ h.state = .expired
  left : s.pool.available ≠ 0
  take : s.pool.take category hold now expiresAt =
    (.taken { hold, category, state := .held, expiresAt },
      { available := s.pool.available - 1
        holds := s.pool.holds.set hold { hold, category, state := .held, expiresAt } })

theorem yields_takeFresh (number : Tables → Nat → Int32) (stage : Stage) (m : Mirrors l t)
    (ok : l.Storable)
    (there : l.sections.get? category = some s) (flexible : s.category.tracking = .flexible)
    (fresh : TakesFresh s category hold now expiresAt) :
    ∃ t', (working t t).Yields number stage (takeFresh category hold expiresAt)
        (.ok (.commit, .written (.write { hold, category, state := .held, expiresAt })))
        (working t t') ∧
      Mirrors (l.after (.takeStock category hold now expiresAt)) t' := by
  have here : s.pool.after category s.category.total (.takeStock category hold now expiresAt) =
      { available := s.pool.available - 1
        holds := s.pool.holds.set hold { hold, category, state := .held, expiresAt } } := by
    rw [Pool.after, if_pos rfl, fresh.take]
  have elsewhere (id : CategoryId) (s : Section) (other : id ≠ category) :
      s.pool.after id s.category.total (.takeStock category hold now expiresAt) = s.pool :=
    if_neg other
  obtain ⟨n, took⟩ := Tables.run_takePlace number
    (c := .takeStock category hold now expiresAt) ok m.categories there flexible fresh.left
    (by rw [here]) fun id s other _ => by rw [elsewhere id s other]
  obtain ⟨rows, made, mirrors⟩ := Tables.run_insertHold number
    (c := .takeStock category hold now expiresAt)
    (t := { t with categories := (l.after (.takeStock category hold now expiresAt)).categoryRows })
    ok.reach (by rw [categoryRows_ids (ok.reach.after _), ids_after]) m.holds there fresh.gone
    (by rw [here]) fun id s other _ => by rw [elsewhere id s other]
  have placed : (working t t).Yields number stage _ _ _ :=
    (sends_fetchOptional (.takePlace category)
      fun row => row.column (α := Int32) 0).yields_working took rfl
  rw [first_integer] at placed
  have inserted : (working t _).Yields number stage _ _ _ :=
    (sends_fetchOptional (.insertHold category hold expiresAt)
      HoldRow.ofRow).yields_working made rfl
  rw [Tables.ofHolds, first_row HoldRow.ofRow_values] at inserted
  exact ⟨{ t with
    categories := (l.after (.takeStock category hold now expiresAt)).categoryRows
    holds := rows }, placed.bind (inserted.bind (.pure _)), rfl, m.seats.after_of_eq fun _ _ _ => rfl,
    mirrors⟩

theorem yields_takeInside_of_gone (m : Mirrors l t) (ok : l.Storable)
    (there : l.sections.get? category = some s)
    (gone : ∀ h, s.pool.holds.get? hold = some h → h.state = .released ∨ h.state = .expired)
    {r : Result (Ending × Take)} {d : Server}
    (rest : (working t t).Yields number stage (takeFresh category hold expiresAt) r d) :
    (working t t).Yields number stage (takeInside category hold now expiresAt) r d := by
  refine yields_takeInside m ok there ?_
  cases found : s.pool.holds.get? hold with
  | none => exact rest
  | some h =>
    rcases gone h found with state | state
    · simpa only [state] using rest
    · simpa only [state] using rest

theorem yields_takeInside_of_stays (m : Mirrors l t) (ok : l.Storable)
    (there : l.sections.get? category = some s) {h : StockHold}
    (found : s.pool.holds.get? hold = some h) (stays : h.isLive now ∨ h.state = .confirmed) :
    (working t t).Yields number stage (takeInside category hold now expiresAt)
      (.ok (.commit, .kept h)) (working t t) := by
  refine yields_takeInside m ok there ?_
  rw [found]
  rcases stays with live | sold
  · obtain ⟨held, live⟩ := StockHold.isLive_iff.1 live
    simp only [held, if_pos live]
    exact .pure _
  · simp only [sold]
    exact .pure _

theorem yields_takeInside_of_lapsed (number : Tables → Nat → Int32) (stage : Stage)
    (expiresAt : Instant) (m : Mirrors l t) (ok : l.Storable)
    (there : l.sections.get? category = some s) {h : StockHold}
    (found : s.pool.holds.get? hold = some h) (lapsed : h.isLapsed now) :
    ∃ t', (working t t).Yields number stage (takeInside category hold now expiresAt)
        (.ok (.commit, .written (.write { h with expiresAt }))) (working t t') ∧
      Mirrors (l.after (.takeStock category hold now expiresAt)) t' := by
  obtain ⟨held, past⟩ := StockHold.isLapsed_iff.1 lapsed
  have here : s.pool.after category s.category.total (.takeStock category hold now expiresAt) =
      s.pool.changeHold hold fun h => { h with expiresAt } := by
    rw [Pool.after, if_pos rfl, Pool.take_of_lapsed found lapsed]
  have elsewhere (id : CategoryId) (s : Section) (other : id ≠ category) :
      s.pool.after id s.category.total (.takeStock category hold now expiresAt) = s.pool :=
    if_neg other
  obtain ⟨given, rows, changed, is, mirrors⟩ := Tables.changeHold_eq
    (c := .takeStock category hold now expiresAt) ok.reach (m.ids ok.reach) m.holds category hold
    (Tables.holdChangesAs_renew expiresAt)
    fun id s' there' => by
      refine s'.pool.holds_after_of_one id category _ hold (fun other => by rw [elsewhere id s' other])
        (fun h at_category found' _ => ?_) fun not => ?_
      · subst at_category
        obtain rfl := Option.some.inj (there.symm.trans there')
        rw [here]
        rfl
      · by_cases at_category : id = category
        · subst at_category
          obtain rfl := Option.some.inj (there.symm.trans there')
          exact absurd held (not h found)
        · rw [elsewhere id s' at_category]
  have ran : t.run number (.renewHold category hold expiresAt) =
      .ok (Tables.ofHolds given, { t with holds := rows }) := by
    simp only [Tables.run]
    rw [changed]
    rfl
  rw [stock?, there, Option.bind_some, found, Option.bind_some, if_pos held] at is
  have renewed : (working t t).Yields number stage _ _ _ :=
    (sends_fetchOne (.renewHold category hold expiresAt) HoldRow.ofRow).yields_working ran rfl
  have only : (received (.ok (Tables.ofHolds given)) >>= onlyOf HoldRow.ofRow) =
      .ok (.write { h with expiresAt }) := by
    rw [is]
    exact onlyOf_ofRows (f := id) HoldRow.ofRow_values _ []
  rw [only] at renewed
  refine ⟨{ t with holds := rows }, yields_takeInside m ok there ?_, ?_,
    m.seats.after_of_eq fun _ _ _ => rfl, mirrors⟩
  · rw [found]
    rw [held] at renewed
    simp only [held, if_neg (Instant.not_le.2 past)]
    exact renewed.bind (.pure _)
  · rw [m.categories]
    refine (categoryRows_after_of_eq fun id s' there' => ?_).symm
    by_cases at_category : id = category
    · subst at_category
      obtain rfl := Option.some.inj (there.symm.trans there')
      rw [here]
      rfl
    · rw [elsewhere id s' at_category]

/-- The row of a hold stands for the hold. -/
theorem yields_read (h : StockHold) (d : Server) :
    d.Yields number stage (interpret (HoldRow.read (.write h))) (.ok h) d := by
  rw [HoldRow.read_write]
  exact (computes_interpret _).yields d

theorem answersAs_takeStock (m : Mirrors l t) (ok : l.Storable)
    (standing : ∀ s, l.sections.get? category = some s → s.category.layout = .standing) :
    AnswersAs number stage l t (.takeStock category hold now expiresAt) := by
  cases there : l.sections.get? category with
  | none =>
    have nothing : (working t t).Yields number stage _ _ (working t t) :=
      (sends_fetchOptional (.findCategory category)
        fun row => row.column (α := Int32) 0).yields_working rfl rfl
    rw [first_integer, m.categories, filter_categoryRows ok.reach, there] at nothing
    have missing : (working t t).Yields number stage (takeInside category hold now expiresAt)
        (.error (Cause.categoryMissing category).error) (working t t) := nothing.bind (.throw _)
    refine ⟨_, t, (missing.given_up rfl).bind_error, ?_, ?_⟩
    · rw [MemoryLedger.answer, takeStock_eq, there]
      rfl
    · rwa [after_takeStock_eq_self fun s there' => by simp [there] at there']
  | some s =>
    have flexible : s.category.tracking = .flexible := by
      rcases (ok.reach.sound there).kinds with ⟨seated, -⟩ | ⟨-, flexible, -⟩
      · cases seated.symm.trans (standing s there)
      · exact flexible
    have answered {outcome : StockOutcome} {p : Pool}
        (e : s.pool.take category hold now expiresAt = (outcome, p)) :
        (l.answer (.takeStock category hold now expiresAt)).1 = .ok outcome := by
      show (l.takeStock category hold now expiresAt).1 = _
      rw [takeStock_eq, there]
      exact congrArg Except.ok (congrArg Prod.fst e)
    have unchanged {outcome : StockOutcome}
        (e : s.pool.take category hold now expiresAt = (outcome, s.pool)) :
        Mirrors (l.after (.takeStock category hold now expiresAt)) t := by
      rwa [after_takeStock_eq_self fun s' there' => by
        obtain rfl := Option.some.inj (there.symm.trans there')
        rw [e]]
    rcases s.pool.take_cases category hold now expiresAt with
      ⟨h, found, stays, e⟩ | ⟨h, found, lapsed, e⟩ | ⟨gone, ⟨empty, e⟩ | ⟨left, e⟩⟩
    · refine ⟨.ok (.existing h), t, ?_, by rw [answered e], unchanged e⟩
      exact (yields_takeInside_of_stays m ok there found stays).committed.bind (.pure _)
    · obtain ⟨t', took, mirrors⟩ := yields_takeInside_of_lapsed number stage expiresAt m ok there
        found lapsed
      refine ⟨.ok (.taken { h with expiresAt }), t', ?_, by rw [answered e], mirrors⟩
      exact took.committed.bind ((yields_read _ _).bind (.pure _))
    · refine ⟨.ok .soldOut, t, ?_, by rw [answered e], unchanged e⟩
      exact (yields_takeInside_of_gone m ok there gone
        (yields_takeFresh_of_empty m ok there flexible empty)).rolledBack.bind (.pure _)
    · obtain ⟨t', took, mirrors⟩ := yields_takeFresh number stage m ok there flexible ⟨gone, left, e⟩
      refine ⟨.ok (.taken { hold, category, state := .held, expiresAt }), t', ?_, by rw [answered e],
        mirrors⟩
      exact (yields_takeInside_of_gone m ok there gone took).committed.bind
        ((yields_read _ _).bind (.pure _))

end Take

end DatabaseLedger

end BoxOffice
