import BoxOffice.Proofs.Database.Quiet
import BoxOffice.Proofs.Database.Race
import BoxOffice.Proofs.Database.Shared
import BoxOffice.Proofs.Inventory.Availability

/-!
# Places that a hold has already

A ledger that is asked for a place may report that the hold has one already. With the ledger in memory
such a place is always one to keep, so that no receipt has lapsed when it is handed out and no request
is refused for the sake of a hold that could be had again. With the database that is so exactly unless
another taker of the same hold was first and has lost it since (`existing_kept_iff`).
-/

namespace BoxOffice

open Database Rehearsal Reservations

/-! ### The words of a refusal -/

namespace Cause

theorem head?_append {a b : String} {letter : Char} (h : a.toList.head? = some letter) :
    (a ++ b).toList.head? = some letter := by
  rw [String.toList_append, List.head?_append, h]
  rfl

/-- Of all conflicts only a spent hold has words that begin with its letter. -/
theorem first_letter {c : Cause} (conflict : c.kind = .conflict) :
    (∃ hold state, c = .holdSpent hold state) ∨
      ∃ letter, c.message.toList.head? = some letter ∧ letter ≠ 'h' := by
  cases c with
  | holdSpent hold state => exact .inl ⟨hold, state, rfl⟩
  | seatSold | seatReserved => exact .inr ⟨'s', head?_append (head?_append rfl), by decide⟩
  | soldOut => exact .inr ⟨'c', head?_append (head?_append rfl), by decide⟩
  | seatNotHeld => exact .inr ⟨'s', head?_append (head?_append (head?_append rfl)), by decide⟩
  | stockNotHeld =>
    exact .inr ⟨'s', head?_append (head?_append (head?_append (head?_append rfl))), by decide⟩
  | stockUnknown => exact .inr ⟨'n', head?_append (head?_append (head?_append rfl)), by decide⟩
  | bookingCancelled | bookingConfirmed =>
    exact .inr ⟨'b', head?_append (head?_append rfl), by decide⟩
  | bookingElsewhere =>
    refine .inr ⟨'b', ?_, by decide⟩
    exact head?_append (head?_append (head?_append (head?_append (head?_append rfl))))
  | _ => cases conflict

/-- The words end with the state of the hold, and three letters tell the states apart. -/
theorem last_letters (hold : HoldId) (state : HoldState) :
    (holdSpent hold state).message.toList.reverse.take 3 =
      (Labelled.label state).toList.reverse.take 3 := by
  have words : (holdSpent hold state).message =
      "hold " ++ toString hold ++ " is already " ++ Labelled.label state := rfl
  rw [words, String.toList_append, List.reverse_append, List.take_append_of_le_length]
  cases state <;> decide

/-- A refusal for a spent hold is worded like no other, and tells the state of the hold. -/
theorem eq_holdSpent {c : Cause} {hold : HoldId} {state : HoldState}
    (h : c.error = (holdSpent hold state).error) : ∃ hold', c = .holdSpent hold' state := by
  have words : c.message = (holdSpent hold state).message := congrArg Error.message h
  rcases first_letter (c := c) (congrArg Error.kind h) with ⟨hold', state', rfl⟩ | ⟨letter, first, other⟩
  · have last := congrArg (fun text : String => text.toList.reverse.take 3) words
    simp only [last_letters] at last
    obtain rfl : state' = state := by
      revert last
      cases state <;> cases state' <;> decide
    exact ⟨hold', rfl⟩
  · rw [words] at first
    have own : (holdSpent hold state).message.toList.head? = some 'h' :=
      head?_append (head?_append (head?_append rfl))
    exact absurd (Option.some.inj (first.symm.trans own)) other

end Cause

/-- The answer misleads: the receipt of a place had lapsed when the clock was read, or the request is
refused for the sake of a hold that is not sold. -/
inductive Misleads (Read : Instant → Prop) : Result Token → Prop
  | lapsed {t : Token} {now : Instant} (read : Read now) (stock : t.unit = .stock)
    (past : t.expiresAt < now) : Misleads Read (.ok t)
  | spent {hold : HoldId} {state : HoldState} (again : state ≠ .confirmed) :
    Misleads Read (refuse (.holdSpent hold state))

namespace Misleads

variable {Read : Instant → Prop}

/-- A receipt misleads only if it has lapsed. -/
theorem of_ok {t : Token} (h : Misleads Read (.ok t)) :
    t.unit = .stock ∧ ∃ now, Read now ∧ t.expiresAt < now := by
  cases h with
  | lapsed read stock past => exact ⟨stock, _, read, past⟩

theorem of_error {e : Error} (h : Misleads Read (.error e)) :
    ∃ hold state, state ≠ .confirmed ∧ e = (Cause.holdSpent hold state).error := by
  generalize refused : (Except.error e : Result Token) = r at h
  cases h with
  | lapsed => cases refused
  | spent again => exact ⟨_, _, again, Except.error.inj refused⟩

/-- A refusal misleads only if it is for a spent hold, which is not sold. -/
theorem of_refuse {c : Cause} (h : Misleads Read (refuse c)) :
    ∃ hold state, state ≠ .confirmed ∧ c = .holdSpent hold state := by
  obtain ⟨hold, state, again, same⟩ := h.of_error
  obtain ⟨hold', rfl⟩ := Cause.eq_holdSpent same
  exact ⟨hold', state, again, rfl⟩

end Misleads

/-! ### Asking a ledger for a place -/

namespace Reservations

/-- What a request is told about the place that it asked for. -/
def told (request : ReserveRequest) (category : Category) : StockOutcome → Result Token
  | .taken h => .ok (stockToken request category h)
  | .existing h =>
    if h.state = .held then .ok (stockToken request category h) else refuse (.holdSpent h.hold h.state)
  | .soldOut => refuse (.soldOut category.id)

/-- The ways in which a request may come to an end, whatever the ledger answers. -/
inductive Requesting (span : Span) (request : ReserveRequest) (talk : List (Exchange InventoryWorld)) :
    Result Token → Prop
  /-- The ledger fails. -/
  | failed {c : Ledger.Call} {e : Error} (failure : ⟨.inl c, .error e⟩ ∈ talk) :
    Requesting span request talk (.error e)
  | refused {c : Cause} (other : ∀ hold state, c ≠ .holdSpent hold state) :
    Requesting span request talk (refuse c)
  | seated {t : Token} (seat : t.unit ≠ .stock) : Requesting span request talk (.ok t)
  /-- The ledger tells about a place. The clock was read once. -/
  | stock {category : Category} {now last : Instant} {outcome : StockOutcome}
    (read : ⟨.inr .now, now⟩ ∈ talk) (once : ∀ time, ⟨.inr .now, time⟩ ∈ talk → time = now)
    (due : now.add? span = some last)
    (taken : ⟨.inl (.takeStock category.id request.hold now last), .ok outcome⟩ ∈ talk) :
    Requesting span request talk (told request category outcome)

variable {α : Type} {span : Span} {request : ReserveRequest} {talk : List (Exchange InventoryWorld)}
  {r : Result Token}

/-- What is said before, without a look at the clock, changes nothing. -/
theorem Requesting.after {before : List (Exchange InventoryWorld)} (untimed : Untimed before)
    (h : Requesting span request talk r) : Requesting span request (before ++ talk) r := by
  cases h with
  | failed failure => exact .failed (List.mem_append_right _ failure)
  | refused other => exact .refused other
  | seated seat => exact .seated seat
  | stock read once due taken =>
    refine .stock (List.mem_append_right _ read) (fun time mem => ?_) due
      (List.mem_append_right _ taken)
    rcases List.mem_append.1 mem with early | late
    · exact absurd rfl (untimed _ early)
    · exact once time late

theorem permits_ask (c : Ledger.Call) :
    (Ledger.ask c : Service InventoryWorld c.Answer).run.Permits fun said r =>
      said = [⟨.inl c, r⟩] :=
  fun _ => rfl

theorem permits_now :
    (Surroundings.now : Service InventoryWorld Instant).run.Permits fun said r =>
      ∃ now, said = [⟨.inr .now, now⟩] ∧ r = .ok now :=
  fun now => ⟨now, rfl, rfl⟩

theorem permits_later (now : Instant) (span : Span) :
    (Surroundings.later now span : Service InventoryWorld Instant).run.Permits fun said r =>
      ∃ last, now.add? span = some last ∧ said = [] ∧ r = .ok last := by
  unfold Surroundings.later
  cases due : now.add? span with
  | none => exact fun nothing => nomatch nothing
  | some last => exact ⟨last, rfl, rfl, rfl⟩

/-- What is written into the journal, and then something else. -/
theorem permits_record {entry : Entry} {s : Service InventoryWorld α}
    {Q : List (Exchange InventoryWorld) → Result α → Prop}
    (rest : s.run.Permits fun said r => Q (⟨.inr (.record entry), ()⟩ :: said) r) :
    (do Surrounded.call (Surroundings.Call.record entry); s : Service InventoryWorld α).run.Permits Q :=
  fun _ => rest

theorem permits_untimed_record {entry : Entry} {s : Service InventoryWorld α} {r : Result α}
    (rest : s.run.Permits fun said r' => Untimed said ∧ r' = r) :
    (do Surrounded.call (Surroundings.Call.record entry); s : Service InventoryWorld α).run.Permits
      fun said r' => Untimed said ∧ r' = r :=
  permits_record (rest.mono fun _ _ h => ⟨List.forall_mem_cons.2 ⟨nofun, h.1⟩, h.2⟩)

/-- The end of a request for a place. -/
theorem permits_told (category : Category) (outcome : StockOutcome) :
    (match outcome with
      | .taken hold => do
        Surroundings.count (.reservation .stock .reserved)
        Surroundings.note .stockReserved
        return stockToken request category hold
      | .existing hold =>
        if hold.state = .held then do
          Surroundings.count (.reservation .stock .replayed)
          Surroundings.note .stockAlreadyHeld
          return stockToken request category hold
        else do
          Surroundings.count (.reservation .stock .conflict)
          fail (.holdSpent hold.hold hold.state)
      | .soldOut => do
        Surroundings.count (.reservation .stock .conflict)
        Surroundings.note .stockSoldOut
        fail (.soldOut category.id) : Service InventoryWorld Token).run.Permits fun said r =>
      Untimed said ∧ r = told request category outcome := by
  have ends (r : Result Token) : Untimed ([] : List (Exchange InventoryWorld)) ∧ r = r :=
    ⟨List.forall_mem_nil _, rfl⟩
  cases outcome with
  | taken hold => exact permits_untimed_record (permits_untimed_record (ends _))
  | existing hold =>
    by_cases held : hold.state = .held
    · rw [show told request category (.existing hold) = _ from if_pos held]
      dsimp only
      rw [if_pos held]
      exact permits_untimed_record (permits_untimed_record (ends _))
    · rw [show told request category (.existing hold) = _ from if_neg held]
      dsimp only
      rw [if_neg held]
      exact permits_untimed_record (ends _)
  | soldOut => exact permits_untimed_record (permits_untimed_record (ends _))

theorem permits_reserveStock (span : Span) (request : ReserveRequest) (category : Category) :
    (reserveStock span request category).run.Permits (Requesting span request) := by
  unfold reserveStock
  split
  · exact .refused nofun
  refine Service.permits_bind permits_now ?_ ?_
  · rintro _ _ ⟨_, _, ⟨⟩⟩
  rintro _ now ⟨_, rfl, ⟨⟩⟩
  refine Service.permits_bind (permits_later now span) ?_ ?_
  · rintro _ _ ⟨_, _, _, ⟨⟩⟩
  rintro _ last ⟨_, due, rfl, ⟨⟩⟩
  refine Service.permits_bind (permits_ask _) ?_ ?_
  · rintro _ e rfl
    exact .failed (List.mem_append_right _ List.mem_cons_self)
  rintro _ outcome rfl
  refine (permits_told category outcome).mono ?_
  rintro more _ ⟨untimed, rfl⟩
  refine .stock List.mem_cons_self (fun time mem => ?_) due
    (List.mem_cons_of_mem _ List.mem_cons_self)
  -- the clock was read at the beginning and not again
  rcases List.mem_cons.1 mem with same | later
  · cases same
    rfl
  · rcases List.mem_cons.1 later with same | later
    · cases same
    · exact absurd rfl (untimed _ later)

theorem permits_explainSeat (before : List (Exchange InventoryWorld)) (span : Span)
    (request : ReserveRequest) (category : Category) (label : String) (now last : Instant) :
    (explainSeat request category label now last).run.Permits fun more r =>
      Requesting span request (before ++ more) r := by
  unfold explainSeat
  refine Service.permits_bind (permits_ask _) ?_ ?_
  · rintro _ e rfl
    exact .failed (List.mem_append_right _ List.mem_cons_self)
  rintro _ (_ | seat) rfl
  · exact .refused nofun
  · dsimp only
    split
    · exact permits_record (permits_record (.seated nofun))
    · refine permits_record (permits_record (.refused ?_))
      split <;> exact nofun

theorem permits_reserveSeat (span : Span) (request : ReserveRequest) (category : Category) :
    (reserveSeat span request category).run.Permits (Requesting span request) := by
  unfold reserveSeat
  split
  · exact .refused nofun
  refine Service.permits_bind permits_now ?_ ?_
  · rintro _ _ ⟨_, _, ⟨⟩⟩
  rintro _ now ⟨_, rfl, ⟨⟩⟩
  refine Service.permits_bind (permits_later now span) ?_ ?_
  · rintro _ _ ⟨_, _, _, ⟨⟩⟩
  rintro _ last ⟨_, due, rfl, ⟨⟩⟩
  refine Service.permits_bind (permits_ask _) ?_ ?_
  · rintro _ e rfl
    exact .failed (List.mem_append_right _ List.mem_cons_self)
  rintro _ (_ | seat) rfl
  · exact permits_explainSeat [_, _] span request category _ now last
  · exact permits_record (permits_record (.seated nofun))

/-- A request comes to an end in one of the ways. -/
theorem permits_reserve (span : Span) (request : ReserveRequest) :
    (reserve span request).run.Permits (Requesting span request) := by
  have category : (requestedCategory request).run.Permits fun said r => Untimed said ∧
      ∀ e, r = .error e → Requesting span request said (.error e) := by
    have asked (reply : Result (Option Category)) :
        Untimed [(⟨.inl (.category request.category), reply⟩ : Exchange InventoryWorld)] :=
      List.forall_mem_singleton.2 nofun
    unfold requestedCategory
    refine Service.permits_bind (permits_ask _) ?_ ?_
    · rintro _ e rfl
      refine ⟨asked _, ?_⟩
      rintro _ ⟨⟩
      exact .failed List.mem_cons_self
    rintro _ (_ | category) rfl
    · refine ⟨asked _, ?_⟩
      rintro _ ⟨⟩
      exact .refused nofun
    · dsimp only
      split
      · exact ⟨asked _, nofun⟩
      · refine ⟨asked _, ?_⟩
        rintro _ ⟨⟩
        exact .refused nofun
  refine Service.permits_bind category ?_ ?_
  · rintro said e ⟨-, ended⟩
    exact ended e rfl
  · rintro said c ⟨untimed, -⟩
    have after {s : Service InventoryWorld Token} (h : s.run.Permits (Requesting span request)) :
        s.run.Permits fun more r => Requesting span request (said ++ more) r :=
      h.mono fun more r => Requesting.after untimed
    cases c.layout with
    | seated => exact after (permits_reserveSeat span request c)
    | standing => exact after (permits_reserveStock span request c)

end Reservations

/-! ### The inventory over the database -/

namespace DatabaseLedger

/-- The ledger in the database answers the calls of the inventory service. -/
def serving : (c : InventoryWorld.Call) → Program DatabaseWorld (InventoryWorld.Reply c)
  | .inl c => answer c
  | .inr c => Program.call (I := DatabaseWorld) (.inr c)

/-- What is said to the database, and to the surroundings, when a call is answered. -/
def Serves : (c : InventoryWorld.Call) → List (Exchange DatabaseWorld) → InventoryWorld.Reply c → Prop
  | .inl (.takeStock category hold now last), said, r =>
    Tells category hold now last (said.filterMap spoken?) r ∧ Untimed said ∧ Unopposed r
  | .inl _, said, r => Untimed said ∧ Unopposed r
  | .inr c, said, r => said = [⟨.inr c, r⟩]

theorem permits_serving (c : InventoryWorld.Call) : (serving c).Permits (Serves c) := by
  rcases c with c | c
  · have quiet := quiet_answer c
    cases c with
    | takeStock category hold now last =>
      exact (Program.Ensures.permits (tells_takeStock category hold now last)).and quiet
    | _ => exact quiet
  · exact fun _ => rfl

section Threads

variable {talk : List (Exchange InventoryWorld)} {said : List (Exchange DatabaseWorld)}
  (threads : Program.Threads Serves talk said)

include threads

/-- The ledger does not fail with a conflict. -/
theorem not_conflict_of_failed {c : Ledger.Call} {e : Error} (mem : ⟨.inl c, .error e⟩ ∈ talk) :
    e.kind ≠ .conflict := by
  obtain ⟨part, serves, -⟩ := threads.exists_part mem
  cases c with
  | takeStock => exact serves.2.2 e rfl
  | _ => exact serves.2 e rfl

/-- The clock is read when the service reads it, and by nobody else. -/
theorem now_mem_iff {now : Instant} : ⟨.inr .now, now⟩ ∈ said ↔ ⟨.inr .now, now⟩ ∈ talk := by
  constructor
  · intro mem
    obtain ⟨c, reply, part, called, serves, there⟩ := threads.exists_call mem
    rcases c with c | c
    · have untimed : Untimed part := by
        cases c with
        | takeStock => exact serves.2.1
        | _ => exact serves.1
      exact absurd rfl (untimed _ there)
    · obtain rfl : part = [⟨.inr c, reply⟩] := serves
      cases List.mem_singleton.1 there
      exact called
  · intro mem
    obtain ⟨part, serves, within⟩ := threads.exists_part mem
    obtain rfl : part = [⟨.inr .now, now⟩] := serves
    exact within List.mem_cons_self

end Threads

/-- **With the database an answer misleads only if somebody else was first and has lost its hold
since.** -/
theorem permits_reserve_misleads {span : Span} (forwards : 0 < span.nanos) (request : ReserveRequest) :
    ((reserve span request).run.run serving).Permits fun said r =>
      FromTables (said.filterMap spoken?) → Misleads (fun now => ⟨.inr .now, now⟩ ∈ said) r →
        ∃ now category last h, ⟨.inr .now, now⟩ ∈ said ∧
          Overtaken category request.hold last (said.filterMap spoken?) h ∧ ¬ h.isKept now := by
  refine (Program.Permits.run permits_serving (permits_reserve span request)).mono ?_
  rintro said r ⟨talk, threads, way⟩ tabled misleads
  cases way with
  | failed failure =>
    obtain ⟨hold, state, -, rfl⟩ := misleads.of_error
    exact absurd rfl (not_conflict_of_failed threads failure)
  | refused other =>
    obtain ⟨hold, state, -, same⟩ := misleads.of_refuse
    exact absurd same (other hold state)
  | seated seat => exact absurd misleads.of_ok.1 seat
  | @stock category now last outcome read once due taken =>
    obtain ⟨part, ⟨tells, -⟩, within⟩ := threads.exists_part taken
    have heard := List.filterMap_subset spoken? within
    have told_now : ⟨.inr .now, now⟩ ∈ said := (now_mem_iff threads).2 read
    -- a hold that is not one to keep is that of somebody who was first
    have overtaken {h : StockHold} (outcome : outcome = .existing h) (lost : ¬ h.isKept now) :
        ∃ now category last h, ⟨.inr .now, now⟩ ∈ said ∧
          Overtaken category request.hold last (said.filterMap spoken?) h ∧ ¬ h.isKept now := by
      rcases tells.existing h (congrArg Except.ok outcome) with ⟨kept, -⟩ | behind
      · exact absurd kept lost
      · exact ⟨now, category.id, last, h, told_now, behind.mono heard, lost⟩
    cases outcome with
    | taken h =>
      obtain ⟨-, time, reading, past⟩ := misleads.of_ok
      obtain rfl := once time ((now_mem_iff threads).1 reading)
      have until_last : h.expiresAt = last := tells.expiresAt_of_taken (tabled.mono heard) rfl
      have later := Instant.le_of_add? (Int.le_of_lt forwards) due
      rw [← until_last] at later
      exact absurd later (Instant.not_le.2 past)
    | existing h =>
      refine overtaken rfl fun kept => ?_
      rw [StockHold.isKept_iff, StockHold.isLive_iff] at kept
      by_cases held : h.state = .held
      · rw [show told request category (.existing h) = _ from if_pos held] at misleads
        obtain ⟨-, time, reading, past⟩ := misleads.of_ok
        obtain rfl := once time ((now_mem_iff threads).1 reading)
        rcases kept with live | sold
        · exact Instant.not_le.2 past live.2
        · cases held.symm.trans sold
      · rw [show told request category (.existing h) = _ from if_neg held] at misleads
        obtain ⟨hold, state, again, same⟩ := misleads.of_refuse
        cases same
        exact kept.elim (fun live => held live.1) again
    | soldOut =>
      obtain ⟨hold, state, -, same⟩ := misleads.of_refuse
      cases same

end DatabaseLedger

/-! ### The inventory over the ledger in memory -/

/-- With the ledger in memory a place that is reported as taken already is one to keep. -/
theorem MemoryLedger.Reachable.existing_kept {l : MemoryLedger} (reach : l.Reachable)
    {category : CategoryId} {hold : HoldId} {now last : Instant} {h : StockHold}
    (e : (l.answer (.takeStock category hold now last)).1 = .ok (.existing h)) :
    h.hold = hold ∧ h.category = category ∧ h.isKept now := by
  simp only [answer, takeStock] at e
  cases there : l.sections.get? category with
  | none =>
    rw [there] at e
    cases e
  | some s =>
    rw [there] at e
    replace e : (s.pool.take category hold now last).1 = .existing h := Except.ok.inj e
    rcases s.pool.take_cases category hold now last with
      ⟨h', mine, kept, took⟩ | ⟨h', mine, lapsed, took⟩ | ⟨gone, ⟨nothing, took⟩ | ⟨left, took⟩⟩
    · rw [took] at e
      cases e
      obtain ⟨owner, place⟩ := (reach.sound there).holds hold h mine
      exact ⟨owner, place, StockHold.isKept_iff.2 kept⟩
    · rw [took] at e
      cases e
    · rw [took] at e
      cases e
    · rw [took] at e
      cases e

/-- With the ledger in memory no answer misleads. -/
theorem Inventory.not_misleads {w w' : Inventory} (reach : w.ledger.Reachable)
    (forwards : 0 < w.hold.nanos) {request : ReserveRequest} {r : Result Token}
    (served : w.serve (.reserve request) = (.ok r, w')) : ¬ Misleads (· = w.stage.now) r := by
  intro misleads
  obtain ⟨a, w₁, served', way⟩ := serve_reserve reach request
  obtain ⟨rfl, -⟩ := Prod.mk.inj (served'.symm.trans served)
  generalize w₁.ledger = l' at way
  cases way with
  | seatReserved => cases misleads.of_ok.1
  | seatReplayed => cases misleads.of_ok.1
  | stockTaken suits unnamed due there taken =>
    obtain ⟨-, now, rfl, past⟩ := misleads.of_ok
    obtain ⟨-, -, until_last⟩ := Pool.take_taken taken
    have later := Instant.le_of_add? (Int.le_of_lt forwards) due
    rw [← until_last] at later
    exact Instant.not_le.2 past later
  | stockReplayed suits unnamed due there live =>
    obtain ⟨-, now, rfl, past⟩ := misleads.of_ok
    exact Instant.not_le.2 past (StockHold.isLive_iff.1 live).2
  | stockSpent =>
    obtain ⟨hold, state, again, same⟩ := misleads.of_refuse
    cases same
    exact again rfl
  | seatRefused =>
    obtain ⟨hold, state, -, same⟩ := misleads.of_refuse
    split at same <;> cases same
  | _ =>
    obtain ⟨hold, state, -, same⟩ := misleads.of_refuse
    cases same

namespace DatabaseLedger

open MemoryLedger Server

/-- **A hold that is reported is one to keep, but for a race that was lost twice.** With the ledger in
memory a place that is reported as taken already is held by the asking hold and has not lapsed, or is
sold; so no answer to a request misleads. With the database the same is true, whatever is answered,
exactly unless another taker of the same hold was first and its hold was given back, lapsed or expired
before it was looked up; and no answer to a request misleads but for that. -/
theorem existing_kept_iff (category : CategoryId) (hold : HoldId) (now last : Instant)
    (request : ReserveRequest) :
    (∀ l : MemoryLedger, l.Reachable → ∀ h,
      (l.answer (.takeStock category hold now last)).1 = .ok (.existing h) →
        h.hold = hold ∧ h.category = category ∧ h.isKept now) ∧
    (∀ w w' : Inventory, w.ledger.Reachable → 0 < w.hold.nanos → ∀ r,
      w.serve (.reserve request) = (.ok r, w') → ¬ Misleads (· = w.stage.now) r) ∧
    (Talks (takeStock category hold now last) fun talk r =>
      FromTables talk →
        (∀ h, r = .ok (.existing h) → h.hold = hold ∧ h.category = category) ∧
        ((∃ h, r = .ok (.existing h) ∧ ¬ h.isKept now) ↔
          ∃ h, Overtaken category hold last talk h ∧ ¬ h.isKept now)) ∧
    ∀ span, 0 < span.nanos →
      ((reserve span request).run.run serving).Permits fun said r =>
        FromTables (said.filterMap spoken?) → Misleads (fun now => ⟨.inr .now, now⟩ ∈ said) r →
          ∃ now category last h, ⟨.inr .now, now⟩ ∈ said ∧
            Overtaken category request.hold last (said.filterMap spoken?) h ∧ ¬ h.isKept now := by
  refine ⟨?_, ?_, ?_, ?_⟩
  · intro l reach h
    exact reach.existing_kept
  · intro w w' reach forwards r
    exact Inventory.not_misleads reach forwards
  · refine (tells_takeStock category hold now last).mono fun talk r tells tabled => ?_
    exact ⟨fun h => tells.key_of_existing tabled, tells.existing_not_kept_iff⟩
  · intro span forwards
    exact permits_reserve_misleads forwards request

/-- The tables after others have taken some steps. -/
def tablesAfter (steps : List Ledger.Step) : Tables :=
  ((resting .empty).afterSteps (fun _ _ => 0) (.start ⟨0⟩) steps).tables

/-- What a transaction finds that takes a place for a hold, one statement after the other, and what is
found when it is rolled back: another request for the hold takes a place after nothing was found
recorded for it, and then others take some steps. -/
def overtaken (later : List Ledger.Step) : List Tables :=
  let before := tablesAfter [wholePool 2]
  let taken := tablesAfter [wholePool 2, takePlace 1]
  [before, before, taken, taken, tablesAfter ([wholePool 2, takePlace 1] ++ later)]

/-- The other request gives its place back. -/
def givenBack : Ledger.Step :=
  .call (.returnStock ⟨1⟩ ⟨.random 1⟩)

/-- A request for a place, served with the database. -/
def asked : Program DatabaseWorld (Result Token) :=
  (reserve (.ofSeconds 10) (.standing ⟨.random 1⟩ ⟨7⟩ ⟨1⟩)).run.run serving

/-- The inventory when half the time of the hold on its only place is over. -/
def onePlaceHeld : Inventory :=
  (Inventory.onePlace.serve (.reserve ⟨⟨.random 1⟩, ⟨1⟩, ⟨20⟩, none⟩)).2.atTime (.ofParts 1005 0)

/-- In memory a place that is held is reported, and the receipt for it is good; a request that is
overtaken in the database, by another that has given its place back, is misled. -/
theorem existing_kept_overtaken :
    let own : StockHold := ⟨⟨.random 1⟩, ⟨20⟩, .held, .ofParts 1010 0⟩
    let receipt : Token := ⟨⟨.random 1⟩, ⟨1⟩, ⟨20⟩, .stock, .ofParts 1010 0⟩
    let found := tablesAfter [wholePool 2] :: overtaken [givenBack]
    let said := asked.transcript (glimpse (fun _ _ => 0) (.start (.ofParts 10 0))) found
    own.isKept (.ofParts 1005 0) ∧ ¬ Misleads (· = .ofParts 1005 0) (.ok receipt) ∧
      ∃ now category last h, ⟨.inr .now, now⟩ ∈ said ∧
        Overtaken category ⟨.random 1⟩ last (said.filterMap spoken?) h ∧ ¬ h.isKept now := by
  intro own receipt found said
  have reach : onePlaceHeld.ledger.Reachable :=
    Inventory.play_reachable _ (⟨[.addStanding _], rfl⟩ : Inventory.onePlace.ledger.Reachable)
  have played : asked.play (glimpse (fun _ _ => 0) (.start (.ofParts 10 0))) found =
      (.ok (refuse (.holdSpent ⟨.random 1⟩ .released)), []) := rfl
  obtain ⟨kept, straight, -, -⟩ := existing_kept_iff ⟨20⟩ ⟨.random 1⟩ (.ofParts 1005 0)
    (.ofParts 1015 0) ⟨⟨.random 1⟩, ⟨1⟩, ⟨20⟩, none⟩
  obtain ⟨-, -, -, misled⟩ := existing_kept_iff ⟨1⟩ ⟨.random 1⟩ (.ofParts 10 0) (.ofParts 20 0)
    (.standing ⟨.random 1⟩ ⟨7⟩ ⟨1⟩)
  refine ⟨?_, ?_, ?_⟩
  · exact (kept onePlaceHeld.ledger reach own rfl).2.2
  · exact straight onePlaceHeld _ reach (by decide) (.ok receipt) rfl
  · exact (misled (.ofSeconds 10) (by decide)).play played (fromTables_glimpse played)
      (.spent (by decide))

/-- So a hold is reported as there to keep when it is released, and the request is refused for its sake.
If it is not given back but has lapsed, the request gets a receipt that has lapsed. -/
theorem existing_lost :
    let at_time (now : Instant) := glimpse (fun _ _ => 0) (.start now)
    let take := (takeStock ⟨1⟩ ⟨.random 1⟩ (.ofParts 10 0) (.ofParts 20 0)).run
    let lost : StockHold := ⟨⟨.random 1⟩, ⟨1⟩, .released, .ofParts 20 0⟩
    let late : Token := ⟨⟨.random 1⟩, ⟨7⟩, ⟨1⟩, .stock, .ofParts 20 0⟩
    take.play (at_time (.ofParts 10 0)) (overtaken [givenBack]) = (.ok (.ok (.existing lost)), []) ∧
      FromTables ((take.transcript (at_time (.ofParts 10 0))
        (overtaken [givenBack])).filterMap spoken?) ∧
      lost.isKept (.ofParts 10 0) = false ∧
    asked.play (at_time (.ofParts 10 0)) (tablesAfter [wholePool 2] :: overtaken [givenBack]) =
      (.ok (refuse (.holdSpent ⟨.random 1⟩ .released)), []) ∧
    asked.play (at_time (.ofParts 30 0)) (tablesAfter [wholePool 2] :: overtaken []) =
        (.ok (.ok late), []) ∧
      late.expiresAt < .ofParts 30 0 :=
  ⟨rfl, fromTables_glimpse rfl, rfl, rfl, rfl, by decide⟩

end DatabaseLedger

end BoxOffice
