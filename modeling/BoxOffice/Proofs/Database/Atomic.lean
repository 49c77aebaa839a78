import BoxOffice.Proofs.Database.Session

/-!
# Changes that are made as a whole

The counter of a pool and the record of a hold change together or not at all, whatever the database
answers: a transaction is committed only after everything that belongs to it was done and reported.
What belongs to it is said by `TakeReady`, `ReturnReady` and `ProvisionReady`; a body that is `Careful`
about it makes the whole transaction so (`Transacts.whole`).
-/

namespace BoxOffice

namespace Database

variable {α : Type}

/-- A transaction is committed only when it is ready for it, and never when a statement failed. -/
structure Whole (Ready : Talk → Prop) (talk : Talk) : Prop where
  /-- What was said before a commit begins a transaction and makes it ready; after a commit nothing is
  said, unless it failed. -/
  commits : ∀ before reply after, talk = before ++ (.commit, reply) :: after →
    (∃ begun inner, before = (.begin, .ok begun) :: inner ∧ Ready inner) ∧
      (after = [] ∨ ∃ f undone, reply = .error f ∧ after = [(.rollback, undone)])
  /-- If any statement fails, no commit succeeds. -/
  failed : ∀ s f, (s, .error f) ∈ talk → ∀ done, (.commit, .ok done) ∉ talk

/-- Where no commit is sent there is nothing to promise. -/
theorem Whole.of_not_commit {Ready : Talk → Prop} {talk : Talk}
    (none : ∀ reply, (.commit, reply) ∉ talk) : Whole Ready talk where
  commits before reply after said := absurd (by simp [said]) (none reply)
  failed _ _ _ done := none (.ok done)

/-- The body of a transaction leaves its beginning and its end alone. It wants to commit exactly when
it gives a value that lasts, and then it is ready. -/
structure Careful (Ready : Talk → Prop) (Lasts : α → Prop) (talk : Talk)
    (r : Result (Ending × α)) : Prop where
  inside : ∀ x ∈ talk, x.1.isBoundary = false
  ready : ∀ a, r = .ok (.commit, a) → Ready talk
  ending : ∀ ending a, r = .ok (ending, a) → (ending = .commit ↔ Lasts a)

namespace Careful

variable {Ready : Talk → Prop} {Lasts : α → Prop} {talk : Talk} {r : Result (Ending × α)}

/-- A body that fails wants nothing. -/
theorem of_error {e : Error} (inside : ∀ x ∈ talk, x.1.isBoundary = false) :
    Careful Ready Lasts talk (.error e) :=
  ⟨inside, nofun, nofun⟩

theorem of_rollback {a : α} (inside : ∀ x ∈ talk, x.1.isBoundary = false) (passes : ¬ Lasts a) :
    Careful Ready Lasts talk (.ok (.rollback, a)) :=
  ⟨inside, nofun, by rintro _ _ ⟨⟩; simpa using passes⟩

theorem of_commit {a : α} (inside : ∀ x ∈ talk, x.1.isBoundary = false) (ready : Ready talk)
    (lasts : Lasts a) : Careful Ready Lasts talk (.ok (.commit, a)) :=
  ⟨inside, fun _ _ => ready, by rintro _ _ ⟨⟩; simpa using lasts⟩

/-- Nothing is committed before the end of a transaction. -/
theorem not_commit (h : Careful Ready Lasts talk r) (begun : SqlAnswer) :
    ∀ x ∈ (Statement.begin, Except.ok begun) :: talk, x.1 ≠ .commit := by
  intro x mem commit
  rcases List.mem_cons.mp mem with rfl | mem
  · cases commit
  · have inside := h.inside x mem
    rw [commit] at inside
    cases inside

end Careful

theorem Ending.eq_commit {ending : Ending} (h : ending.statement = .commit) : ending = .commit := by
  cases ending with
  | commit => rfl
  | rollback => cases h

/-- Where nothing is committed in the first part, a commit is in the second. -/
theorem exists_of_append_eq {first second before after : Talk}
    {reply : Except SqlFailure SqlAnswer} (none : ∀ x ∈ first, x.1 ≠ .commit)
    (h : first ++ second = before ++ (.commit, reply) :: after) :
    ∃ more, before = first ++ more ∧ second = more ++ (.commit, reply) :: after := by
  rcases List.append_eq_append_iff.mp h with ⟨more, rfl, rfl⟩ | ⟨more, rfl, rest⟩
  · exact ⟨more, rfl, rfl⟩
  · cases more with
    | nil => exact ⟨[], by simp, by simpa using rest.symm⟩
    | cons x more =>
      obtain ⟨rfl, -⟩ := List.cons.inj rest
      exact absurd rfl (none (.commit, reply) (by simp))

namespace Transacts

variable {Ready : Talk → Prop} {Lasts : α → Prop} {talk : Talk} {r : Result α}

/-- **A transaction with a careful body is committed as a whole.** -/
theorem whole (h : Transacts (Careful Ready Lasts) talk r)
    (fine : ∀ inner, Ready inner → ∀ x ∈ inner, ∃ a, x.2 = .ok a) : Whole Ready talk where
  commits := by
    intro before reply after said
    cases h with
    | notBegun f => rcases before with _ | ⟨x, before⟩ <;> simp at said
    | failed begun talk e body undone =>
      obtain ⟨more, -, last⟩ := exists_of_append_eq (body.not_commit begun) said
      rcases more with _ | ⟨x, more⟩ <;> simp at last
    | ended begun talk ending a body done =>
      obtain ⟨more, rfl, last⟩ := exists_of_append_eq (body.not_commit begun) said
      rcases more with _ | ⟨x, more⟩
      · simp only [List.nil_append, List.cons.injEq, Prod.mk.injEq] at last
        obtain ⟨⟨commit, -⟩, rfl⟩ := last
        obtain rfl := Ending.eq_commit commit
        exact ⟨⟨begun, talk, by simp, body.ready a rfl⟩, .inl rfl⟩
      · simp at last
    | notEnded begun talk ending a body f undone =>
      obtain ⟨more, rfl, last⟩ := exists_of_append_eq (body.not_commit begun) said
      rcases more with _ | ⟨x, _ | ⟨y, more⟩⟩
      · simp only [List.nil_append, List.cons.injEq, Prod.mk.injEq] at last
        obtain ⟨⟨commit, rfl⟩, rfl⟩ := last
        obtain rfl := Ending.eq_commit commit
        exact ⟨⟨begun, talk, by simp, body.ready a rfl⟩, .inr ⟨f, undone, rfl, rfl⟩⟩
      · simp at last
      · simp at last
  failed := by
    intro s f failure done commit
    cases h with
    | notBegun => simp at commit
    | failed begun talk e body undone =>
      have earlier : (Statement.commit, Except.ok done) ∈ (.begin, .ok begun) :: talk := by
        simpa using commit
      exact body.not_commit begun _ earlier rfl
    | ended begun talk ending a body done' =>
      rcases List.mem_append.mp commit with earlier | last
      · exact body.not_commit begun _ earlier rfl
      · obtain ⟨ends, -⟩ := Prod.mk.inj (List.mem_singleton.mp last)
        obtain rfl := Ending.eq_commit ends.symm
        obtain ⟨x, ok⟩ : ∃ x, (s, Except.error f).2 = Except.ok x := by
          refine fine talk (body.ready a rfl) (s, .error f) ?_
          simpa [Ending.statement] using failure
        cases ok
    | notEnded begun talk ending a body f' undone =>
      have earlier : (Statement.commit, Except.ok done) ∈ (.begin, .ok begun) :: talk := by
        simpa using commit
      exact body.not_commit begun _ earlier rfl

/-- A value that lasts is given only after a commit. -/
theorem committed {a : α} (h : Transacts (Careful Ready Lasts) talk (.ok a)) (lasts : Lasts a) :
    ∃ done, (.commit, .ok done) ∈ talk := by
  cases h with
  | ended begun inner ending a body done =>
    obtain rfl := (body.ending ending a rfl).mpr lasts
    exact ⟨done, by simp [Ending.statement]⟩

/-- Any other value is given only after a roll-back. -/
theorem rolledBack {a : α} (h : Transacts (Careful Ready Lasts) talk (.ok a))
    (passes : ¬ Lasts a) :
    (∃ done, (.rollback, .ok done) ∈ talk) ∧ ∀ reply, (.commit, reply) ∉ talk := by
  cases h with
  | ended begun inner ending a body done =>
    cases ending with
    | commit => exact absurd ((body.ending .commit a rfl).mp rfl) passes
    | rollback =>
      refine ⟨⟨done, by simp [Ending.statement]⟩, fun reply commit => ?_⟩
      rcases List.mem_append.mp commit with earlier | last
      · exact body.not_commit begun _ earlier rfl
      · simp [Ending.statement] at last

end Transacts

/-- An answer whose first row was read has a row. -/
theorem rows_of_first {read : SqlRow → Except SqlFailure α} {a : SqlAnswer} {x : α}
    (h : firstOf read a = .ok (some x)) : a.rows ≠ [] := by
  intro none
  simp [firstOf, rowsOf, none] at h

theorem rows_of_only {read : SqlRow → Except SqlFailure α} {a : SqlAnswer} {x : α}
    (h : onlyOf read a = .ok x) : a.rows ≠ [] := by
  intro none
  simp [onlyOf, rowsOf, none] at h

/-- What came back has a row if its first row was read. -/
theorem exists_of_first {read : SqlRow → Except SqlFailure α}
    {reply : Except SqlFailure SqlAnswer} {x : α}
    (h : (received reply >>= firstOf read) = .ok (some x)) : ∃ a, reply = .ok a ∧ a.rows ≠ [] := by
  rcases reply with f | a
  · cases h
  · exact ⟨a, rfl, rows_of_first h⟩

/-- What came back has no row if there is no first one. -/
theorem exists_of_no_first {read : SqlRow → Except SqlFailure α}
    {reply : Except SqlFailure SqlAnswer} (h : (received reply >>= firstOf read) = .ok none) :
    ∃ a, reply = .ok a ∧ a.rows = [] := by
  rcases reply with f | a
  · cases h
  · refine ⟨a, rfl, ?_⟩
    have first : firstOf read a = .ok none := h
    cases rows : a.rows with
    | nil => rfl
    | cons values more =>
      simp only [firstOf, rowsOf, rows, List.map_cons] at first
      cases reading : read ⟨a.columns, values⟩ <;> rw [reading] at first <;> cases first

theorem exists_of_only {read : SqlRow → Except SqlFailure α}
    {reply : Except SqlFailure SqlAnswer} {x : α}
    (h : (received reply >>= onlyOf read) = .ok x) : ∃ a, reply = .ok a ∧ a.rows ≠ [] := by
  rcases reply with f | a
  · cases h
  · exact ⟨a, rfl, rows_of_only h⟩

end Database

namespace DatabaseLedger

open Database

/-! ### Taking a place -/

/-- The hold in an answer, if there is one. -/
def holdIn (a : SqlAnswer) : Result (Option StockHold) :=
  firstOf HoldRow.ofRow a >>= meant HoldRow.read

/-- The identifier holds nothing, as far as an answer goes. -/
def Vacant (locked : SqlAnswer) : Prop :=
  ∃ h?, holdIn locked = .ok h? ∧ ∀ h ∈ h?, h.state = .released ∨ h.state = .expired

section Take

variable (category : CategoryId) (hold : HoldId) (now expiresAt : Instant)

/-- What is said, and what comes back, before a taken place is committed. -/
inductive TakeReady : Talk → Prop
  /-- The identifier has a hold that is sold or live. Nothing is written. -/
  | kept (found locked : SqlAnswer) (h : StockHold) (there : found.rows ≠ [])
    (reads : holdIn locked = .ok (some h))
    (stays : h.state = .confirmed ∨ h.state = .held ∧ now ≤ h.expiresAt) :
    TakeReady [(.findCategory category, .ok found), (.lockHold category hold, .ok locked)]
  /-- The identifier has a lapsed hold, which is renewed. The counter is left alone. -/
  | renewed (found locked renewed : SqlAnswer) (h : StockHold) (there : found.rows ≠ [])
    (reads : holdIn locked = .ok (some h)) (lapsed : h.state = .held ∧ ¬ now ≤ h.expiresAt)
    (written : renewed.rows ≠ []) :
    TakeReady
      [(.findCategory category, .ok found), (.lockHold category hold, .ok locked),
        (.renewHold category hold expiresAt, .ok renewed)]
  /-- The identifier holds nothing. A place is taken from the counter and a hold recorded for it. -/
  | fresh (found locked placed inserted : SqlAnswer) (there : found.rows ≠ [])
    (vacant : Vacant locked) (taken : placed.rows ≠ []) (written : inserted.rows ≠ []) :
    TakeReady
      [(.findCategory category, .ok found), (.lockHold category hold, .ok locked),
        (.takePlace category, .ok placed), (.insertHold category hold expiresAt, .ok inserted)]

/-- What is found inside the transaction and lasts when it is over. -/
inductive Take.Lasts : Take → Prop
  | kept (h : StockHold) : Lasts (.kept h)
  | written (row : HoldRow) : Lasts (.written row)

/-- What may be said inside the transaction. -/
def takeStatements : List Statement :=
  [.findCategory category, .lockHold category hold, .renewHold category hold expiresAt,
    .takePlace category, .insertHold category hold expiresAt]

/-- The conversations inside the transaction, each with what is found. -/
inductive Taking : Talk → Result (Ending × Take) → Prop
  /-- A statement fails, there is no such category, or what comes back cannot be read. -/
  | failed (talk : Talk) (e : Error) (only : ∀ x ∈ talk, x.1 ∈ takeStatements category hold expiresAt) :
    Taking talk (.error e)
  | kept (found locked : SqlAnswer) (h : StockHold) (there : found.rows ≠ [])
    (reads : holdIn locked = .ok (some h))
    (stays : h.state = .confirmed ∨ h.state = .held ∧ now ≤ h.expiresAt) :
    Taking [(.findCategory category, .ok found), (.lockHold category hold, .ok locked)]
      (.ok (.commit, .kept h))
  | renewed (found locked renewed : SqlAnswer) (h : StockHold) (row : HoldRow)
    (there : found.rows ≠ []) (reads : holdIn locked = .ok (some h))
    (lapsed : h.state = .held ∧ ¬ now ≤ h.expiresAt)
    (written : onlyOf HoldRow.ofRow renewed = .ok row) :
    Taking
      [(.findCategory category, .ok found), (.lockHold category hold, .ok locked),
        (.renewHold category hold expiresAt, .ok renewed)]
      (.ok (.commit, .written row))
  | soldOut (found locked placed : SqlAnswer) (vacant : Vacant locked) (none : placed.rows = []) :
    Taking
      [(.findCategory category, .ok found), (.lockHold category hold, .ok locked),
        (.takePlace category, .ok placed)]
      (.ok (.rollback, .soldOut))
  /-- No hold is recorded, since there is one by now. -/
  | lost (found locked placed inserted : SqlAnswer) (vacant : Vacant locked)
    (taken : placed.rows ≠ []) (none : inserted.rows = []) :
    Taking
      [(.findCategory category, .ok found), (.lockHold category hold, .ok locked),
        (.takePlace category, .ok placed), (.insertHold category hold expiresAt, .ok inserted)]
      (.ok (.rollback, .lost))
  | fresh (found locked placed inserted : SqlAnswer) (row : HoldRow) (there : found.rows ≠ [])
    (vacant : Vacant locked) (taken : placed.rows ≠ [])
    (written : firstOf HoldRow.ofRow inserted = .ok (some row)) :
    Taking
      [(.findCategory category, .ok found), (.lockHold category hold, .ok locked),
        (.takePlace category, .ok placed), (.insertHold category hold expiresAt, .ok inserted)]
      (.ok (.commit, .written row))

theorem talks_takeFresh {found locked : SqlAnswer} (there : found.rows ≠ [])
    (vacant : Vacant locked) :
    Talks (takeFresh category hold expiresAt) fun talk r =>
      Taking category hold now expiresAt
        ((.findCategory category, .ok found) :: (.lockHold category hold, .ok locked) :: talk) r := by
  unfold takeFresh
  refine (sends_fetchOptional _ _).bind ?_ ?_
  · rintro _ e ⟨reply, rfl, -⟩
    exact .failed _ e (by simp [takeStatements])
  rintro _ (_ | n) ⟨placed, rfl, took⟩
  · obtain ⟨placed, rfl, none⟩ := exists_of_no_first took.symm
    exact .pure (.soldOut found locked placed vacant none)
  obtain ⟨placed, rfl, taken⟩ := exists_of_first took.symm
  refine (sends_fetchOptional _ _).bind ?_ ?_
  · rintro _ e ⟨reply, rfl, -⟩
    exact .failed _ e (by simp [takeStatements])
  rintro _ (_ | row) ⟨inserted, rfl, wrote⟩
  · obtain ⟨inserted, rfl, none⟩ := exists_of_no_first wrote.symm
    exact .pure (.lost found locked placed inserted vacant taken none)
  obtain ⟨inserted, rfl, -⟩ := exists_of_first wrote.symm
  exact .pure (.fresh found locked placed inserted row there vacant taken wrote.symm)

theorem talks_takeInside :
    Talks (takeInside category hold now expiresAt) (Taking category hold now expiresAt) := by
  unfold takeInside
  refine (sends_fetchOptional _ _).bind ?_ ?_
  · rintro _ e ⟨reply, rfl, -⟩
    exact .failed _ e (by simp [takeStatements])
  rintro _ (_ | n) ⟨reply, rfl, finds⟩
  · exact .throw (.failed _ _ (by simp [takeStatements]))
  obtain ⟨found, rfl, there⟩ := exists_of_first finds.symm
  refine (sends_lookUp _ _ _).bind ?_ ?_
  · rintro _ e ⟨reply, rfl, -⟩
    exact .failed _ e (by simp [takeStatements])
  rintro _ existing ⟨f | locked, rfl, reads⟩
  · cases reads
  have reads : holdIn locked = .ok existing := reads.symm
  -- what is done depends on the hold that the identifier has
  rcases existing with _ | existing
  · exact talks_takeFresh category hold now expiresAt there ⟨none, reads, nofun⟩
  have kept (stays : existing.state = .confirmed ∨ existing.state = .held ∧ now ≤ existing.expiresAt) :
      Taking category hold now expiresAt
        [(.findCategory category, .ok found), (.lockHold category hold, .ok locked)]
        (.ok (.commit, .kept existing)) :=
    .kept found locked existing there reads stays
  have again (gone : existing.state = .released ∨ existing.state = .expired) :
      Talks (takeFresh category hold expiresAt) fun talk r =>
        Taking category hold now expiresAt
          ((.findCategory category, .ok found) :: (.lockHold category hold, .ok locked) :: talk) r :=
    talks_takeFresh category hold now expiresAt there ⟨existing, reads, by simpa using gone⟩
  cases state : existing.state with
  | confirmed => simpa [state] using Talks.pure (kept (.inl state))
  | released => simpa [state] using again (.inl state)
  | expired => simpa [state] using again (.inr state)
  | held =>
    by_cases live : now ≤ existing.expiresAt
    · simpa [state, live] using Talks.pure (kept (.inr ⟨state, live⟩))
    simp only [state, if_neg live]
    refine (sends_fetchOne _ _).bind ?_ ?_
    · rintro _ e ⟨reply, rfl, -⟩
      exact .failed _ e (by simp [takeStatements])
    rintro _ row ⟨reply, rfl, renews⟩
    obtain ⟨renewed, rfl, -⟩ := exists_of_only renews.symm
    exact .pure (.renewed found locked renewed existing row there reads ⟨state, live⟩ renews.symm)

variable {category hold now expiresAt}

/-- Every conversation inside the transaction is careful. -/
theorem Taking.careful {talk : Talk} {r : Result (Ending × Take)}
    (h : Taking category hold now expiresAt talk r) :
    Careful (TakeReady category hold now expiresAt) Take.Lasts talk r := by
  cases h with
  | failed _ e only =>
    refine .of_error fun x mem => ?_
    have said := only x mem
    simp only [takeStatements, List.mem_cons, List.not_mem_nil, or_false] at said
    rcases said with e | e | e | e | e <;> simp [e, Statement.isBoundary]
  | kept found locked h there reads stays =>
    exact .of_commit (by simp [Statement.isBoundary]) (.kept found locked h there reads stays) (.kept h)
  | renewed found locked renewed h row there reads lapsed written =>
    exact .of_commit (by simp [Statement.isBoundary])
      (.renewed found locked renewed h there reads lapsed (rows_of_only written)) (.written row)
  | soldOut => exact .of_rollback (by simp [Statement.isBoundary]) nofun
  | lost => exact .of_rollback (by simp [Statement.isBoundary]) nofun
  | fresh found locked placed inserted row there vacant taken written =>
    exact .of_commit (by simp [Statement.isBoundary])
      (.fresh found locked placed inserted there vacant taken (rows_of_first written))
      (.written row)

variable (category hold now expiresAt)

/-- A place is taken as a whole. -/
structure TakesWhole (talk : Talk) (r : Result StockOutcome) : Prop
    extends Whole (TakeReady category hold now expiresAt) talk where
  /-- Whoever is told to have a place has it for good. -/
  taken : ∀ h, r = .ok (.taken h) → ∃ done, (.commit, .ok done) ∈ talk
  /-- Whoever is told that there is none has changed nothing. -/
  soldOut : r = .ok .soldOut → ∀ reply, (.commit, reply) ∉ talk

theorem talks_takeStock :
    Talks (takeStock category hold now expiresAt) (TakesWhole category hold now expiresAt) := by
  have whole {talk : Talk} {r : Result Take}
      (h : Transacts (Careful (TakeReady category hold now expiresAt) Take.Lasts) talk r) :
      Whole (TakeReady category hold now expiresAt) talk :=
    h.whole fun inner ready => by cases ready <;> simp
  have careful := (talks_takeInside category hold now expiresAt).mono fun _ _ h => h.careful
  refine (talks_transaction careful).bind ?_ ?_
  · exact fun talk e h => ⟨whole h, nofun, nofun⟩
  intro talk take h
  cases take with
  | kept existing =>
    refine .pure ?_
    rw [List.append_nil]
    exact ⟨whole h, nofun, nofun⟩
  | written row =>
    have done := h.committed (.written row)
    refine ((computes_interpret row.read).then fun h' => computes_pure (StockOutcome.taken h')).mono ?_
    rintro _ r ⟨rfl, rfl⟩
    rw [List.append_nil]
    refine ⟨whole h, fun _ _ => done, fun sold => ?_⟩
    cases read : row.read <;> rw [read] at sold <;> cases sold
  | soldOut =>
    have undone := h.rolledBack nofun
    refine .pure ?_
    rw [List.append_nil]
    exact ⟨whole h, nofun, fun _ => undone.2⟩
  | lost =>
    have undone := h.rolledBack nofun
    -- the hold of the other taker is looked up outside the transaction
    have looked (reply reply' : Except SqlFailure SqlAnswer) :
        (Statement.commit, reply') ∉ talk ++ [(.selectHold category hold, reply)] := by
      simpa using undone.2 reply'
    refine (computes_note _).bind ((sends_lookUp _ _ _).bind ?_ ?_)
    · rintro _ e ⟨reply, rfl, -⟩
      exact ⟨.of_not_commit (looked reply), nofun, nofun⟩
    · rintro _ (_ | winner) ⟨reply, rfl, -⟩
      · exact .throw ⟨.of_not_commit (looked reply), nofun, nofun⟩
      · exact .pure ⟨.of_not_commit (looked reply), nofun, nofun⟩

end Take

/-! ### Giving back a place -/

section Return

variable (category : CategoryId) (hold : HoldId)

/-- What is said, and what comes back, before a place that is given back is committed. -/
inductive ReturnReady : Talk → Prop
  | returned (released counted : SqlAnswer) (changed : released.affected ≠ 0) :
    ReturnReady [(.releaseHold category hold, .ok released), (.returnPlace category, .ok counted)]

/-- A place is given back as a whole. -/
structure ReturnsWhole (talk : Talk) (r : Result Bool) : Prop
    extends Whole (ReturnReady category hold) talk where
  returned : r = .ok true → ∃ done, (.commit, .ok done) ∈ talk
  notReturned : r = .ok false →
    (∃ done, (.rollback, .ok done) ∈ talk) ∧ ∀ reply, (.commit, reply) ∉ talk

theorem talks_returnStock :
    Talks (returnStock category hold) (ReturnsWhole category hold) := by
  refine Program.Ensures.mono (talks_transaction
    (B := Careful (ReturnReady category hold) (· = true)) ?_) fun talk r h => ?_
  · refine (sends_execute _).bind ?_ ?_
    · rintro _ e ⟨reply, rfl, -⟩
      exact .of_error (by simp [Statement.isBoundary])
    rintro _ affected ⟨_ | released, rfl, ⟨⟩⟩
    by_cases unchanged : released.affected = 0
    · rw [if_pos unchanged]
      exact .pure (.of_rollback (by simp [Statement.isBoundary]) nofun)
    rw [if_neg unchanged]
    refine (sends_execute _).bind ?_ ?_
    · rintro _ e ⟨reply, rfl, -⟩
      exact .of_error (by simp [Statement.isBoundary])
    rintro _ affected ⟨_ | counted, rfl, ⟨⟩⟩
    exact .pure (.of_commit (by simp [Statement.isBoundary])
      (.returned released counted unchanged) rfl)
  · refine ⟨h.whole fun inner ready => by cases ready; simp, ?_, ?_⟩
    · rintro rfl
      exact h.committed rfl
    · rintro rfl
      exact h.rolledBack nofun

end Return

/-! ### Storing a category -/

section Provision

variable (c : Category) (labels : List String)

/-- The row of a new category whose request is in order. -/
def rowFor : Result CategoryRow :=
  checkProvision c labels >>= checkColumns

/-- What is said, and what comes back, before a new category is committed. -/
inductive ProvisionReady : Talk → Prop
  | standing (row : CategoryRow) (inOrder : rowFor c labels = .ok row) (inserted : SqlAnswer)
    (none : labels = []) : ProvisionReady [(.insertCategory row, .ok inserted)]
  | seated (row : CategoryRow) (inOrder : rowFor c labels = .ok row) (inserted seats : SqlAnswer)
    (some : labels ≠ []) :
    ProvisionReady [(.insertCategory row, .ok inserted), (.insertSeats c.id labels, .ok seats)]

/-- A category is stored as a whole. -/
structure ProvisionsWhole (talk : Talk) (r : Result Category) : Prop
    extends Whole (ProvisionReady c labels) talk where
  /-- A request that is not in order is refused without a word to the database. -/
  refused : ∀ e, rowFor c labels = .error e → talk = [] ∧ r = .error e
  stored : ∀ c', r = .ok c' → ∃ done, (.commit, .ok done) ∈ talk

variable {c labels}

theorem checkProvision_id {c' : Category} (h : checkProvision c labels = .ok c') : c'.id = c.id := by
  unfold checkProvision at h
  split at h
  · split at h
    · cases h
    · split at h <;> cases h
      rfl
  · split at h <;> cases h
    rfl
  · cases h

/-- A request that is not in order is answered at once. -/
theorem ProvisionsWhole.of_refused {e : Error} (h : rowFor c labels = .error e) :
    ProvisionsWhole c labels [] (.error e) where
  toWhole := .of_not_commit (by simp)
  refused e' h' := by
    rw [h] at h'
    cases h'
    exact ⟨rfl, rfl⟩
  stored := nofun

variable (c labels)

theorem talks_provision : Talks (provision c labels) (ProvisionsWhole c labels) := by
  cases checked : checkProvision c labels with
  | error e =>
    have refused : rowFor c labels = .error e := by rw [rowFor, checked]; rfl
    unfold provision
    rw [checked]
    exact .of_refused refused
  | ok c' =>
  cases fits : checkColumns c' with
  | error e =>
    have refused : rowFor c labels = .error e := by rw [rowFor, checked]; exact fits
    unfold provision
    rw [checked]
    refine (computes_interpret _).bind ?_
    rw [fits]
    exact .of_refused refused
  | ok row =>
  have inOrder : rowFor c labels = .ok row := by rw [rowFor, checked]; exact fits
  have fine (inner : Talk) (ready : ProvisionReady c labels inner) :
      ∀ x ∈ inner, ∃ a, x.2 = .ok a := by
    cases ready <;> simp
  have inOrder' (e : Error) : rowFor c labels ≠ .error e := by simp [inOrder]
  unfold provision
  rw [checked]
  refine (computes_interpret _).bind ?_
  rw [fits]
  refine (computes_interpret _).bind ?_
  refine (talks_transaction (B := Careful (ProvisionReady c labels) fun _ => True) ?_).bind ?_ ?_
  · refine (sends_execute _).bind ?_ ?_
    · rintro _ e ⟨reply, rfl, -⟩
      exact .of_error (by simp [Statement.isBoundary])
    rintro _ _ ⟨_ | inserted, rfl, ⟨⟩⟩
    cases labels with
    | nil =>
      exact .pure (.of_commit (by simp [Statement.isBoundary])
        (.standing row inOrder inserted rfl) trivial)
    | cons label labels =>
      refine (sends_execute _).bind ?_ ?_
      · rintro _ e ⟨reply, rfl, -⟩
        exact .of_error (by simp [Statement.isBoundary])
      rintro _ _ ⟨_ | seats, rfl, ⟨⟩⟩
      rw [checkProvision_id checked]
      exact .pure (.of_commit (by simp [Statement.isBoundary])
        (.seated row inOrder inserted seats (by simp)) trivial)
  · exact fun talk e h => ⟨h.whole fine, fun e' h' => absurd h' (inOrder' e'), nofun⟩
  · intro talk _ h
    have done := h.committed trivial
    refine (computes_note _).bind (.pure ?_)
    rw [List.append_nil]
    exact ⟨h.whole fine, fun e' h' => absurd h' (inOrder' e'), fun _ _ => done⟩

end Provision

/-- **Counter and hold change together.** Whatever the database answers, a place is taken, given back
or provided as a whole. -/
theorem changes_whole (E : Environment DatabaseWorld) :
    (∀ category hold now expiresAt, ∃ said r,
      (takeStock category hold now expiresAt).run.converse E [] = (said, some r) ∧
      TakesWhole category hold now expiresAt (said.filterMap spoken?) r) ∧
    (∀ category hold, ∃ said r,
      (returnStock category hold).run.converse E [] = (said, some r) ∧
      ReturnsWhole category hold (said.filterMap spoken?) r) ∧
    (∀ c labels, ∃ said r,
      (provision c labels).run.converse E [] = (said, some r) ∧
      ProvisionsWhole c labels (said.filterMap spoken?) r) :=
  ⟨fun category hold now expiresAt => (talks_takeStock category hold now expiresAt).converse E [],
    fun category hold => (talks_returnStock category hold).converse E [],
    fun c labels => (talks_provision c labels).converse E []⟩

end DatabaseLedger

end BoxOffice
