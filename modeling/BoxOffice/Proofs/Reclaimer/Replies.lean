import BoxOffice.Proofs.Database.Stopping
import BoxOffice.Proofs.Reclaimer.Loop
import BoxOffice.Rehearsal.World

/-!
# The world around the reclaimer

A world replies to every call of the inventory that has a reply (`replies_inventory`), whichever ledger it
has and whatever faults are laid out. What others do meanwhile, loops that come to their end and moves of
the clock, is `Aside`: it moves no counter. So the counters are moved by the sweeps alone, but for those
that the database keeps of its own failures (`total_course`).
-/

namespace BoxOffice

namespace Rehearsal

/-! ### Plays -/

namespace Play

variable {σ α β : Type} {p : Play σ α} {k : α → Play σ β} {w w' w'' : σ} {a : α} {b : β}

/-- A play comes to an end in a state, and gives a value. -/
def Gives (p : Play σ α) (w : σ) (a : α) (w' : σ) : Prop :=
  p.run.run w = (.ok a, w')

/-- What is done with the state at hand. -/
theorem run_get_bind (k : σ → Play σ α) (w : σ) : (get >>= k).run.run w = (k w).run.run w := rfl

theorem Gives.run_bind (h : p.Gives w a w') (k : α → Play σ β) :
    (p >>= k).run.run w = (k a).run.run w' := by
  have go : p.run.run w = (.ok a, w') := h
  rw [ExceptT.run_bind, StateT.run_bind, go]
  rfl

theorem Gives.bind (first : p.Gives w a w') (rest : (k a).Gives w' b w'') : (p >>= k).Gives w b w'' :=
  (first.run_bind k).trans rest

theorem run_bind_of_error {b : Breakdown} (h : p.run.run w = (.error b, w')) (k : α → Play σ β) :
    (p >>= k).run.run w = (.error b, w') := by
  rw [ExceptT.run_bind, StateT.run_bind, h]
  rfl

end Play

namespace World

open Reclaimer

/-! ### What others do -/

/-- The value of a counter. -/
def total (w : World) (c : Counter) : Nat :=
  Journal.total c w.stage.entries

/-- Somebody else did something: loops that were left to themselves came to their end, the clock was
moved, and notices were written down. -/
structure Aside (w w' : World) : Prop where
  same : ∃ stage abandoned, w' = { w with stage, abandoned }
  total : ∀ c, w'.total c = w.total c

theorem Aside.refl (w : World) : Aside w w where
  same := ⟨_, _, rfl⟩
  total _ := rfl

theorem Aside.trans {w w' w'' : World} (h : Aside w w') (h' : Aside w' w'') : Aside w w'' where
  same := by
    obtain ⟨stage, abandoned, rfl⟩ := h.same
    obtain ⟨stage', abandoned', rfl⟩ := h'.same
    exact ⟨stage', abandoned', rfl⟩
  total c := (h'.total c).trans (h.total c)

/-- A play ends in every world, with some value, and is none of the reclaimer's business. -/
def Idles {α : Type} (p : Play World α) (a : α) : Prop :=
  ∀ w, ∃ w', p.Gives w a w' ∧ Aside w w'

theorem Idles.pure {α : Type} (a : α) : Idles (Pure.pure a) a :=
  fun w => ⟨w, rfl, .refl w⟩

theorem Idles.bind {α β : Type} {p : Play World α} {k : α → Play World β} {a : α} {b : β}
    (first : Idles p a) (rest : Idles (k a) b) : Idles (p >>= k) b := by
  intro w
  obtain ⟨w', gives, aside⟩ := first w
  obtain ⟨w'', gives', aside'⟩ := rest w'
  exact ⟨w'', gives.bind gives', aside.trans aside'⟩

theorem total_recorded (w : World) (entry : Entry) (c : Counter) :
    total { w with stage := { w.stage with journal := entry :: w.stage.journal } } c =
      w.total c + Journal.growth c entry := by
  simp [total, Stage.entries]

theorem idles_note (n : Notice) : Idles (onStage (.record (.notice n))) () :=
  fun w => ⟨_, rfl, ⟨_, _, rfl⟩, fun c => total_recorded w (.notice n) c⟩

theorem idles_begin (l : Loop) : Idles (begin l) { l with begun := true } := by
  unfold begin
  split
  · exact (idles_note _).bind (.pure _)
  · exact .pure _

theorem idles_finish (l : Loop) : Idles (finish l) () := by
  have stops : Idles (if l.isSound then onStage (.record (.notice .reclaimerStopping)) else Pure.pure ())
      () := by
    split
    · exact idles_note _
    · exact .pure ()
  exact (idles_begin l).bind stops

theorem idles_finishAbandoned : Idles finishAbandoned () := by
  have all : ∀ loops : List Loop, Idles (loops.forM finish) () := by
    intro loops
    induction loops with
    | nil => exact .pure ()
    | cons l loops ih => exact (idles_finish l).bind ih
  intro w
  obtain ⟨w', gives, aside⟩ := all w.abandoned { w with abandoned := [] }
  have emptied : Aside w { w with abandoned := [] } := ⟨⟨_, _, rfl⟩, fun _ => rfl⟩
  exact ⟨w', gives, emptied.trans aside⟩

/-! ### Plays that come to an end -/

variable {cs : Counter → Prop} {w : World} {α β : Type} {p : Play World α}

/-- A play comes to an end in a world, and leaves some counters alone. -/
def Ends (cs : Counter → Prop) (p : Play World α) (w : World) : Prop :=
  ∃ a w', p.Gives w a w' ∧ ∀ c, cs c → w'.total c = w.total c

theorem Idles.ends {a : α} (h : Idles p a) : Ends cs p w := by
  obtain ⟨w', gives, aside⟩ := h w
  exact ⟨a, w', gives, fun c _ => aside.total c⟩

theorem Ends.pure (a : α) : Ends cs (Pure.pure a) w :=
  (Idles.pure a).ends

theorem Ends.bind {k : α → Play World β} (first : Ends cs p w) (rest : ∀ a w, Ends cs (k a) w) :
    Ends cs (p >>= k) w := by
  obtain ⟨a, w', gives, kept⟩ := first
  obtain ⟨b, w'', gives', kept'⟩ := rest a w'
  exact ⟨b, w'', gives.bind gives', fun c own => (kept' c own).trans (kept c own)⟩

theorem Ends.get_bind {k : World → Play World α} (h : Ends cs (k w) w) : Ends cs (get >>= k) w :=
  h

theorem Ends.set_bind {w' : World} (same : w'.stage = w.stage) (h : Ends cs p w') :
    Ends cs (set w' >>= fun _ => p) w := by
  obtain ⟨a, w'', gives, kept⟩ := h
  refine ⟨a, w'', gives, fun c own => (kept c own).trans ?_⟩
  rw [total, same, total]

/-- A program ends if the calls that it makes get replies. -/
theorem ends_run {I : Interface} {δ : Type} {view : Exchange I → Option δ} {p : Program I α}
    {Q : List δ → α → Prop} {P : I.Call → Prop} {answer : (c : I.Call) → Play World (I.Reply c)}
    (h : p.Ensures view Q) (only : p.Only P)
    (replies : ∀ c, P c → Nonempty (I.Reply c) → ∀ w, Ends cs (answer c) w) :
    Ends cs (p.run answer) w := by
  induction p generalizing Q w with
  | done a => exact .pure a
  | ask c k ih =>
    exact (replies c only.1 h.1 w).bind fun reply _ => ih reply (h.2 reply) (only.2 reply)

/-! ### Replies of the world -/

theorem ends_surround (c : Surroundings.Call) (possible : Nonempty c.Reply) :
    Ends (fun _ => False) (surround c) w := by
  have stage (w : World) : Ends (fun _ => False) (onStage c) w := by
    obtain ⟨reply, answered⟩ := w.stage.answer_of_nonempty c possible
    refine ⟨reply, { w with stage := (w.stage.answer c).2 }, ?_, nofun⟩
    show ((w.stage.answer c).1, ({ w with stage := (w.stage.answer c).2 } : World)) = _
    rw [answered]
  unfold surround
  split
  · split
    · exact idles_finishAbandoned.ends.bind fun _ => stage
    · exact stage w
  · exact stage w

theorem ends_record {entry : Entry} (h : ∀ c, cs c → Journal.growth c entry = 0) :
    Ends cs (surround (.record entry)) w := by
  refine ⟨(), _, rfl, fun c own => ?_⟩
  rw [total_recorded, h c own, Nat.add_zero]

theorem ends_send (side : Side) (s : Statement) : Ends cs (send side s) w :=
  idles_finishAbandoned.ends.bind fun _ _ => .get_bind (.set_bind rfl (.pure _))

theorem ends_ledgerAnswer {c : Ledger.Call} {P : DatabaseWorld.Call → Prop}
    (only : (DatabaseLedger.answer c).Only P)
    (replies : ∀ call, P call → Nonempty (DatabaseWorld.Reply call) →
      ∀ w, Ends cs (databaseAnswer .inventory call) w) : Ends cs (ledgerAnswer c) w := by
  refine .get_bind ?_
  split
  · exact .set_bind rfl (.pure _)
  · exact ends_run (Database.Operation.runs_program (.ledger c)) only replies

theorem ends_withFaults (name : String) {call : Play World (Result α)} (h : ∀ w, Ends cs call w) :
    Ends cs (withFaults name call) w := by
  refine .get_bind (.set_bind rfl ?_)
  split
  · exact h _
  · split
    · exact (h _).bind fun _ _ => .pure _
    · exact .pure _

/-- What the world answers to a call of the inventory. -/
def inventoryReply (w : World) (c : InventoryWorld.Call) :
    Except Breakdown (InventoryWorld.Reply c) × World :=
  (inventoryAnswer c).run.run w

theorem replies_inventory : Reclaimer.Replies inventoryReply := by
  intro w c possible
  have ends : Ends (fun _ => False) (inventoryAnswer c) w := by
    cases c with
    | inl c =>
      refine ends_withFaults _ fun w => ends_ledgerAnswer (Program.Only.any _) fun call _ possible w => ?_
      cases call with
      | inl s => exact ends_send .inventory s
      | inr c => exact ends_surround c possible
    | inr c => exact ends_surround c possible
  obtain ⟨reply, w', gives, -⟩ := ends
  exact ⟨reply, w', gives⟩

/-! ### The counters -/

/-- A counter that the database does not move by itself. -/
def IsOwn (c : Counter) : Prop :=
  ∀ failures, c ≠ .databaseError failures

/-- A call that moves no counter but those of the database. -/
def IsPlain : DatabaseWorld.Call → Prop
  | .inl _ => True
  | .inr (.record (.notice _)) => True
  | .inr (.record (.measured (.count (.databaseError _) _))) => True
  | _ => False

theorem ends_plain {call : DatabaseWorld.Call} (plain : IsPlain call) :
    Ends IsOwn (databaseAnswer .inventory call) w := by
  unfold IsPlain at plain
  split at plain
  · exact ends_send .inventory _
  · exact ends_record fun c own => rfl
  · next failures n => exact ends_record fun c own => if_neg (own failures).symm
  · exact plain.elim

open Database in
theorem plain_demand (x : Except SqlFailure α) : (demand x).run.Only IsPlain := by
  cases x with
  | ok a => trivial
  | error f =>
    refine Service.only_bind ⟨trivial, fun _ => trivial⟩ fun _ => ?_
    cases f.isConstraint with
    | true => trivial
    | false => exact ⟨trivial, fun _ => trivial⟩

open Database in
theorem plain_perform (s : Statement) : (perform s).run.Only IsPlain :=
  Service.only_bind ⟨trivial, fun _ => trivial⟩ fun _ => plain_demand _

theorem plain_reclaim (now : Instant) : (DatabaseLedger.reclaim now).run.Only IsPlain := by
  have seats : (Database.execute (.freeLapsedSeats now)).run.Only IsPlain :=
    Service.only_bind (plain_perform _) fun _ => trivial
  have counts : (Database.fetchAll (.expireLapsedHolds now) Database.readNumber).run.Only IsPlain :=
    Service.only_bind (plain_perform _) fun _ => plain_demand _
  exact Service.only_bind seats fun _ => Service.only_bind counts fun _ => trivial

theorem ends_reclaim (now : Instant) : Ends IsOwn (inventoryAnswer (.inl (.reclaim now))) w :=
  ends_withFaults _ fun _ => ends_ledgerAnswer (plain_reclaim now) fun _ plain _ _ => ends_plain plain

/-- A sweep asks for the time and for the lapsed holds, and writes down what comes of it. -/
def IsSweeping : InventoryWorld.Call → Prop
  | .inl (.reclaim _) => True
  | .inr .now => True
  | .inr (.record _) => True
  | _ => False

theorem only_tick : tick.Only IsSweeping := by
  apply Program.Ensures.only
  apply ensures_tick.mono
  rintro _ _ ⟨now, result, rfl⟩ x mem
  simp only [said, List.mem_cons, List.mem_map] at mem
  rcases mem with rfl | rfl | ⟨entry, -, rfl⟩ <;> trivial

variable {c : Counter} {w' : World}

/-- A sweep moves a counter as far as it says. -/
theorem total_tick (own : IsOwn c) (ticked : tick.play inventoryReply w = (.ok (), w')) :
    w'.total c =
      w.total c + Journal.total c ((tick.transcript inventoryReply w).filterMap recorded?) := by
  refine only_tick.play_follows recorded?
    (T := fun w entries w' => w'.total c = w.total c + Journal.total c entries) (fun _ => rfl) ?_ ticked
  intro w call reply w₁ entries w' sweeping answered rest
  have once : w₁.total c = w.total c + Journal.total c (recorded? ⟨call, reply⟩).toList := by
    unfold IsSweeping at sweeping
    split at sweeping
    · next now =>
      obtain ⟨_, _, gives, kept⟩ := ends_reclaim (w := w) now
      cases gives.symm.trans answered
      exact kept c own
    · cases answered
      rfl
    · next entry =>
      cases answered
      exact total_recorded w entry c
    · exact sweeping.elim
  rw [rest, once, Journal.total_append, Nat.add_assoc]

variable {interval stop : Delay} {x : Watch World}

/-- The sweeps of a course are all that moves the counters, but for those of the database. -/
theorem total_course (own : IsOwn c) (course : Course inventoryReply Aside interval stop (.start w) x) :
    x.world.total c = w.total c + (x.sweeps.map fun s => Journal.total c s.entries).sum := by
  induction course with
  | refl => rfl
  | tail _ turn ih =>
    cases turn with
    | others w' aside => exact (aside.total c).trans ih
    | wait t later asleep => exact ih
    | halt running told => exact ih
    | sweep w' running due ticked =>
      rw [total_tick own ticked, ih, List.map_append, List.sum_append, Nat.add_assoc]
      rfl

end World

end Rehearsal

end BoxOffice
