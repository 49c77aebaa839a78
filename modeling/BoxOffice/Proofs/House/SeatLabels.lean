import BoxOffice.Proofs.House.Basic

/-!
# Blanks around seat labels

A seat is named by what trimming leaves of a label, and by nothing if nothing is left. The front desk trims
the label of a wish and the inventory that of a request, each in its own place: a request is answered, and
changes what it changes, as the one with the trimmed label (`blanks_never_matter`), and blanks that are put
around a label make no difference (`reserve_surrounded`).
-/

namespace BoxOffice

open Rehearsal

namespace Text

variable {front back : List Char}

theorem trimChars_surround (before : ∀ c ∈ front, isBlankChar c) (after : ∀ c ∈ back, isBlankChar c)
    (cs : List Char) : trimChars (front ++ cs ++ back) = trimChars cs := by
  rw [trimChars, trimChars, List.append_assoc, List.dropWhile_append_of_pos before,
    List.dropWhile_append]
  split
  · next nothing =>
    rw [List.isEmpty_iff.1 nothing, dropBlanks_eq_nil_iff.2 after]
  · rw [List.reverse_append, List.dropWhile_append_of_pos fun c mem => after c (List.mem_reverse.1 mem)]

/-- Blanks around a text are trimmed away. -/
theorem trim_surround (before : ∀ c ∈ front, isBlankChar c) (after : ∀ c ∈ back, isBlankChar c)
    (s : String) : trim (.ofList front ++ s ++ .ofList back) = trim s := by
  simp only [trim, String.toList_append, String.toList_ofList, trimChars_surround before after]

end Text

/-! ### At the inventory -/

/-- The request with its seat label trimmed; a blank label is none. -/
def ReserveRequest.normalized (r : ReserveRequest) : ReserveRequest :=
  { r with seatLabel := (r.seatLabel.map Text.trim).filter fun label => !label.isEmpty }

namespace Reservations

/-- A label that was trimmed is not trimmed further, and one that is left is not blank. -/
theorem trimmed_trimmed (label : Option String) :
    (((label.map Text.trim).filter fun label => !label.isEmpty).map Text.trim).filter
        (fun label => !label.isEmpty) =
      (label.map Text.trim).filter fun label => !label.isEmpty := by
  cases label with
  | none => rfl
  | some label =>
    by_cases nothing : (Text.trim label).isEmpty <;> simp [Option.filter, nothing, Text.trim_trim]

@[simp] theorem namedSeat_normalized (r : ReserveRequest) : namedSeat r.normalized = namedSeat r :=
  trimmed_trimmed r.seatLabel

/-- Of its label a request is asked for nothing but the seat that it names. -/
theorem reserve_congr {r r' : ReserveRequest} (named : namedSeat r = namedSeat r')
    (same : r = { r' with seatLabel := r.seatLabel }) (hold : Span) : reserve hold r = reserve hold r' := by
  obtain ⟨id, event, category, label⟩ := r
  cases same
  simp only [reserve, requestedCategory, reserveSeat, reserveStock, explainSeat, seatToken, stockToken,
    named]

theorem reserve_normalized (hold : Span) (r : ReserveRequest) :
    reserve hold r.normalized = reserve hold r :=
  reserve_congr (namedSeat_normalized r) rfl hold

/-- Blanks around the label of a request make no difference to its reservation. -/
theorem reserve_surrounded {front back : List Char} (before : ∀ c ∈ front, Text.isBlankChar c)
    (after : ∀ c ∈ back, Text.isBlankChar c) (hold : Span) (r : ReserveRequest) (label : String) :
    reserve hold { r with seatLabel := some (.ofList front ++ label ++ .ofList back) } =
      reserve hold { r with seatLabel := some label } := by
  refine reserve_congr ?_ rfl hold
  simp only [namedSeat, Option.map_some, Text.trim_surround before after]

end Reservations

/-! ### At the front desk -/

theorem BookingRequest.normalized_normalized (r : BookingRequest) :
    r.normalized.normalized = r.normalized := by
  rw [normalized, normalized, Reservations.trimmed_trimmed]

theorem Desk.book_normalized (policy : RetryPolicy) (r : BookingRequest) :
    book policy r.normalized = book policy r := by
  rw [book, book, r.normalized_normalized]

/-- **Blanks around a seat label never matter.** Any inventory answers a request for a reservation as it
answers the one with the trimmed label, or with no label if nothing is left of it, and is the same
afterwards; so does a box office with a wish to book, if the booking gets the same identifier. -/
theorem blanks_never_matter :
    (∀ (w : Inventory) (r : ReserveRequest), w.serve (.reserve r.normalized) = w.serve (.reserve r)) ∧
    ∀ (w : House) (fresh : BookingId) (r : BookingRequest),
      (Desk.book w.policy r.normalized).play (House.answer fresh) w =
        (Desk.book w.policy r).play (House.answer fresh) w := by
  constructor
  · intro w r
    show (Reservations.reserve w.hold r.normalized).run.play Inventory.answer w = _
    rw [Reservations.reserve_normalized]
    rfl
  · intro w fresh r
    rw [Desk.book_normalized]

end BoxOffice
