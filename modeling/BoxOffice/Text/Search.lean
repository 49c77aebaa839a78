/-!
# Searching texts

A text occurs in another one if the other one has it as a stretch: `occurs_iff`.
-/

namespace BoxOffice.Text

/-- The characters stand together somewhere in others. -/
def occurs (part : List Char) : List Char → Bool
  | [] => part.isEmpty
  | c :: rest => part.isPrefixOf (c :: rest) || occurs part rest

theorem occurs_iff {part cs : List Char} : occurs part cs ↔ part <:+: cs := by
  induction cs with
  | nil => simp [occurs]
  | cons c rest ih => simp [occurs, ih, List.infix_cons_iff]

/-- The text occurs in another one. -/
def occursIn (part text : String) : Bool :=
  occurs part.toList text.toList

end BoxOffice.Text
