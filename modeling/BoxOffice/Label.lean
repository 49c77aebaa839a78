import BoxOffice.Json.Form

/-!
# Labels

The stages and kinds that records speak of are closed lists of values, each with a label that
stands for it in tables, logs and JSON.
-/

namespace BoxOffice

/-- A closed list of values, each with a label of its own. -/
class Labelled (α : Type) where
  /-- The name of the list itself. -/
  typeName : String
  values : List α
  label : α → String

namespace Labelled

variable {α : Type} [Labelled α]

/-- The value with a label. -/
def ofLabel? (text : String) : Option α :=
  (values (α := α)).find? fun a => label a == text

/-- A value is written as its label, and read also from an object that gives the label `null`. -/
def decodeLabel : Json → Option α
  | .text text => ofLabel? text
  | .object [(text, .null)] => ofLabel? text
  | _ => none

@[reducible] def toForm : JsonForm α where
  encode a := .text (label a)
  decode := decodeLabel

end Labelled

/-- Values that are told apart by their labels. -/
class LawfulLabelled (α : Type) [Labelled α] : Prop where
  ofLabel?_label : ∀ a : α, Labelled.ofLabel? (Labelled.label a) = some a

theorem Labelled.label_inj {α : Type} [Labelled α] [LawfulLabelled α] {a b : α} :
    label a = label b ↔ a = b := by
  refine ⟨fun h => ?_, congrArg label⟩
  have same := LawfulLabelled.ofLabel?_label a
  rw [h, LawfulLabelled.ofLabel?_label] at same
  exact (Option.some.inj same).symm

end BoxOffice
