import BoxOffice.Json.Form
import BoxOffice.Label

/-!
# Errors

An operation that does not succeed answers with an error of one of four kinds and a message for the
caller. Three kinds are the caller's to put right; an internal one may go away by itself.
-/

namespace BoxOffice

/-- The kinds of errors. -/
inductive ErrorKind
  /-- A seat, category or booking does not exist. -/
  | notFound
  /-- The request makes no sense as it stands. -/
  | invalidArgument
  /-- The seat or stock is not to be had, or a hold is not in the state that was expected. -/
  | conflict
  /-- Storage or transport failed. -/
  | internal
  deriving DecidableEq, Repr

instance : Labelled ErrorKind where
  typeName := "ErrorKind"
  values := [.notFound, .invalidArgument, .conflict, .internal]
  label
    | .notFound => "NotFound"
    | .invalidArgument => "InvalidArgument"
    | .conflict => "Conflict"
    | .internal => "Internal"

instance : LawfulLabelled ErrorKind := ⟨fun a => by cases a <;> rfl⟩

instance : JsonForm ErrorKind := Labelled.toForm

namespace ErrorKind

/-- The kind's name in answers and metrics. -/
def name : ErrorKind → String
  | .notFound => "not_found"
  | .invalidArgument => "invalid_argument"
  | .conflict => "conflict"
  | .internal => "internal"

/-- The kind with a name. -/
def ofName? (name : String) : Option ErrorKind :=
  (Labelled.values (α := ErrorKind)).find? fun kind => kind.name == name

/-- The words in front of a message when an error is shown by itself. -/
def title : ErrorKind → String
  | .notFound => "Not found"
  | .invalidArgument => "Invalid argument"
  | .conflict => "Conflict"
  | .internal => "Internal error"

end ErrorKind

/-- Why an operation did not succeed. -/
structure Error where
  kind : ErrorKind
  message : String
  deriving DecidableEq, Repr

namespace Error

/-- The error shown by itself. -/
def display (e : Error) : String :=
  e.kind.title ++ ": " ++ e.message

/-- The caller can put the request right. Only other errors are worth a second try. -/
def isCallerCorrectable (e : Error) : Bool :=
  e.kind != .internal

/-- A second try of the same operation may succeed. -/
def isTransient (e : Error) : Bool :=
  e.kind == .internal

/-- An error is written as an object with its kind as the only name. -/
instance : JsonForm Error where
  encode e := .object [(Labelled.label e.kind, .text e.message)]
  decode
    | .object [(label, .text message)] =>
      (Labelled.ofLabel? label).map fun kind => { kind, message }
    | _ => none

end Error

/-- The answer of an operation: a value, or why there is none. -/
abbrev Result (α : Type) : Type :=
  Except Error α

end BoxOffice
