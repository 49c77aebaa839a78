import BoxOffice.Error
import BoxOffice.Program.Basic

/-!
# Services

A service is a program that ends with a value or with an error; the first error ends it.
-/

namespace BoxOffice

/-- A program that ends with a value or with an error. -/
abbrev Service (I : Interface) (α : Type) : Type :=
  ExceptT Error (Program I) α

namespace Service

variable {I : Interface} {α : Type}

/-- A service whose answer is looked at, whether it is a value or an error. -/
def outcome (s : Service I α) : Service I (Result α) :=
  ExceptT.lift s.run

end Service

end BoxOffice
