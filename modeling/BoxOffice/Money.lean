import BoxOffice.Json.Form
import BoxOffice.Text.Decimal

/-!
# Money

Amounts in whole cents, written with two places.
-/

namespace BoxOffice

/-- An amount of money. -/
structure Money where
  cents : UInt64
  deriving DecidableEq, Repr

namespace Money

/-- No money. -/
def zero : Money := ⟨0⟩

/-- The amount with two places. -/
def render (m : Money) : String :=
  String.ofList (Text.digits (m.cents.toNat / 100) ++
    '.' :: Text.paddedDigits 2 (m.cents.toNat % 100))

instance : JsonForm Money := ⟨fun m => encode m.cents, fun j => (decode j).map Money.mk, none⟩

end Money

end BoxOffice
