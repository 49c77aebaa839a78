import BoxOffice.Json.Form
import BoxOffice.Time.Instant

/-!
# Delays

Lengths of time that are never negative and count at most 2^64 - 1 whole seconds. They are compared
and added by their nanoseconds (`le_def`, `lt_def`, `nanos_add`).
-/

namespace BoxOffice

/-- A length of time, in nanoseconds. -/
structure Delay where
  nanos : Nat
  deriving DecidableEq, Repr

namespace Delay

/-- No time at all. -/
def zero : Delay := ⟨0⟩

/-- A delay of whole seconds. -/
def ofSeconds (seconds : Nat) : Delay :=
  ⟨seconds * 1000000000⟩

/-- A delay of whole milliseconds. -/
def ofMillis (millis : Nat) : Delay :=
  ⟨millis * 1000000⟩

/-- The whole seconds of a delay. -/
def seconds (d : Delay) : Nat :=
  d.nanos / 1000000000

/-- The nanoseconds beyond the whole seconds. -/
def subsecond (d : Delay) : Nat :=
  d.nanos % 1000000000

/-- One more than the greatest number of whole seconds. -/
def secondsBound : Nat := Nat.pow 2 64

/-- The delay of some seconds and nanoseconds, of which a billion carry into a second. -/
def ofParts? (seconds nanos : Nat) : Option Delay :=
  if seconds + nanos / 1000000000 < secondsBound then
    some ⟨seconds * 1000000000 + nanos⟩
  else none

instance : Add Delay := ⟨fun a b => ⟨a.nanos + b.nanos⟩⟩

instance : LT Delay := ⟨fun a b => a.nanos < b.nanos⟩

instance : LE Delay := ⟨fun a b => a.nanos ≤ b.nanos⟩

instance (a b : Delay) : Decidable (a < b) := inferInstanceAs (Decidable (a.nanos < b.nanos))

instance (a b : Delay) : Decidable (a ≤ b) := inferInstanceAs (Decidable (a.nanos ≤ b.nanos))

/-- A delay a number of times over. -/
def times (n : Nat) (d : Delay) : Delay :=
  ⟨n * d.nanos⟩

theorem le_def {a b : Delay} : a ≤ b ↔ a.nanos ≤ b.nanos := Iff.rfl

theorem lt_def {a b : Delay} : a < b ↔ a.nanos < b.nanos := Iff.rfl

theorem nanos_add (a b : Delay) : (a + b).nanos = a.nanos + b.nanos := rfl

theorem add_assoc (a b c : Delay) : a + b + c = a + (b + c) :=
  congrArg mk (Nat.add_assoc _ _ _)

theorem times_succ (n : Nat) (d : Delay) : d.times (n + 1) = d.times n + d :=
  congrArg mk (Nat.succ_mul n d.nanos)

/-- The seconds and nanoseconds that a delay is written as. -/
structure Parts where
  secs : UInt64
  nanos : UInt32

instance : JsonForm Parts :=
  (RecordForm.start Parts.mk |>.field "secs" Parts.secs |>.field "nanos" Parts.nanos).toForm

instance : JsonForm Delay where
  encode d := encode (Parts.mk (UInt64.ofNat d.seconds) (UInt32.ofNat d.subsecond))
  decode j := (decode j).bind fun (p : Parts) => ofParts? p.secs.toNat p.nanos.toNat

end Delay

end BoxOffice
