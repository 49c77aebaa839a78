import BoxOffice.Identifier
import BoxOffice.Label
import BoxOffice.Money

/-!
# Categories

A category is a part of an event's tickets that share a price: numbered seats, or a pool of equal
places on the floor.
-/

namespace BoxOffice

/-- How the places of a category are laid out. -/
inductive Layout
  | seated
  | standing
  deriving DecidableEq, Repr

instance : Labelled Layout where
  typeName := "CategoryKind"
  values := [.seated, .standing]
  label
    | .seated => "SEATED"
    | .standing => "STANDING"

/-- How the places of a category are accounted for. -/
inductive Tracking
  /-- Each seat has a record of its own. -/
  | fixed
  /-- One counter stands for all places. -/
  | flexible
  deriving DecidableEq, Repr

instance : Labelled Tracking where
  typeName := "BookingKind"
  values := [.fixed, .flexible]
  label
    | .fixed => "FIXED"
    | .flexible => "FLEXIBLE"

instance : LawfulLabelled Layout := ⟨fun a => by cases a <;> rfl⟩

instance : JsonForm Layout := Labelled.toForm

instance : LawfulLabelled Tracking := ⟨fun a => by cases a <;> rfl⟩

instance : JsonForm Tracking := Labelled.toForm

/-- A category of an event's tickets. -/
structure Category where
  id : CategoryId
  event : EventId
  name : String
  layout : Layout
  tracking : Tracking
  price : Money
  /-- The capacity. -/
  total : UInt32
  /-- What is left of the pool; it says nothing about numbered seats. -/
  available : UInt32
  deriving DecidableEq, Repr

namespace Category

/-- A category of numbered seats. -/
def seated (id : CategoryId) (event : EventId) (name : String) (price : Money) (seats : UInt32) :
    Category :=
  { id, event, name, layout := .seated, tracking := .fixed, price, total := seats,
    available := seats }

/-- A category with a pool of equal places. -/
def standing (id : CategoryId) (event : EventId) (name : String) (price : Money)
    (capacity : UInt32) : Category :=
  { id, event, name, layout := .standing, tracking := .flexible, price, total := capacity,
    available := capacity }

/-- Reservations in the category name a numbered seat. -/
def isSeated (c : Category) : Bool :=
  c.tracking == .fixed

/-- The fields of a category in JSON. -/
def record : RecordForm Category Category :=
  RecordForm.start Category.mk
    |>.field "id" Category.id
    |>.field "event_id" Category.event
    |>.field "name" Category.name
    |>.field "kind" Category.layout
    |>.field "booking_kind" Category.tracking
    |>.field "price" Category.price
    |>.field "total" Category.total
    |>.field "available" Category.available

instance : JsonForm Category := record.toForm

end Category

end BoxOffice
