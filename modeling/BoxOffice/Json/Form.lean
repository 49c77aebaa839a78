import BoxOffice.Json.Value

/-!
# JSON forms

A type's JSON form is a pair of functions. The form of a record is put together from its fields:
it is written as an object with every field in order, and read from an object whose members may
come in any order and among others, or from a list of exactly its fields. Fields of different names
are found again in the object that is written of them (`Json.fields?_zip`).
-/

namespace BoxOffice

variable {α β ρ : Type}

/-- How the values of a type are written in JSON and read from it. -/
class JsonForm (α : Type) where
  encode : α → Json
  decode : Json → Option α
  /-- The value of a member that an object does not have, if the type has one. -/
  absent : Option α := none

export JsonForm (encode decode)

instance : JsonForm Bool where
  encode := .bool
  decode
    | .bool b => some b
    | _ => none

instance : JsonForm String where
  encode := .text
  decode := Json.text?

/-- The integer of a value when it lies between two bounds. -/
def Json.intBetween? (low high : Int) (j : Json) : Option Int :=
  j.int?.filter fun n => low ≤ n && n ≤ high

instance : JsonForm Int32 where
  encode n := .ofInt n.toInt
  decode j := (j.intBetween? (-2147483648) 2147483647).map Int32.ofInt

instance : JsonForm Int64 where
  encode n := .ofInt n.toInt
  decode j := (j.intBetween? (-9223372036854775808) 9223372036854775807).map Int64.ofInt

instance : JsonForm UInt16 where
  encode n := .ofNat n.toNat
  decode j := (j.intBetween? 0 65535).map fun n => UInt16.ofNat n.toNat

instance : JsonForm UInt32 where
  encode n := .ofNat n.toNat
  decode j := (j.intBetween? 0 4294967295).map fun n => UInt32.ofNat n.toNat

instance : JsonForm UInt64 where
  encode n := .ofNat n.toNat
  decode j := (j.intBetween? 0 18446744073709551615).map fun n => UInt64.ofNat n.toNat

/-- A value or `null`; a member that is not there reads as `null`. -/
instance [JsonForm α] : JsonForm (Option α) where
  encode
    | none => .null
    | some a => encode a
  decode
    | .null => some none
    | j => (decode j).map some
  absent := some none

instance [JsonForm α] : JsonForm (List α) where
  encode as := .list (as.map encode)
  decode
    | .list items => items.mapM decode
    | _ => none

/-- The one value that a list of members gives a name; `some none` when it gives none, `none` when
it gives several. -/
def Json.member? (members : List (String × Json)) (name : String) : Option (Option Json) :=
  match members.filter fun m => m.1 == name with
  | [] => some none
  | [(_, v)] => some (some v)
  | _ => none

/-- The values that a record's form gives the fields with these names. -/
def Json.fields? (names : List String) : Json → Option (List (Option Json))
  | .object members => names.mapM (Json.member? members)
  | .list items => if items.length = names.length then some (items.map some) else none
  | _ => none

theorem Json.member?_of_absent {before after : List (String × Json)} {name : String} {value : Json}
    (h₁ : name ∉ before.map Prod.fst) (h₂ : name ∉ after.map Prod.fst) :
    Json.member? (before ++ (name, value) :: after) name = some (some value) := by
  have none_of {l : List (String × Json)} (h : name ∉ l.map Prod.fst) :
      l.filter (fun m => m.1 == name) = [] := by
    rw [List.filter_eq_nil_iff]
    intro m hm e
    exact h (List.mem_map.2 ⟨m, hm, by simpa using e⟩)
  simp [Json.member?, none_of h₁, none_of h₂]

theorem Json.mapM_member?_zip (before : List (String × Json)) :
    ∀ (names : List String) (values : List Json), values.length = names.length →
      (before.map Prod.fst ++ names).Nodup →
      names.mapM (Json.member? (before ++ names.zip values)) = some (values.map some)
  | [], [], _, _ => rfl
  | name :: names, value :: values, h, distinct => by
    have h : values.length = names.length := by simpa using h
    have hzip : (names.zip values).map Prod.fst = names := List.map_fst_zip (by omega)
    have rest := Json.mapM_member?_zip (before ++ [(name, value)]) names values h
      (by simpa using distinct)
    rw [List.append_assoc, List.singleton_append] at rest
    have h₁ : name ∉ before.map Prod.fst := by
      intro hm
      have := (List.nodup_append.1 distinct).2.2 name hm name (by simp)
      exact this rfl
    have h₂ : name ∉ (names.zip values).map Prod.fst := by
      rw [hzip]
      exact (List.nodup_cons.1 (List.nodup_append.1 distinct).2.1).1
    rw [List.zip_cons_cons, List.mapM_cons, Json.member?_of_absent h₁ h₂, rest]
    rfl

theorem Json.fields?_zip {names : List String} {values : List Json}
    (length : values.length = names.length) (distinct : names.Nodup) :
    Json.fields? names (.object (names.zip values)) = some (values.map some) :=
  Json.mapM_member?_zip [] names values length (by simpa using distinct)

/-- The fields of a record `ρ` read so far, as arguments of a function with result `α`. -/
structure RecordForm (ρ α : Type) where
  names : List String
  write : ρ → List Json
  read : List (Option Json) → Option (α × List (Option Json))

namespace RecordForm

/-- The form of a record of no fields. -/
def start (make : α) : RecordForm ρ α where
  names := []
  write _ := []
  read values := some (make, values)

/-- The value of a field. -/
def fieldValue? [JsonForm β] : Option Json → Option β
  | some j => decode j
  | none => JsonForm.absent

/-- A further field. -/
def field [JsonForm β] (form : RecordForm ρ (β → α)) (name : String) (get : ρ → β) :
    RecordForm ρ α where
  names := form.names ++ [name]
  write r := form.write r ++ [encode (get r)]
  read values := do
    match ← form.read values with
    | (make, value :: rest) => return (make (← fieldValue? value), rest)
    | (_, []) => none

/-- The JSON form of a record with these fields. -/
@[reducible] def toForm (form : RecordForm ρ ρ) : JsonForm ρ where
  encode r := .object (form.names.zip (form.write r))
  decode j := do
    match ← form.read (← j.fields? form.names) with
    | (r, []) => some r
    | _ => none

end RecordForm

end BoxOffice
