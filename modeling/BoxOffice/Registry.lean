/-!
# Registries

A registry keeps one value for each key, in the order in which the keys came. Reading after a change
is described by `get?_set`, `get?_modify` and `get?_mapValues`.
-/

namespace BoxOffice

/-- Values by key, in the order in which the keys came. -/
structure Registry (κ α : Type) where
  entries : List (κ × α)
  distinct : (entries.map Prod.fst).Nodup

namespace Registry

variable {κ α β : Type}

/-- No keys. -/
def empty : Registry κ α where
  entries := []
  distinct := List.nodup_nil

instance : EmptyCollection (Registry κ α) := ⟨empty⟩

/-- The number of keys. -/
def size (r : Registry κ α) : Nat :=
  r.entries.length

/-- The values, in the order in which their keys came. -/
def values (r : Registry κ α) : List α :=
  r.entries.map Prod.snd

/-- Every value changed. -/
def mapValues (r : Registry κ α) (f : α → β) : Registry κ β where
  entries := r.entries.map fun (k, a) => (k, f a)
  distinct := by simpa [List.map_map, Function.comp_def] using r.distinct

variable [DecidableEq κ]

/-- The value of a key. -/
def get? (r : Registry κ α) (key : κ) : Option α :=
  (r.entries.find? fun e => e.1 == key).map Prod.snd

@[simp] theorem get?_empty (key : κ) : (∅ : Registry κ α).get? key = none := rfl

theorem get?_mapValues (r : Registry κ α) (f : α → β) (key : κ) :
    (r.mapValues f).get? key = (r.get? key).map f := by
  simp [get?, mapValues, List.find?_map, Function.comp_def]

/-- The registry has the key. -/
def contains (r : Registry κ α) (key : κ) : Bool :=
  r.entries.any fun e => e.1 == key

theorem contains_eq_isSome (r : Registry κ α) (key : κ) :
    r.contains key = (r.get? key).isSome := by
  rw [Bool.eq_iff_iff]
  simp [contains, get?, List.find?_isSome]

/-- The value of a key changed in its place; other keys are left alone. -/
def modify (r : Registry κ α) (key : κ) (f : α → α) : Registry κ α where
  entries := r.entries.map fun (k, a) => if k = key then (k, f a) else (k, a)
  distinct := by
    have h : (r.entries.map fun (k, a) => if k = key then (k, f a) else (k, a)).map Prod.fst =
        r.entries.map Prod.fst := by
      rw [List.map_map]
      apply List.map_congr_left
      intro e _
      simp only [Function.comp]
      split <;> rfl
    rw [h]
    exact r.distinct

theorem get?_modify (r : Registry κ α) (key other : κ) (f : α → α) :
    (r.modify key f).get? other =
      if other = key then (r.get? other).map f else r.get? other := by
  simp only [get?, modify]
  induction r.entries with
  | nil => simp
  | cons e rest ih =>
    by_cases hk : e.1 = key <;> by_cases ho : e.1 = other
    · simp [← hk, ← ho]
    · have : other ≠ key := fun h => ho (hk.trans h.symm)
      simp_all
    · have : other ≠ key := fun h => hk (ho.trans h)
      simp_all
    · simp_all

theorem contains_eq_false {r : Registry κ α} {key : κ} :
    r.contains key = false ↔ key ∉ r.entries.map Prod.fst := by
  simp only [contains, List.any_eq_false, beq_iff_eq, List.mem_map, not_exists, not_and]

/-- A key with its value: a known key gets the value in its place, a new one comes last. -/
def set (r : Registry κ α) (key : κ) (value : α) : Registry κ α :=
  if h : r.contains key then r.modify key fun _ => value
  else
    { entries := r.entries ++ [(key, value)]
      distinct := by
        have fresh := contains_eq_false.1 (Bool.not_eq_true _ ▸ h)
        rw [List.map_append, List.nodup_append]
        refine ⟨r.distinct, by simp, ?_⟩
        intro a ha b hb
        simp only [List.map_cons, List.map_nil, List.mem_singleton] at hb
        subst hb
        exact fun e => fresh (e ▸ ha) }

theorem get?_set (r : Registry κ α) (key other : κ) (value : α) :
    (r.set key value).get? other = if other = key then some value else r.get? other := by
  unfold set
  split
  next h =>
    rw [get?_modify]
    rw [contains_eq_isSome, Option.isSome_iff_exists] at h
    obtain ⟨a, ha⟩ := h
    split
    next e => simp [e, ha]
    next => rfl
  next h =>
    have fresh : r.get? key = none := by
      simpa [contains_eq_isSome] using h
    by_cases e : other = key
    · subst e
      simp only [get?, Option.map_eq_none_iff] at fresh
      simp [get?, List.find?_append, fresh]
    · have : (key == other) = false := by simpa using Ne.symm e
      simp [get?, List.find?_append, e, this]

end Registry

end BoxOffice
