import BoxOffice.Registry

/-!
# Changes of registries

Every change of known keys is a map over the entries: `mapValues_eq` and `modify_eq` say so, and
`mapEntries_congr` compares two such maps key by key. How many values have a property, after one of
them was changed or a new one came, is said by `countP_modify` and `countP_set`. Both rest on
`entries_eq`, which cuts the entries at a key.
-/

namespace BoxOffice.Registry

variable {κ α β : Type}

theorem ext_entries {r t : Registry κ α} (h : r.entries = t.entries) : r = t := by
  cases r
  cases t
  cases h
  rfl

/-- Every value changed by a function of its key. -/
def mapEntries (r : Registry κ α) (f : κ → α → β) : Registry κ β where
  entries := r.entries.map fun (k, a) => (k, f k a)
  distinct := by simpa [List.map_map, Function.comp_def] using r.distinct

theorem mapValues_eq (r : Registry κ α) (f : α → β) : r.mapValues f = r.mapEntries fun _ => f :=
  rfl

theorem mapEntries_mapEntries {γ : Type} (r : Registry κ α) (f : κ → α → β) (g : κ → β → γ) :
    (r.mapEntries f).mapEntries g = r.mapEntries fun k a => g k (f k a) :=
  ext_entries List.map_map

@[simp] theorem values_empty : (∅ : Registry κ α).values = [] := rfl

@[simp] theorem values_mapValues (r : Registry κ α) (f : α → β) :
    (r.mapValues f).values = r.values.map f := by
  simp [values, mapValues, List.map_map, Function.comp_def]

variable [DecidableEq κ]

theorem get?_mapEntries (r : Registry κ α) (f : κ → α → β) (key : κ) :
    (r.mapEntries f).get? key = (r.get? key).map (f key) := by
  simp only [get?, mapEntries, List.find?_map, Option.map_map, Function.comp_def]
  cases h : r.entries.find? fun e => e.1 == key with
  | none => rfl
  | some e =>
    have : e.1 = key := by simpa using List.find?_some h
    simp [this]

theorem modify_eq (r : Registry κ α) (key : κ) (f : α → α) :
    r.modify key f = r.mapEntries fun k a => if k = key then f a else a := by
  refine ext_entries (List.map_congr_left fun e _ => ?_)
  dsimp only
  split <;> rfl

/-- A known key gets the value in its place. -/
theorem set_of_get? {r : Registry κ α} {key : κ} {a : α} (there : r.get? key = some a) (b : α) :
    r.set key b = r.modify key fun _ => b := by
  rw [set, dif_pos (by simp [contains_eq_isSome, there])]

/-- A new key comes last. -/
theorem values_set_of_none {r : Registry κ α} {key : κ} (new : r.get? key = none) (b : α) :
    (r.set key b).values = r.values ++ [b] := by
  rw [set, dif_neg (by simp [contains_eq_isSome, new])]
  simp [values]

theorem size_set_of_none {r : Registry κ α} {key : κ} (new : r.get? key = none) (b : α) :
    (r.set key b).size = r.size + 1 := by
  rw [set, dif_neg (by simp [contains_eq_isSome, new])]
  simp [size]

@[simp] theorem size_modify (r : Registry κ α) (key : κ) (f : α → α) :
    (r.modify key f).size = r.size :=
  List.length_map _

/-- A key that is there gets another value, and no other key. -/
theorem get?_modify_of_some {r : Registry κ α} {key : κ} {a : α} (there : r.get? key = some a)
    (f : α → α) (other : κ) :
    (r.modify key f).get? other = if other = key then some (f a) else r.get? other := by
  rw [get?_modify]
  split
  · next here =>
    rw [here, there]
    rfl
  · rfl

/-- A key that is there stands at one place, with its value. -/
theorem entries_eq {r : Registry κ α} {key : κ} {a : α} (h : r.get? key = some a) :
    ∃ before after, r.entries = before ++ (key, a) :: after ∧
      (∀ e ∈ before, e.1 ≠ key) ∧ ∀ e ∈ after, e.1 ≠ key := by
  obtain ⟨⟨k, b⟩, found, rfl⟩ := Option.map_eq_some_iff.1 h
  obtain ⟨hk, before, after, he, hb⟩ := List.find?_eq_some_iff_append.1 found
  obtain rfl : k = key := by simpa using hk
  refine ⟨before, after, he, fun e m => by simpa using hb e m, fun e m heq => ?_⟩
  have nodup := r.distinct
  rw [he, List.map_append, List.nodup_append] at nodup
  have := (List.nodup_cons.1 nodup.2.1).1
  exact this (List.mem_map.2 ⟨e, m, heq⟩)

theorem get?_of_mem {r : Registry κ α} {key : κ} {a : α} (h : (key, a) ∈ r.entries) :
    r.get? key = some a := by
  refine Option.map_eq_some_iff.2 ⟨(key, a), ?_, rfl⟩
  obtain ⟨before, after, he⟩ := List.append_of_mem h
  refine List.find?_eq_some_iff_append.2 ⟨by simp, before, after, he, fun e m => ?_⟩
  have nodup := r.distinct
  rw [he, List.map_append, List.nodup_append] at nodup
  simpa using nodup.2.2 e.1 (List.mem_map.2 ⟨e, m, rfl⟩) key (by simp)

theorem mem_values {r : Registry κ α} {a : α} : a ∈ r.values ↔ ∃ key, r.get? key = some a := by
  constructor
  · intro h
    obtain ⟨⟨k, b⟩, hm, rfl⟩ := List.mem_map.1 h
    exact ⟨k, get?_of_mem hm⟩
  · rintro ⟨key, h⟩
    obtain ⟨before, after, he, -⟩ := entries_eq h
    exact List.mem_map.2 ⟨(key, a), by simp [he], rfl⟩

/-- Values that are named by their keys are found by their names. -/
theorem filter_values {r : Registry κ α} (name : α → κ)
    (named : ∀ key a, r.get? key = some a → name a = key) (key : κ) :
    (r.values.filter fun a => name a = key) = (r.get? key).toList := by
  have other {es : List (κ × α)} (sub : ∀ e ∈ es, e ∈ r.entries) (none : ∀ e ∈ es, e.1 ≠ key) :
      ((es.map Prod.snd).filter fun a => name a = key) = [] := by
    refine List.filter_eq_nil_iff.2 fun a mem => ?_
    obtain ⟨e, there, rfl⟩ := List.mem_map.1 mem
    have named := named e.1 e.2 (get?_of_mem (sub e there))
    simpa [named] using none e there
  cases there : r.get? key with
  | none =>
    refine other (fun e mem => mem) fun e mem same => ?_
    have found : r.get? e.1 = some e.2 := get?_of_mem mem
    rw [same, there] at found
    cases found
  | some a =>
    obtain ⟨before, after, entries, earlier, later⟩ := entries_eq there
    rw [values, entries, List.map_append, List.map_cons, List.filter_append,
      other (fun e mem => by simp [entries, mem]) earlier, List.filter_cons,
      other (fun e mem => by simp [entries, mem]) later]
    simp [named key a there]

/-- The names of values that are named by their keys are the keys. -/
theorem map_values {r : Registry κ α} (name : α → κ)
    (named : ∀ key a, r.get? key = some a → name a = key) :
    r.values.map name = r.entries.map Prod.fst := by
  rw [values, List.map_map]
  exact List.map_congr_left fun e mem => named e.1 e.2 (get?_of_mem mem)

/-- The value of a key changed, among values that are named by their keys. -/
theorem values_modify {r : Registry κ α} (name : α → κ)
    (named : ∀ key a, r.get? key = some a → name a = key) (key : κ) (f : α → α) :
    (r.modify key f).values = r.values.map fun a => if name a = key then f a else a := by
  rw [modify_eq, values, values, mapEntries, List.map_map, List.map_map]
  refine List.map_congr_left fun e mem => ?_
  have same : name e.2 = e.1 := named e.1 e.2 (get?_of_mem mem)
  show (if e.1 = key then f e.2 else e.2) = if name e.2 = key then f e.2 else e.2
  rw [same]

/-- Two maps over the entries agree if they agree on the values that are there. -/
theorem mapEntries_congr {r : Registry κ α} {f g : κ → α → β}
    (h : ∀ key a, r.get? key = some a → f key a = g key a) : r.mapEntries f = r.mapEntries g := by
  refine ext_entries (List.map_congr_left fun e m => ?_)
  have := h e.1 e.2 (get?_of_mem m)
  simp [this]

theorem mapEntries_eq_self {r : Registry κ α} {f : κ → α → α}
    (h : ∀ key a, r.get? key = some a → f key a = a) : r.mapEntries f = r :=
  (mapEntries_congr (g := fun _ a => a) h).trans (ext_entries (List.map_id _))

/-- One value is changed, on a condition that it fulfils. -/
theorem mapEntries_at_of_some {r : Registry κ α} {key : κ} {a : α} {f : α → α} {f? : α → Option α}
    (there : r.get? key = some a) (may : f? a = some (f a)) :
    (r.mapEntries fun k a => if k = key then (f? a).getD a else a) = r.modify key f := by
  rw [modify_eq]
  refine mapEntries_congr fun k b found => ?_
  by_cases same : k = key
  · subst same
    obtain rfl := Option.some.inj (there.symm.trans found)
    rw [if_pos rfl, if_pos rfl, may, Option.getD_some]
  · rw [if_neg same, if_neg same]

/-- One value would be changed on a condition that it does not fulfil, or it is not there. -/
theorem mapEntries_at_of_none {r : Registry κ α} {key : κ} {f? : α → Option α}
    (nothing : (r.get? key).bind f? = none) :
    (r.mapEntries fun k a => if k = key then (f? a).getD a else a) = r := by
  refine mapEntries_eq_self fun k a found => ?_
  split
  · next same =>
    subst same
    rw [found, Option.bind_some] at nothing
    rw [nothing, Option.getD_none]
  · rfl

theorem map_replace_eq_self {es : List (κ × α)} {key : κ} (f : α → α) (h : ∀ e ∈ es, e.1 ≠ key) :
    (es.map fun (k, a) => if k = key then (k, f a) else (k, a)) = es := by
  refine (List.map_congr_left fun e m => ?_).trans (List.map_id _)
  simp [h e m]

/-- A change of one value counts for that value alone. -/
theorem countP_modify {r : Registry κ α} {key : κ} {a : α} (h : r.get? key = some a) (f : α → α)
    (p : α → Bool) :
    (r.modify key f).values.countP p + (if p a then 1 else 0) =
      r.values.countP p + if p (f a) then 1 else 0 := by
  obtain ⟨before, after, he, hb, ha⟩ := entries_eq h
  simp only [values, modify, he, List.map_append, List.map_cons, List.countP_append,
    List.countP_cons, if_true, map_replace_eq_self f hb, map_replace_eq_self f ha]
  omega

/-- A value that comes where none of its like was counts for itself alone. -/
theorem countP_set {r : Registry κ α} {key : κ} {p : α → Bool}
    (h : ∀ a, r.get? key = some a → p a = false) (b : α) :
    (r.set key b).values.countP p = r.values.countP p + if p b then 1 else 0 := by
  cases there : r.get? key with
  | none => simp [values_set_of_none there, List.countP_append, List.countP_cons]
  | some a =>
    have changed := countP_modify there (fun _ => b) p
    rw [set_of_get? there]
    simpa [h a there] using changed

/-- Values of some kind are no more than the things that are told apart by them. -/
theorem countP_values_le {r : Registry κ α} {p : α → Bool} {f : α → β} {l : List β}
    (inj : ∀ k a k' a', r.get? k = some a → r.get? k' = some a' → p a → p a' → f a = f a' → k = k')
    (mem : ∀ k a, r.get? k = some a → p a → f a ∈ l) : r.values.countP p ≤ l.length := by
  have nodup : ((r.entries.filter fun e => p e.2).map fun e => f e.2).Nodup := by
    rw [List.Nodup, List.pairwise_map]
    have distinct : (r.entries.filter fun e => p e.2).Pairwise fun e e' => e.1 ≠ e'.1 :=
      (List.pairwise_map.1 r.distinct).filter _
    refine distinct.imp_of_mem fun {e e'} he he' other same => other ?_
    obtain ⟨m, hp⟩ := List.mem_filter.1 he
    obtain ⟨m', hp'⟩ := List.mem_filter.1 he'
    exact inj e.1 e.2 e'.1 e'.2 (get?_of_mem m) (get?_of_mem m') hp hp' same
  have subset : ((r.entries.filter fun e => p e.2).map fun e => f e.2) ⊆ l := by
    intro b hb
    obtain ⟨e, he, rfl⟩ := List.mem_map.1 hb
    obtain ⟨m, hp⟩ := List.mem_filter.1 he
    exact mem e.1 e.2 (get?_of_mem m) hp
  have le := nodup.length_le_of_subset subset
  rw [List.length_map, ← List.countP_eq_length_filter] at le
  rwa [values, List.countP_map]

end BoxOffice.Registry
