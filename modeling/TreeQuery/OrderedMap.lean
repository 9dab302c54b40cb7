set_option autoImplicit false

/-! # Maps that remember the order of insertion

An `OrderedMap κ α` assigns at most one value to a key and lists its keys in the order in which they
were first inserted. Overwriting keeps a key's place, erasing closes the gap. The view of a map is
its list of entries; distinctness of the keys is part of the type, so that a look-up and the list
can never disagree (`get?_eq_some_iff`). -/

namespace TreeQuery

/-- A finite map together with the order in which its keys were inserted. -/
structure OrderedMap (κ α : Type) where
  /-- The entries, oldest first. -/
  entries : List (κ × α)
  nodup_keys : (entries.map Prod.fst).Nodup

namespace OrderedMap

variable {κ α : Type}

@[ext]
theorem ext {m m' : OrderedMap κ α} (h : m.entries = m'.entries) : m = m' := by
  cases m; cases m'; cases h; rfl

instance [DecidableEq κ] [DecidableEq α] : DecidableEq (OrderedMap κ α) := fun m m' =>
  if h : m.entries = m'.entries then isTrue (ext h) else isFalse fun e => h (e ▸ rfl)

/-! ## Views -/

/-- The keys, oldest first. -/
def keys (m : OrderedMap κ α) : List κ := m.entries.map Prod.fst

/-- The number of entries. -/
def size (m : OrderedMap κ α) : Nat := m.entries.length

/-- Whether there is no entry. -/
def isEmpty (m : OrderedMap κ α) : Bool := m.entries.isEmpty

section Lookup

variable [DecidableEq κ]

/-- The value of a key, if it has one. -/
def get? (m : OrderedMap κ α) (k : κ) : Option α :=
  (m.entries.find? fun e => e.1 = k).map Prod.snd

/-- Whether a key has a value. -/
def contains (m : OrderedMap κ α) (k : κ) : Bool := (m.get? k).isSome

end Lookup

/-! ## Changes -/

/-- The map without entries. -/
def empty : OrderedMap κ α := ⟨[], List.nodup_nil⟩

instance : Inhabited (OrderedMap κ α) := ⟨empty⟩

/-- Replace every value, given its key; keys and order stay. -/
def mapValues (m : OrderedMap κ α) (f : κ → α → α) : OrderedMap κ α :=
  ⟨m.entries.map fun e => (e.1, f e.1 e.2), by
    simpa [List.map_map, Function.comp_def] using m.nodup_keys⟩

/-- Keep the entries that satisfy a test, in their order. -/
def filter (m : OrderedMap κ α) (p : κ → α → Bool) : OrderedMap κ α :=
  ⟨m.entries.filter fun e => p e.1 e.2,
    m.nodup_keys.sublist (List.filter_sublist.map Prod.fst)⟩

@[simp] theorem entries_empty : (empty : OrderedMap κ α).entries = [] := rfl

@[simp] theorem keys_empty : (empty : OrderedMap κ α).keys = [] := rfl

@[simp] theorem entries_mapValues (m : OrderedMap κ α) (f : κ → α → α) :
    (m.mapValues f).entries = m.entries.map fun e => (e.1, f e.1 e.2) := rfl

@[simp] theorem entries_filter (m : OrderedMap κ α) (p : κ → α → Bool) :
    (m.filter p).entries = m.entries.filter fun e => p e.1 e.2 := rfl

@[simp] theorem keys_mapValues (m : OrderedMap κ α) (f : κ → α → α) :
    (m.mapValues f).keys = m.keys := by
  simp [keys, List.map_map, Function.comp_def]

theorem keys_filter_sublist (m : OrderedMap κ α) (p : κ → α → Bool) :
    (m.filter p).keys.Sublist m.keys :=
  List.filter_sublist.map Prod.fst

section Changes

variable [DecidableEq κ]

/-- Replace the value of one key, if it has one. -/
def modify (m : OrderedMap κ α) (k : κ) (f : α → α) : OrderedMap κ α :=
  m.mapValues fun k' v => if k' = k then f v else v

/-- Remove a key and its value. -/
def erase (m : OrderedMap κ α) (k : κ) : OrderedMap κ α := m.filter fun k' _ => k' ≠ k

/-- A key without a value is not among the keys. -/
theorem not_mem_keys_of_get?_eq_none {m : OrderedMap κ α} {k : κ} (h : m.get? k = none) :
    k ∉ m.keys := by
  intro hk
  obtain ⟨e, he, rfl⟩ := List.mem_map.1 hk
  simp only [get?, Option.map_eq_none_iff, List.find?_eq_none] at h
  exact h e he (by simp)

/-- Give a key a value: a new key goes to the end, a known one keeps its place. -/
def insert (m : OrderedMap κ α) (k : κ) (v : α) : OrderedMap κ α :=
  if h : m.get? k = none then
    ⟨m.entries ++ [(k, v)], by
      have hk := not_mem_keys_of_get?_eq_none h
      simp only [List.map_append, List.map_cons, List.map_nil]
      refine List.nodup_append.2 ⟨m.nodup_keys, by simp, ?_⟩
      rintro a ha b hb rfl
      exact hk (List.mem_singleton.1 hb ▸ ha)⟩
  else m.modify k fun _ => v

/-! ## Looking up -/

/-- Looking a key up and finding its entry in the list are the same thing. -/
theorem get?_eq_some_iff {m : OrderedMap κ α} {k : κ} {v : α} :
    m.get? k = some v ↔ (k, v) ∈ m.entries := by
  obtain ⟨es, hes⟩ := m
  simp only [get?]
  induction es with
  | nil => simp
  | cons e es ih =>
    obtain ⟨k', v'⟩ := e
    simp only [List.map_cons, List.nodup_cons] at hes
    by_cases hk : k' = k
    · subst hk
      simp only [List.find?_cons_of_pos, decide_true, Option.map_some, Option.some.injEq,
        List.mem_cons, Prod.mk.injEq, true_and]
      refine ⟨fun h => .inl h.symm, fun h => h.elim Eq.symm fun hm => ?_⟩
      exact absurd (List.mem_map.2 ⟨_, hm, rfl⟩) hes.1
    · rw [List.find?_cons_of_neg (by simpa using hk), ih hes.2]
      simp [Ne.symm hk]

theorem contains_iff_mem_keys {m : OrderedMap κ α} {k : κ} : m.contains k = true ↔ k ∈ m.keys := by
  constructor
  · intro h
    obtain ⟨v, hv⟩ := Option.isSome_iff_exists.1 h
    exact List.mem_map.2 ⟨_, get?_eq_some_iff.1 hv, rfl⟩
  · intro h
    by_cases hn : m.get? k = none
    · exact absurd h (not_mem_keys_of_get?_eq_none hn)
    · simpa [contains, Option.isSome_iff_ne_none] using hn

theorem mem_keys_iff {m : OrderedMap κ α} {k : κ} : k ∈ m.keys ↔ ∃ v, m.get? k = some v := by
  rw [← contains_iff_mem_keys, contains, Option.isSome_iff_exists]

theorem get?_eq_none_iff {m : OrderedMap κ α} {k : κ} : m.get? k = none ↔ k ∉ m.keys := by
  rw [← contains_iff_mem_keys, contains, Option.isSome_iff_ne_none, Classical.not_not]

/-! ## Entries by keys -/

/-- The keys whose values pass a test, read off the entries. -/
theorem map_fst_filter_entries (m : OrderedMap κ α) (p : α → Bool) :
    (m.entries.filter fun e => p e.2).map Prod.fst = m.keys.filter fun k => (m.get? k).any p := by
  rw [keys, List.filter_map]
  refine congrArg (List.map Prod.fst) (List.filter_congr fun e he => ?_)
  rw [Function.comp_apply, get?_eq_some_iff.2 he, Option.any_some]

/-- Going through the entries is going through the keys and looking each of them up. -/
theorem flatMap_entries {γ : Type} (m : OrderedMap κ α) (f : κ → α → List γ) :
    (m.entries.flatMap fun e => f e.1 e.2) =
      m.keys.flatMap fun k => (m.get? k).toList.flatMap (f k) := by
  rw [keys, List.flatMap_map, List.flatMap_def, List.flatMap_def]
  refine congrArg List.flatten (List.map_congr_left fun e he => ?_)
  rw [get?_eq_some_iff.2 he, Option.toList_some, List.flatMap_singleton]

theorem map_entries {γ : Type} (m : OrderedMap κ α) (f : κ → α → γ) :
    (m.entries.map fun e => f e.1 e.2) = m.keys.flatMap fun k => (m.get? k).toList.map (f k) := by
  rw [List.map_eq_flatMap, m.flatMap_entries fun k v => [f k v]]
  simp only [List.map_eq_flatMap]

/-- What is made of the entries one by one is the same for two maps exactly if they have the same
keys in the same order, and the same is made of the values of each key. -/
theorem map_entries_eq_iff {β γ : Type} {m : OrderedMap κ α} {m' : OrderedMap κ β} {f : κ → α → γ}
    {u : κ → β → γ} (hkey : ∀ {k k' v v'}, f k v = u k' v' → k = k') :
    (m.entries.map fun e => f e.1 e.2) = (m'.entries.map fun e => u e.1 e.2) ↔
      m.keys = m'.keys ∧
        ∀ {k v v'}, m.get? k = some v → m'.get? k = some v' → f k v = u k v' := by
  constructor
  · intro h
    have hkeys : m.keys = m'.keys := by
      refine List.ext_getElem? fun i => ?_
      have hi := congrArg (·[i]?) h
      simp only [List.getElem?_map] at hi
      rw [keys, keys, List.getElem?_map, List.getElem?_map]
      cases he : m.entries[i]? <;> cases he' : m'.entries[i]? <;>
        simp only [he, he', Option.map_some, Option.map_none, reduceCtorEq, Option.some.injEq]
          at hi ⊢
      exact hkey hi
    refine ⟨hkeys, fun {k v v'} hv hv' => ?_⟩
    have hmem := List.mem_map_of_mem (f := fun e => f e.1 e.2) (get?_eq_some_iff.1 hv)
    rw [h] at hmem
    obtain ⟨⟨k', w⟩, hw, heq⟩ := List.mem_map.1 hmem
    obtain rfl : k = k' := hkey heq.symm
    rw [← get?_eq_some_iff, hv', Option.some.injEq] at hw
    exact hw ▸ heq.symm
  · rintro ⟨hkeys, hvalues⟩
    rw [map_entries, map_entries, ← hkeys, List.flatMap_def, List.flatMap_def]
    refine congrArg List.flatten (List.map_congr_left fun k hk => ?_)
    obtain ⟨v, hv⟩ := mem_keys_iff.1 hk
    obtain ⟨v', hv'⟩ := mem_keys_iff.1 (hkeys ▸ hk)
    rw [hv, hv', Option.toList_some, Option.toList_some, List.map_singleton, List.map_singleton,
      hvalues hv hv']

@[simp] theorem get?_empty (k : κ) : (empty : OrderedMap κ α).get? k = none := rfl

@[simp] theorem entries_erase (m : OrderedMap κ α) (k : κ) :
    (m.erase k).entries = m.entries.filter fun e => e.1 ≠ k := rfl

@[simp] theorem entries_modify (m : OrderedMap κ α) (k : κ) (f : α → α) :
    (m.modify k f).entries = m.entries.map fun e => (e.1, if e.1 = k then f e.2 else e.2) := rfl

@[simp] theorem keys_modify (m : OrderedMap κ α) (k : κ) (f : α → α) :
    (m.modify k f).keys = m.keys := by
  simp [keys, List.map_map, Function.comp_def]

@[simp] theorem keys_erase (m : OrderedMap κ α) (k : κ) :
    (m.erase k).keys = m.keys.filter (· ≠ k) := by
  simp [keys, List.filter_map, Function.comp_def]

/-- A new key is appended. -/
theorem entries_insert_of_get?_eq_none {m : OrderedMap κ α} {k : κ} (h : m.get? k = none) (v : α) :
    (m.insert k v).entries = m.entries ++ [(k, v)] := by
  simp [insert, h]

theorem keys_insert_of_get?_eq_none {m : OrderedMap κ α} {k : κ} (h : m.get? k = none) (v : α) :
    (m.insert k v).keys = m.keys ++ [k] := by
  simp [keys, entries_insert_of_get?_eq_none h]

theorem get?_mapValues (m : OrderedMap κ α) (f : κ → α → α) (k : κ) :
    (m.mapValues f).get? k = (m.get? k).map (f k) := by
  ext v
  simp only [get?_eq_some_iff, entries_mapValues, List.mem_map, Option.map_eq_some_iff,
    Prod.mk.injEq]
  constructor
  · rintro ⟨⟨k', v'⟩, he, rfl, rfl⟩
    exact ⟨v', he, rfl⟩
  · rintro ⟨v', he, rfl⟩
    exact ⟨(k, v'), he, rfl, rfl⟩

theorem get?_filter_eq_some_iff {m : OrderedMap κ α} {p : κ → α → Bool} {k : κ} {v : α} :
    (m.filter p).get? k = some v ↔ m.get? k = some v ∧ p k v = true := by
  simp [get?_eq_some_iff]

theorem get?_modify (m : OrderedMap κ α) (k k' : κ) (f : α → α) :
    (m.modify k f).get? k' = if k' = k then (m.get? k').map f else m.get? k' := by
  ext v
  split
  · next h =>
    subst h
    simp only [get?_eq_some_iff, Option.map_eq_some_iff, entries_modify, List.mem_map,
      Prod.mk.injEq]
    constructor
    · rintro ⟨⟨a, b⟩, he, rfl, rfl⟩
      exact ⟨b, he, by simp⟩
    · rintro ⟨b, hb, rfl⟩
      exact ⟨(k', b), hb, rfl, by simp⟩
  · next h =>
    simp only [get?_eq_some_iff, entries_modify, List.mem_map, Prod.mk.injEq]
    constructor
    · rintro ⟨⟨a, b⟩, he, rfl, rfl⟩
      simpa [h] using he
    · intro hv
      exact ⟨(k', v), hv, rfl, by simp [h]⟩

theorem get?_erase (m : OrderedMap κ α) (k k' : κ) :
    (m.erase k).get? k' = if k' = k then none else m.get? k' := by
  ext v
  split
  · next h => subst h; simp [get?_eq_some_iff]
  · next h => simp [get?_eq_some_iff, h]

theorem get?_insert (m : OrderedMap κ α) (k k' : κ) (v : α) :
    (m.insert k v).get? k' = if k' = k then some v else m.get? k' := by
  by_cases hn : m.get? k = none
  · ext w
    simp only [get?_eq_some_iff, entries_insert_of_get?_eq_none hn, List.mem_append,
      List.mem_singleton, Prod.mk.injEq]
    split
    · next h =>
      subst h
      have : (k', w) ∉ m.entries := fun hm => by simp [get?_eq_some_iff.2 hm] at hn
      simp [this, eq_comm]
    · next h => simp [h, get?_eq_some_iff]
  · obtain ⟨u, hu⟩ := Option.ne_none_iff_exists'.1 hn
    simp only [insert, hn, dite_false, get?_modify]
    split
    · next h => subst h; simp [hu]
    · rfl

theorem mem_keys_insert {m : OrderedMap κ α} {k k' : κ} {v : α} :
    k' ∈ (m.insert k v).keys ↔ k' = k ∨ k' ∈ m.keys := by
  rw [mem_keys_iff, mem_keys_iff, get?_insert]
  split
  · next h => simp [h]
  · next h => simp [h]

end Changes

end OrderedMap

end TreeQuery
