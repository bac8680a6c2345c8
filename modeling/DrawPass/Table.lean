/-
DrawPass/Table.lean

Tables: finite maps that remember the order in which their keys were first
inserted.  Everything in this library that is looked up by a key and also walked
in order is a table: the parameters of a draw, the uniforms of a program, the
targets of a registry, the objects of a device.

A table is a list of entries together with the fact that no key occurs twice, so
`get?` and the list of entries say the same thing (`get?_eq_some_iff`).  Inserting
under a key that is present replaces the value and keeps the position
(`keys_insert`); erasing keeps the order of what is left.
-/

namespace DrawPass

universe u v w

/-- A finite map whose entries stand in the order in which their keys first came in. -/
structure Table (κ : Type u) (α : Type v) where
  /-- The entries, oldest key first. -/
  entries : List (κ × α)
  /-- No key occurs twice. -/
  distinct : (entries.map Prod.fst).Nodup

namespace Table

variable {κ : Type u} {α : Type v} {β : Type w}

/-- The table without entries. -/
def empty : Table κ α := ⟨[], List.nodup_nil⟩

instance : Inhabited (Table κ α) := ⟨empty⟩

instance : EmptyCollection (Table κ α) := ⟨empty⟩

/-- The keys, in the order of their first insertion. -/
def keys (t : Table κ α) : List κ := t.entries.map Prod.fst

/-- The values, in the order of their keys. -/
def values (t : Table κ α) : List α := t.entries.map Prod.snd

/-- How many keys the table holds. -/
def size (t : Table κ α) : Nat := t.entries.length

/-- Whether the table holds no key. -/
def isEmpty (t : Table κ α) : Bool := t.entries.isEmpty

/-- Change every value, keeping keys and order. -/
def mapValues (f : α → β) (t : Table κ α) : Table κ β where
  entries := t.entries.map fun e => (e.1, f e.2)
  distinct := by
    have h := t.distinct
    simpa [Function.comp_def] using h

/-- Keep the entries that satisfy a test, in their order. -/
def filter (p : κ → α → Bool) (t : Table κ α) : Table κ α where
  entries := t.entries.filter fun e => p e.1 e.2
  distinct := t.distinct.sublist (List.filter_sublist.map Prod.fst)

variable [DecidableEq κ]

/-- The value of a key in a list of entries. -/
def find (k : κ) : List (κ × α) → Option α
  | [] => none
  | (k', a) :: es => if k' = k then some a else find k es

/-- Replace the value of a key where it stands, or add it at the end. -/
def put (k : κ) (a : α) : List (κ × α) → List (κ × α)
  | [] => [(k, a)]
  | (k', b) :: es => if k' = k then (k, a) :: es else (k', b) :: put k a es

theorem mem_keys_put (k k' : κ) (a : α) (es : List (κ × α)) :
    k' ∈ (put k a es).map Prod.fst ↔ k' = k ∨ k' ∈ es.map Prod.fst := by
  induction es with
  | nil => simp [put]
  | cons e es ih =>
    obtain ⟨k₀, b⟩ := e
    by_cases h : k₀ = k
    · subst h
      simp [put]
    · simp only [put, if_neg h, List.map_cons, List.mem_cons, ih]
      constructor
      · rintro (h₁ | h₁ | h₁) <;> simp [h₁]
      · rintro (h₁ | h₁ | h₁) <;> simp [h₁]

theorem nodup_keys_put (k : κ) (a : α) {es : List (κ × α)}
    (h : (es.map Prod.fst).Nodup) : ((put k a es).map Prod.fst).Nodup := by
  induction es with
  | nil => simp [put]
  | cons e es ih =>
    obtain ⟨k₀, b⟩ := e
    rw [List.map_cons, List.nodup_cons] at h
    by_cases hk : k₀ = k
    · subst hk
      simpa [put] using h
    · simp only [put, if_neg hk, List.map_cons, List.nodup_cons, mem_keys_put, not_or]
      exact ⟨⟨hk, h.1⟩, ih h.2⟩

/-- The value of a key. -/
def get? (t : Table κ α) (k : κ) : Option α := find k t.entries

/-- Whether a key is present. -/
def contains (t : Table κ α) (k : κ) : Bool := (t.get? k).isSome

/-- Set the value of a key; a key that is present keeps its position. -/
def insert (t : Table κ α) (k : κ) (a : α) : Table κ α :=
  ⟨put k a t.entries, nodup_keys_put k a t.distinct⟩

/-- Remove a key, keeping the order of the others. -/
def erase (t : Table κ α) (k : κ) : Table κ α := t.filter fun k' _ => !decide (k' = k)

/-- Change the value of a key that is present; other tables stay as they are. -/
def modify (t : Table κ α) (k : κ) (f : α → α) : Table κ α :=
  match t.get? k with
  | some a => t.insert k (f a)
  | none => t

/-- The table of a list of pairs, inserted in order. -/
def ofList (es : List (κ × α)) : Table κ α :=
  es.foldl (fun t e => t.insert e.1 e.2) empty

theorem find_put (k k' : κ) (a : α) (es : List (κ × α)) :
    find k' (put k a es) = if k = k' then some a else find k' es := by
  induction es with
  | nil => simp [put, find]
  | cons e es ih =>
    obtain ⟨k₀, b⟩ := e
    by_cases h : k₀ = k
    · subst h
      by_cases h' : k₀ = k' <;> simp [put, find, h']
    · by_cases h' : k₀ = k'
      · subst h'
        have : ¬ k = k₀ := fun hk => h hk.symm
        simp [put, find, h, this]
      · simp [put, find, h, h', ih]

@[simp] theorem get?_empty (k : κ) : (empty : Table κ α).get? k = none := rfl

/-- A key has the value that was set last. -/
@[simp] theorem get?_insert (t : Table κ α) (k k' : κ) (a : α) :
    (t.insert k a).get? k' = if k = k' then some a else t.get? k' :=
  find_put k k' a t.entries

/-- Inserting adds at most the one key, at the end. -/
theorem keys_insert (t : Table κ α) (k : κ) (a : α) :
    (t.insert k a).keys = if k ∈ t.keys then t.keys else t.keys ++ [k] := by
  suffices h : ∀ es : List (κ × α), (put k a es).map Prod.fst =
      if k ∈ es.map Prod.fst then es.map Prod.fst else es.map Prod.fst ++ [k] from h t.entries
  intro es
  induction es with
  | nil => simp [put]
  | cons e es ih =>
    obtain ⟨k₀, b⟩ := e
    by_cases h : k₀ = k
    · simp [put, h]
    · have h' : ¬ k = k₀ := fun hk => h hk.symm
      simp only [put, if_neg h, List.map_cons, ih, List.mem_cons, h', false_or]
      split <;> simp

theorem mem_keys_insert {t : Table κ α} {k k' : κ} {a : α} :
    k' ∈ (t.insert k a).keys ↔ k' = k ∨ k' ∈ t.keys :=
  mem_keys_put k k' a t.entries

theorem find_eq_some_iff {k : κ} {a : α} {es : List (κ × α)}
    (h : (es.map Prod.fst).Nodup) : find k es = some a ↔ (k, a) ∈ es := by
  induction es with
  | nil => simp [find]
  | cons e es ih =>
    obtain ⟨k₀, b⟩ := e
    rw [List.map_cons, List.nodup_cons] at h
    by_cases hk : k₀ = k
    · subst hk
      have : (k₀, a) ∉ es := fun hm => h.1 (List.mem_map.2 ⟨_, hm, rfl⟩)
      simp [find, this, eq_comm]
    · have hk' : ¬ k = k₀ := fun hk' => hk hk'.symm
      simp [find, hk, hk', ih h.2]

theorem find_eq_none {k : κ} {es : List (κ × α)} (h : k ∉ es.map Prod.fst) : find k es = none := by
  induction es with
  | nil => rfl
  | cons e es ih =>
    obtain ⟨k₀, b⟩ := e
    rw [List.map_cons, List.mem_cons, not_or] at h
    rw [find, if_neg (Ne.symm h.1), ih h.2]

/-- Looking a key up and finding an entry are the same. -/
theorem get?_eq_some_iff {t : Table κ α} {k : κ} {a : α} :
    t.get? k = some a ↔ (k, a) ∈ t.entries :=
  find_eq_some_iff t.distinct

theorem find_filter (p : κ → Bool) (k : κ) (es : List (κ × α)) :
    find k (es.filter fun e => p e.1) = if p k then find k es else none := by
  induction es with
  | nil => simp [find]
  | cons e es ih =>
    obtain ⟨k₀, b⟩ := e
    by_cases hp : p k₀ <;> by_cases h : k₀ = k <;> simp_all [find]

/-- A key that has been removed is absent; the others keep their values. -/
@[simp] theorem get?_erase (t : Table κ α) (k k' : κ) :
    (t.erase k).get? k' = if k' = k then none else t.get? k' := by
  have h := find_filter (fun k' => !decide (k' = k)) k' t.entries
  by_cases hk : k' = k <;> simp_all [erase, filter, get?]

/-- Changing the value of a key changes nothing else. -/
@[simp] theorem get?_modify (t : Table κ α) (k k' : κ) (f : α → α) :
    (t.modify k f).get? k' = if k = k' then (t.get? k').map f else t.get? k' := by
  unfold modify
  split
  · rename_i a h
    by_cases hk : k = k'
    · subst hk
      simp [h]
    · simp [hk]
  · rename_i h
    by_cases hk : k = k'
    · subst hk
      simp [h]
    · simp [hk]

/-- A key is listed if it has a value. -/
theorem mem_keys_iff {t : Table κ α} {k : κ} : k ∈ t.keys ↔ (t.get? k).isSome := by
  constructor
  · intro h
    obtain ⟨⟨_, a⟩, hm, rfl⟩ := List.mem_map.1 h
    rw [get?_eq_some_iff.2 hm]
    rfl
  · intro h
    obtain ⟨a, ha⟩ := Option.isSome_iff_exists.1 h
    exact List.mem_map.2 ⟨_, get?_eq_some_iff.1 ha, rfl⟩

omit [DecidableEq κ] in
theorem length_keys (t : Table κ α) : t.keys.length = t.size := List.length_map ..

@[simp] theorem keys_modify (t : Table κ α) (k : κ) (f : α → α) :
    (t.modify k f).keys = t.keys := by
  unfold modify
  split
  · rename_i a h
    have hk : k ∈ t.keys := mem_keys_iff.2 (by rw [h]; rfl)
    rw [keys_insert, if_pos hk]
  · rfl

theorem mem_keys_modify {t : Table κ α} {k k' : κ} {f : α → α} :
    k' ∈ (t.modify k f).keys ↔ k' ∈ t.keys := by
  rw [keys_modify]

@[simp] theorem size_modify (t : Table κ α) (k : κ) (f : α → α) :
    (t.modify k f).size = t.size := by
  rw [← length_keys, keys_modify, length_keys]

/-- A key that was absent makes the table longer by one. -/
theorem size_insert (t : Table κ α) (k : κ) (a : α) :
    (t.insert k a).size = if k ∈ t.keys then t.size else t.size + 1 := by
  rw [← length_keys, keys_insert]
  split
  · exact length_keys t
  · rw [List.length_append, length_keys, List.length_singleton]

/-- A key that was absent comes last, with its value. -/
theorem entries_insert {t : Table κ α} {k : κ} (h : k ∉ t.keys) (a : α) :
    (t.insert k a).entries = t.entries ++ [(k, a)] := by
  suffices hput : ∀ es : List (κ × α), k ∉ es.map Prod.fst → put k a es = es ++ [(k, a)] from
    hput t.entries h
  intro es hes
  induction es with
  | nil => rfl
  | cons e es ih =>
    rw [List.map_cons, List.mem_cons, not_or] at hes
    simp only [put, if_neg (Ne.symm hes.1), ih hes.2, List.cons_append]

theorem values_insert {t : Table κ α} {k : κ} (h : k ∉ t.keys) (a : α) :
    (t.insert k a).values = t.values ++ [a] := by
  unfold values
  rw [entries_insert h, List.map_append]
  rfl

theorem keys_erase (t : Table κ α) (k : κ) :
    (t.erase k).keys = t.keys.filter fun k' => !decide (k' = k) := by
  unfold keys erase filter
  rw [List.filter_map]
  rfl

theorem mem_keys_erase {t : Table κ α} {k k' : κ} :
    k' ∈ (t.erase k).keys ↔ k' ∈ t.keys ∧ k' ≠ k := by
  rw [keys_erase, List.mem_filter]
  simp

/-- Removing an absent key changes nothing. -/
theorem entries_erase_of_notMem {t : Table κ α} {k : κ} (h : k ∉ t.keys) :
    (t.erase k).entries = t.entries := by
  refine List.filter_eq_self.2 fun e he => ?_
  have hne : e.1 ≠ k := fun hk => h (hk ▸ List.mem_map_of_mem he)
  simp [hne]

end Table

end DrawPass
