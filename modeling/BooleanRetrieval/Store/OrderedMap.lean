/-!
# Maps that keep the order of insertion

A map from strings is kept as a list of entries, each key once, in the order in which the keys came.
Giving a key a new value leaves it in its place.
-/

set_option autoImplicit false

namespace BooleanRetrieval

/-- The entries with the value of a key changed by a function of its old value, or with a new last
entry if the key is not there. -/
def upsertEntry {α : Type} (key : String) (f : Option α → α) :
    List (String × α) → List (String × α)
  | [] => [(key, f none)]
  | (k, value) :: rest =>
    if k = key then (k, f (some value)) :: rest else (k, value) :: upsertEntry key f rest

/-- The keys after an upsert are the old ones and the given one. -/
theorem mem_keys_upsertEntry {α : Type} {key k : String} {f : Option α → α}
    {entries : List (String × α)} :
    k ∈ (upsertEntry key f entries).map Prod.fst ↔ k = key ∨ k ∈ entries.map Prod.fst := by
  induction entries with
  | nil => simp [upsertEntry]
  | cons entry rest ih =>
    obtain ⟨k', value⟩ := entry
    unfold upsertEntry
    split
    · next h => simp [h]
    · simp only [List.map_cons, List.mem_cons, ih, or_left_comm]

/-- An upsert keeps the keys distinct. -/
theorem nodup_keys_upsertEntry {α : Type} {key : String} {f : Option α → α}
    {entries : List (String × α)} (h : (entries.map Prod.fst).Nodup) :
    ((upsertEntry key f entries).map Prod.fst).Nodup := by
  induction entries with
  | nil => simp [upsertEntry]
  | cons entry rest ih =>
    obtain ⟨k, value⟩ := entry
    obtain ⟨hnotin, hrest⟩ := List.nodup_cons.mp h
    unfold upsertEntry
    split
    · exact h
    · next hne =>
      refine List.nodup_cons.mpr ⟨fun hmem => ?_, ih hrest⟩
      rcases mem_keys_upsertEntry.mp hmem with heq | hmem
      · exact hne heq
      · exact hnotin hmem

/-- A map from strings whose entries stand in the order of insertion. -/
structure OrderedMap (α : Type) where
  /-- The entries in the order in which their keys were inserted. -/
  entries : List (String × α)
  /-- Each key has one entry. -/
  nodup : (entries.map Prod.fst).Nodup

namespace OrderedMap

variable {α : Type}

/-- The map without entries. -/
def empty : OrderedMap α := ⟨[], .nil⟩

/-- The keys in the order of insertion. -/
def keys (m : OrderedMap α) : List String :=
  m.entries.map Prod.fst

/-- The values in the order of insertion of their keys. -/
def values (m : OrderedMap α) : List α :=
  m.entries.map Prod.snd

/-- The number of keys. -/
def size (m : OrderedMap α) : Nat :=
  m.entries.length

/-- The value of a key. -/
def get? (m : OrderedMap α) (key : String) : Option α :=
  m.entries.lookup key

/-- Whether a key has an entry. -/
def contains (m : OrderedMap α) (key : String) : Bool :=
  (m.get? key).isSome

/-- The map in which the value of a key is what the function makes of its old value. -/
def upsert (m : OrderedMap α) (key : String) (f : Option α → α) : OrderedMap α :=
  ⟨upsertEntry key f m.entries, nodup_keys_upsertEntry m.nodup⟩

/-- The map in which a key has the given value. -/
def insert (m : OrderedMap α) (key : String) (value : α) : OrderedMap α :=
  m.upsert key fun _ => value

/-- The map in which a key has the given value, unless it has one already. -/
def insertIfNew (m : OrderedMap α) (key : String) (value : α) : OrderedMap α :=
  m.upsert key fun old => old.getD value

/-- Nothing is stored in the empty map. -/
@[simp] theorem get?_empty (key : String) : (empty : OrderedMap α).get? key = none := rfl

/-- A look-up answers with the first entry if it has the key, else with the others. -/
theorem lookup_cons_ite (key k : String) (value : α) (rest : List (String × α)) :
    ((k, value) :: rest).lookup key = if key = k then some value else rest.lookup key := by
  by_cases hk : key = k
  · rw [if_pos hk, hk, List.lookup_cons_self]
  · rw [if_neg hk, List.lookup_cons, beq_eq_false_iff_ne.mpr hk]

/-- A key has a value exactly if the two form an entry. -/
theorem get?_eq_some_iff {m : OrderedMap α} {key : String} {value : α} :
    m.get? key = some value ↔ (key, value) ∈ m.entries := by
  obtain ⟨entries, hnodup⟩ := m
  unfold get?
  dsimp only
  induction entries with
  | nil => simp
  | cons entry rest ih =>
    obtain ⟨k, v⟩ := entry
    obtain ⟨hnew, hrest⟩ := List.nodup_cons.mp hnodup
    rw [lookup_cons_ite, List.mem_cons]
    by_cases hk : key = k
    · subst hk
      have hnone : (key, value) ∉ rest := fun hmem => hnew (List.mem_map.mpr ⟨_, hmem, rfl⟩)
      simp [hnone, eq_comm]
    · simp [hk, ih hrest]

/-- The values are what is stored under some key. -/
theorem mem_values_iff {m : OrderedMap α} {value : α} :
    value ∈ m.values ↔ ∃ key, m.get? key = some value := by
  simp only [values, List.mem_map, get?_eq_some_iff, Prod.exists, exists_eq_right]

/-- Writing under one key changes what is found there and nowhere else. -/
theorem lookup_upsertEntry (key k : String) (f : Option α → α) (entries : List (String × α)) :
    (upsertEntry key f entries).lookup k =
      if k = key then some (f (entries.lookup key)) else entries.lookup k := by
  induction entries with
  | nil => rw [upsertEntry, lookup_cons_ite, List.lookup_nil, List.lookup_nil]
  | cons entry rest ih =>
    obtain ⟨k', value⟩ := entry
    rw [upsertEntry]
    split
    · next hkey =>
      subst hkey
      rw [lookup_cons_ite, lookup_cons_ite, lookup_cons_ite, if_pos rfl]
      split <;> rfl
    · next hkey =>
      rw [lookup_cons_ite, lookup_cons_ite, lookup_cons_ite, if_neg (Ne.symm hkey), ih]
      by_cases hk : k = k'
      · rw [if_pos hk, if_pos hk, if_neg (fun h => hkey (hk ▸ h))]
      · rw [if_neg hk, if_neg hk]

/-- Writing under one key changes what is found there and nowhere else. -/
theorem get?_upsert (m : OrderedMap α) (key k : String) (f : Option α → α) :
    (m.upsert key f).get? k = if k = key then some (f (m.get? key)) else m.get? k :=
  lookup_upsertEntry key k f m.entries

/-- The size is the number of the keys. -/
theorem size_eq_length_keys (m : OrderedMap α) : m.size = m.keys.length :=
  (List.length_map Prod.fst).symm

/-- The keys are those under which something is stored. -/
theorem mem_keys_iff {m : OrderedMap α} {key : String} :
    key ∈ m.keys ↔ ∃ value, m.get? key = some value := by
  simp only [keys, List.mem_map, get?_eq_some_iff, Prod.exists, exists_and_right, exists_eq_right]

/-- Writing under a key keeps the keys in their places and puts a new one at the end. -/
theorem keys_upsertEntry (key : String) (f : Option α → α) (entries : List (String × α)) :
    (upsertEntry key f entries).map Prod.fst =
      if key ∈ entries.map Prod.fst then entries.map Prod.fst
      else entries.map Prod.fst ++ [key] := by
  induction entries with
  | nil => simp [upsertEntry]
  | cons entry rest ih =>
    obtain ⟨k, value⟩ := entry
    unfold upsertEntry
    by_cases hk : k = key
    · simp [hk]
    · have hne : key ≠ k := Ne.symm hk
      by_cases hmem : key ∈ rest.map Prod.fst
      · rw [if_pos hmem] at ih
        simp only [if_neg hk, List.map_cons, ih, List.mem_cons, hmem, or_true, if_true]
      · rw [if_neg hmem] at ih
        simp only [if_neg hk, List.map_cons, ih, List.mem_cons, hmem, hne, or_self, if_false,
          List.cons_append]

/-- An upsert of a new key puts it behind the others. -/
theorem keys_upsert (m : OrderedMap α) (key : String) (f : Option α → α) :
    (m.upsert key f).keys = if key ∈ m.keys then m.keys else m.keys ++ [key] :=
  keys_upsertEntry key f m.entries

/-- Writing under a new key adds an entry at the end. -/
theorem upsertEntry_of_notMem {key : String} {entries : List (String × α)}
    (h : key ∉ entries.map Prod.fst) (f : Option α → α) :
    upsertEntry key f entries = entries ++ [(key, f none)] := by
  induction entries with
  | nil => rfl
  | cons entry rest ih =>
    obtain ⟨k, value⟩ := entry
    rw [List.map_cons, List.mem_cons, not_or] at h
    rw [upsertEntry, if_neg (Ne.symm h.1), ih h.2, List.cons_append]

/-- Inserting new names puts their entries behind the others, in the order in which they come. -/
theorem entries_foldl_insert (members : List (String × α)) (m : OrderedMap α)
    (h : (m.keys ++ members.map Prod.fst).Nodup) :
    (members.foldl (fun m (name, value) => m.insert name value) m).entries =
      m.entries ++ members := by
  induction members generalizing m with
  | nil => exact (List.append_nil _).symm
  | cons entry members ih =>
    obtain ⟨name, value⟩ := entry
    have hnew : name ∉ m.keys := by
      intro hmem
      exact (List.nodup_append.mp h).2.2 name hmem name List.mem_cons_self rfl
    have hentries : (m.insert name value).entries = m.entries ++ [(name, value)] :=
      upsertEntry_of_notMem hnew _
    have hkeys : (m.insert name value).keys = m.keys ++ [name] := by
      unfold keys
      rw [hentries, List.map_append]
      rfl
    rw [List.foldl_cons, ih, hentries, List.append_assoc, List.singleton_append]
    rw [hkeys, List.append_assoc]
    exact h

/-- Writing under a key adds it to the keys. -/
theorem mem_keys_upsert {m : OrderedMap α} {key k : String} {f : Option α → α} :
    k ∈ (m.upsert key f).keys ↔ k = key ∨ k ∈ m.keys :=
  mem_keys_upsertEntry

end OrderedMap

end BooleanRetrieval
