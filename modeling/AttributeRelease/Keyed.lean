/-!
Finite maps from strings, kept as a list of entries with distinct keys. The list order is the order
in which keys were first put in; nothing that is computed from a map may depend on it except through
`entries`.
-/

namespace AttributeRelease

/-- A finite map from strings to `α`. -/
structure Keyed (α : Type) where
  entries : List (String × α)
  keys_nodup : (entries.map Prod.fst).Nodup
  deriving DecidableEq

namespace Keyed

variable {α β : Type}

def empty : Keyed α := ⟨[], .nil⟩

instance : Inhabited (Keyed α) := ⟨empty⟩

/-- The keys, in the order in which they were put in. -/
def keys (m : Keyed α) : List String := m.entries.map Prod.fst

/-- The values, in the order of the keys. -/
def values (m : Keyed α) : List α := m.entries.map Prod.snd

def get? (m : Keyed α) (key : String) : Option α := m.entries.lookup key

def contains (m : Keyed α) (key : String) : Bool := (m.get? key).isSome

/-- Changes the value of a key in a list of entries, or puts the key at the end. -/
def alterEntries (key : String) (f : Option α → α) : List (String × α) → List (String × α)
  | [] => [(key, f none)]
  | (k, v) :: rest => if k = key then (k, f (some v)) :: rest else (k, v) :: alterEntries key f rest

theorem keys_alterEntries (key : String) (f : Option α → α) (es : List (String × α)) :
    (alterEntries key f es).map Prod.fst =
      if key ∈ es.map Prod.fst then es.map Prod.fst else es.map Prod.fst ++ [key] := by
  induction es with
  | nil => simp [alterEntries]
  | cons e rest ih =>
    obtain ⟨k, v⟩ := e
    by_cases h : k = key
    · simp [alterEntries, h]
    · have h' : ¬ key = k := fun e => h e.symm
      simp only [alterEntries, h, if_false, List.map_cons, List.mem_cons, h', false_or, ih]
      split <;> simp_all

theorem alterEntries_nodup (key : String) (f : Option α → α) {es : List (String × α)}
    (h : (es.map Prod.fst).Nodup) : ((alterEntries key f es).map Prod.fst).Nodup := by
  rw [keys_alterEntries]
  split
  · exact h
  · rename_i hk
    exact List.nodup_append.2 ⟨h, by simp, by
      intro a ha b hb e
      simp only [List.mem_singleton] at hb
      exact hk (hb ▸ e ▸ ha)⟩

/-- Changes the value of a key, which may be missing so far. -/
def alter (m : Keyed α) (key : String) (f : Option α → α) : Keyed α :=
  ⟨alterEntries key f m.entries, alterEntries_nodup key f m.keys_nodup⟩

/-- Gives a key a value; the last value given counts. -/
def insert (m : Keyed α) (key : String) (value : α) : Keyed α := m.alter key fun _ => value

/-- The map with these entries; of a repeated key the last one counts. -/
def ofList (entries : List (String × α)) : Keyed α :=
  entries.foldl (fun m e => m.insert e.1 e.2) empty

def filter (m : Keyed α) (p : String → α → Bool) : Keyed α :=
  ⟨m.entries.filter fun e => p e.1 e.2,
    (List.filter_sublist.map Prod.fst).nodup m.keys_nodup⟩

def mapValues (m : Keyed α) (f : String → α → β) : Keyed β :=
  ⟨m.entries.map fun e => (e.1, f e.1 e.2), by
    rw [List.map_map]
    exact m.keys_nodup⟩

def size (m : Keyed α) : Nat := m.entries.length

section Lookup

variable {κ : Type} [BEq κ] [LawfulBEq κ]

theorem lookup_cons_of_ne {key k : κ} (h : key ≠ k) (v : α) (es : List (κ × α)) :
    ((k, v) :: es).lookup key = es.lookup key := by
  rw [List.lookup_cons, beq_false_of_ne h]

theorem lookup_eq_some_iff {es : List (κ × α)} (h : (es.map Prod.fst).Nodup) {key : κ} {value : α} :
    es.lookup key = some value ↔ (key, value) ∈ es := by
  induction es with
  | nil => simp
  | cons e rest ih =>
    obtain ⟨k, v⟩ := e
    obtain ⟨hk, hrest⟩ := List.nodup_cons.1 h
    rw [List.mem_cons, Prod.mk.injEq]
    by_cases hkey : key = k
    · subst hkey
      have hnot : (key, value) ∉ rest := fun hmem => hk (List.mem_map.2 ⟨_, hmem, rfl⟩)
      simp [hnot, eq_comm]
    · rw [lookup_cons_of_ne hkey, ih hrest]
      simp [hkey]

end Lookup

theorem get?_eq_some_iff {m : Keyed α} {key : String} {value : α} :
    m.get? key = some value ↔ (key, value) ∈ m.entries := lookup_eq_some_iff m.keys_nodup

/-- The order of the entries does not matter for reading. -/
theorem get?_of_perm {m m' : Keyed α} (h : m.entries.Perm m'.entries) (key : String) : m.get? key = m'.get? key := by
  refine Option.ext fun value => ?_
  rw [get?_eq_some_iff, get?_eq_some_iff]
  exact h.mem_iff

@[simp] theorem get?_empty (key : String) : (empty : Keyed α).get? key = none := rfl

theorem mem_keys_iff {m : Keyed α} {key : String} : key ∈ m.keys ↔ ∃ value, m.get? key = some value := by
  simp only [keys, List.mem_map, get?_eq_some_iff, Prod.exists, exists_and_right, exists_eq_right]

theorem get?_filter (m : Keyed α) (p : String → α → Bool) (key : String) :
    (m.filter p).get? key = (m.get? key).filter (p key) := by
  refine Option.ext fun value => ?_
  rw [Option.filter_eq_some_iff, get?_eq_some_iff, get?_eq_some_iff]
  exact List.mem_filter

theorem get?_mapValues (m : Keyed α) (f : String → α → β) (key : String) :
    (m.mapValues f).get? key = (m.get? key).map (f key) := by
  refine Option.ext fun value => ?_
  rw [Option.map_eq_some_iff, get?_eq_some_iff]
  simp only [get?_eq_some_iff, mapValues, List.mem_map, Prod.mk.injEq, Prod.exists]
  constructor
  · rintro ⟨k, v, hmem, rfl, hv⟩
    exact ⟨v, hmem, hv⟩
  · rintro ⟨v, hmem, hv⟩
    exact ⟨key, v, hmem, rfl, hv⟩

theorem mapValues_eq_self {m : Keyed α} {f : String → α → α} (h : ∀ e ∈ m.entries, f e.1 e.2 = e.2) :
    m.mapValues f = m := by
  obtain ⟨entries, hnodup⟩ := m
  rw [mapValues, Keyed.mk.injEq]
  calc entries.map (fun e => (e.1, f e.1 e.2))
      = entries.map id := List.map_congr_left fun e he => Prod.ext rfl (h e he)
    _ = entries := List.map_id entries

theorem filter_filter_self (m : Keyed α) (p : String → α → Bool) : (m.filter p).filter p = m.filter p := by
  rw [filter, Keyed.mk.injEq]
  simp only [filter, List.filter_filter, Bool.and_self]

theorem lookup_alterEntries (key : String) (f : Option α → α) (es : List (String × α)) (key' : String) :
    (alterEntries key f es).lookup key' = if key' = key then some (f (es.lookup key)) else es.lookup key' := by
  induction es with
  | nil =>
    by_cases h : key' = key
    · simp [alterEntries, h]
    · rw [alterEntries, lookup_cons_of_ne h, if_neg h]
  | cons e rest ih =>
    obtain ⟨k, v⟩ := e
    by_cases hk : k = key
    · subst hk
      by_cases h : key' = k
      · simp [alterEntries, h]
      · rw [alterEntries, if_pos rfl, if_neg h, lookup_cons_of_ne h, lookup_cons_of_ne h]
    · rw [alterEntries, if_neg hk, lookup_cons_of_ne (fun e => hk e.symm)]
      by_cases h : key' = k
      · subst h
        simp [hk]
      · rw [lookup_cons_of_ne h, lookup_cons_of_ne h, ih]

theorem get?_alter (m : Keyed α) (key : String) (f : Option α → α) (key' : String) :
    (m.alter key f).get? key' = if key' = key then some (f (m.get? key)) else m.get? key' :=
  lookup_alterEntries key f m.entries key'

@[simp] theorem get?_insert_self (m : Keyed α) (key : String) (value : α) :
    (m.insert key value).get? key = some value := by
  rw [insert, get?_alter, if_pos rfl]

theorem get?_insert_of_ne (m : Keyed α) {key key' : String} (h : key' ≠ key) (value : α) :
    (m.insert key value).get? key' = m.get? key' := by
  rw [insert, get?_alter, if_neg h]

theorem ext_entries {m m' : Keyed α} (h : m.entries = m'.entries) : m = m' := by
  obtain ⟨entries, _⟩ := m
  obtain ⟨entries', _⟩ := m'
  obtain rfl : entries = entries' := h
  rfl

theorem alterEntries_of_not_mem {key : String} (f : Option α → α) {es : List (String × α)}
    (h : key ∉ es.map Prod.fst) : alterEntries key f es = es ++ [(key, f none)] := by
  induction es with
  | nil => rfl
  | cons e rest ih =>
    obtain ⟨k, v⟩ := e
    rw [List.map_cons, List.mem_cons, not_or] at h
    rw [alterEntries, if_neg (Ne.symm h.1), ih h.2, List.cons_append]

/-- Entries with new keys are put in as they come. -/
theorem entries_foldl_insert {m : Keyed α} {es : List (String × α)} (h : ((m.entries ++ es).map Prod.fst).Nodup) :
    (es.foldl (fun m e => m.insert e.1 e.2) m).entries = m.entries ++ es := by
  induction es generalizing m with
  | nil => simp
  | cons e rest ih =>
    have hnew : e.1 ∉ m.entries.map Prod.fst := by
      rw [List.map_append, List.nodup_append] at h
      intro hmem
      exact h.2.2 _ hmem _ List.mem_cons_self rfl
    have hentries : (m.insert e.1 e.2).entries = m.entries ++ [e] := alterEntries_of_not_mem _ hnew
    rw [List.foldl_cons, ih, hentries, List.append_assoc, List.singleton_append]
    rw [hentries, List.append_assoc]
    exact h

theorem get?_foldl_insert (m : Keyed α) (es : List (String × α)) (key : String) :
    (es.foldl (fun m e => m.insert e.1 e.2) m).get? key = (es.reverse.lookup key).or (m.get? key) := by
  induction es generalizing m with
  | nil => simp
  | cons e rest ih =>
    rw [List.foldl_cons, ih, List.reverse_cons, List.lookup_append, Option.or_assoc]
    congr 1
    obtain ⟨k, v⟩ := e
    by_cases hkey : key = k
    · subst hkey
      simp
    · rw [get?_insert_of_ne m hkey, lookup_cons_of_ne hkey]
      simp

/-- Of a key that comes more than once the last value counts. -/
theorem get?_ofList (es : List (String × α)) (key : String) : (ofList es).get? key = es.reverse.lookup key := by
  rw [ofList, get?_foldl_insert, get?_empty, Option.or_none]

end Keyed

end AttributeRelease
