import Mathlib

/-!
Python's `dict`: entries in insertion order, each key once.

Owns lookup, assignment, deletion, the sum of the values, and what each of them does
to every key.
-/

namespace DeepSpark.Lib

theorem find?_key {α κ : Type} [DecidableEq κ] {key : α → κ} {items : List α}
    (distinct : (items.map key).Nodup) {item : α} (member : item ∈ items) :
    items.find? (fun other => key other == key item) = some item := by
  cases found : items.find? fun other => key other == key item with
  | none => simpa using List.find?_eq_none.mp found item member
  | some other =>
    have same : key other = key item := by simpa using List.find?_some found
    rw [List.inj_on_of_nodup_map distinct (List.mem_of_find?_eq_some found) member same]

/-- A dictionary with its entries in insertion order. -/
structure PyDict (κ α : Type) where
  entries : List (κ × α)
  nodup : (entries.map Prod.fst).Nodup

namespace PyDict

variable {κ α : Type} [DecidableEq κ]

def empty : PyDict κ α := ⟨[], List.nodup_nil⟩

def keys (dict : PyDict κ α) : List κ := dict.entries.map Prod.fst

/-- `d.get(key)`. -/
def get? (dict : PyDict κ α) (key : κ) : Option α := dict.entries.lookup key

private def replaced (key : κ) (value : α) (entries : List (κ × α)) : List (κ × α) :=
  entries.map fun entry => if entry.1 = key then (key, value) else entry

private theorem replaced_keys (key : κ) (value : α) (entries : List (κ × α)) :
    (replaced key value entries).map Prod.fst = entries.map Prod.fst := by
  rw [replaced, List.map_map]
  apply List.map_congr_left
  intro entry _
  show (if entry.1 = key then (key, value) else entry).1 = entry.1
  by_cases same : entry.1 = key
  · rw [if_pos same, same]
  · rw [if_neg same]

/-- `d[key] = value`: a known key keeps its place, a new one goes last. -/
def set (dict : PyDict κ α) (key : κ) (value : α) : PyDict κ α :=
  if isKnown : key ∈ dict.keys then
    ⟨replaced key value dict.entries, by rw [replaced_keys]; exact dict.nodup⟩
  else
    ⟨dict.entries ++ [(key, value)], by
      rw [List.map_append, List.map_singleton]
      exact List.nodup_append.mpr ⟨dict.nodup, List.nodup_singleton key, by
        intro left inLeft right inRight same
        rw [List.mem_singleton] at inRight
        subst same inRight
        exact isKnown inLeft⟩⟩

/-- `del d[key]`, or nothing for a missing key. -/
def erase (dict : PyDict κ α) (key : κ) : PyDict κ α :=
  ⟨dict.entries.filter fun entry => entry.1 ≠ key,
    dict.nodup.sublist (List.filter_sublist.map Prod.fst)⟩

@[simp] theorem get?_empty (key : κ) : (empty : PyDict κ α).get? key = none := rfl

theorem mem_entries {dict : PyDict κ α} {key : κ} {value : α} :
    (key, value) ∈ dict.entries ↔ dict.get? key = some value := by
  obtain ⟨entries, nodup⟩ := dict
  show (key, value) ∈ entries ↔ entries.lookup key = some value
  induction entries with
  | nil => simp
  | cons entry rest ih =>
    obtain ⟨headKey, headValue⟩ := entry
    rw [List.map_cons, List.nodup_cons] at nodup
    rw [List.mem_cons, List.lookup_cons]
    by_cases same : key = headKey
    · subst same
      rw [beq_self_eq_true]
      constructor
      · rintro (isHead | inRest)
        · rw [(Prod.mk.injEq _ _ _ _).mp isHead |>.2]
        · exact absurd (List.mem_map_of_mem inRest) nodup.1
      · intro read
        cases read
        exact .inl rfl
    · rw [beq_false_of_ne same, ih nodup.2]
      constructor
      · rintro (isHead | inRest)
        · exact absurd ((Prod.mk.injEq _ _ _ _).mp isHead |>.1) same
        · exact inRest
      · exact .inr

theorem mem_keys {dict : PyDict κ α} {key : κ} :
    key ∈ dict.keys ↔ ∃ value, dict.get? key = some value := by
  rw [keys, List.mem_map]
  constructor
  · rintro ⟨⟨_, value⟩, member, rfl⟩
    exact ⟨value, mem_entries.mp member⟩
  · rintro ⟨value, read⟩
    exact ⟨(key, value), mem_entries.mpr read, rfl⟩

theorem get?_eq_none {dict : PyDict κ α} {key : κ} : dict.get? key = none ↔ key ∉ dict.keys := by
  rw [mem_keys]
  cases dict.get? key <;> simp

omit [DecidableEq κ] in
theorem keys_nodup (dict : PyDict κ α) : dict.keys.Nodup := dict.nodup

@[simp] theorem get?_set_self (dict : PyDict κ α) (key : κ) (value : α) :
    (dict.set key value).get? key = some value := by
  rw [← mem_entries]
  unfold set
  split
  next isKnown =>
    obtain ⟨old, read⟩ := mem_keys.mp isKnown
    exact List.mem_map.mpr ⟨(key, old), mem_entries.mpr read, if_pos rfl⟩
  next =>
    exact List.mem_append_right _ (List.mem_singleton_self _)

theorem get?_set_of_ne (dict : PyDict κ α) {key other : κ} (value : α) (differ : other ≠ key) :
    (dict.set key value).get? other = dict.get? other := by
  apply Option.ext
  intro found
  rw [← mem_entries, ← mem_entries]
  unfold set
  split
  next =>
    show (other, found) ∈ replaced key value dict.entries ↔ _
    rw [replaced, List.mem_map]
    constructor
    · rintro ⟨entry, member, isEntry⟩
      by_cases same : entry.1 = key
      · rw [if_pos same] at isEntry
        exact absurd ((Prod.mk.injEq _ _ _ _).mp isEntry |>.1.symm) differ
      · rw [if_neg same] at isEntry
        exact isEntry ▸ member
    · exact fun member => ⟨(other, found), member, if_neg differ⟩
  next =>
    rw [List.mem_append, List.mem_singleton]
    constructor
    · rintro (member | isNew)
      · exact member
      · exact absurd ((Prod.mk.injEq _ _ _ _).mp isNew |>.1) differ
    · exact .inl

@[simp] theorem get?_erase_self (dict : PyDict κ α) (key : κ) : (dict.erase key).get? key = none := by
  rw [get?_eq_none]
  show key ∉ (dict.entries.filter fun entry => entry.1 ≠ key).map Prod.fst
  rw [List.mem_map]
  rintro ⟨entry, member, isKey⟩
  have differ := (List.mem_filter.mp member).2
  rw [decide_eq_true_iff] at differ
  exact differ isKey

theorem get?_erase_of_ne (dict : PyDict κ α) {key other : κ} (differ : other ≠ key) :
    (dict.erase key).get? other = dict.get? other := by
  apply Option.ext
  intro found
  rw [← mem_entries, ← mem_entries]
  show (other, found) ∈ dict.entries.filter (fun entry => entry.1 ≠ key) ↔ _
  rw [List.mem_filter, decide_eq_true_iff]
  exact ⟨fun member => member.1, fun member => ⟨member, differ⟩⟩

/-! ## `OrderedDict` -/

def moveToEnd (dict : PyDict κ α) (key : κ) : PyDict κ α :=
  match dict.get? key with
  | some value => (dict.erase key).set key value
  | none => dict

@[simp] theorem get?_moveToEnd (dict : PyDict κ α) (key other : κ) :
    (dict.moveToEnd key).get? other = dict.get? other := by
  unfold moveToEnd
  split
  next value read =>
    by_cases same : other = key
    · rw [same, get?_set_self, read]
    · rw [get?_set_of_ne _ _ same, get?_erase_of_ne _ same]
  next => rfl

/-- `count` times `d.popitem(last=False)`. -/
def popOldest (dict : PyDict κ α) (count : Nat) : PyDict κ α :=
  ⟨dict.entries.drop count, dict.nodup.sublist ((List.drop_sublist count _).map Prod.fst)⟩

theorem get?_set (dict : PyDict κ α) (key other : κ) (value : α) :
    (dict.set key value).get? other = if other = key then some value else dict.get? other := by
  by_cases same : other = key
  · rw [if_pos same, same, get?_set_self]
  · rw [if_neg same, get?_set_of_ne _ _ same]

theorem get?_erase (dict : PyDict κ α) (key other : κ) :
    (dict.erase key).get? other = if other = key then none else dict.get? other := by
  by_cases same : other = key
  · rw [if_pos same, same, get?_erase_self]
  · rw [if_neg same, get?_erase_of_ne _ same]

theorem get?_foldl_erase (keys : List κ) (dict : PyDict κ α) (key : κ) :
    (keys.foldl erase dict).get? key = if key ∈ keys then none else dict.get? key := by
  induction keys generalizing dict with
  | nil => simp
  | cons head rest ih =>
    rw [List.foldl_cons, ih, get?_erase]
    by_cases inRest : key ∈ rest
    · simp [inRest]
    · by_cases isHead : key = head <;> simp [isHead, inRest]

def mapValues {β : Type} (f : α → β) (dict : PyDict κ α) : PyDict κ β :=
  ⟨dict.entries.map fun entry => (entry.1, f entry.2), by
    simpa [Function.comp_def] using dict.nodup⟩

@[simp] theorem get?_mapValues {β : Type} (f : α → β) (dict : PyDict κ α) (key : κ) :
    (dict.mapValues f).get? key = (dict.get? key).map f := by
  obtain ⟨entries, nodup⟩ := dict
  show (entries.map fun entry => (entry.1, f entry.2)).lookup key = (entries.lookup key).map f
  clear nodup
  induction entries with
  | nil => rfl
  | cons entry rest ih =>
    rw [List.map_cons, List.lookup_cons, List.lookup_cons]
    cases key == entry.1 with
    | true => rfl
    | false => exact ih

def append (dict : PyDict κ (List α)) (key : κ) (value : α) : PyDict κ (List α) :=
  dict.set key ((dict.get? key).getD [] ++ [value])

theorem mem_getD_append {dict : PyDict κ (List α)} {key other : κ} {value found : α} :
    found ∈ ((dict.append key value).get? other).getD [] ↔
      found ∈ (dict.get? other).getD [] ∨ other = key ∧ found = value := by
  rw [append, get?_set]
  by_cases same : other = key
  · simp [same]
  · simp [same]

end PyDict

end DeepSpark.Lib
