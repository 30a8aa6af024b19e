import Mathlib

/-!
Arrays by their sorted distinct values.

Owns the distinct values of an array with where each occurs first, the rows that first show
each value of a key, distinct values in order of appearance, and the search for a value in
sorted entries.
-/

namespace DeepSpark.Lib

section Unique

variable {κ ι : Type} [LinearOrder κ]

/-- `np.unique` with `return_index`. -/
def unique (values : List κ) : List (κ × Nat) :=
  (values.dedup.insertionSort (· ≤ ·)).map fun value => (value, values.idxOf value)

variable {values : List κ}

theorem mem_unique {entry : κ × Nat} :
    entry ∈ unique values ↔ entry.1 ∈ values ∧ entry.2 = values.idxOf entry.1 := by
  rw [unique, List.mem_map]
  constructor
  · rintro ⟨value, isValue, rfl⟩
    exact ⟨List.mem_dedup.mp ((List.mem_insertionSort _).mp isValue), rfl⟩
  · intro ⟨isValue, isIndex⟩
    exact ⟨entry.1, (List.mem_insertionSort _).mpr (List.mem_dedup.mpr isValue), Prod.ext rfl isIndex.symm⟩

theorem getElem?_unique {entry : κ × Nat} (isEntry : entry ∈ unique values) :
    values[entry.2]? = some entry.1 := by
  obtain ⟨isValue, isIndex⟩ := mem_unique.mp isEntry
  rw [isIndex]
  exact List.getElem?_idxOf isValue

theorem unique_keys (values : List κ) : (unique values).map Prod.fst = values.dedup.insertionSort (· ≤ ·) := by
  rw [unique, List.map_map]
  exact List.map_id _

theorem sorted_unique (values : List κ) : ((unique values).map Prod.fst).Pairwise (· < ·) := by
  rw [unique_keys]
  have sorted := List.pairwise_insertionSort (· ≤ ·) values.dedup
  have distinct : (values.dedup.insertionSort (· ≤ ·)).Nodup :=
    (List.perm_insertionSort _ _).nodup_iff.mpr (List.nodup_dedup values)
  exact (sorted.and distinct).imp fun both => lt_of_le_of_ne both.1 both.2

/-- The first row for each value of a key, by ascending values. -/
def firstRows (rows : List ι) (key : ι → κ) : List (κ × ι) :=
  (unique (rows.map key)).filterMap fun (value, index) => rows[index]?.map (value, ·)

theorem mem_firstRows {rows : List ι} {key : ι → κ} {entry : κ × ι} (isEntry : entry ∈ firstRows rows key) :
    entry.2 ∈ rows ∧ key entry.2 = entry.1 := by
  obtain ⟨⟨value, index⟩, isUnique, isRow⟩ := List.mem_filterMap.mp isEntry
  obtain ⟨row, isAt, rfl⟩ := Option.map_eq_some_iff.mp isRow
  have isValue := getElem?_unique isUnique
  rw [List.getElem?_map, isAt] at isValue
  exact ⟨List.mem_of_getElem? isAt, Option.some.inj isValue⟩

theorem exists_firstRow {rows : List ι} {key : ι → κ} {row : ι} (isRow : row ∈ rows) :
    ∃ first, (key row, first) ∈ firstRows rows key := by
  have isEntry : (key row, (rows.map key).idxOf (key row)) ∈ unique (rows.map key) :=
    mem_unique.mpr ⟨List.mem_map_of_mem isRow, rfl⟩
  have isValue := getElem?_unique isEntry
  rw [List.getElem?_map] at isValue
  obtain ⟨first, isAt, _⟩ := Option.map_eq_some_iff.mp isValue
  refine ⟨first, List.mem_filterMap.mpr ⟨_, isEntry, ?_⟩⟩
  dsimp only
  rw [isAt]
  rfl

/-- Every value that a row has is shown by one entry. -/
theorem firstRows_keys (rows : List ι) (key : ι → κ) :
    (firstRows rows key).map Prod.fst = (unique (rows.map key)).map Prod.fst := by
  have asFilter : (unique (rows.map key)).map Prod.fst = (unique (rows.map key)).filterMap (some ∘ Prod.fst) :=
    (congrFun List.filterMap_eq_map _).symm
  rw [firstRows, List.map_filterMap, asFilter]
  apply List.filterMap_congr
  intro entry isEntry
  have isValue := getElem?_unique isEntry
  rw [List.getElem?_map] at isValue
  obtain ⟨row, isAt, _⟩ := Option.map_eq_some_iff.mp isValue
  simp [isAt]

theorem sorted_firstRows (rows : List ι) (key : ι → κ) :
    ((firstRows rows key).map Prod.fst).Pairwise (· < ·) := by
  rw [firstRows_keys]
  exact sorted_unique _

/-- The distinct values, each where it appears first: `values[np.sort(unique_idx)]`. -/
def firstAppearances (values : List κ) : List κ :=
  (((unique values).map Prod.snd).insertionSort (· ≤ ·)).filterMap fun index => values[index]?

theorem firstAppearances_perm (values : List κ) : (firstAppearances values).Perm ((unique values).map Prod.fst) := by
  have sorted := (List.perm_insertionSort (· ≤ ·) ((unique values).map Prod.snd)).filterMap fun index => values[index]?
  have isKeys : ((unique values).map Prod.snd).filterMap (fun index => values[index]?) = (unique values).map Prod.fst := by
    rw [List.filterMap_map, ← List.filterMap_eq_map]
    exact List.filterMap_congr fun entry isEntry => getElem?_unique isEntry
  rwa [isKeys] at sorted

@[simp] theorem mem_firstAppearances {value : κ} :
    value ∈ firstAppearances values ↔ value ∈ values := by
  rw [(firstAppearances_perm values).mem_iff, unique_keys, List.mem_insertionSort, List.mem_dedup]

theorem nodup_firstAppearances (values : List κ) : (firstAppearances values).Nodup := by
  rw [(firstAppearances_perm values).nodup_iff]
  exact (sorted_unique values).imp ne_of_lt

/-- `np.argsort` of entries that are sorted changes nothing. -/
theorem insertionSort_of_sorted {entries : List (κ × ι)} (sorted : (entries.map Prod.fst).Pairwise (· < ·)) :
    entries.insertionSort (fun left right => left.1 ≤ right.1) = entries := by
  apply List.Pairwise.insertionSort_eq
  exact (List.pairwise_map.mp sorted).imp le_of_lt

/-- `np.searchsorted`: how many values are less. -/
def searchSorted (values : List κ) (value : κ) : Nat := (values.takeWhile (· < value)).length

theorem getElem?_searchSorted {entries : List (κ × ι)} (sorted : (entries.map Prod.fst).Pairwise (· < ·))
    {entry : κ × ι} (isEntry : entry ∈ entries) : entries[searchSorted (entries.map Prod.fst) entry.1]? = some entry := by
  induction entries with
  | nil => exact nomatch isEntry
  | cons first rest ih =>
    rw [List.map_cons, List.pairwise_cons] at sorted
    rcases List.mem_cons.mp isEntry with rfl | isRest
    · simp [searchSorted]
    · have below : first.1 < entry.1 := sorted.1 entry.1 (List.mem_map_of_mem isRest)
      have found := ih sorted.2 isRest
      simpa [searchSorted, below] using found

/-- `torch.bucketize` with `right=True`: how many of the sorted values are not greater. -/
def bucketize (values : List κ) (value : κ) : Nat := (values.takeWhile (· ≤ value)).length

section

variable (sorted : values.Pairwise (· < ·))

include sorted

theorem mem_takeWhile_le {value other : κ} :
    other ∈ values.takeWhile (· ≤ value) ↔ other ∈ values ∧ other ≤ value := by
  constructor
  · intro member
    have holds := List.all_eq_true.mp (List.all_takeWhile (p := (· ≤ value)) (l := values)) other member
    exact ⟨(List.takeWhile_sublist _).mem member, of_decide_eq_true holds⟩
  · rintro ⟨isValue, notGreater⟩
    induction values with
    | nil => exact isValue
    | cons first rest ih =>
      rw [List.pairwise_cons] at sorted
      rcases List.mem_cons.mp isValue with rfl | isRest
      · rw [List.takeWhile_cons, decide_eq_true notGreater]
        exact List.mem_cons_self
      · have firstToo : first ≤ value := (sorted.1 other isRest).le.trans notGreater
        rw [List.takeWhile_cons, decide_eq_true firstToo]
        exact List.mem_cons_of_mem _ (ih sorted.2 isRest)

theorem bucketize_eq_zero {value : κ}
    (allGreater : ∀ other ∈ values, value < other) : bucketize values value = 0 := by
  rw [bucketize, List.length_eq_zero_iff, List.eq_nil_iff_forall_not_mem]
  intro other member
  obtain ⟨isValue, notGreater⟩ := (mem_takeWhile_le sorted).mp member
  exact absurd notGreater (allGreater other isValue).not_ge

/-- The value before the place of another one is the greatest that does not exceed it. -/
theorem exists_bucketize {value other : κ} (isValue : other ∈ values) (notGreater : other ≤ value) :
    ∃ found, values[bucketize values value - 1]? = some found ∧ 0 < bucketize values value ∧ found ≤ value ∧
      ∀ each ∈ values, each ≤ value → each ≤ found := by
  have member := (mem_takeWhile_le sorted).mpr ⟨isValue, notGreater⟩
  have notEmpty := List.ne_nil_of_mem member
  have positive : 0 < bucketize values value := List.length_pos_of_ne_nil notEmpty
  have isLast := (mem_takeWhile_le sorted).mp (List.getLast_mem notEmpty)
  refine ⟨_, ?_, positive, isLast.2, fun each isEach eachToo => ?_⟩
  · have below : bucketize values value - 1 < (values.takeWhile (· ≤ value)).length := Nat.sub_lt positive Nat.one_pos
    have isPrefix : values.takeWhile (· ≤ value) <+: values := List.takeWhile_prefix _
    rw [List.getElem?_eq_getElem (below.trans_le isPrefix.length_le), ← isPrefix.getElem below, List.getLast_eq_getElem]
    rfl
  · have inWhile := (mem_takeWhile_le sorted).mpr ⟨isEach, eachToo⟩
    have ordered : (values.takeWhile (· ≤ value)).Pairwise (· ≤ ·) :=
      (sorted.sublist (List.takeWhile_sublist _)).imp le_of_lt
    exact ordered.rel_getLast inWhile

theorem head_le {first : κ} (isFirst : values[0]? = some first) :
    ∀ each ∈ values, first ≤ each := by
  cases values with
  | nil => exact nomatch isFirst
  | cons head rest =>
    cases isFirst
    rw [List.pairwise_cons] at sorted
    intro each member
    rcases List.mem_cons.mp member with rfl | isRest
    · exact le_refl _
    · exact (sorted.1 each isRest).le

end

end Unique

end DeepSpark.Lib
