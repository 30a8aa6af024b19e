import DeepSpark.Lib.Launch

/-!
Launches whose programs overwrite what they stored, and stream compaction.

Owns the effect of a launch where every program stores in its own order, and the strip-mined
loop that moves the values of the valid indices to the front of a row and pads the rest.
-/

namespace DeepSpark.Lib

open Function List

section

variable {ι α π : Type} [DecidableEq ι] [DecidableEq π]

/-- A launch over a grid: the stores of a program take effect in its order, anywhere among those of
the other programs. -/
def LaunchedInOrder (grid : List π) (stores : π → List (Store ι α)) (before after : Buffer ι α) : Prop :=
  ∃ order : List (π × Store ι α), (∀ entry ∈ order, entry.1 ∈ grid) ∧
    (∀ program ∈ grid, (order.filter (·.1 = program)).map Prod.snd = stores program) ∧
    after = before.write (order.map Prod.snd)

omit [DecidableEq π] in
theorem Buffer.write_append (buffer : Buffer ι α) (front back : List (Store ι α)) :
    buffer.write (front ++ back) = (buffer.write front).write back :=
  foldl_append

/-- Only the stores to an address count for its contents. -/
theorem Buffer.write_filter {address : ι} {program : π} {order : List (π × Store ι α)}
    (own : ∀ entry ∈ order, entry.2.address = address → entry.1 = program) {before other : Buffer ι α}
    (same : before address = other address) :
    before.write (order.map Prod.snd) address =
      other.write ((order.filter (·.1 = program)).map Prod.snd) address := by
  induction order generalizing before other with
  | nil => exact same
  | cons entry rest ih =>
    have ofRest := fun other member => own other (mem_cons_of_mem entry member)
    rw [map_cons]
    by_cases isOwn : entry.1 = program
    · rw [filter_cons_of_pos (by simpa using isOwn), map_cons]
      refine ih ofRest ?_
      show update before entry.2.address entry.2.value address =
        update other entry.2.address entry.2.value address
      by_cases isAddress : address = entry.2.address
      · rw [isAddress, update_self, update_self]
      · rw [update_of_ne isAddress, update_of_ne isAddress, same]
    · rw [filter_cons_of_neg (by simpa using isOwn)]
      refine ih ofRest ?_
      have elsewhere : address ≠ entry.2.address := fun isAddress =>
        isOwn (own entry mem_cons_self isAddress.symm)
      show update before entry.2.address entry.2.value address = other address
      rw [update_of_ne elsewhere, same]

variable {grid : List π} {stores : π → List (Store ι α)} {before after : Buffer ι α}

/-- An address of one program only holds what the program leaves there. -/
theorem LaunchedInOrder.own (launched : LaunchedInOrder grid stores before after) {program : π}
    (inGrid : program ∈ grid) {address : ι}
    (unique : ∀ other ∈ grid, ∀ store ∈ stores other, store.address = address → other = program) :
    after address = before.write (stores program) address := by
  obtain ⟨order, members, perProgram, rfl⟩ := launched
  rw [← perProgram program inGrid]
  refine Buffer.write_filter (fun entry member isAddress => ?_) rfl
  have inGridToo := members entry member
  refine unique entry.1 inGridToo entry.2 ?_ isAddress
  rw [← perProgram entry.1 inGridToo]
  exact mem_map.mpr ⟨entry, mem_filter.mpr ⟨member, by simp⟩, rfl⟩

/-- The launch that runs the programs one after the other. -/
theorem launchedInOrder_launch (distinct : grid.Nodup) (stores : π → List (Store ι α)) (before : Buffer ι α) :
    LaunchedInOrder grid stores before (launch grid stores before) := by
  refine ⟨grid.flatMap fun program => (stores program).map (Prod.mk program), ?_, ?_, ?_⟩
  · intro entry member
    obtain ⟨program, inGrid, isEntry⟩ := mem_flatMap.mp member
    obtain ⟨store, -, rfl⟩ := mem_map.mp isEntry
    exact inGrid
  · induction grid with
    | nil => nofun
    | cons first rest ih =>
      rw [nodup_cons] at distinct
      intro program inGrid
      rw [flatMap_cons, filter_append, map_append]
      have ofOne : ∀ other, (((stores other).map (Prod.mk other)).filter (·.1 = program)).map Prod.snd =
          if other = program then stores other else [] := by
        intro other
        by_cases same : other = program <;> simp [filter_map, Function.comp_def, same]
      rw [ofOne]
      rcases mem_cons.mp inGrid with rfl | inRest
      · have none : ((rest.flatMap fun other => (stores other).map (Prod.mk other)).filter
            (·.1 = program)).map Prod.snd = [] := by
          rw [map_eq_nil_iff, filter_eq_nil_iff]
          intro entry member isOwn
          obtain ⟨other, inRest, isEntry⟩ := mem_flatMap.mp member
          obtain ⟨store, -, rfl⟩ := mem_map.mp isEntry
          have same : other = program := by simpa using isOwn
          exact distinct.1 (same ▸ inRest)
        rw [if_pos rfl, none, append_nil]
      · have other : first ≠ program := fun same => distinct.1 (same ▸ inRest)
        rw [if_neg other, nil_append]
        exact ih distinct.2 program inRest
  · rw [launch, map_flatMap]
    simp [Function.comp_def]

end

/-! ## Compaction -/

/-- The lanes of one round of a strip-mined loop that are not masked out. -/
def lanes (first stop step : Nat) : List Nat :=
  (List.range step).filterMap fun lane => if first + lane < stop then some (first + lane) else none

theorem lanes_eq (first stop step : Nat) :
    lanes first stop step = (List.range (min step (stop - first))).map (first + ·) := by
  induction step with
  | zero => simp [lanes]
  | succ step ih =>
    rw [lanes, range_succ, filterMap_append]
    rw [lanes] at ih
    rw [ih]
    by_cases below : first + step < stop
    · have grown : min (step + 1) (stop - first) = min step (stop - first) + 1 := by omega
      have isStep : min step (stop - first) = step := by omega
      rw [grown, range_succ, map_append, isStep]
      simp [below]
    · have same : min (step + 1) (stop - first) = min step (stop - first) := by omega
      simp [same, below]

/-- `tl.cumsum` of lanes that are 0 or 1, on top of a sum. -/
def cumsum (total : Nat) : List Bool → List Nat
  | [] => []
  | lane :: rest => (total + lane.toNat) :: cumsum (total + lane.toNat) rest

/-- The cumulative sum numbers the valid lanes. -/
theorem filterMap_zip_cumsum {β : Type} (valid : Nat → Bool) (value : Nat → Nat → β) (indices : List Nat) (total : Nat) :
    ((indices.zip (cumsum total (indices.map valid))).filterMap fun (index, sum) =>
      if valid index then some (value sum index) else none) =
    (indices.filter valid).mapIdx fun rank index => value (total + rank + 1) index := by
  induction indices generalizing total with
  | nil => rfl
  | cons index rest ih =>
    rw [map_cons, cumsum, zip_cons_cons]
    cases isValid : valid index with
    | true =>
      rw [filterMap_cons_some (b := value (total + 1) index) (by simp [isValid]),
        filter_cons_of_pos isValid, mapIdx_cons, ih]
      simp only [Bool.toNat_true]
      congr 1
      apply ext_getElem?
      intro rank
      simp only [getElem?_mapIdx]
      rw [show total + 1 + rank + 1 = total + (rank + 1) + 1 by omega]
    | false =>
      rw [filterMap_cons_none (by simp [isValid]), filter_cons_of_neg (by simp [isValid]),
        ih]
      simp

section

variable {α : Type} (pad : α) (valid : Nat → Bool) (value : Nat → α) (base stop step : Nat)

/-- The rounds of a loop that pads a row and moves the values of the valid indices to its front: the
stores, and the number of values. -/
def compactLoop : List Nat → Nat → List (Store Nat α) × Nat
  | [], count => ([], count)
  | first :: rest, count =>
    let block := lanes first stop step
    let padding := block.map fun offset => Store.mk (base + offset) pad
    let compacted := (block.zip (cumsum 0 (block.map valid))).filterMap fun (offset, sum) =>
      if valid offset then some (Store.mk (base + (count + sum - 1)) (value offset)) else none
    let (stores, total) := compactLoop rest (count + block.countP valid)
    (padding ++ compacted ++ stores, total)

/-- The values of the valid indices below a bound in order, and padding after them. -/
def compactedRow (bound column : Nat) : α :=
  (((List.range bound).filter valid)[column]?).elim pad value

variable {pad valid value base stop step}

/-- One round adds its valid indices to a compacted row. -/
theorem write_round {buffer : Buffer Nat α} {reached width : Nat}
    (compacted : ∀ column < reached, buffer (base + column) = compactedRow pad valid value reached column)
    {column : Nat} (inside : column < reached + width) :
    buffer.write ((((List.range width).map (reached + ·)).map fun offset => Store.mk (base + offset) pad) ++
      (((List.range width).map (reached + ·)).filter valid).mapIdx fun rank offset =>
        Store.mk (base + ((List.range reached).countP valid + (0 + rank + 1) - 1)) (value offset)) (base + column) =
      compactedRow pad valid value (reached + width) column := by
  have countLe : (List.range reached).countP valid ≤ reached := by
    simpa using countP_le_length (p := valid) (l := List.range reached)
  have counted : ((List.range reached).filter valid).length = (List.range reached).countP valid :=
    countP_eq_length_filter.symm
  rw [Buffer.write_append, compactedRow, range_add, filter_append]
  set old := (List.range reached).filter valid with isOld
  set new := ((List.range width).map (reached + ·)).filter valid with isNew
  rw [← counted] at countLe ⊢
  by_cases isMoved : old.length ≤ column ∧ column < old.length + new.length
  · obtain ⟨above, below⟩ := isMoved
    have inNew : column - old.length < new.length := by omega
    rw [getElem?_append_right above, getElem?_eq_getElem inNew]
    have member : Store.mk (base + column) (value new[column - old.length]) ∈ new.mapIdx fun rank offset =>
        Store.mk (base + (old.length + (0 + rank + 1) - 1)) (value offset) := by
      rw [mem_mapIdx]
      refine ⟨column - old.length, inNew, ?_⟩
      rw [show base + (old.length + (0 + (column - old.length) + 1) - 1) = base + column by omega]
    refine Buffer.write_agreed _ member fun other stored same => ?_
    obtain ⟨rank, inside, rfl⟩ := mem_mapIdx.mp stored
    have isRank : rank = column - old.length := by
      have addresses : base + (old.length + (0 + rank + 1) - 1) = base + column := same
      omega
    subst isRank
    rfl
  · have untouched : ∀ store ∈ new.mapIdx (fun rank offset =>
        Store.mk (base + (old.length + (0 + rank + 1) - 1)) (value offset)), store.address ≠ base + column := by
      intro store stored same
      obtain ⟨rank, inside, rfl⟩ := mem_mapIdx.mp stored
      have addresses : base + (old.length + (0 + rank + 1) - 1) = base + column := same
      omega
    rw [Buffer.write_untouched untouched]
    have rest : (old ++ new)[column]? = old[column]? := by
      by_cases isEarly : column < old.length
      · exact getElem?_append_left isEarly
      · rw [getElem?_eq_none (by rw [length_append]; omega), getElem?_eq_none (by omega)]
    rw [rest]
    by_cases isDone : column < reached
    · rw [Buffer.write_untouched, compacted column isDone, compactedRow]
      intro store stored same
      obtain ⟨offset, member, rfl⟩ := mem_map.mp stored
      obtain ⟨lane, -, rfl⟩ := mem_map.mp member
      have addresses : base + (reached + lane) = base + column := same
      omega
    · have padded : Store.mk (base + column) pad ∈
          ((List.range width).map (reached + ·)).map fun offset => Store.mk (base + offset) pad := by
        refine mem_map.mpr ⟨column, mem_map.mpr ⟨column - reached, mem_range.mpr (by omega), ?_⟩, rfl⟩
        exact Nat.add_sub_cancel' (by omega)
      rw [getElem?_eq_none (by omega)]
      refine Buffer.write_agreed _ padded fun other stored _ => ?_
      obtain ⟨offset, -, rfl⟩ := mem_map.mp stored
      rfl

/-- A round reads its lanes after the indices that were reached. -/
theorem lanes_reached (first stop step : Nat) :
    lanes first stop step = (List.range (min step (stop - first))).map (min first stop + ·) := by
  rw [lanes_eq]
  by_cases below : first ≤ stop
  · rw [min_eq_left below]
  · rw [show min step (stop - first) = 0 by omega]
    rfl

/-- The loop stores to its row only. -/
theorem compactLoop_address (rounds : Nat) {first count : Nat}
    (counted : count = (List.range (min first stop)).countP valid) :
    ∀ store ∈ (compactLoop pad valid value base stop step (List.range' first rounds step) count).1,
      ∃ column < stop, store.address = base + column := by
  induction rounds generalizing first count with
  | zero => nofun
  | succ rounds ih =>
    have grown : min (first + step) stop = min first stop + min step (stop - first) := by omega
    rw [range'_succ, compactLoop]
    rw [filterMap_zip_cumsum valid fun sum offset => Store.mk (base + (count + sum - 1)) (value offset),
      lanes_reached, counted]
    intro store member
    rcases mem_append.mp member with inRound | inRest
    · rcases mem_append.mp inRound with isPadding | isMoved
      · obtain ⟨offset, inLanes, rfl⟩ := mem_map.mp isPadding
        obtain ⟨lane, inside, rfl⟩ := mem_map.mp inLanes
        have below := mem_range.mp inside
        exact ⟨min first stop + lane, by omega, rfl⟩
      · obtain ⟨rank, inside, rfl⟩ := mem_mapIdx.mp isMoved
        have countLe : (List.range (min first stop)).countP valid ≤ min first stop := by
          simpa using countP_le_length (p := valid) (l := List.range (min first stop))
        have lengthLe := length_filter_le valid
          ((List.range (min step (stop - first))).map (min first stop + ·))
        rw [length_map, length_range] at lengthLe
        exact ⟨(List.range (min first stop)).countP valid + (0 + rank + 1) - 1, by omega, rfl⟩
    · exact ih (by rw [grown, range_add, countP_append]) store inRest

/-- The loop leaves the values of the valid indices at the front of its row, padding after them, and
their number. -/
theorem compactLoop_spec (rounds : Nat) {first count : Nat} {buffer : Buffer Nat α}
    (covers : stop ≤ first + rounds * step) (counted : count = (List.range (min first stop)).countP valid)
    (compacted : ∀ column < min first stop,
      buffer (base + column) = compactedRow pad valid value (min first stop) column) :
    (compactLoop pad valid value base stop step (List.range' first rounds step) count).2 =
      (List.range stop).countP valid ∧
    ∀ column < stop,
      buffer.write (compactLoop pad valid value base stop step (List.range' first rounds step) count).1 (base + column) =
        compactedRow pad valid value stop column := by
  induction rounds generalizing first count buffer with
  | zero =>
    have isStop : min first stop = stop := by omega
    rw [isStop] at counted compacted
    exact ⟨counted, compacted⟩
  | succ rounds ih =>
    have grown : min (first + step) stop = min first stop + min step (stop - first) := by omega
    rw [range'_succ, compactLoop]
    rw [filterMap_zip_cumsum valid fun sum offset => Store.mk (base + (count + sum - 1)) (value offset),
      lanes_reached, counted]
    have grownCount : (List.range (min first stop)).countP valid +
        ((List.range (min step (stop - first))).map (min first stop + ·)).countP valid =
        (List.range (min (first + step) stop)).countP valid := by
      rw [grown, range_add, countP_append]
    have found := ih (by rw [Nat.succ_mul] at covers; omega) grownCount fun column inside => by
      rw [grown] at inside ⊢
      exact write_round compacted inside
    refine ⟨found.1, fun column inside => ?_⟩
    rw [Buffer.write_append]
    exact found.2 column inside

end

end DeepSpark.Lib
