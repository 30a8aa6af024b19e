import Mathlib

/-!
Kernel launches over device buffers.

Owns the effect of a launch, whose programs store in no fixed order, the addresses
a strip-mined loop visits, and the rules that read a buffer after a launch: an
address whose stores agree holds their value, and an address without a store keeps
its contents. A program is the list of its stores; it may only load what no program
of the same launch stores.
-/

namespace DeepSpark.Lib

abbrev Buffer (ι α : Type) := ι → α

structure Store (ι α : Type) where
  address : ι
  value : α
deriving DecidableEq, Repr

section

variable {ι α π : Type} [DecidableEq ι]

def Buffer.write (buffer : Buffer ι α) (stores : List (Store ι α)) : Buffer ι α :=
  stores.foldl (fun buffer store => Function.update buffer store.address store.value) buffer

/-- A launch over a grid: the stores of all programs take effect in some order. -/
def Launched (grid : List π) (stores : π → List (Store ι α)) (before after : Buffer ι α) : Prop :=
  ∃ order : List (Store ι α), order.Perm (grid.flatMap stores) ∧ after = before.write order

/-- The launch that runs the programs one after the other. -/
def launch (grid : List π) (stores : π → List (Store ι α)) (before : Buffer ι α) : Buffer ι α :=
  before.write (grid.flatMap stores)

theorem launched_launch (grid : List π) (stores : π → List (Store ι α)) (before : Buffer ι α) :
    Launched grid stores before (launch grid stores before) :=
  ⟨_, List.Perm.refl _, rfl⟩

/-- An address without a store keeps its contents. -/
theorem Buffer.write_untouched {buffer : Buffer ι α} {stores : List (Store ι α)} {address : ι}
    (untouched : ∀ store ∈ stores, store.address ≠ address) :
    buffer.write stores address = buffer address := by
  induction stores generalizing buffer with
  | nil => rfl
  | cons store rest ih =>
    have head := untouched store List.mem_cons_self
    have tail : Buffer.write (Function.update buffer store.address store.value) rest address =
        Function.update buffer store.address store.value address :=
      ih fun other member => untouched other (List.mem_cons_of_mem _ member)
    exact tail.trans (Function.update_of_ne (Ne.symm head) _ _)

/-- An address with a store holds the value of one of its stores. -/
theorem Buffer.write_stored (buffer : Buffer ι α) {stores : List (Store ι α)} {address : ι}
    (touched : ∃ store ∈ stores, store.address = address) :
    ∃ store ∈ stores, store.address = address ∧ buffer.write stores address = store.value := by
  induction stores generalizing buffer with
  | nil =>
    obtain ⟨store, member, -⟩ := touched
    cases member
  | cons head rest ih =>
    by_cases later : ∃ store ∈ rest, store.address = address
    · obtain ⟨store, member, isAddress, holds⟩ := ih
        (Function.update buffer head.address head.value) later
      exact ⟨store, List.mem_cons_of_mem _ member, isAddress, holds⟩
    · have isHead : head.address = address := by
        obtain ⟨store, member, isAddress⟩ := touched
        rcases List.mem_cons.mp member with rfl | inRest
        · exact isAddress
        · exact absurd ⟨store, inRest, isAddress⟩ later
      refine ⟨head, List.mem_cons_self, isHead, ?_⟩
      have rest_untouched : ∀ store ∈ rest, store.address ≠ address :=
        fun store member isAddress => later ⟨store, member, isAddress⟩
      show Buffer.write (Function.update buffer head.address head.value) rest address = head.value
      rw [Buffer.write_untouched rest_untouched, isHead, Function.update_self]

variable {store : Store ι α}

/-- An address whose stores agree holds their value. -/
theorem Buffer.write_agreed (buffer : Buffer ι α) {stores : List (Store ι α)}
    (member : store ∈ stores)
    (agreed : ∀ other ∈ stores, other.address = store.address → other.value = store.value) :
    buffer.write stores store.address = store.value := by
  obtain ⟨other, inStores, same, holds⟩ := Buffer.write_stored buffer ⟨store, member, rfl⟩
  exact holds.trans (agreed other inStores same)

variable {grid : List π} {stores : π → List (Store ι α)} {before after : Buffer ι α}

theorem Launched.untouched (launched : Launched grid stores before after) {address : ι}
    (untouched : ∀ program ∈ grid, ∀ store ∈ stores program, store.address ≠ address) :
    after address = before address := by
  obtain ⟨order, permuted, rfl⟩ := launched
  apply Buffer.write_untouched
  intro store member
  obtain ⟨program, inGrid, stored⟩ := List.mem_flatMap.mp (permuted.mem_iff.mp member)
  exact untouched program inGrid store stored

variable {program : π}

/-- An address some program stores to holds the value of one of its stores. -/
theorem Launched.stored (launched : Launched grid stores before after)
    (inGrid : program ∈ grid) (member : store ∈ stores program) :
    ∃ other ∈ grid, ∃ last ∈ stores other, last.address = store.address ∧
      after store.address = last.value := by
  obtain ⟨order, permuted, rfl⟩ := launched
  have inOrder : store ∈ order :=
    permuted.mem_iff.mpr (List.mem_flatMap.mpr ⟨program, inGrid, member⟩)
  obtain ⟨last, lastMember, isAddress, holds⟩ :=
    Buffer.write_stored before ⟨store, inOrder, rfl⟩
  obtain ⟨other, otherInGrid, stored⟩ := List.mem_flatMap.mp (permuted.mem_iff.mp lastMember)
  exact ⟨other, otherInGrid, last, stored, isAddress, holds⟩

/-- An address whose stores agree holds their value, whatever the order. -/
theorem Launched.agreed (launched : Launched grid stores before after)
    (inGrid : program ∈ grid) (member : store ∈ stores program)
    (agreed : ∀ other ∈ grid, ∀ last ∈ stores other, last.address = store.address →
      last.value = store.value) : after store.address = store.value := by
  obtain ⟨other, otherInGrid, last, stored, isAddress, holds⟩ := launched.stored inGrid member
  exact holds.trans (agreed other otherInGrid last stored isAddress)

/-- No address is stored twice with different values by one launch. -/
def Agrees (grid : List π) (stores : π → List (Store ι α)) : Prop :=
  ∀ program ∈ grid, ∀ store ∈ stores program, ∀ other ∈ grid, ∀ last ∈ stores other,
    last.address = store.address → last.value = store.value

theorem Launched.reads (launched : Launched grid stores before after) (agrees : Agrees grid stores)
    (inGrid : program ∈ grid) (member : store ∈ stores program) :
    after store.address = store.value :=
  launched.agreed inGrid member (agrees program inGrid store member)

omit [DecidableEq ι] in
/-- Stores whose values depend on their addresses only agree. -/
theorem Agrees.of_content (content : ι → α)
    (isContent : ∀ program ∈ grid, ∀ store ∈ stores program, store.value = content store.address) :
    Agrees grid stores := by
  intro program inGrid store member other otherInGrid last stored same
  rw [isContent other otherInGrid last stored, same, isContent program inGrid store member]

section

variable {owner : ι → π} (launched : Launched grid stores before after)
  (owns : ∀ program ∈ grid, ∀ store ∈ stores program, owner store.address = program)

include launched owns

/-- Where every program stores to addresses of its own only, and agrees with itself,
its stores stand. -/
theorem Launched.owned (inGrid : program ∈ grid) {store : Store ι α} (member : store ∈ stores program)
    (agrees : ∀ other ∈ stores program, other.address = store.address → other.value = store.value) :
    after store.address = store.value := by
  apply launched.agreed inGrid member
  intro other otherInGrid last stored same
  have isProgram : other = program := by
    rw [← owns other otherInGrid last stored, same, owns program inGrid store member]
  subst isProgram
  exact agrees last stored same

/-- An address its owner does not store to keeps its contents. -/
theorem Launched.notOwned {address : ι}
    (untouched : ∀ store ∈ stores (owner address), store.address ≠ address) :
    after address = before address := by
  apply launched.untouched
  intro program inGrid store member same
  have isOwner : owner address = program := by
    rw [← same]
    exact owns program inGrid store member
  exact untouched store (isOwner ▸ member) same

end

structure Owned (grid : List π) (stores : π → List (Store ι α)) (owns : π → ι → Prop) : Prop where
  stored : ∀ program ∈ grid, ∀ store ∈ stores program, owns program store.address
  unique : ∀ program ∈ grid, ∀ other ∈ grid, ∀ address, owns program address → owns other address →
    program = other

variable {owns : π → ι → Prop}

/-- A program that agrees with itself on an address leaves its value there. -/
theorem Launched.holds (launched : Launched grid stores before after) (owned : Owned grid stores owns)
    (inGrid : program ∈ grid) (member : store ∈ stores program)
    (agrees : ∀ other ∈ stores program, other.address = store.address → other.value = store.value) :
    after store.address = store.value := by
  apply launched.agreed inGrid member
  intro other otherInGrid last stored same
  have isProgram : other = program :=
    owned.unique other otherInGrid program inGrid store.address (same ▸ owned.stored other otherInGrid last stored)
      (owned.stored program inGrid store member)
  subst isProgram
  exact agrees last stored same

/-- An address its program does not store to keeps its contents. -/
theorem Launched.keeps (launched : Launched grid stores before after) (owned : Owned grid stores owns)
    (inGrid : program ∈ grid) {address : ι} (own : owns program address)
    (untouched : ∀ store ∈ stores program, store.address ≠ address) : after address = before address := by
  apply launched.untouched
  intro other otherInGrid store member same
  have isProgram : other = program :=
    owned.unique other otherInGrid program inGrid address (same ▸ owned.stored other otherInGrid store member) own
  subst isProgram
  exact untouched store member same

def ownStore (value : ι → Option α) (program : ι) : List (Store ι α) :=
  (value program).toList.map (Store.mk program)

omit [DecidableEq ι] in
theorem mem_ownStore {value : ι → Option α} {program : ι} :
    store ∈ ownStore value program ↔ store.address = program ∧ value program = some store.value := by
  obtain ⟨address, content⟩ := store
  simp only [ownStore, List.mem_map, Option.mem_toList]
  constructor
  · rintro ⟨found, isSome, same⟩
    cases same
    exact ⟨rfl, isSome⟩
  · rintro ⟨rfl, isSome⟩
    exact ⟨content, isSome, rfl⟩

/-- After such a launch an address holds what its program stored. -/
theorem Launched.own {grid : List ι} {value : ι → Option α} {before after : Buffer ι α}
    (launched : Launched grid (ownStore value) before after) {program : ι} (inGrid : program ∈ grid)
    {content : α} (isStored : value program = some content) : after program = content := by
  have owns : ∀ program ∈ grid, ∀ store ∈ ownStore value program, id store.address = program :=
    fun _ _ _ member => (mem_ownStore.mp member).1
  have member : (⟨program, content⟩ : Store ι α) ∈ ownStore value program :=
    mem_ownStore.mpr ⟨rfl, isStored⟩
  apply launched.owned owns inGrid member
  intro other member _
  have same := (mem_ownStore.mp member).2
  rw [isStored] at same
  exact (Option.some.inj same).symm

theorem exists_launched_last (inGrid : program ∈ grid)
    (member : store ∈ stores program) (before : Buffer ι α) :
    ∃ after, Launched grid stores before after ∧ after store.address = store.value := by
  obtain ⟨front, back, split⟩ :=
    List.append_of_mem (List.mem_flatMap.mpr ⟨program, inGrid, member⟩)
  refine ⟨before.write (front ++ back ++ [store]), ⟨_, ?_, rfl⟩, ?_⟩
  · rw [split, List.append_assoc]
    exact List.Perm.append_left front (List.perm_append_singleton store back)
  · rw [Buffer.write, List.foldl_append]
    exact Function.update_self _ _ _

end

/-- `for i in range(start, stop, step)` with `block = i + tl.arange(0, step)` and
`mask = block < stop`: the lanes that are not masked out. -/
def blockLoop (start stop step : Nat) : List Nat :=
  (List.range' start ((stop - start + step - 1) / step) step).flatMap fun first =>
    (List.range step).filterMap fun lane => if first + lane < stop then some (first + lane) else none

/-- A strip-mined loop visits its whole range. -/
theorem mem_blockLoop {start stop step index : Nat} (positive : 0 < step) :
    index ∈ blockLoop start stop step ↔ start ≤ index ∧ index < stop := by
  simp only [blockLoop, List.mem_flatMap, List.mem_range', List.mem_filterMap, List.mem_range]
  constructor
  · rintro ⟨first, ⟨round, -, rfl⟩, lane, -, found⟩
    split at found
    next below =>
      cases found
      exact ⟨by omega, below⟩
    next => cases found
  · rintro ⟨above, below⟩
    have split := Nat.div_add_mod (index - start) step
    have inStep := Nat.mod_lt (index - start) positive
    refine ⟨start + step * ((index - start) / step), ⟨(index - start) / step, ?_, rfl⟩,
      (index - start) % step, inStep, ?_⟩
    · rw [Nat.lt_div_iff_mul_lt positive, Nat.mul_comm]
      omega
    · have isIndex : start + step * ((index - start) / step) + (index - start) % step = index := by
        omega
      rw [isIndex, if_pos below]

/-- Two addresses of a row-major table are the same only in the same row and column. -/
theorem flat_inj {stride row other column otherColumn : Nat} (inRow : column < stride)
    (otherInRow : otherColumn < stride) (same : row * stride + column = other * stride + otherColumn) :
    row = other ∧ column = otherColumn := by
  have positive : 0 < stride := (Nat.zero_le _).trans_lt inRow
  have rows : (row * stride + column) / stride = (other * stride + otherColumn) / stride := by rw [same]
  rw [Nat.mul_comm row, Nat.mul_comm other, Nat.mul_add_div positive, Nat.mul_add_div positive,
    Nat.div_eq_of_lt inRow, Nat.div_eq_of_lt otherInRow] at rows
  refine ⟨rows, ?_⟩
  rw [show row = other from rows] at same
  exact Nat.add_left_cancel same

theorem flat_lt {stride rows row column : Nat} (isRow : row < rows) (inRow : column < stride) :
    row * stride + column < rows * stride := by
  calc row * stride + column
      < row * stride + stride := Nat.add_lt_add_left inRow _
    _ = (row + 1) * stride := (Nat.succ_mul row stride).symm
    _ ≤ rows * stride := Nat.mul_le_mul_right stride isRow

def cdiv (count size : Nat) : Nat := (count + size - 1) / size

theorem lt_cdiv_iff {count size index : Nat} (positive : 0 < size) :
    index < cdiv count size ↔ index * size < count := by
  rw [cdiv, Nat.lt_div_iff_mul_lt positive]
  omega

def nextPowerOf2 (count : Nat) : Nat := 2 ^ Nat.clog 2 count

theorem le_nextPowerOf2 (count : Nat) : count ≤ nextPowerOf2 count :=
  Nat.le_pow_clog Nat.one_lt_two count

end DeepSpark.Lib
