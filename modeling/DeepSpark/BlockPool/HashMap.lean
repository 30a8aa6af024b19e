import DeepSpark.BlockPool.FreeQueue
import DeepSpark.Request.BlockHash

/-!
`BlockHashToBlockMap` of `v1/core/block_pool.py`.

Owns the map from group-tagged keys to one block or to an insertion-ordered
collection of blocks, its three operations, the relation `Holds` between a key
and the blocks stored under it, and what each operation does to that relation.
-/

namespace DeepSpark

open Lib

/-- `KVCacheBlock | dict[int, KVCacheBlock]`; the inner dict is keyed by the
block's own id, so its insertion order is all that is kept. -/
inductive CachedBlocks where
  | one (block : BlockId)
  | many (blocks : List BlockId)
deriving DecidableEq, Repr

structure BlockHashToBlockMap where
  cache : BlockHashWithGroupId → Option CachedBlocks

variable {other : BlockHashWithGroupId} {map : BlockHashToBlockMap} {block : BlockId}

namespace BlockHashToBlockMap

def empty : BlockHashToBlockMap := ⟨fun _ => none⟩

/-- `self._cache[key] = value`, or `self._cache.pop(key)`. -/
def set (map : BlockHashToBlockMap) (key : BlockHashWithGroupId) (value : Option CachedBlocks) :
    BlockHashToBlockMap :=
  ⟨Function.update map.cache key value⟩

/-- `get_one_block`. An empty inner dict would raise `StopIteration`. -/
def getOneBlock (map : BlockHashToBlockMap) (key : BlockHashWithGroupId) :
    Except PyError (Option BlockId) :=
  match map.cache key with
  | none => .ok none
  | some (.one block) => .ok (some block)
  | some (.many (block :: _)) => .ok (some block)
  | some (.many []) => .error .stopIteration

/-- `d[key] = value` on a dict seen as its keys in insertion order. -/
def insertId (blocks : List BlockId) (block : BlockId) : List BlockId :=
  if block ∈ blocks then blocks else blocks ++ [block]

def insert (map : BlockHashToBlockMap) (key : BlockHashWithGroupId) (block : BlockId) :
    BlockHashToBlockMap :=
  match map.cache key with
  | none => map.set key (some (.one block))
  | some (.one present) => map.set key (some (.many (insertId [present] block)))
  | some (.many blocks) => map.set key (some (.many (insertId blocks block)))

/-- `pop`: whether the block was found, and the map without it. -/
def pop (map : BlockHashToBlockMap) (key : BlockHashWithGroupId) (block : BlockId) :
    Bool × BlockHashToBlockMap :=
  match map.cache key with
  | none => (false, map)
  | some (.one present) =>
    if present = block then (true, map.set key none) else (false, map)
  | some (.many blocks) =>
    let rest := blocks.erase block
    (decide (block ∈ blocks), map.set key (if rest.isEmpty then none else some (.many rest)))

/-! ## What a key holds -/

def stored (map : BlockHashToBlockMap) (key : BlockHashWithGroupId) : List BlockId :=
  match map.cache key with
  | none => []
  | some (.one block) => [block]
  | some (.many blocks) => blocks

/-- No key has an empty collection, and no collection repeats a block. -/
structure WellFormed (map : BlockHashToBlockMap) : Prop where
  nonempty : ∀ key, map.cache key ≠ some (.many [])
  nodup : ∀ key, (map.stored key).Nodup

theorem empty_wellFormed : empty.WellFormed where
  nonempty := fun key => by simp [empty]
  nodup := fun key => by simp [stored, empty]

theorem stored_set_self (map : BlockHashToBlockMap) (key : BlockHashWithGroupId)
    (value : Option CachedBlocks) :
    (map.set key value).stored key =
      match value with
      | none => []
      | some (.one block) => [block]
      | some (.many blocks) => blocks := by
  simp [stored, set]

variable {key : BlockHashWithGroupId}

theorem stored_set_of_ne (map : BlockHashToBlockMap)
    (value : Option CachedBlocks) (different : other ≠ key) :
    (map.set key value).stored other = map.stored other := by
  simp [stored, set, Function.update_of_ne different]

theorem set_wellFormed (wellFormed : map.WellFormed) {value : Option CachedBlocks} (nonempty : value ≠ some (.many []))
    (nodup : ((map.set key value).stored key).Nodup) : (map.set key value).WellFormed where
  nonempty := by
    intro other
    by_cases same : other = key
    · subst same
      simpa [set] using nonempty
    · simpa [set, Function.update_of_ne same] using wellFormed.nonempty other
  nodup := by
    intro other
    by_cases same : other = key
    · subst same
      exact nodup
    · rw [stored_set_of_ne map value same]
      exact wellFormed.nodup other

theorem insertId_nodup {blocks : List BlockId} (nodup : blocks.Nodup) (block : BlockId) :
    (insertId blocks block).Nodup := by
  unfold insertId
  split
  next => exact nodup
  next absent => exact nodup.append (List.nodup_singleton block) (by simpa using absent)

theorem mem_insertId {blocks : List BlockId} {other : BlockId} :
    other ∈ insertId blocks block ↔ other ∈ blocks ∨ other = block := by
  unfold insertId
  split
  next present =>
    constructor
    · exact Or.inl
    · rintro (member | rfl)
      · exact member
      · exact present
  next => simp

theorem mem_stored_insert {candidate : BlockId} :
    candidate ∈ (map.insert key block).stored other ↔
      candidate ∈ map.stored other ∨ (other = key ∧ candidate = block) := by
  by_cases same : other = key
  · subst same
    unfold insert
    split
    next absent =>
      rw [stored_set_self]
      simp [stored, absent]
    next present isOne =>
      rw [stored_set_self]
      simp [stored, isOne, mem_insertId]
    next blocks isMany =>
      rw [stored_set_self]
      simp [stored, isMany, mem_insertId]
  · unfold insert
    split <;> simp [stored_set_of_ne _ _ same, same]

theorem insert_wellFormed (wellFormed : map.WellFormed)
    (key : BlockHashWithGroupId) (block : BlockId) : (map.insert key block).WellFormed := by
  have nodup := wellFormed.nodup key
  unfold insert
  split
  next absent =>
    exact set_wellFormed wellFormed (by simp) (by simp [stored_set_self])
  next present isOne =>
    refine set_wellFormed wellFormed ?_ ?_
    · intro isEmpty
      have member : present ∈ insertId [present] block := mem_insertId.mpr (Or.inl (by simp))
      simp_all
    · rw [stored_set_self]
      exact insertId_nodup (List.nodup_singleton _) _
  next blocks isMany =>
    refine set_wellFormed wellFormed ?_ ?_
    · intro isEmpty
      have member : block ∈ insertId blocks block := mem_insertId.mpr (Or.inr rfl)
      simp_all
    · rw [stored_set_self]
      rw [stored, isMany] at nodup
      exact insertId_nodup nodup _

/-- `pop` reports whether the block was stored. -/
theorem pop_found :
    (map.pop key block).1 = true ↔ block ∈ map.stored key := by
  unfold pop
  split
  next absent => simp [stored, absent]
  next present isOne =>
    rw [stored, isOne]
    split
    next same => simp [same]
    next different => simp [Ne.symm different]
  next blocks isMany => simp [stored, isMany]

theorem mem_stored_pop (wellFormed : map.WellFormed) {candidate : BlockId} :
    candidate ∈ (map.pop key block).2.stored other ↔
      candidate ∈ map.stored other ∧ ¬ (other = key ∧ candidate = block) := by
  have nodup := wellFormed.nodup key
  by_cases same : other = key
  · subst same
    unfold pop
    split
    next absent => simp [stored, absent]
    next present isOne =>
      split
      next found =>
        rw [stored_set_self]
        simp [stored, isOne, found]
      next different =>
        simp only [stored, isOne, List.mem_singleton, true_and]
        constructor
        · rintro rfl
          exact ⟨rfl, different⟩
        · exact fun both => both.1
    next blocks isMany =>
      rw [stored, isMany] at nodup
      have erased : candidate ∈ blocks.erase block ↔ candidate ∈ blocks ∧ candidate ≠ block := by
        rw [nodup.mem_erase_iff, and_comm]
      have shown : (map.set other (if (blocks.erase block).isEmpty then none
          else some (.many (blocks.erase block)))).stored other = blocks.erase block := by
        rw [stored_set_self]
        by_cases isEmpty : blocks.erase block = []
        · simp [isEmpty]
        · simp [isEmpty]
      simp only [shown, erased, true_and, ne_eq]
      simp [stored, isMany]
  · unfold pop
    split
    next => simp [same]
    next =>
      split
      next => simp [stored_set_of_ne _ _ same, same]
      next => simp [same]
    next => simp [stored_set_of_ne _ _ same, same]

theorem pop_wellFormed (wellFormed : map.WellFormed)
    (key : BlockHashWithGroupId) (block : BlockId) : (map.pop key block).2.WellFormed := by
  have nodup := wellFormed.nodup key
  unfold pop
  split
  next => exact wellFormed
  next present isOne =>
    split
    next => exact set_wellFormed wellFormed (by simp) (by simp [stored_set_self])
    next => exact wellFormed
  next blocks isMany =>
    rw [stored, isMany] at nodup
    refine set_wellFormed wellFormed ?_ ?_
    · by_cases isEmpty : blocks.erase block = []
      · simp [isEmpty]
      · simp [isEmpty]
    · rw [stored_set_self]
      by_cases isEmpty : blocks.erase block = []
      · simp [isEmpty]
      · simpa [isEmpty] using nodup.erase block

/-- In a well-formed map, a lookup succeeds and returns a stored block exactly
when there is one. -/
theorem getOneBlock_of_wellFormed (wellFormed : map.WellFormed) (key : BlockHashWithGroupId) :
    map.getOneBlock key = .ok (map.stored key).head? := by
  have nonempty := wellFormed.nonempty key
  unfold getOneBlock
  split
  next absent => simp [stored, absent]
  next block isOne => simp [stored, isOne]
  next block rest isMany => simp [stored, isMany]
  next isEmpty => exact absurd isEmpty nonempty

end BlockHashToBlockMap

end DeepSpark
