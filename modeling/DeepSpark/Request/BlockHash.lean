import DeepSpark.Lib.PyError
import DeepSpark.Request.Data

/-!
Prefix-cache keys: a block hash tagged with its KV cache group, and the view of
a hash list at a coarser block size.

Owns `make_block_hash_with_group_id`, `get_block_hash`, `get_group_id` and
`BlockHashListWithBlockSize` of `v1/core/kv_cache_utils.py`, the round trip of
the group tag and the separation of keys it gives.
-/

namespace DeepSpark

open Lib

abbrev BlockHashWithGroupId := Bytes

/-- `make_block_hash_with_group_id`. `int.to_bytes` raises on a group id that
does not fit in four bytes. -/
def makeBlockHashWithGroupId (blockHash : BlockHash) (groupId : Nat) :
    Except PyError BlockHashWithGroupId :=
  if groupId < 256 ^ 4 then .ok (blockHash ++ Bytes.bigEndian 4 groupId)
  else .error (.overflowError "int too big to convert")

def getBlockHash (key : BlockHashWithGroupId) : BlockHash :=
  key.take (key.length - 4)

/-- `get_group_id`: `int.from_bytes(key[-4:], "big")`. -/
def getGroupId (key : BlockHashWithGroupId) : Nat :=
  Bytes.fromBigEndian (key.drop (key.length - 4))

variable {blockHash : BlockHash} {groupId : Nat} {key : BlockHashWithGroupId}

theorem makeBlockHashWithGroupId_eq_ok :
    makeBlockHashWithGroupId blockHash groupId = .ok key ↔
      groupId < 256 ^ 4 ∧ key = blockHash ++ Bytes.bigEndian 4 groupId := by
  unfold makeBlockHashWithGroupId
  split
  next fits =>
    simp only [Except.ok.injEq]
    exact ⟨fun equal => ⟨fits, equal.symm⟩, fun both => both.2.symm⟩
  next overflows =>
    simp only [reduceCtorEq, false_iff]
    exact fun both => overflows both.1

theorem getBlockHash_make (made : makeBlockHashWithGroupId blockHash groupId = .ok key) :
    getBlockHash key = blockHash := by
  obtain ⟨-, rfl⟩ := makeBlockHashWithGroupId_eq_ok.mp made
  simp [getBlockHash]

theorem getGroupId_make (made : makeBlockHashWithGroupId blockHash groupId = .ok key) :
    getGroupId key = groupId := by
  obtain ⟨fits, rfl⟩ := makeBlockHashWithGroupId_eq_ok.mp made
  simp [getGroupId, Bytes.fromBigEndian_bigEndian fits]

theorem makeBlockHashWithGroupId_injective {left right : BlockHash} {leftGroup rightGroup : Nat}
    (leftMade : makeBlockHashWithGroupId left leftGroup = .ok key)
    (rightMade : makeBlockHashWithGroupId right rightGroup = .ok key) :
    left = right ∧ leftGroup = rightGroup :=
  ⟨(getBlockHash_make leftMade).symm.trans (getBlockHash_make rightMade),
    (getGroupId_make leftMade).symm.trans (getGroupId_make rightMade)⟩

/-! ## Coarser views of a hash list -/

/-- `BlockHashListWithBlockSize`: hashes computed at `hashBlockSize`, read at
`targetBlockSize`. The constructor asserts divisibility. -/
structure BlockHashListWithBlockSize where
  blockHashes : List BlockHash
  hashBlockSize : Nat
  targetBlockSize : Nat
  divides : hashBlockSize ∣ targetBlockSize

namespace BlockHashListWithBlockSize

variable (hashes : BlockHashListWithBlockSize)

def scaleFactor : Nat := hashes.targetBlockSize / hashes.hashBlockSize

/-- `__len__`. -/
def length : Nat := hashes.blockHashes.length / hashes.scaleFactor

/-- `_get_value_at`: the joined slice of fine hashes; a slice that runs past
the end is shorter, as in Python. -/
def getValueAt (index : Nat) : BlockHash :=
  ((hashes.blockHashes.drop (index * hashes.scaleFactor)).take hashes.scaleFactor).flatten

end BlockHashListWithBlockSize

inductive BlockHashList where
  | fine (blockHashes : List BlockHash)
  | coarse (hashes : BlockHashListWithBlockSize)

namespace BlockHashList

/-- `len(block_hashes)`. -/
def length : BlockHashList → Nat
  | .fine blockHashes => blockHashes.length
  | .coarse hashes => hashes.length

/-- `block_hashes[index]` for a nonnegative index: a list raises `IndexError`
past its end, the coarser view reads a clipped slice. -/
def getItem : BlockHashList → Nat → Except PyError BlockHash
  | .fine blockHashes, index =>
    match blockHashes[index]? with
    | some blockHash => .ok blockHash
    | none => .error (.indexError "list index out of range")
  | .coarse hashes, index => .ok (hashes.getValueAt index)

/-- `block_hashes[start:]`; both kinds of list return a plain list, clipped to
their length. -/
def sliceFrom (hashes : BlockHashList) (start : Nat) : List BlockHash :=
  match hashes with
  | .fine blockHashes => blockHashes.drop start
  | .coarse hashes =>
    (List.range' start (hashes.length - start)).map hashes.getValueAt

/-- A request's hash list read at a block size: the list itself, or a coarser
view whose constructor asserts divisibility. -/
def atBlockSize (blockHashes : List BlockHash) (hashBlockSize blockSize : Nat) :
    Except PyError BlockHashList :=
  if blockSize = hashBlockSize then .ok (.fine blockHashes)
  else if divides : hashBlockSize ∣ blockSize then
    .ok (.coarse ⟨blockHashes, hashBlockSize, blockSize, divides⟩)
  else .error (.assertionError "")

theorem atBlockSize_of_dvd (blockHashes : List BlockHash) {hashBlockSize blockSize : Nat}
    (divides : hashBlockSize ∣ blockSize) :
    ∃ hashes, atBlockSize blockHashes hashBlockSize blockSize = .ok hashes := by
  unfold atBlockSize
  split <;> exact ⟨_, rfl⟩

theorem getItem_of_lt {hashes : BlockHashList} {index : Nat} (below : index < hashes.length) :
    ∃ blockHash, hashes.getItem index = .ok blockHash := by
  cases hashes with
  | fine blockHashes =>
    have inRange : index < blockHashes.length := below
    exact ⟨blockHashes[index], by simp [getItem, inRange]⟩
  | coarse hashes => exact ⟨_, rfl⟩

end BlockHashList

end DeepSpark
