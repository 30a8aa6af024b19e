import DeepSpark.Request.BlockHash
import DeepSpark.Request.Sessions

/-!
A prefix-cache key identifies a token prefix.

Owns the assumptions the prefix cache makes of its hash function, stated on the
tuples two requests really hash, and the equivalence between equality of
group-tagged keys and agreement of the token prefixes they stand for, at any
block size a group reads the hash list with.
-/

namespace DeepSpark

open Lib Request HashChain

namespace BlockHasher

variable (hasher : BlockHasher)

/-- The argument tuples hashed for the full blocks of a text-only token list. -/
def hashedInputs (tokens : List TokenId) : List HashInput :=
  (calls hasher.link hasher.noneHash (fullBlocks hasher.blockSize tokens)).map
    fun call => ⟨if call.1.isEmpty then hasher.noneHash else call.1, call.2, none⟩

/-- What the prefix cache relies on, for the tuples in `inputs`: digests of one
positive length, no collision, and no digest equal to `NONE_HASH`. -/
structure CollisionFree (digestSize : Nat) (inputs : Set HashInput) : Prop where
  positive : 0 < digestSize
  fixedLength : ∀ input ∈ inputs, (hasher.cachingHashFn input).length = digestSize
  injective : Set.InjOn hasher.cachingHashFn inputs
  neverNone : ∀ input ∈ inputs, hasher.cachingHashFn input ≠ hasher.noneHash

variable {hasher}

private theorem link_eq (call : BlockHash × List TokenId) :
    hasher.link call.1 call.2 = hasher.cachingHashFn
      ⟨if call.1.isEmpty then hasher.noneHash else call.1, call.2, none⟩ := rfl

section Calls

variable {digestSize : Nat} {inputs : Set HashInput}
  (collisionFree : hasher.CollisionFree digestSize inputs)
  {tokens : List TokenId} (covered : ∀ input ∈ hasher.hashedInputs tokens, input ∈ inputs)

include collisionFree covered

section

variable {call : BlockHash × List TokenId}
  (member : call ∈ calls hasher.link hasher.noneHash (fullBlocks hasher.blockSize tokens))

include member

private theorem link_length :
    (hasher.link call.1 call.2).length = digestSize := by
  rw [link_eq]
  exact collisionFree.fixedLength _ (covered _ (List.mem_map_of_mem member))

private theorem link_ne_noneHash :
    hasher.link call.1 call.2 ≠ hasher.noneHash := by
  rw [link_eq]
  exact collisionFree.neverNone _ (covered _ (List.mem_map_of_mem member))

/-- Positive digests keep `hash_block_tokens` from replacing a parent. -/
private theorem parent_kept :
    (if call.1.isEmpty then hasher.noneHash else call.1) = call.1 := by
  rcases calls_parent member with isSeed | ⟨earlier, earlierMember, isDigest⟩
  · rw [isSeed]
    split <;> rfl
  · have length := link_length collisionFree covered earlierMember
    have positive := collisionFree.positive
    have nonempty : call.1 ≠ [] := by
      intro empty
      rw [← isDigest, empty, List.length_nil] at length
      omega
    simp [nonempty]

end

omit covered in
private theorem link_injOn {left right : List TokenId}
    (leftCovered : ∀ input ∈ hasher.hashedInputs left, input ∈ inputs)
    (rightCovered : ∀ input ∈ hasher.hashedInputs right, input ∈ inputs) :
    Set.InjOn (fun call : BlockHash × List TokenId => hasher.link call.1 call.2)
      {call | call ∈ calls hasher.link hasher.noneHash
          (fullBlocks hasher.blockSize left) ∨
        call ∈ calls hasher.link hasher.noneHash (fullBlocks hasher.blockSize right)} := by
  have facts : ∀ call, (call ∈ calls hasher.link hasher.noneHash
        (fullBlocks hasher.blockSize left) ∨
      call ∈ calls hasher.link hasher.noneHash (fullBlocks hasher.blockSize right)) →
      (if call.1.isEmpty then hasher.noneHash else call.1) = call.1 ∧
        (⟨if call.1.isEmpty then hasher.noneHash else call.1, call.2, none⟩ : HashInput) ∈
          inputs := by
    rintro call (member | member)
    · exact ⟨parent_kept collisionFree leftCovered member,
        leftCovered _ (List.mem_map_of_mem member)⟩
    · exact ⟨parent_kept collisionFree rightCovered member,
        rightCovered _ (List.mem_map_of_mem member)⟩
  intro first firstMember second secondMember equal
  obtain ⟨firstParent, firstInput⟩ := facts first firstMember
  obtain ⟨secondParent, secondInput⟩ := facts second secondMember
  have sameInput := collisionFree.injective firstInput secondInput equal
  rw [firstParent, secondParent] at sameInput
  exact Prod.ext (congrArg HashInput.parentBlockHash sameInput)
    (congrArg HashInput.currBlockTokenIds sameInput)

end Calls

theorem chain_sized {digestSize : Nat} {inputs : Set HashInput}
    (collisionFree : hasher.CollisionFree digestSize inputs) {tokens : List TokenId}
    (covered : ∀ input ∈ hasher.hashedInputs tokens, input ∈ inputs) :
    ∀ blockHash ∈ hasher.chain tokens, blockHash.length = digestSize := by
  intro blockHash member
  obtain ⟨call, callMember, rfl⟩ := digests_of_calls member
  exact link_length collisionFree covered callMember

private theorem chain_getElem_inj {digestSize : Nat} {inputs : Set HashInput}
    (collisionFree : hasher.CollisionFree digestSize inputs) (positive : 0 < hasher.blockSize)
    {left right : List TokenId}
    (leftCovered : ∀ input ∈ hasher.hashedInputs left, input ∈ inputs)
    (rightCovered : ∀ input ∈ hasher.hashedInputs right, input ∈ inputs)
    {leftIndex rightIndex : Nat} {blockHash : BlockHash}
    (leftRead : (hasher.chain left)[leftIndex]? = some blockHash)
    (rightRead : (hasher.chain right)[rightIndex]? = some blockHash) :
    leftIndex = rightIndex ∧ left.take ((leftIndex + 1) * hasher.blockSize) =
      right.take ((rightIndex + 1) * hasher.blockSize) := by
  have prefixDigest : ∀ (tokens : List TokenId) (index : Nat),
      (hasher.chain tokens)[index]? = some blockHash →
        index < tokens.length / hasher.blockSize ∧
        digest hasher.link hasher.noneHash
          ((fullBlocks hasher.blockSize tokens).take (index + 1)) = blockHash := by
    intro tokens index read
    obtain ⟨below, value⟩ := List.getElem?_eq_some_iff.mp read
    rw [chain_length] at below
    refine ⟨below, ?_⟩
    rw [← digests_getElem _ index (by simpa using below)]
    exact value
  obtain ⟨leftBelow, leftDigest⟩ := prefixDigest left leftIndex leftRead
  obtain ⟨rightBelow, rightDigest⟩ := prefixDigest right rightIndex rightRead
  have sameBlocks : (fullBlocks hasher.blockSize left).take (leftIndex + 1) =
      (fullBlocks hasher.blockSize right).take (rightIndex + 1) := by
    have sameDigest := leftDigest.trans rightDigest.symm
    refine digest_injective ?_ ?_ ?_ sameDigest
    · refine (link_injOn collisionFree leftCovered rightCovered).mono ?_
      intro call member
      exact member.imp (calls_take_subset _ _ call) (calls_take_subset _ _ call)
    · intro call member
      exact link_ne_noneHash collisionFree leftCovered (calls_take_subset _ _ call member)
    · intro call member
      exact link_ne_noneHash collisionFree rightCovered (calls_take_subset _ _ call member)
  have sameLength := congrArg List.length sameBlocks
  simp only [List.length_take, fullBlocks_length] at sameLength
  have leftInside : (leftIndex + 1) * hasher.blockSize ≤ left.length :=
    (Nat.le_div_iff_mul_le positive).mp leftBelow
  have rightInside : (rightIndex + 1) * hasher.blockSize ≤ right.length :=
    (Nat.le_div_iff_mul_le positive).mp rightBelow
  refine ⟨by omega, ?_⟩
  rw [← fullBlocks_take_flatten left leftInside leftBelow,
    ← fullBlocks_take_flatten right rightInside rightBelow, sameBlocks]

end BlockHasher

/-! ## Keys of groups with their own block sizes -/

/-- The hash list of a request as a group with block size `targetBlockSize`
reads it. -/
def BlockHasher.view (hasher : BlockHasher) (request : Request) (targetBlockSize : Nat)
    (divides : hasher.blockSize ∣ targetBlockSize) : BlockHashListWithBlockSize :=
  ⟨request.blockHashes, hasher.blockSize, targetBlockSize, divides⟩

section View

variable {hasher : BlockHasher} {request : Request} {targetBlockSize : Nat}
  {divides : hasher.blockSize ∣ targetBlockSize} {index : Nat}

private theorem view_slice_length
    (inRange : index < (hasher.view request targetBlockSize divides).length) :
    (index + 1) * (targetBlockSize / hasher.blockSize) ≤ request.blockHashes.length := by
  have below : index < request.blockHashes.length / (targetBlockSize / hasher.blockSize) := inRange
  exact (Nat.mul_le_mul_right _ below).trans (Nat.div_mul_le_self _ _)

private theorem view_tokens (positive : 0 < hasher.blockSize)
    (hashes : request.blockHashes = hasher.chain request.allTokenIds)
    (inRange : index < (hasher.view request targetBlockSize divides).length) :
    (index + 1) * (targetBlockSize / hasher.blockSize) * hasher.blockSize ≤
      request.allTokenIds.length := by
  have slice := view_slice_length inRange
  rw [hashes, BlockHasher.chain_length] at slice
  exact (Nat.le_div_iff_mul_le positive).mp slice

end View

section Slices

variable {hasher : BlockHasher} {request : Request} {targetBlockSize index : Nat}
  {divides : hasher.blockSize ∣ targetBlockSize} {digestSize : Nat} {inputs : Set HashInput}

private def keySlice (hasher : BlockHasher) (tokens : List TokenId) (scaleFactor index : Nat) :
    List BlockHash :=
  ((hasher.chain tokens).drop (index * scaleFactor)).take scaleFactor

private theorem view_getValueAt (hashes : request.blockHashes = hasher.chain request.allTokenIds) :
    (hasher.view request targetBlockSize divides).getValueAt index =
      (keySlice hasher request.allTokenIds (targetBlockSize / hasher.blockSize) index).flatten := by
  rw [keySlice, ← hashes]
  rfl

private theorem keySlice_sized (collisionFree : hasher.CollisionFree digestSize inputs)
    {tokens : List TokenId} (covered : ∀ input ∈ hasher.hashedInputs tokens, input ∈ inputs)
    (scaleFactor : Nat) :
    ∀ piece ∈ keySlice hasher tokens scaleFactor index, piece.length = digestSize := by
  intro piece member
  have inChain : piece ∈ hasher.chain tokens := List.mem_of_mem_drop (List.mem_of_mem_take member)
  exact BlockHasher.chain_sized collisionFree covered piece inChain

private theorem keySlice_last {tokens : List TokenId} {scaleFactor : Nat} (positive : 0 < scaleFactor) :
    (keySlice hasher tokens scaleFactor index)[scaleFactor - 1]? =
      (hasher.chain tokens)[(index + 1) * scaleFactor - 1]? := by
  have expand : (index + 1) * scaleFactor = index * scaleFactor + scaleFactor := Nat.succ_mul _ _
  rw [keySlice, List.getElem?_take_of_lt (by omega), List.getElem?_drop]
  congr 1
  omega

private theorem keyTokens_eq (divides : hasher.blockSize ∣ targetBlockSize) :
    (index + 1) * (targetBlockSize / hasher.blockSize) * hasher.blockSize =
      (index + 1) * targetBlockSize := by
  rw [Nat.mul_assoc, Nat.div_mul_cancel divides]

private theorem keyValue_injective (collisionFree : hasher.CollisionFree digestSize inputs)
    {left right : Request}
    (leftCovered : ∀ input ∈ hasher.hashedInputs left.allTokenIds, input ∈ inputs)
    (rightCovered : ∀ input ∈ hasher.hashedInputs right.allTokenIds, input ∈ inputs)
    (leftHashes : left.blockHashes = hasher.chain left.allTokenIds)
    (rightHashes : right.blockHashes = hasher.chain right.allTokenIds)
    (positive : 0 < hasher.blockSize) (targetPositive : 0 < targetBlockSize)
    {leftIndex rightIndex : Nat}
    (leftInRange : leftIndex < (hasher.view left targetBlockSize divides).length)
    (rightInRange : rightIndex < (hasher.view right targetBlockSize divides).length)
    (sameValue : (hasher.view left targetBlockSize divides).getValueAt leftIndex =
      (hasher.view right targetBlockSize divides).getValueAt rightIndex) :
    leftIndex = rightIndex ∧ left.allTokenIds.take ((leftIndex + 1) * targetBlockSize) =
      right.allTokenIds.take ((rightIndex + 1) * targetBlockSize) := by
  have scalePositive : 0 < targetBlockSize / hasher.blockSize :=
    Nat.div_pos (Nat.le_of_dvd targetPositive divides) positive
  set scale := targetBlockSize / hasher.blockSize with scaleDef
  have leftInside := view_slice_length leftInRange
  have rightInside := view_slice_length rightInRange
  rw [leftHashes, ← scaleDef] at leftInside
  rw [rightHashes, ← scaleDef] at rightInside
  rw [view_getValueAt leftHashes, view_getValueAt rightHashes] at sameValue
  have sameSlice := Bytes.flatten_injective collisionFree.positive
    (keySlice_sized collisionFree leftCovered _) (keySlice_sized collisionFree rightCovered _)
    sameValue
  have sameLast : (hasher.chain left.allTokenIds)[(leftIndex + 1) * scale - 1]? =
      (hasher.chain right.allTokenIds)[(rightIndex + 1) * scale - 1]? := by
    rw [← keySlice_last scalePositive, ← keySlice_last scalePositive, sameSlice]
  have leftPositive : 0 < (leftIndex + 1) * scale := Nat.mul_pos (by omega) scalePositive
  have rightPositive : 0 < (rightIndex + 1) * scale := Nat.mul_pos (by omega) scalePositive
  obtain ⟨blockHash, leftRead⟩ : ∃ blockHash,
      (hasher.chain left.allTokenIds)[(leftIndex + 1) * scale - 1]? = some blockHash :=
    ⟨_, List.getElem?_eq_getElem (by omega)⟩
  obtain ⟨sameEnd, sameTokens⟩ := BlockHasher.chain_getElem_inj collisionFree positive
    leftCovered rightCovered leftRead (sameLast.symm.trans leftRead)
  have sameProduct : (leftIndex + 1) * scale = (rightIndex + 1) * scale := by omega
  have sameIndex := Nat.eq_of_mul_eq_mul_right scalePositive sameProduct
  rw [Nat.sub_add_cancel leftPositive, Nat.sub_add_cancel rightPositive,
    keyTokens_eq divides, keyTokens_eq divides] at sameTokens
  exact ⟨by omega, sameTokens⟩

private theorem keyValue_congr {left right : Request}
    (leftHashes : left.blockHashes = hasher.chain left.allTokenIds)
    (rightHashes : right.blockHashes = hasher.chain right.allTokenIds)
    (positive : 0 < hasher.blockSize)
    (leftInRange : index < (hasher.view left targetBlockSize divides).length)
    (rightInRange : index < (hasher.view right targetBlockSize divides).length)
    (sameTokens : left.allTokenIds.take ((index + 1) * targetBlockSize) =
      right.allTokenIds.take ((index + 1) * targetBlockSize)) :
    (hasher.view left targetBlockSize divides).getValueAt index =
      (hasher.view right targetBlockSize divides).getValueAt index := by
  have leftInside := view_tokens positive leftHashes leftInRange
  have rightInside := view_tokens positive rightHashes rightInRange
  set scale := targetBlockSize / hasher.blockSize with scaleDef
  have sameChain := hasher.chain_take_congr positive leftInside rightInside
    (by rw [scaleDef, keyTokens_eq divides]; exact sameTokens)
  have expand : (index + 1) * scale = index * scale + scale := Nat.succ_mul _ _
  have sliceOfTake : ∀ tokens : List TokenId, keySlice hasher tokens scale index =
      ((hasher.chain tokens).take ((index + 1) * scale)).drop (index * scale) := by
    intro tokens
    rw [keySlice, List.drop_take, expand, Nat.add_sub_cancel_left]
  rw [view_getValueAt leftHashes, view_getValueAt rightHashes, sliceOfTake, sliceOfTake, sameChain]

end Slices

/-- Group-tagged keys are equal exactly for the same group, the same block
index and the same tokens up to the end of that block; and a key gives back the
hash and the group it was made of. Each group may read the hash list at its own
block size, a multiple of the hash block size. -/
theorem blockHashKey_eq_iff (hasher : BlockHasher) (positive : 0 < hasher.blockSize)
    {left right : Request} (leftRun : left.HashRun hasher (KeepsHashedTokens hasher))
    (rightRun : right.HashRun hasher (KeepsHashedTokens hasher))
    (leftText : left.TextOnly) (rightText : right.TextOnly) {digestSize : Nat}
    (collisionFree : hasher.CollisionFree digestSize
      {input | input ∈ hasher.hashedInputs left.allTokenIds ∨
        input ∈ hasher.hashedInputs right.allTokenIds})
    (blockSize : Nat → Nat) (divides : ∀ group, hasher.blockSize ∣ blockSize group)
    (blockSizePositive : ∀ group, 0 < blockSize group)
    {leftGroup rightGroup leftIndex rightIndex : Nat}
    (leftGroupFits : leftGroup < 2 ^ 32) (rightGroupFits : rightGroup < 2 ^ 32)
    (leftInRange : leftIndex < (hasher.view left _ (divides leftGroup)).length)
    (rightInRange : rightIndex < (hasher.view right _ (divides rightGroup)).length) :
    ∃ leftKey rightKey,
      makeBlockHashWithGroupId ((hasher.view left _ (divides leftGroup)).getValueAt leftIndex)
        leftGroup = .ok leftKey ∧
      makeBlockHashWithGroupId ((hasher.view right _ (divides rightGroup)).getValueAt rightIndex)
        rightGroup = .ok rightKey ∧
      (leftKey = rightKey ↔ leftGroup = rightGroup ∧ leftIndex = rightIndex ∧
        left.allTokenIds.take ((leftIndex + 1) * blockSize leftGroup) =
          right.allTokenIds.take ((rightIndex + 1) * blockSize rightGroup)) ∧
      getBlockHash leftKey = (hasher.view left _ (divides leftGroup)).getValueAt leftIndex ∧
      getGroupId leftKey = leftGroup ∧
      getBlockHash rightKey = (hasher.view right _ (divides rightGroup)).getValueAt rightIndex ∧
      getGroupId rightKey = rightGroup := by
  have leftHashes := textOnly_blockHashes leftRun leftText positive
  have rightHashes := textOnly_blockHashes rightRun rightText positive
  have made : ∀ (blockHash : BlockHash) (group : Nat), group < 2 ^ 32 →
      makeBlockHashWithGroupId blockHash group =
        .ok (blockHash ++ Bytes.bigEndian 4 group) := fun blockHash group fits =>
    makeBlockHashWithGroupId_eq_ok.mpr ⟨by simpa using fits, rfl⟩
  have leftMade := made ((hasher.view left _ (divides leftGroup)).getValueAt leftIndex)
    leftGroup leftGroupFits
  have rightMade := made ((hasher.view right _ (divides rightGroup)).getValueAt rightIndex)
    rightGroup rightGroupFits
  refine ⟨_, _, leftMade, rightMade, ?_, getBlockHash_make leftMade, getGroupId_make leftMade,
    getBlockHash_make rightMade, getGroupId_make rightMade⟩
  constructor
  · intro sameKey
    rw [sameKey] at leftMade
    obtain ⟨sameValue, rfl⟩ := makeBlockHashWithGroupId_injective leftMade rightMade
    obtain ⟨sameIndex, sameTokens⟩ := keyValue_injective collisionFree
      (fun input member => Or.inl member) (fun input member => Or.inr member)
      leftHashes rightHashes positive (blockSizePositive leftGroup) leftInRange rightInRange
      sameValue
    exact ⟨rfl, sameIndex, sameTokens⟩
  · rintro ⟨rfl, rfl, sameTokens⟩
    have sameValue := keyValue_congr leftHashes rightHashes positive leftInRange rightInRange
      sameTokens
    rw [sameValue]

/-! ## A shared prefix, and a session whose hashes are stale -/

private theorem collisionFree_of_lists {hasher : BlockHasher} {digestSize : Nat}
    {left right : List HashInput} (positive : 0 < digestSize)
    (sized : ∀ input ∈ left ++ right, (hasher.cachingHashFn input).length = digestSize ∧
      hasher.cachingHashFn input ≠ hasher.noneHash)
    (injective : ∀ first ∈ left ++ right, ∀ second ∈ left ++ right,
      hasher.cachingHashFn first = hasher.cachingHashFn second → first = second) :
    hasher.CollisionFree digestSize {input | input ∈ left ∨ input ∈ right} where
  positive := positive
  fixedLength := fun input member => (sized input (List.mem_append.mpr member)).1
  injective := fun first member second member' equal =>
    injective first (List.mem_append.mpr member) second (List.mem_append.mpr member') equal
  neverNone := fun input member => (sized input (List.mem_append.mpr member)).2

/-- Two prompts that share a block of two hashes share its key. -/
theorem blockHashKey_sharedPrefix :
    ∃ key, makeBlockHashWithGroupId
        ((pairHasher.view (promptRequest 0 [1, 2, 3, 4, 5, 6]) 4 (by decide)).getValueAt 0) 7 =
          .ok key ∧
      makeBlockHashWithGroupId
        ((pairHasher.view (promptRequest 1 [1, 2, 3, 4, 7, 8]) 4 (by decide)).getValueAt 0) 7 =
          .ok key := by
  have leftRun : HashRun pairHasher (KeepsHashedTokens pairHasher)
      (promptRequest 0 [1, 2, 3, 4, 5, 6]) :=
    .init (rfl : (unhashedRequest 0 [1, 2, 3, 4, 5, 6]).blockHashes = []) rfl
  have rightRun : HashRun pairHasher (KeepsHashedTokens pairHasher)
      (promptRequest 1 [1, 2, 3, 4, 7, 8]) :=
    .init (rfl : (unhashedRequest 1 [1, 2, 3, 4, 7, 8]).blockHashes = []) rfl
  obtain ⟨leftKey, rightKey, leftMade, rightMade, iff, -⟩ :=
    blockHashKey_eq_iff pairHasher (by decide) leftRun rightRun
      ⟨rfl, rfl, rfl, rfl⟩ ⟨rfl, rfl, rfl, rfl⟩
      (collisionFree_of_lists (by decide : 0 < 2) (by decide) (by decide)) (fun _ => 4)
      (fun _ => by decide) (fun _ => by decide) (by decide : 7 < 2 ^ 32) (by decide : 7 < 2 ^ 32)
      (by decide : 0 < 1) (by decide : 0 < 1)
  have same := iff.mpr ⟨rfl, rfl, rfl⟩
  subst same
  exact ⟨leftKey, leftMade, rightMade⟩

/-- A session update that discards a hashed token leaves a stale hash: the
session's first key is the key of the discarded tokens. -/
theorem resumedSession_staleKey :
    resumedSession.HashRun pairHasher (fun _ _ => True) ∧
    (promptRequest 1 [1, 2]).HashRun pairHasher (fun _ _ => True) ∧
    resumedSession.TextOnly ∧ (promptRequest 1 [1, 2]).TextOnly ∧
    pairHasher.CollisionFree 2
      {input | input ∈ pairHasher.hashedInputs resumedSession.allTokenIds ∨
        input ∈ pairHasher.hashedInputs (promptRequest 1 [1, 2]).allTokenIds} ∧
    makeBlockHashWithGroupId ((pairHasher.view resumedSession 2 (by decide)).getValueAt 0) 0 =
      makeBlockHashWithGroupId
        ((pairHasher.view (promptRequest 1 [1, 2]) 2 (by decide)).getValueAt 0) 0 ∧
    resumedSession.allTokenIds.take 2 ≠ (promptRequest 1 [1, 2]).allTokenIds.take 2 := by
  have opened : HashRun pairHasher (fun _ _ => True) (promptRequest 0 [1]) :=
    .init (rfl : (unhashedRequest 0 [1]).blockHashes = []) rfl
  have sampled : HashRun pairHasher (fun _ _ => True)
      { promptRequest 0 [1] with
        outputTokenIds := [2], allTokenIds := [1, 2], blockHashes := pairHasher.chain [1, 2] } :=
    .append [2] opened rfl
  have session : sampledSession.HashRun pairHasher (fun _ _ => True) :=
    .other sampled ⟨rfl, rfl, rfl, rfl, rfl, rfl⟩
  have resumed : resumedSession.HashRun pairHasher (fun _ _ => True) :=
    .session ⟨[], [3], 1, 0, { maxTokens := 1 }⟩ session trivial rfl
  have plain : (promptRequest 1 [1, 2]).HashRun pairHasher (fun _ _ => True) :=
    .init (rfl : (unhashedRequest 1 [1, 2]).blockHashes = []) rfl
  exact ⟨resumed, plain, ⟨rfl, rfl, rfl, rfl⟩, ⟨rfl, rfl, rfl, rfl⟩,
    collisionFree_of_lists (by decide) (by decide) (by decide), rfl, by decide⟩

end DeepSpark
