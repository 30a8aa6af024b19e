import DeepSpark.Request.KeyIdentity

/-!
Incremental block hashing against hashing from scratch.

Owns the request that the constructor hashes and `append_output_token_ids` grows,
and the chain it carries: every block has the keys of all its items, except that the
block in which a prompt of at least one full block ends is hashed with its last item
only.
-/

namespace DeepSpark

open Lib Request BlockHasher

namespace Request

/-- `append_output_token_ids` for one portion of tokens after another. -/
def appendPortions (hasher : Option BlockHasher) (request : Request)
    (portions : List (List TokenId)) : Except PyError Request :=
  portions.foldlM (appendOutputTokenIds hasher) request

/-- The item from which the hasher reads the keys of a block: the last one for the
block in which a hashed prompt ends. -/
def itemOrigin (hasher : BlockHasher) (request : Request) (index : Nat) : Nat :=
  if index = request.numTokens / hasher.blockSize ∧ 0 < index then request.mmFeatures.length - 1
  else 0

def grownKeys (hasher : BlockHasher) (request : Request) (index : Nat) : Option (List ExtraKey) :=
  hasher.keysFrom request (request.itemOrigin hasher index) index

def grownBy (hasher : BlockHasher) (request : Request) (outputs : List TokenId) : Request :=
  { request with
    outputTokenIds := request.outputTokenIds ++ outputs
    allTokenIds := request.allTokenIds ++ outputs
    blockHashes := hasher.keyedChain (request.grownKeys hasher) (request.allTokenIds ++ outputs) }

def ItemsInPrompt (request : Request) : Prop :=
  ∀ feature ∈ request.mmFeatures, feature.offset + feature.length ≤ request.numTokens

variable {hasher : BlockHasher} {request : Request}

theorem itemsIn_behindPrompt (inPrompt : request.ItemsInPrompt) (positive : 0 < hasher.blockSize)
    {index : Nat} (behind : request.numTokens / hasher.blockSize < index) (origin endTokenIdx : Nat) :
    itemsIn (index * hasher.blockSize) endTokenIdx (request.mmFeatures.drop origin) = [] := by
  apply itemsIn_eq_nil_of_passed
  intro feature member
  have past : request.numTokens < index * hasher.blockSize :=
    (Nat.div_lt_iff_lt_mul positive).mp behind
  exact (inPrompt feature (List.mem_of_mem_drop member)).trans past.le

/-- A cursor for a block that the prompt does not fill: behind the prompt it does
not matter from which item it reads. -/
def ReadsGrown (hasher : BlockHasher) (request : Request) (index : Nat) (currMmIdx : Int) : Prop :=
  request.numTokens / hasher.blockSize ≤ index ∧ ∃ origin,
    (index = request.numTokens / hasher.blockSize → origin = request.itemOrigin hasher index) ∧
      request.ReadsFrom origin (index * hasher.blockSize) currMmIdx

section

variable (inOrder : InPromptOrder request.mmFeatures)

include inOrder

theorem readsKeys_grown (inPrompt : request.ItemsInPrompt) (positive : 0 < hasher.blockSize) :
    ReadsKeys hasher request (request.grownKeys hasher) (request.ReadsGrown hasher) := by
  rintro index cursor ⟨behind, origin, isOrigin, reads⟩
  obtain ⟨next, keys, goesOn⟩ :=
    readsKeys_from inOrder positive origin index cursor reads
  refine ⟨next, ?_, Nat.le_succ_of_le behind, origin, fun isEnd => by omega, goesOn⟩
  rw [keys, grownKeys]
  by_cases isEnd : index = request.numTokens / hasher.blockSize
  · rw [isOrigin isEnd]
  · have isBehind : request.numTokens / hasher.blockSize < index := by omega
    rw [keysFrom, blockKeysFrom, itemsIn_behindPrompt inPrompt positive isBehind,
      keysFrom, blockKeysFrom, itemsIn_behindPrompt inPrompt positive isBehind]

theorem updateBlockHashes_prompt
    (positive : 0 < hasher.blockSize) (fresh : request.blockHashes = []) :
    updateBlockHashes (some hasher) request = .ok (request.grownBy hasher []) := by
  have isChain := requestBlockHasher_fresh inOrder positive fresh
  have sameChain : hasher.keyedChain (hasher.keysFrom request 0) request.allTokenIds =
      hasher.keyedChain (request.grownKeys hasher) request.allTokenIds := by
    unfold keyedChain keyedBlocks
    congr 1
    apply List.map_congr_left
    intro index member
    have below : index < request.numTokens / hasher.blockSize := List.mem_range.mp member
    rw [grownKeys, itemOrigin, if_neg (by omega)]
  rw [updateBlockHashes, isChain, sameChain]
  simp only [grownBy, List.append_nil, fresh, List.nil_append]
  rfl

theorem appendOutputTokenIds_grownBy
    (inPrompt : request.ItemsInPrompt) (positive : 0 < hasher.blockSize)
    (outputs tokenIds : List TokenId) :
    appendOutputTokenIds (some hasher) (request.grownBy hasher outputs) tokenIds =
      .ok (request.grownBy hasher (outputs ++ tokenIds)) := by
  have count : (request.grownBy hasher outputs).blockHashes.length =
      (request.allTokenIds ++ outputs).length / hasher.blockSize :=
    keyedChain_length ..
  have behind : request.numTokens / hasher.blockSize ≤
      (request.allTokenIds ++ outputs).length / hasher.blockSize := by
    apply Nat.div_le_div_right
    rw [List.length_append]
    exact Nat.le_add_right _ _
  have reads : request.ReadsGrown hasher (request.grownBy hasher outputs).blockHashes.length
      (if (request.grownBy hasher outputs).blockHashes.length * hasher.blockSize > 0 then -1
        else 0) := by
    rw [count]
    by_cases isHashed : 0 < (request.allTokenIds ++ outputs).length / hasher.blockSize
    · rw [if_pos (Nat.mul_pos isHashed positive)]
      refine ⟨behind, _, fun isEnd => ?_, request.readsFrom_last _⟩
      rw [itemOrigin, if_pos ⟨isEnd, isHashed⟩]
    · have isZero : (request.allTokenIds ++ outputs).length / hasher.blockSize = 0 := by omega
      rw [isZero, Nat.zero_mul, if_neg (lt_irrefl 0)]
      rw [isZero] at behind
      refine ⟨behind, 0, fun _ => ?_, ?_⟩
      · rw [itemOrigin, if_neg (by omega)]
      · rw [Nat.zero_mul]
        exact request.readsFrom_zero
  let extended : Request :=
    { request.grownBy hasher outputs with
      outputTokenIds := (request.grownBy hasher outputs).outputTokenIds ++ tokenIds
      allTokenIds := (request.grownBy hasher outputs).allTokenIds ++ tokenIds }
  have readsKeys : ReadsKeys hasher extended (request.grownKeys hasher)
      (request.ReadsGrown hasher) := readsKeys_grown inOrder inPrompt positive
  have isPrefix : extended.blockHashes =
      (hasher.keyedChain (request.grownKeys hasher) extended.allTokenIds).take
        extended.blockHashes.length := by
    show (request.grownBy hasher outputs).blockHashes =
      (hasher.keyedChain (request.grownKeys hasher)
        ((request.allTokenIds ++ outputs) ++ tokenIds)).take
          (request.grownBy hasher outputs).blockHashes.length
    rw [count, keyedChain_append_take]
    rfl
  obtain ⟨newHashes, hashed, whole⟩ :=
    requestBlockHasher_keyed readsKeys positive reads isPrefix
  show updateBlockHashes (some hasher) extended = _
  rw [updateBlockHashes, hashed]
  show Except.ok { extended with blockHashes := extended.blockHashes ++ newHashes } = _
  rw [whole]
  simp only [extended, grownBy, List.append_assoc]

theorem appendPortions_grownBy
    (inPrompt : request.ItemsInPrompt) (positive : 0 < hasher.blockSize) (outputs : List TokenId)
    (portions : List (List TokenId)) :
    appendPortions (some hasher) (request.grownBy hasher outputs) portions =
      .ok (request.grownBy hasher (outputs ++ portions.flatten)) := by
  induction portions generalizing outputs with
  | nil =>
    rw [List.flatten_nil, List.append_nil]
    rfl
  | cons tokenIds rest ih =>
    rw [appendPortions, List.foldlM_cons,
      appendOutputTokenIds_grownBy inOrder inPrompt positive outputs tokenIds, List.flatten_cons,
      ← List.append_assoc]
    exact ih (outputs ++ tokenIds)

theorem updateBlockHashes_scratch (positive : 0 < hasher.blockSize) (outputs : List TokenId) :
    updateBlockHashes (some hasher) { request.grownBy hasher outputs with blockHashes := [] } =
      .ok { request.grownBy hasher outputs with
        blockHashes :=
          hasher.keyedChain (hasher.keysFrom request 0) (request.allTokenIds ++ outputs) } := by
  have isChain := @BlockHasher.requestBlockHasher_fresh hasher
    { request.grownBy hasher outputs with blockHashes := [] } inOrder positive rfl
  rw [updateBlockHashes, isChain]
  rfl

end

/-- The block in which a hashed prompt ends, if it is ever filled, has no item but
the last one. -/
def OnlyLastItemStraddles (hasher : BlockHasher) (request : Request) (numTokens : Nat) : Prop :=
  let index := request.numTokens / hasher.blockSize
  0 < index → (index + 1) * hasher.blockSize ≤ numTokens →
    itemsIn (index * hasher.blockSize) (index * hasher.blockSize + hasher.blockSize)
      request.mmFeatures.dropLast = []

theorem itemsIn_eq_append_last (startTokenIdx endTokenIdx : Nat)
    (features : List MultiModalFeatureSpec) :
    itemsIn startTokenIdx endTokenIdx features =
      itemsIn startTokenIdx endTokenIdx features.dropLast ++
        itemsIn startTokenIdx endTokenIdx (features.drop (features.length - 1)) := by
  rw [itemsIn, itemsIn, itemsIn, ← List.filter_append, List.dropLast_eq_take, List.take_append_drop]

/-- The last item alone gives a block the keys of all its items exactly if no other
item is in the block. -/
theorem blockKeysFrom_last_iff (request : Request) (startTokenIdx endTokenIdx : Nat) :
    request.blockKeysFrom (request.mmFeatures.length - 1) startTokenIdx endTokenIdx =
        request.blockKeysFrom 0 startTokenIdx endTokenIdx ↔
      itemsIn startTokenIdx endTokenIdx request.mmFeatures.dropLast = [] := by
  have allItems := itemsIn_eq_append_last startTokenIdx endTokenIdx request.mmFeatures
  rw [blockKeysFrom, blockKeysFrom, List.drop_zero]
  constructor
  · intro same
    have lengths := congrArg List.length (keyTuple_injective same)
    simp only [keysWith, allItems, List.length_append, List.length_map] at lengths
    exact List.length_eq_zero_iff.mp (by omega)
  · intro noOther
    rw [allItems, noOther, List.nil_append]

end Request

/-- For every way to append output tokens to a hashed request, the hashes are those
that the hasher computes from scratch, where every block has all its items, exactly
if the block in which the prompt ends has no item but the last one. -/
theorem incrementalHashes_eq_iff {hasher : BlockHasher} {request : Request}
    (positive : 0 < hasher.blockSize) (fresh : request.blockHashes = [])
    (inOrder : InPromptOrder request.mmFeatures) (inPrompt : request.ItemsInPrompt)
    (portions : List (List TokenId)) :
    ∃ hashed grown scratch, request.updateBlockHashes (some hasher) = .ok hashed ∧
      hashed.appendPortions (some hasher) portions = .ok grown ∧
      updateBlockHashes (some hasher) { grown with blockHashes := [] } = .ok scratch ∧
      scratch.blockHashes =
        hasher.keyedChain (hasher.keysFrom request 0) (request.allTokenIds ++ portions.flatten) ∧
      (request.OnlyLastItemStraddles hasher grown.numTokens →
        grown.blockHashes = scratch.blockHashes) ∧
      (Set.InjOn hasher.cachingHashFn
          {input | input ∈ hasher.keyedInputs (request.grownKeys hasher) grown.allTokenIds ∨
            input ∈ hasher.keyedInputs (hasher.keysFrom request 0) grown.allTokenIds} →
        grown.blockHashes = scratch.blockHashes →
          request.OnlyLastItemStraddles hasher grown.numTokens) := by
  refine ⟨_, _, _, updateBlockHashes_prompt inOrder positive fresh,
    appendPortions_grownBy inOrder inPrompt positive [] portions,
    updateBlockHashes_scratch inOrder positive _, rfl, fun onlyLast => ?_,
    fun injective same => ?_⟩
  · apply congrArg (HashChain.digests hasher.keyedLink hasher.noneHash)
    apply List.map_congr_left
    intro index member
    rw [grownKeys, itemOrigin]
    split
    next isEnd =>
      obtain ⟨rfl, isHashed⟩ := isEnd
      have isFull := (Nat.le_div_iff_mul_le positive).mp (List.mem_range.mp member)
      rw [keysFrom, (blockKeysFrom_last_iff request _ _).mpr
        (onlyLast isHashed isFull), keysFrom]
    next => rfl
  · intro isHashed isFull
    have sameKeys := hasher.keyedChain_injective injective same
      (request.numTokens / hasher.blockSize) ((Nat.le_div_iff_mul_le positive).mpr isFull)
    rw [grownKeys, itemOrigin, if_pos ⟨rfl, isHashed⟩] at sameKeys
    exact (blockKeysFrom_last_iff request _ _).mp sameKeys

/-- Blocks of four tokens, hashed to their tokens and the number of their keys. -/
def keyCountHasher : BlockHasher where
  blockSize := 4
  cachingHashFn := fun input =>
    UInt8.ofNat (input.extraKeys.getD []).length ::
      input.currBlockTokenIds.map fun token => UInt8.ofNat token.toNat
  noneHash := [0]

def imagesPrompt (first second : MultiModalFeatureSpec) : Request :=
  { unhashedRequest 0 [1, 2, 3, 4, 5, 6] with mmFeatures := [first, second] }

/-- One image in the first block, the other where the prompt ends: appending two
tokens at once gives the hashes of the whole request. -/
theorem incrementalHashes_oneStraddling :
    ∃ hashed grown scratch,
      (imagesPrompt ⟨"cat", 1, 2⟩ ⟨"dog", 3, 3⟩).updateBlockHashes (some keyCountHasher) =
        .ok hashed ∧
      hashed.appendPortions (some keyCountHasher) [[7], [8]] = .ok grown ∧
      updateBlockHashes (some keyCountHasher) { grown with blockHashes := [] } = .ok scratch ∧
      grown.blockHashes = scratch.blockHashes := by
  obtain ⟨hashed, grown, scratch, isHashed, isGrown, isScratch, -, same, -⟩ :=
    @incrementalHashes_eq_iff keyCountHasher (imagesPrompt ⟨"cat", 1, 2⟩ ⟨"dog", 3, 3⟩) (by decide)
      rfl (by simp [InPromptOrder, imagesPrompt])
      (by simp [ItemsInPrompt, imagesPrompt, numTokens, unhashedRequest])
      [[7], [8]]
  exact ⟨hashed, grown, scratch, isHashed, isGrown, isScratch, same fun _ _ => rfl⟩

/-- Both images lie where the prompt ends: the block is hashed without the first. -/
theorem incrementalHashes_bothStraddling :
    ∃ hashed grown scratch,
      (imagesPrompt ⟨"cat", 4, 1⟩ ⟨"dog", 5, 1⟩).updateBlockHashes (some keyCountHasher) =
        .ok hashed ∧
      hashed.appendPortions (some keyCountHasher) [[7], [8]] = .ok grown ∧
      updateBlockHashes (some keyCountHasher) { grown with blockHashes := [] } = .ok scratch ∧
      grown.blockHashes ≠ scratch.blockHashes :=
  ⟨_, _, _, rfl, rfl, rfl, by decide⟩

end DeepSpark
