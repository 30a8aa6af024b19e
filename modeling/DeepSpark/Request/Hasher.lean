import DeepSpark.Lib.HashChain
import DeepSpark.Request.ExtraKeys

/-!
Block hashing of a request: `hash_block_tokens`, the hasher returned by
`get_request_block_hasher`, and the three places that call it.

Owns the hasher with its resumption point and multi-modal cursor, the calls of
it by the constructor, by the append path and by a streaming session's update,
and the hash chain of a token list under given extra keys, which one call of the
hasher completes.
-/

namespace DeepSpark

open Lib

structure HashInput where
  parentBlockHash : BlockHash
  currBlockTokenIds : List TokenId
  extraKeys : Option (List ExtraKey)
deriving DecidableEq, Repr

/-- What `get_request_block_hasher` closes over, with the global `NONE_HASH`. -/
structure BlockHasher where
  blockSize : Nat
  cachingHashFn : HashInput → BlockHash
  noneHash : BlockHash

namespace BlockHasher

variable (hasher : BlockHasher)

def hashBlockTokens (parentBlockHash : Option BlockHash) (currBlockTokenIds : List TokenId)
    (extraKeys : Option (List ExtraKey)) : BlockHash :=
  let parent :=
    match parentBlockHash with
    | none => hasher.noneHash
    | some blockHash => if blockHash.isEmpty then hasher.noneHash else blockHash
  hasher.cachingHashFn ⟨parent, currBlockTokenIds, extraKeys⟩

/-- The `while True` loop of `request_block_hasher`; `fuel` bounds the number
of further full blocks. -/
def hashBlocksFrom (request : Request) :
    Nat → Nat → Option BlockHash → Int → Except PyError (List BlockHash)
  | 0, _, _, _ => .ok []
  | fuel + 1, startTokenIdx, prevBlockHashValue, currMmIdx =>
    let endTokenIdx := startTokenIdx + hasher.blockSize
    if endTokenIdx > request.numTokens then .ok []
    else do
      let (extraKeys, nextMmIdx) ←
        generateBlockHashExtraKeys request startTokenIdx endTokenIdx currMmIdx
      let blockTokens := (request.allTokenIds.drop startTokenIdx).take hasher.blockSize
      let blockHash := hasher.hashBlockTokens prevBlockHashValue blockTokens extraKeys
      let rest ← hashBlocksFrom request fuel endTokenIdx (some blockHash) nextMmIdx
      .ok (blockHash :: rest)

def requestBlockHasher (request : Request) : Except PyError (List BlockHash) :=
  let startTokenIdx := request.blockHashes.length * hasher.blockSize
  if startTokenIdx + hasher.blockSize > request.numTokens then .ok []
  else
    let currMmIdx : Int := if startTokenIdx > 0 then -1 else 0
    hasher.hashBlocksFrom request request.numTokens startTokenIdx
      request.blockHashes.getLast? currMmIdx

end BlockHasher

namespace Request

/-- `Request.update_block_hashes`; without a hasher it does nothing. -/
def updateBlockHashes (hasher : Option BlockHasher) (request : Request) :
    Except PyError Request :=
  match hasher with
  | none => .ok request
  | some hasher => do
      let newBlockHashes ← hasher.requestBlockHasher request
      .ok { request with blockHashes := request.blockHashes ++ newBlockHashes }

def appendOutputTokenIds (hasher : Option BlockHasher) (request : Request)
    (tokenIds : List TokenId) : Except PyError Request :=
  updateBlockHashes hasher
    { request with
      outputTokenIds := request.outputTokenIds ++ tokenIds
      allTokenIds := request.allTokenIds ++ tokenIds }

def shiftFeatures (base : Nat) (features : List MultiModalFeatureSpec) :
    List MultiModalFeatureSpec :=
  features.map fun feature => { feature with offset := feature.offset + base }

/-- The tokens of a session after an update: `del all_token_ids[num_computed:]`,
then the update's prompt. -/
def sessionTokens (session : Request) (update : StreamingUpdate) : List TokenId :=
  pyTake session.numComputedTokens session.allTokenIds ++ update.promptTokenIds

/-- The request part of `Scheduler._update_request_as_session`: only computed
output tokens are kept. The hashes of the discarded tokens stay. -/
def updateRequestAsSession (hasher : Option BlockHasher) (session : Request)
    (update : StreamingUpdate) : Except PyError Request := do
  let keptOutputTokens :=
    (pyTake session.numComputedTokens session.allTokenIds).drop session.numPromptTokens
  let keptTokens := pyTake session.numComputedTokens session.allTokenIds
  let promptTokenIds := session.promptTokenIds ++ keptOutputTokens ++ update.promptTokenIds
  let updated ← updateBlockHashes hasher
    { session with
      outputTokenIds := []
      mmFeatures := session.mmFeatures ++ shiftFeatures keptTokens.length update.mmFeatures
      allTokenIds := sessionTokens session update
      promptTokenIds := promptTokenIds }
  .ok { updated with
    numPromptTokens := promptTokenIds.length
    arrivalTime := update.arrivalTime
    samplingParams := update.samplingParams
    status := .waiting }

structure SameHashed (left right : Request) : Prop where
  tokens : left.allTokenIds = right.allTokenIds
  hashes : left.blockHashes = right.blockHashes
  lora : left.loraRequest = right.loraRequest
  salt : left.cacheSalt = right.cacheSalt
  multiModal : left.mmFeatures = right.mmFeatures
  embeds : left.promptEmbeds = right.promptEmbeds

/-- The requests the hasher can meet: one built by the constructor, which
hashes the prompt, then grown by appended output tokens and by the session
updates that `allowed` admits, with every field the hasher does not read free to
change in between. -/
inductive HashRun (hasher : BlockHasher) (allowed : Request → StreamingUpdate → Prop) :
    Request → Prop where
  | init {request hashed : Request} (fresh : request.blockHashes = [])
      (updated : updateBlockHashes (some hasher) request = .ok hashed) :
      HashRun hasher allowed hashed
  | append {request grown : Request} (tokenIds : List TokenId)
      (previous : HashRun hasher allowed request)
      (appended : appendOutputTokenIds (some hasher) request tokenIds = .ok grown) :
      HashRun hasher allowed grown
  | session {session resumed : Request} (update : StreamingUpdate)
      (previous : HashRun hasher allowed session) (admitted : allowed session update)
      (updated : updateRequestAsSession (some hasher) session update = .ok resumed) :
      HashRun hasher allowed resumed
  | other {request changed : Request} (previous : HashRun hasher allowed request)
      (same : SameHashed request changed) : HashRun hasher allowed changed

def KeepsHashedTokens (hasher : BlockHasher) (session : Request) (update : StreamingUpdate) :
    Prop :=
  (sessionTokens session update).take (session.blockHashes.length * hasher.blockSize) =
    session.allTokenIds.take (session.blockHashes.length * hasher.blockSize)

end Request

open HashChain

/-! ## The chain behind the hash list -/

def tokenBlock (blockSize : Nat) (tokens : List TokenId) (index : Nat) : List TokenId :=
  (tokens.drop (index * blockSize)).take blockSize

def fullBlocks (blockSize : Nat) (tokens : List TokenId) : List (List TokenId) :=
  (List.range (tokens.length / blockSize)).map (tokenBlock blockSize tokens)

@[simp] theorem fullBlocks_length (blockSize : Nat) (tokens : List TokenId) :
    (fullBlocks blockSize tokens).length = tokens.length / blockSize := by
  simp [fullBlocks]

private theorem tokenBlock_append {blockSize index : Nat} {tokens : List TokenId}
    (more : List TokenId) (inside : (index + 1) * blockSize ≤ tokens.length) :
    tokenBlock blockSize (tokens ++ more) index = tokenBlock blockSize tokens index := by
  unfold tokenBlock
  have expand : (index + 1) * blockSize = index * blockSize + blockSize := Nat.succ_mul _ _
  rw [List.drop_append_of_le_length (by omega), List.take_append_of_le_length]
  rw [List.length_drop]
  omega

private theorem blocks_append_take {Block : Type} {blockSize : Nat}
    (toBlock : List TokenId → Nat → Block) (tokens more : List TokenId) :
    ((List.range ((tokens ++ more).length / blockSize)).map fun index =>
        toBlock (tokenBlock blockSize (tokens ++ more) index) index).take (tokens.length / blockSize) =
      (List.range (tokens.length / blockSize)).map fun index =>
        toBlock (tokenBlock blockSize tokens index) index := by
  have shorter : tokens.length / blockSize ≤ (tokens ++ more).length / blockSize :=
    Nat.div_le_div_right (by simp)
  rw [← List.map_take, List.take_range, Nat.min_eq_left shorter]
  refine List.map_congr_left fun index member => ?_
  have below : index < tokens.length / blockSize := List.mem_range.mp member
  rw [tokenBlock_append more
    ((Nat.mul_le_mul_right _ below).trans (Nat.div_mul_le_self _ _))]

theorem fullBlocks_take_flatten {blockSize : Nat} (tokens : List TokenId) {count : Nat}
    (inside : count * blockSize ≤ tokens.length) (le : count ≤ tokens.length / blockSize) :
    ((fullBlocks blockSize tokens).take count).flatten = tokens.take (count * blockSize) := by
  induction count with
  | zero => simp
  | succ count ih =>
    have expand : (count + 1) * blockSize = count * blockSize + blockSize := Nat.succ_mul _ _
    have previous := ih (by omega) (by omega)
    have block : (fullBlocks blockSize tokens)[count]? =
        some (tokenBlock blockSize tokens count) := by
      have below : count < tokens.length / blockSize := by omega
      simp [fullBlocks, below]
    rw [List.take_add_one, block, List.flatten_append, previous, expand, List.take_add]
    simp [tokenBlock]

namespace BlockHasher

variable (hasher : BlockHasher)

def link (parent : BlockHash) (blockTokens : List TokenId) : BlockHash :=
  hasher.hashBlockTokens (some parent) blockTokens none

def chain (tokens : List TokenId) : List BlockHash :=
  digests hasher.link hasher.noneHash (fullBlocks hasher.blockSize tokens)

@[simp] theorem chain_length (tokens : List TokenId) :
    (hasher.chain tokens).length = tokens.length / hasher.blockSize := by
  simp [chain]

def keyedLink (parent : BlockHash) (block : List TokenId × Option (List ExtraKey)) : BlockHash :=
  hasher.hashBlockTokens (some parent) block.1 block.2

def keyedBlocks (keysOf : Nat → Option (List ExtraKey)) (tokens : List TokenId) :
    List (List TokenId × Option (List ExtraKey)) :=
  (List.range (tokens.length / hasher.blockSize)).map fun index =>
    (tokenBlock hasher.blockSize tokens index, keysOf index)

def keyedChain (keysOf : Nat → Option (List ExtraKey)) (tokens : List TokenId) : List BlockHash :=
  digests hasher.keyedLink hasher.noneHash (hasher.keyedBlocks keysOf tokens)

section

variable (keysOf : Nat → Option (List ExtraKey))

include keysOf

@[simp] theorem keyedBlocks_length (tokens : List TokenId) :
    (hasher.keyedBlocks keysOf tokens).length = tokens.length / hasher.blockSize := by
  simp [keyedBlocks]

@[simp] theorem keyedChain_length (tokens : List TokenId) :
    (hasher.keyedChain keysOf tokens).length = tokens.length / hasher.blockSize := by
  simp [keyedChain]

theorem keyedBlocks_tokens (tokens : List TokenId) :
    (hasher.keyedBlocks keysOf tokens).map Prod.fst = fullBlocks hasher.blockSize tokens := by
  rw [keyedBlocks, List.map_map]
  rfl

theorem keyedChain_append_take (tokens more : List TokenId) :
    (hasher.keyedChain keysOf (tokens ++ more)).take (tokens.length / hasher.blockSize) =
      hasher.keyedChain keysOf tokens := by
  unfold keyedChain keyedBlocks
  rw [digests_take, blocks_append_take fun block index => (block, keysOf index)]

theorem keyedChain_take_congr {left right : List TokenId}
    {count : Nat} (positive : 0 < hasher.blockSize)
    (leftLong : count * hasher.blockSize ≤ left.length)
    (rightLong : count * hasher.blockSize ≤ right.length)
    (agree : left.take (count * hasher.blockSize) = right.take (count * hasher.blockSize)) :
    (hasher.keyedChain keysOf left).take count = (hasher.keyedChain keysOf right).take count := by
  have prefixChain : ∀ tokens : List TokenId, count * hasher.blockSize ≤ tokens.length →
      (hasher.keyedChain keysOf tokens).take count =
        hasher.keyedChain keysOf (tokens.take (count * hasher.blockSize)) := by
    intro tokens long
    have split := keyedChain_append_take hasher keysOf
      (tokens.take (count * hasher.blockSize)) (tokens.drop (count * hasher.blockSize))
    rwa [List.take_append_drop, List.length_take, Nat.min_eq_left long,
      Nat.mul_div_cancel _ positive] at split
  rw [prefixChain left leftLong, prefixChain right rightLong, agree]

end

def keyedInputs (keysOf : Nat → Option (List ExtraKey)) (tokens : List TokenId) : List HashInput :=
  (calls hasher.keyedLink hasher.noneHash (hasher.keyedBlocks keysOf tokens)).map
    fun call => ⟨if call.1.isEmpty then hasher.noneHash else call.1, call.2.1, call.2.2⟩

theorem keyedBlocks_take_injective {left right : Nat → Option (List ExtraKey)}
    {leftTokens rightTokens : List TokenId} {count : Nat}
    (injective : Set.InjOn hasher.cachingHashFn
      {input | input ∈ hasher.keyedInputs left leftTokens ∨
        input ∈ hasher.keyedInputs right rightTokens})
    (same : (hasher.keyedChain left leftTokens).take count =
      (hasher.keyedChain right rightTokens).take count) :
    (hasher.keyedBlocks left leftTokens).take count =
      (hasher.keyedBlocks right rightTokens).take count := by
  rw [keyedChain, keyedChain, digests_take, digests_take] at same
  refine digests_injective (fun parent block other inLeft inRight sameHash => ?_) same
  have leftCall := calls_take_subset _ _ _ inLeft
  have rightCall := calls_take_subset _ _ _ inRight
  have sameInput := injective (.inl (List.mem_map_of_mem leftCall))
    (.inr (List.mem_map_of_mem rightCall)) sameHash
  injection sameInput with _ sameTokens sameKeys
  exact Prod.ext sameTokens sameKeys

theorem keyedChain_injective {left right : Nat → Option (List ExtraKey)} {tokens : List TokenId}
    (injective : Set.InjOn hasher.cachingHashFn
      {input | input ∈ hasher.keyedInputs left tokens ∨ input ∈ hasher.keyedInputs right tokens})
    (same : hasher.keyedChain left tokens = hasher.keyedChain right tokens) :
    ∀ index < tokens.length / hasher.blockSize, left index = right index := by
  have sameBlocks := hasher.keyedBlocks_take_injective injective
    (congrArg (List.take (tokens.length / hasher.blockSize)) same)
  rw [List.take_of_length_le (keyedBlocks_length ..).le,
    List.take_of_length_le (keyedBlocks_length ..).le] at sameBlocks
  intro index below
  exact congrArg Prod.snd (List.map_inj_left.mp sameBlocks index (List.mem_range.mpr below))

theorem keyedChain_none (tokens : List TokenId) :
    hasher.keyedChain (fun _ => none) tokens = hasher.chain tokens := by
  have same : hasher.keyedBlocks (fun _ => none) tokens =
      (fullBlocks hasher.blockSize tokens).map fun block => (block, none) := by
    rw [keyedBlocks, fullBlocks, List.map_map]
    rfl
  rw [keyedChain, same, digests_map]
  rfl

theorem chain_take_congr {left right : List TokenId} {count : Nat}
    (positive : 0 < hasher.blockSize)
    (leftLong : count * hasher.blockSize ≤ left.length)
    (rightLong : count * hasher.blockSize ≤ right.length)
    (agree : left.take (count * hasher.blockSize) = right.take (count * hasher.blockSize)) :
    (hasher.chain left).take count = (hasher.chain right).take count := by
  rw [← keyedChain_none, ← keyedChain_none]
  exact keyedChain_take_congr hasher _ positive leftLong rightLong agree

private theorem hashBlockTokens_eq_link (prev : Option BlockHash) (blockTokens : List TokenId)
    (extraKeys : Option (List ExtraKey)) : hasher.hashBlockTokens prev blockTokens extraKeys =
      hasher.keyedLink (prev.getD hasher.noneHash) (blockTokens, extraKeys) := by
  cases prev with
  | some parent => rfl
  | none => simp [keyedLink, hashBlockTokens]

variable {hasher}

/-- A cursor of the hasher yields the right extra keys for every block from
`index` on: `reads` is kept from block to block. -/
def ReadsKeys (hasher : BlockHasher) (request : Request) (keysOf : Nat → Option (List ExtraKey))
    (reads : Nat → Int → Prop) : Prop :=
  ∀ index cursor, reads index cursor → ∃ next,
    generateBlockHashExtraKeys request (index * hasher.blockSize)
        (index * hasher.blockSize + hasher.blockSize) cursor = .ok (keysOf index, next) ∧
      reads (index + 1) next

section

variable {request : Request} {keysOf : Nat → Option (List ExtraKey)} {reads : Nat → Int → Prop}
  (readsKeys : ReadsKeys hasher request keysOf reads) (positive : 0 < hasher.blockSize)

include readsKeys positive

theorem hashBlocksFrom_keyed (fuel index : Nat) (prev : Option BlockHash)
    (mmIdx : Int) (isReading : reads index mmIdx)
    (enough : request.numTokens / hasher.blockSize - index ≤ fuel) :
    hasher.hashBlocksFrom request fuel (index * hasher.blockSize) prev mmIdx =
      .ok (digests hasher.keyedLink (prev.getD hasher.noneHash)
        ((hasher.keyedBlocks keysOf request.allTokenIds).drop index)) := by
  have step : index * hasher.blockSize + hasher.blockSize = (index + 1) * hasher.blockSize :=
    (Nat.succ_mul _ _).symm
  induction fuel generalizing index prev mmIdx with
  | zero =>
    have exhausted : (hasher.keyedBlocks keysOf request.allTokenIds).drop index = [] := by
      apply List.drop_eq_nil_of_le
      rw [keyedBlocks_length]
      change request.numTokens / hasher.blockSize ≤ index
      omega
    rw [exhausted]
    rfl
  | succ fuel ih =>
    rw [hashBlocksFrom]
    obtain ⟨next, keys, goesOn⟩ := readsKeys index mmIdx isReading
    simp only [step] at keys ⊢
    by_cases past : (index + 1) * hasher.blockSize > request.numTokens
    · have exhausted : (hasher.keyedBlocks keysOf request.allTokenIds).drop index = [] := by
        apply List.drop_eq_nil_of_le
        rw [keyedBlocks_length]
        exact Nat.le_of_lt_succ ((Nat.div_lt_iff_lt_mul positive).mpr past)
      rw [if_pos past, exhausted]
      rfl
    · have below : index < request.numTokens / hasher.blockSize :=
        (Nat.le_div_iff_mul_le positive).mpr (Nat.not_lt.mp past)
      have head : (hasher.keyedBlocks keysOf request.allTokenIds).drop index =
          (tokenBlock hasher.blockSize request.allTokenIds index, keysOf index) ::
            (hasher.keyedBlocks keysOf request.allTokenIds).drop (index + 1) := by
        rw [List.drop_eq_getElem_cons (by simpa [Request.numTokens] using below)]
        simp [keyedBlocks]
      rw [if_neg past, keys, head]
      have rest := ih (index + 1)
        (some (hasher.hashBlockTokens prev
          (tokenBlock hasher.blockSize request.allTokenIds index) (keysOf index))) next goesOn
        (by omega) (Nat.succ_mul _ _).symm
      simp only [bind, Except.bind, tokenBlock] at rest ⊢
      rw [rest, hashBlockTokens_eq_link]
      rfl

theorem requestBlockHasher_keyed (isReading : reads request.blockHashes.length
      (if request.blockHashes.length * hasher.blockSize > 0 then -1 else 0))
    (isPrefix : request.blockHashes =
      (hasher.keyedChain keysOf request.allTokenIds).take request.blockHashes.length) :
    ∃ newHashes, hasher.requestBlockHasher request = .ok newHashes ∧
      request.blockHashes ++ newHashes = hasher.keyedChain keysOf request.allTokenIds := by
  set count := request.blockHashes.length with countDef
  set blocks := hasher.keyedBlocks keysOf request.allTokenIds with blocksDef
  have splitChain : hasher.keyedChain keysOf request.allTokenIds =
      digests hasher.keyedLink hasher.noneHash (blocks.take count) ++
        digests hasher.keyedLink
          (digest hasher.keyedLink hasher.noneHash (blocks.take count))
          (blocks.drop count) := by
    rw [← digests_append, List.take_append_drop]
    rfl
  have oldHashes : request.blockHashes =
      digests hasher.keyedLink hasher.noneHash (blocks.take count) := by
    rw [isPrefix, keyedChain, digests_take]
  have lastHash : request.blockHashes.getLast?.getD hasher.noneHash =
      digest hasher.keyedLink hasher.noneHash (blocks.take count) := by
    by_cases empty : blocks.take count = []
    · rw [oldHashes, empty]
      rfl
    · rw [oldHashes, digests_getLast? _ empty]
      rfl
  unfold requestBlockHasher
  by_cases noneNew : count * hasher.blockSize + hasher.blockSize > request.numTokens
  · refine ⟨[], by rw [if_pos noneNew], ?_⟩
    have exhausted : blocks.drop count = [] := by
      apply List.drop_eq_nil_of_le
      rw [blocksDef, keyedBlocks_length]
      rw [← Nat.succ_mul] at noneNew
      exact Nat.le_of_lt_succ ((Nat.div_lt_iff_lt_mul positive).mpr noneNew)
    rw [splitChain, exhausted, List.append_nil, ← oldHashes]
    simp [digests]
  · refine ⟨_, by
      rw [if_neg noneNew]
      exact hashBlocksFrom_keyed readsKeys positive _ _ _ _ isReading
        ((Nat.sub_le _ _).trans (Nat.div_le_self _ _)), ?_⟩
    rw [splitChain, ← oldHashes, lastHash]

end

end BlockHasher

namespace Request

theorem updateBlockHashes_frame {hasher : Option BlockHasher} {request updated : Request}
    (ran : updateBlockHashes hasher request = .ok updated) :
    ∃ blockHashes, updated = { request with blockHashes := blockHashes } := by
  unfold updateBlockHashes at ran
  split at ran
  next =>
    cases ran
    exact ⟨_, rfl⟩
  next =>
    obtain ⟨newHashes, -, ran⟩ := bind_eq_ok.mp ran
    cases ran
    exact ⟨_, rfl⟩

end Request

end DeepSpark
