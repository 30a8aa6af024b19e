import DeepSpark.Request.MultiModal

/-!
The hash chain of streaming sessions.

Owns the chain that the current tokens of a request without multi-modal items stand
for, and its life over a run: it is carried through appended output tokens, and
through a session update exactly if the update keeps every token that was already
hashed.
-/

namespace DeepSpark

open Lib BlockHasher Request

variable {resumed session : Request}

namespace Request

def currentChain (hasher : BlockHasher) (request : Request) : List BlockHash :=
  hasher.keyedChain (hasher.keysFrom request 0) request.allTokenIds

variable {hasher : BlockHasher} {request : Request}

theorem readsFrom_noItems (noItems : request.mmFeatures = []) (startTokenIdx : Nat)
    (currMmIdx : Int) : request.ReadsFrom 0 startTokenIdx currMmIdx := by
  refine ⟨fun hasItems => absurd noItems hasItems, Nat.zero_le _, ?_⟩
  rw [noItems, List.drop_nil, List.take_nil]
  exact nofun

theorem updateBlockHashes_noItems {updated : Request}
    (ran : updateBlockHashes (some hasher) request = .ok updated) (noItems : request.mmFeatures = [])
    (positive : 0 < hasher.blockSize)
    (isPrefix : request.blockHashes =
      (request.currentChain hasher).take request.blockHashes.length) :
    updated = { request with blockHashes := request.currentChain hasher } := by
  have inOrder : InPromptOrder request.mmFeatures := noItems ▸ List.Pairwise.nil
  obtain ⟨newHashes, hashed, whole⟩ := requestBlockHasher_keyed
    (readsKeys_from inOrder positive 0) positive
    (readsFrom_noItems noItems _ _) isPrefix
  rw [updateBlockHashes, hashed] at ran
  cases ran
  rw [whole, currentChain]

/-- A session update hashes the kept tokens and the new chunk behind the old
hashes. -/
theorem updateRequestAsSession_spec {update : StreamingUpdate}
    (updated : updateRequestAsSession (some hasher) session update = .ok resumed) :
    ∃ unhashed hashed features, updateBlockHashes (some hasher) unhashed = .ok hashed ∧
      SameHashed hashed resumed ∧ SameHashed unhashed { session with
        allTokenIds := sessionTokens session update, mmFeatures := session.mmFeatures ++ features } := by
  obtain ⟨hashed, ran, updated⟩ := bind_eq_ok.mp updated
  cases updated
  exact ⟨_, hashed, _, ran, ⟨rfl, rfl, rfl, rfl, rfl, rfl⟩, ⟨rfl, rfl, rfl, rfl, rfl, rfl⟩⟩

theorem currentChain_congr {left right : Request} (same : SameHashed left right) :
    left.currentChain hasher = right.currentChain hasher := by
  rw [currentChain, keysFrom_congr same.lora same.salt same.multiModal same.embeds,
    same.tokens, currentChain]

section

variable {update : StreamingUpdate}
  (updated : updateRequestAsSession (some hasher) session update = .ok resumed)
  (noItems : resumed.mmFeatures = [])

include updated noItems

theorem updateRequestAsSession_oldItems : session.mmFeatures = [] := by
  obtain ⟨unhashed, hashed, features, ran, after, before⟩ := updateRequestAsSession_spec updated
  obtain ⟨blockHashes, rfl⟩ := updateBlockHashes_frame ran
  have isAppend : unhashed.mmFeatures = session.mmFeatures ++ features := before.multiModal
  exact (List.append_eq_nil_iff.mp (isAppend ▸ after.multiModal.trans noItems)).1

/-- A session that carries its chain goes on carrying it if an update keeps the
hashed tokens. -/
theorem updateRequestAsSession_keeps (positive : 0 < hasher.blockSize)
    (oldHashes : session.blockHashes = session.currentChain hasher)
    (keeps : KeepsHashedTokens hasher session update) :
    resumed.blockHashes = resumed.currentChain hasher := by
  have oldItems := updateRequestAsSession_oldItems updated noItems
  obtain ⟨unhashed, hashed, features, ran, after, before⟩ := updateRequestAsSession_spec updated
  have unhashedItems : unhashed.mmFeatures = [] := by
    obtain ⟨blockHashes, rfl⟩ := updateBlockHashes_frame ran
    exact after.multiModal.trans noItems
  have hashedTokens : session.blockHashes.length * hasher.blockSize ≤
      session.allTokenIds.length := by
    rw [oldHashes, currentChain, keyedChain_length]
    exact Nat.div_mul_le_self _ _
  have keptTokens : session.blockHashes.length * hasher.blockSize ≤
      (sessionTokens session update).length := by
    have lengths := congrArg List.length keeps
    rw [List.length_take, List.length_take] at lengths
    omega
  have isPrefix : unhashed.blockHashes =
      (unhashed.currentChain hasher).take unhashed.blockHashes.length := by
    have sameHashes : unhashed.blockHashes = session.blockHashes := before.hashes
    have sameKeys : hasher.keysFrom unhashed = hasher.keysFrom session :=
      keysFrom_congr before.lora before.salt (unhashedItems.trans oldItems.symm)
        before.embeds
    have sameTokens : unhashed.allTokenIds = sessionTokens session update := before.tokens
    rw [currentChain, sameHashes, sameKeys, sameTokens,
      keyedChain_take_congr hasher _ positive keptTokens hashedTokens keeps,
      ← currentChain, ← oldHashes, List.take_length]
  have isChain := updateBlockHashes_noItems ran unhashedItems positive isPrefix
  rw [← after.hashes, ← currentChain_congr after, isChain]
  rfl

end

/-- A request without multi-modal items carries the hash chain of its full blocks,
whether its tokens came with the prompt, were appended later in any portions, or
came with session updates that keep the hashed tokens. -/
theorem noItems_blockHashes (run : HashRun hasher (KeepsHashedTokens hasher) request)
    (noItems : request.mmFeatures = []) (positive : 0 < hasher.blockSize) :
    request.blockHashes = request.currentChain hasher := by
  induction run with
  | @init request hashed fresh updated =>
    obtain ⟨blockHashes, rfl⟩ := updateBlockHashes_frame updated
    have isChain := updateBlockHashes_noItems updated noItems positive (by simp [fresh])
    exact congrArg Request.blockHashes isChain
  | @append request grown tokenIds previous appended ih =>
    obtain ⟨blockHashes, rfl⟩ := updateBlockHashes_frame appended
    have oldHashes := ih noItems
    have lengths : request.blockHashes.length =
        request.allTokenIds.length / hasher.blockSize := by
      rw [oldHashes, currentChain, keyedChain_length]
    refine congrArg Request.blockHashes
      (updateBlockHashes_noItems appended noItems positive ?_)
    change request.blockHashes =
      (hasher.keyedChain (hasher.keysFrom request 0) (request.allTokenIds ++ tokenIds)).take
        request.blockHashes.length
    rw [lengths, keyedChain_append_take]
    exact oldHashes
  | session update previous admitted updated ih =>
    exact updateRequestAsSession_keeps updated noItems positive
      (ih (updateRequestAsSession_oldItems updated noItems)) admitted
  | other previous same ih =>
    rw [← same.hashes, ih (same.multiModal.trans noItems),
      currentChain_congr same]

/-- Every hash is the chain hash of the request's current tokens, and every full
block has one. -/
def HonestHashes (hasher : BlockHasher) (request : Request) : Prop :=
  request.blockHashes.length = request.numTokens / hasher.blockSize ∧
    ∀ index blockHash, request.blockHashes[index]? = some blockHash →
      blockHash = HashChain.digest hasher.keyedLink hasher.noneHash
        ((hasher.keyedBlocks (hasher.keysFrom request 0) request.allTokenIds).take (index + 1))

theorem honestHashes_iff :
    request.HonestHashes hasher ↔ request.blockHashes = request.currentChain hasher := by
  have chainAt : ∀ index, index < request.numTokens / hasher.blockSize →
      (request.currentChain hasher)[index]? = some (HashChain.digest hasher.keyedLink hasher.noneHash
        ((hasher.keyedBlocks (hasher.keysFrom request 0) request.allTokenIds).take (index + 1))) := by
    intro index below
    have inRange : index <
        (hasher.keyedBlocks (hasher.keysFrom request 0) request.allTokenIds).length := by
      rw [keyedBlocks_length]
      exact below
    rw [← HashChain.digests_getElem _ index inRange]
    exact List.getElem?_eq_getElem _
  have chainLength : (request.currentChain hasher).length = request.numTokens / hasher.blockSize :=
    keyedChain_length ..
  constructor
  · rintro ⟨length, hashes⟩
    apply List.ext_getElem? fun index => ?_
    by_cases below : index < request.numTokens / hasher.blockSize
    · have isHash := List.getElem?_eq_getElem (length ▸ below)
      rw [isHash, chainAt index below, hashes index _ isHash]
    · rw [List.getElem?_eq_none (by omega), List.getElem?_eq_none (by omega)]
  · intro isChain
    refine ⟨isChain ▸ chainLength, fun index blockHash read => ?_⟩
    rw [isChain] at read
    have below : index < request.numTokens / hasher.blockSize := by
      rw [← chainLength]
      exact (List.getElem?_eq_some_iff.mp read).1
    rw [chainAt index below] at read
    exact (Option.some.inj read).symm

theorem updateRequestAsSession_kept {update : StreamingUpdate}
    (updated : updateRequestAsSession (some hasher) session update = .ok resumed)
    (positive : 0 < hasher.blockSize)
    (oldHashes : session.blockHashes = session.currentChain hasher)
    (newHashes : resumed.blockHashes = resumed.currentChain hasher)
    (injective : Set.InjOn hasher.cachingHashFn
      {input | input ∈ hasher.keyedInputs (hasher.keysFrom resumed 0) resumed.allTokenIds ∨
        input ∈ hasher.keyedInputs (hasher.keysFrom session 0) session.allTokenIds}) :
    KeepsHashedTokens hasher session update := by
  obtain ⟨unhashed, hashed, features, ran, after, before⟩ := updateRequestAsSession_spec updated
  have resumedTokens : resumed.allTokenIds = sessionTokens session update := by
    obtain ⟨blockHashes, rfl⟩ := updateBlockHashes_frame ran
    exact after.tokens.symm.trans before.tokens
  have isOld : resumed.blockHashes.take session.blockHashes.length = session.blockHashes := by
    obtain ⟨more, -, ran⟩ := bind_eq_ok.mp ran
    cases ran
    have sameHashes : unhashed.blockHashes = session.blockHashes := before.hashes
    rw [← after.hashes, sameHashes, List.take_left]
  set count := session.blockHashes.length with isCount
  have oldCount : count = session.allTokenIds.length / hasher.blockSize := by
    rw [isCount, oldHashes, currentChain, keyedChain_length]
  have newCount : count ≤ (sessionTokens session update).length / hasher.blockSize := by
    have lengths := congrArg List.length isOld
    rw [List.length_take, newHashes, currentChain, keyedChain_length, resumedTokens]
      at lengths
    omega
  have sameChain : (hasher.keyedChain (hasher.keysFrom resumed 0) resumed.allTokenIds).take count =
      (hasher.keyedChain (hasher.keysFrom session 0) session.allTokenIds).take count := by
    rw [← currentChain, ← newHashes, isOld, ← currentChain, ← oldHashes, isCount, List.take_length]
  have sameBlocks := congrArg (List.map Prod.fst)
    (hasher.keyedBlocks_take_injective injective sameChain)
  rw [List.map_take, List.map_take, keyedBlocks_tokens, keyedBlocks_tokens,
    resumedTokens] at sameBlocks
  have sameTokens := congrArg List.flatten sameBlocks
  rwa [fullBlocks_take_flatten _ ((Nat.le_div_iff_mul_le positive).mp newCount) newCount,
    fullBlocks_take_flatten _ ((Nat.le_div_iff_mul_le positive).mp oldCount.le) oldCount.le]
    at sameTokens

theorem currentChain_textOnly (textOnly : request.TextOnly) :
    request.currentChain hasher = hasher.chain request.allTokenIds := by
  have noKeys : hasher.keysFrom request 0 = fun _ => none := by
    funext index
    simp [keysFrom, blockKeysFrom, keysWith, keyTuple, itemsIn, genLoraExtraHashKeys,
      cacheSaltKeys, genPromptEmbedsExtraHashKeys, textOnly.noLora, textOnly.noSalt,
      textOnly.noMultiModal, textOnly.noEmbeds]
  rw [currentChain, noKeys, keyedChain_none]

theorem textOnly_blockHashes (run : HashRun hasher (KeepsHashedTokens hasher) request)
    (textOnly : request.TextOnly) (positive : 0 < hasher.blockSize) :
    request.blockHashes = hasher.chain request.allTokenIds :=
  (noItems_blockHashes run textOnly.noMultiModal positive).trans (currentChain_textOnly textOnly)

end Request

/-- In every run of a request without multi-modal items whose session updates kept
the hashed tokens so far, the next update leaves the hashes those of the current
tokens, one for each full block, exactly if it keeps the hashed tokens too. -/
theorem sessionUpdate_honestHashes_iff {hasher : BlockHasher} {session resumed : Request} {update : StreamingUpdate}
    (positive : 0 < hasher.blockSize)
    (run : session.HashRun hasher (KeepsHashedTokens hasher))
    (updated : updateRequestAsSession (some hasher) session update = .ok resumed)
    (noItems : resumed.mmFeatures = []) :
    (KeepsHashedTokens hasher session update → resumed.HonestHashes hasher) ∧
      (Set.InjOn hasher.cachingHashFn
          {input | input ∈ hasher.keyedInputs (hasher.keysFrom resumed 0) resumed.allTokenIds ∨
            input ∈ hasher.keyedInputs (hasher.keysFrom session 0) session.allTokenIds} →
        resumed.HonestHashes hasher → KeepsHashedTokens hasher session update) := by
  have oldHashes :=
    noItems_blockHashes run (updateRequestAsSession_oldItems updated noItems) positive
  exact ⟨fun keeps =>
      honestHashes_iff.mpr
        (updateRequestAsSession_keeps updated noItems positive oldHashes keeps),
    fun injective honest => updateRequestAsSession_kept updated positive oldHashes
      (honestHashes_iff.mp honest) injective⟩

/-! ## Sessions of one block -/

/-- Blocks of two tokens, hashed to the two token bytes. -/
def pairHasher : BlockHasher where
  blockSize := 2
  cachingHashFn := fun input => input.currBlockTokenIds.map fun token => UInt8.ofNat token.toNat
  noneHash := [0, 0]

def unhashedRequest (requestId : ReqId) (prompt : List TokenId) : Request where
  requestId := requestId
  samplingParams := { maxTokens := 1 }
  maxTokens := 1
  promptTokenIds := prompt
  numPromptTokens := prompt.length
  allTokenIds := prompt

def promptRequest (requestId : ReqId) (prompt : List TokenId) : Request :=
  { unhashedRequest requestId prompt with blockHashes := pairHasher.chain prompt }

/-- A session whose prompt fills a block and whose sampled token is replaced. -/
theorem sessionUpdate_honestHashes_unhashed :
    ∃ resumed, updateRequestAsSession (some pairHasher)
        { promptRequest 0 [1, 2] with
          outputTokenIds := [5], allTokenIds := [1, 2, 5], numComputedTokens := 2 }
        ⟨[], [3, 4], 1, 0, { maxTokens := 1 }⟩ = .ok resumed ∧
      resumed.allTokenIds = [1, 2, 3, 4] ∧ resumed.HonestHashes pairHasher := by
  have opened : HashRun pairHasher (KeepsHashedTokens pairHasher)
      (promptRequest 0 [1, 2]) :=
    .init (rfl : (unhashedRequest 0 [1, 2]).blockHashes = []) rfl
  have sampled : HashRun pairHasher (KeepsHashedTokens pairHasher)
      { promptRequest 0 [1, 2] with outputTokenIds := [5], allTokenIds := [1, 2, 5] } :=
    .append [5] opened rfl
  have computed : HashRun pairHasher (KeepsHashedTokens pairHasher)
      { promptRequest 0 [1, 2] with
        outputTokenIds := [5], allTokenIds := [1, 2, 5], numComputedTokens := 2 } :=
    .other sampled ⟨rfl, rfl, rfl, rfl, rfl, rfl⟩
  have updated := Eq.refl (updateRequestAsSession (some pairHasher)
    { promptRequest 0 [1, 2] with
      outputTokenIds := [5], allTokenIds := [1, 2, 5], numComputedTokens := 2 }
    ⟨[], [3, 4], 1, 0, { maxTokens := 1 }⟩)
  exact ⟨_, rfl, rfl, (sessionUpdate_honestHashes_iff (by decide) computed updated rfl).1 rfl⟩

/-- A session whose prompt `[1]` and sampled token `2` filled a block. -/
def sampledSession : Request :=
  { promptRequest 0 [1] with
    outputTokenIds := [2], allTokenIds := [1, 2], blockHashes := pairHasher.chain [1, 2],
    numComputedTokens := 1, resumable := true }

/-- The same session after its next chunk `[3]`: the sampled token is replaced,
its hash is not. -/
def resumedSession : Request :=
  { sampledSession with
    outputTokenIds := [], allTokenIds := [1, 3], promptTokenIds := [1, 3], numPromptTokens := 2 }

/-- The session keeps the hash of the block whose second token was replaced. -/
theorem sessionUpdate_staleHash :
    sampledSession.HashRun pairHasher (KeepsHashedTokens pairHasher) ∧
      sampledSession.updateRequestAsSession (some pairHasher)
        ⟨[], [3], 1, 0, { maxTokens := 1 }⟩ = .ok resumedSession ∧
      resumedSession.mmFeatures = [] ∧ ¬ resumedSession.HonestHashes pairHasher := by
  have opened : HashRun pairHasher (KeepsHashedTokens pairHasher)
      (promptRequest 0 [1]) :=
    .init (rfl : (unhashedRequest 0 [1]).blockHashes = []) rfl
  have sampled : HashRun pairHasher (KeepsHashedTokens pairHasher)
      { promptRequest 0 [1] with
        outputTokenIds := [2], allTokenIds := [1, 2], blockHashes := pairHasher.chain [1, 2] } :=
    .append [2] opened rfl
  refine ⟨.other sampled ⟨rfl, rfl, rfl, rfl, rfl, rfl⟩, rfl, rfl, fun honest => ?_⟩
  have isHash := honest.2 0 [1, 2] rfl
  revert isHash
  decide

end DeepSpark
