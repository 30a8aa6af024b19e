import DeepSpark.Lib.Chunks
import DeepSpark.Lib.PyError
import DeepSpark.Attention.CompressedSlots

/-!
The prefill chunks of the sparse indexer: `v1/attention/backends/mla/indexer.py`.

Owns the split of the prefill requests into chunks, the metadata of a chunk, and that the chunks tile the
query tokens within their budgets and let each token see the compressed tokens that are complete at it.
-/

namespace DeepSpark

open Lib Finset

/-! ## The split -/

/-- A chunk: its requests, and the rows it takes of their query tokens. -/
structure ChunkSpec where
  reqStart : Nat
  reqStop : Nat
  queryStart : Nat
  queryStop : Nat
deriving DecidableEq, Repr

/-- The arguments of `split_indexer_prefill_chunks`: two arrays of `count` entries, and the budgets. -/
structure ChunkSplit where
  count : Nat
  seqLensCpu : Nat → Nat
  queryLensCpu : Nat → Nat
  workspaceSize : Nat
  maxLogitsBytes : Nat
  requestOffset : Nat

namespace ChunkSplit

variable (split : ChunkSplit)

def maxLogitsElems : Nat := split.maxLogitsBytes / 4

def packRequests (chunkM chunkN stop : Nat) : Nat × Nat × Nat :=
  if stop < split.count then
    let newM := chunkM + split.queryLensCpu stop
    let newN := chunkN + split.seqLensCpu stop
    if newN ≤ split.workspaceSize ∧ newM * newN ≤ split.maxLogitsElems then packRequests newM newN (stop + 1)
    else (chunkM, chunkN, stop)
  else (chunkM, chunkN, stop)
termination_by split.count - stop

/-- The next chunk of requests; a request that does not fit is one of its own. -/
def nextChunk (start : Nat) : Nat × Nat × Nat :=
  let (chunkM, chunkN, stop) := split.packRequests 0 0 start
  if stop = start then (split.queryLensCpu start, split.seqLensCpu start, start + 1) else (chunkM, chunkN, stop)

theorem packRequests_bounds {chunkM chunkN stop : Nat} (inRange : stop ≤ split.count) :
    stop ≤ (split.packRequests chunkM chunkN stop).2.2 ∧
      (split.packRequests chunkM chunkN stop).2.2 ≤ split.count := by
  fun_induction packRequests with
  | case1 chunkM chunkN stop inLoop newM newN fits ih =>
    omega
  | case2 => exact ⟨le_rfl, inRange⟩
  | case3 => exact ⟨le_rfl, inRange⟩

theorem nextChunk_advances {start : Nat} (inRange : start < split.count) :
    start < (split.nextChunk start).2.2 ∧ (split.nextChunk start).2.2 ≤ split.count := by
  have bounds := @packRequests_bounds split 0 0 start inRange.le
  rw [nextChunk]
  dsimp only
  split
  next => exact ⟨Nat.lt_succ_self start, inRange⟩
  next moved => exact ⟨lt_of_le_of_ne bounds.1 (Ne.symm moved), bounds.2⟩

def subChunks (chunkM chunkN reqStart reqStop : Nat) : Except PyError (List ChunkSpec) :=
  let maxQ := if chunkN > 0 then max 1 (split.maxLogitsElems / chunkN) else chunkM
  if maxQ = 0 then .error (.valueError "range() arg 3 must not be zero")
  else
    .ok ((List.range (cdiv chunkM maxQ)).map fun index =>
      let qOff := index * maxQ
      { reqStart, reqStop, queryStart := qOff, queryStop := qOff + min maxQ (chunkM - qOff) })

def splitFrom (start : Nat) : Except PyError (List ChunkSpec) :=
  if start < split.count then do
    let sub ← split.subChunks (split.nextChunk start).1 (split.nextChunk start).2.1 (start + split.requestOffset)
      ((split.nextChunk start).2.2 + split.requestOffset)
    let rest ← splitFrom (split.nextChunk start).2.2
    return sub ++ rest
  else .ok []
termination_by split.count - start
decreasing_by
  have advances := split.nextChunk_advances ‹start < split.count›
  omega

def splitIndexerPrefillChunks : Except PyError (List ChunkSpec) := split.splitFrom 0

end ChunkSplit

/-! ## The metadata -/

/-- The builder: its configuration; the paged indexer splits each request on its own, by its supertile. -/
structure IndexerConfig where
  compressRatio : Nat
  dcpWorldSize : Nat
  dcpRank : Nat
  cpKvCacheInterleaveSize : Nat
  maxPrefillBufferSize : Nat
  maxLogitsBytes : Nat
  b12xSupertileK : Option Nat
  compressRatio_pos : 0 < compressRatio
  isRank : dcpRank < dcpWorldSize
  interleave_pos : 0 < cpKvCacheInterleaveSize

structure IndexerBatch where
  numReqs : Nat
  numDecodes : Nat
  queryStartLoc : Nat → Nat
  seqLens : Nat → Nat
  seqLensCpuUpperBound : Nat → Nat

/-- `DeepseekV32IndexerPrefillChunkMetadata`, with the rows of the block table of its requests. -/
structure PrefillChunk where
  cuSeqlenKs : Buffer Nat Nat
  cuSeqlenKe : Buffer Nat Nat
  cuSeqLens : Nat → Nat
  tokenToSeq : Buffer Nat Nat
  totalSeqLens : Nat
  blockTable : Nat × Nat
  tokenStart : Nat
  tokenEnd : Nat
  numReqs : Nat
  skipKvGather : Bool

namespace IndexerConfig

variable (config : IndexerConfig) (batch : IndexerBatch) (spec : ChunkSpec)

def compressedSeqLen (seqLen : Nat) : Nat :=
  let logicalCompressedSeqLen := if config.compressRatio > 1 then seqLen / config.compressRatio else seqLen
  if config.dcpWorldSize > 1 then
    (dcpLocalLen config.dcpWorldSize config.cpKvCacheInterleaveSize logicalCompressedSeqLen config.dcpRank).toNat
  else logicalCompressedSeqLen

end IndexerConfig

def IndexerBatch.queryLen (batch : IndexerBatch) (req : Nat) : Nat :=
  batch.queryStartLoc (req + 1) - batch.queryStartLoc req

namespace IndexerConfig

variable (config : IndexerConfig) (batch : IndexerBatch) (spec : ChunkSpec)

/-- The length that the split is given for a request. -/
def splitLen (req : Nat) : Nat := config.b12xSupertileK.getD (config.compressedSeqLen (batch.seqLensCpuUpperBound req))

def pagedSplit (supertileK prefillIdx : Nat) : ChunkSplit where
  count := 1
  seqLensCpu _ := supertileK
  queryLensCpu _ := batch.queryLen (batch.numDecodes + prefillIdx)
  workspaceSize := config.maxPrefillBufferSize
  maxLogitsBytes := config.maxLogitsBytes
  requestOffset := batch.numDecodes + prefillIdx

def packedSplit : ChunkSplit where
  count := batch.numReqs - batch.numDecodes
  seqLensCpu index := config.compressedSeqLen (batch.seqLensCpuUpperBound (batch.numDecodes + index))
  queryLensCpu index := batch.queryLen (batch.numDecodes + index)
  workspaceSize := config.maxPrefillBufferSize
  maxLogitsBytes := config.maxLogitsBytes
  requestOffset := batch.numDecodes

def chunkSpecs : Except PyError (List ChunkSpec) :=
  match config.b12xSupertileK with
  | some supertileK => do
      let specs ← (List.range (batch.numReqs - batch.numDecodes)).mapM fun prefillIdx =>
        (config.pagedSplit batch supertileK prefillIdx).splitIndexerPrefillChunks
      return specs.flatten
  | none => (config.packedSplit batch).splitIndexerPrefillChunks

def totalSeqLens : Nat :=
  ∑ req ∈ Ico spec.reqStart spec.reqStop, config.compressedSeqLen (batch.seqLensCpuUpperBound req)

def cuSeqLens (index : Nat) : Nat :=
  ∑ offset ∈ range index, config.compressedSeqLen (batch.seqLens (spec.reqStart + offset))

def seqLenPerToken (seqLen : Nat) : Nat :=
  let seqLenPerToken := seqLen / config.compressRatio
  if config.dcpWorldSize > 1 then
    let base := seqLenPerToken / config.cpKvCacheInterleaveSize / config.dcpWorldSize * config.cpKvCacheInterleaveSize
    let remainder := seqLenPerToken - base * config.dcpWorldSize
    base + min (remainder - config.dcpRank * config.cpKvCacheInterleaveSize) config.cpKvCacheInterleaveSize
  else seqLenPerToken

/-- The rows of the chunk that a program of the kernel stores, with a value for each offset in its query. -/
def rowStores (value : Nat → Nat) (batchIdx : Nat) : List (Store Nat Nat) :=
  let queryStart := batch.queryStartLoc (spec.reqStart + batchIdx) - batch.queryStartLoc spec.reqStart
  let queryEnd := batch.queryStartLoc (spec.reqStart + batchIdx + 1) - batch.queryStartLoc spec.reqStart
  (blockLoop 0 (queryEnd - queryStart) 1024).filterMap fun offset =>
    let absPos := queryStart + offset
    if absPos ≥ spec.queryStart ∧ absPos < spec.queryStop then some ⟨absPos - spec.queryStart, value offset⟩ else none

def ksStores (batchIdx : Nat) : List (Store Nat Nat) :=
  rowStores batch spec (fun _ => config.cuSeqLens batch spec batchIdx) batchIdx

def keStores (batchIdx : Nat) : List (Store Nat Nat) :=
  let queryLen := batch.queryStartLoc (spec.reqStart + batchIdx + 1) - batch.queryStartLoc spec.reqStart -
    (batch.queryStartLoc (spec.reqStart + batchIdx) - batch.queryStartLoc spec.reqStart)
  let startPos := batch.seqLens (spec.reqStart + batchIdx) - queryLen
  rowStores batch spec
    (fun offset => config.cuSeqLens batch spec batchIdx + config.seqLenPerToken (startPos + 1 + offset)) batchIdx

def tokenToSeqStores (batchIdx : Nat) : List (Store Nat Nat) :=
  let seqStart := config.cuSeqLens batch spec batchIdx
  let seqEnd := config.cuSeqLens batch spec (batchIdx + 1)
  (blockLoop 0 (seqEnd - seqStart) 1024).map fun offset => ⟨seqStart + offset, batchIdx⟩

/-- `build_prefill_chunk_metadata` of a chunk with compressed tokens: the tensors are allocated without
contents, then the kernel has a program for each request. -/
structure ChunkBuilt (chunk : PrefillChunk) : Prop where
  totalSeqLens : chunk.totalSeqLens = config.totalSeqLens batch spec
  cuSeqLens : chunk.cuSeqLens = config.cuSeqLens batch spec
  numReqs : chunk.numReqs = spec.reqStop - spec.reqStart
  blockTable : chunk.blockTable = (spec.reqStart, spec.reqStop)
  tokenStart : chunk.tokenStart = batch.queryStartLoc spec.reqStart + spec.queryStart
  tokenEnd : chunk.tokenEnd = batch.queryStartLoc spec.reqStart + spec.queryStop
  skipKvGather : chunk.skipKvGather = decide (spec.queryStart > 0)
  cuSeqlenKs : ∃ empty, Launched (List.range (spec.reqStop - spec.reqStart)) (config.ksStores batch spec) empty
    chunk.cuSeqlenKs
  cuSeqlenKe : ∃ empty, Launched (List.range (spec.reqStop - spec.reqStart)) (config.keStores batch spec) empty
    chunk.cuSeqlenKe
  tokenToSeq : ∃ empty, Launched (List.range (spec.reqStop - spec.reqStart)) (config.tokenToSeqStores batch spec) empty
    chunk.tokenToSeq

/-- The chunks that `build` keeps: those with compressed tokens. -/
def ChunksBuilt (specs : List ChunkSpec) (chunks : List PrefillChunk) : Prop :=
  List.Forall₂ (config.ChunkBuilt batch) (specs.filter fun spec => config.totalSeqLens batch spec ≠ 0) chunks

end IndexerConfig

/-! ## Tilings -/

def ChunkSpec.tokens (starts : Nat → Nat) (spec : ChunkSpec) : List Nat :=
  List.range' (starts spec.reqStart + spec.queryStart) (spec.queryStop - spec.queryStart)

/-- A chunk has rows of its requests, and keeps to the budgets or has one row. -/
structure ChunkSpec.Fits (starts lens : Nat → Nat) (workspaceSize maxLogitsBytes : Nat) (spec : ChunkSpec) : Prop where
  requests : spec.reqStart < spec.reqStop
  rows : spec.queryStart < spec.queryStop
  inside : starts spec.reqStart + spec.queryStop ≤ starts spec.reqStop
  workspace : ∑ req ∈ Ico spec.reqStart spec.reqStop, lens req ≤ workspaceSize
  logits : (spec.queryStop - spec.queryStart) * (∑ req ∈ Ico spec.reqStart spec.reqStop, lens req) * 4 ≤
    maxLogitsBytes ∨ spec.queryStop - spec.queryStart = 1

/-- A chunk that starts behind the first row of its requests follows a chunk of the same requests. -/
def Follow : Option (Nat × Nat) → List ChunkSpec → Prop
  | _, [] => True
  | previous, spec :: rest =>
    (0 < spec.queryStart → previous = some (spec.reqStart, spec.reqStop)) ∧
      Follow (some (spec.reqStart, spec.reqStop)) rest

/-- The chunks of some requests in a row: their tokens are those of the requests, once each and in order. -/
structure Tiling (starts lens : Nat → Nat) (workspaceSize maxLogitsBytes first last : Nat) (specs : List ChunkSpec) :
    Prop where
  ordered : starts first ≤ starts last
  tokens : specs.flatMap (ChunkSpec.tokens starts) = List.range' (starts first) (starts last - starts first)
  within : ∀ spec ∈ specs, first ≤ spec.reqStart ∧ spec.reqStop ≤ last
  fits : ∀ spec ∈ specs, spec.Fits starts lens workspaceSize maxLogitsBytes
  follow : ∀ previous, Follow previous specs

theorem Follow.append {specs others : List ChunkSpec} {previous : Option (Nat × Nat)} (follow : Follow previous specs)
    (otherFollow : ∀ previous, Follow previous others) : Follow previous (specs ++ others) := by
  induction specs generalizing previous with
  | nil => exact otherFollow previous
  | cons spec rest ih => exact ⟨follow.1, ih follow.2⟩

variable {previous : Option (Nat × Nat)}

theorem Follow.filter {specs : List ChunkSpec} {kept : Option (Nat × Nat)} (keeps : ChunkSpec → Bool)
    (sameRequests : ∀ spec other : ChunkSpec, spec.reqStart = other.reqStart → spec.reqStop = other.reqStop →
      keeps spec = keeps other)
    (isKept : ∀ spec, keeps spec = true → previous = some (spec.reqStart, spec.reqStop) →
      kept = some (spec.reqStart, spec.reqStop)) (follow : Follow previous specs) :
    Follow kept (specs.filter keeps) := by
  induction specs generalizing previous kept with
  | nil => exact trivial
  | cons spec rest ih =>
    obtain ⟨first, follow⟩ := follow
    cases isKeep : keeps spec with
    | true =>
      rw [List.filter_cons_of_pos isKeep]
      refine ⟨fun later => isKept spec isKeep (first later), ih ?_ follow⟩
      exact fun other _ same => same
    | false =>
      rw [List.filter_cons_of_neg (by simp [isKeep])]
      refine ih (fun other isOther same => ?_) follow
      have isPair := Prod.mk.inj (Option.some.inj same)
      rw [← sameRequests spec other isPair.1 isPair.2, isKeep] at isOther
      cases isOther

section

variable {starts lens : Nat → Nat} {workspaceSize maxLogitsBytes first middle last : Nat}

theorem Tiling.nil (starts lens : Nat → Nat) (workspaceSize maxLogitsBytes first : Nat) :
    Tiling starts lens workspaceSize maxLogitsBytes first first [] where
  ordered := le_rfl
  tokens := by rw [Nat.sub_self]; rfl
  within _ none := absurd none List.not_mem_nil
  fits _ none := absurd none List.not_mem_nil
  follow _ := trivial

theorem Tiling.append {specs others : List ChunkSpec} (le : first ≤ middle) (lastLe : middle ≤ last)
    (tiling : Tiling starts lens workspaceSize maxLogitsBytes first middle specs)
    (otherTiling : Tiling starts lens workspaceSize maxLogitsBytes middle last others) :
    Tiling starts lens workspaceSize maxLogitsBytes first last (specs ++ others) where
  ordered := tiling.ordered.trans otherTiling.ordered
  tokens := by
    have ordered := tiling.ordered
    have otherOrdered := otherTiling.ordered
    have isLength : starts last - starts first = starts middle - starts first + (starts last - starts middle) := by
      omega
    rw [List.flatMap_append, tiling.tokens, otherTiling.tokens, isLength, ← List.range'_append_1,
      Nat.add_sub_cancel' ordered]
  within spec isSpec := by
    rcases List.mem_append.mp isSpec with isFirst | isOther
    · exact ⟨(tiling.within spec isFirst).1, (tiling.within spec isFirst).2.trans lastLe⟩
    · exact ⟨le.trans (otherTiling.within spec isOther).1, (otherTiling.within spec isOther).2⟩
  fits spec isSpec := (List.mem_append.mp isSpec).elim (tiling.fits spec) (otherTiling.fits spec)
  follow previous := (tiling.follow previous).append otherTiling.follow

end

variable {index : Nat}

/-! ## The chunks of a split -/

namespace ChunkSplit

variable {split : ChunkSplit}

theorem packRequests_sums {first chunkM chunkN stop : Nat} (le : first ≤ stop)
    (isM : chunkM = ∑ index ∈ Ico first stop, split.queryLensCpu index)
    (isN : chunkN = ∑ index ∈ Ico first stop, split.seqLensCpu index) (fits : chunkN ≤ split.workspaceSize) :
    (split.packRequests chunkM chunkN stop).1 =
        ∑ index ∈ Ico first (split.packRequests chunkM chunkN stop).2.2, split.queryLensCpu index ∧
      (split.packRequests chunkM chunkN stop).2.1 =
        ∑ index ∈ Ico first (split.packRequests chunkM chunkN stop).2.2, split.seqLensCpu index ∧
      (split.packRequests chunkM chunkN stop).2.1 ≤ split.workspaceSize := by
  fun_induction packRequests with
  | case1 chunkM chunkN stop inLoop newM newN inBudget ih =>
    apply ih (le.trans (Nat.le_succ stop)) _ _ inBudget.1
    · rw [sum_Ico_succ_top le, ← isM]
    · rw [sum_Ico_succ_top le, ← isN]
  | case2 => exact ⟨isM, isN, fits⟩
  | case3 => exact ⟨isM, isN, fits⟩

theorem nextChunk_spec {start : Nat} (fits : split.seqLensCpu start ≤ split.workspaceSize) :
    (split.nextChunk start).1 = ∑ index ∈ Ico start (split.nextChunk start).2.2, split.queryLensCpu index ∧
      (split.nextChunk start).2.1 = ∑ index ∈ Ico start (split.nextChunk start).2.2, split.seqLensCpu index ∧
      (split.nextChunk start).2.1 ≤ split.workspaceSize := by
  have sums := @packRequests_sums split start 0 0 start le_rfl (by simp) (by simp) (Nat.zero_le _)
  rw [nextChunk]
  dsimp only
  split
  next =>
    refine ⟨?_, ?_, fits⟩
    · rw [Nat.Ico_succ_singleton, sum_singleton]
    · rw [Nat.Ico_succ_singleton, sum_singleton]
  next => exact sums

theorem part_logits (chunkM chunkN : Nat) :
    (if chunkN > 0 then max 1 (split.maxLogitsElems / chunkN) else chunkM) * chunkN * 4 ≤ split.maxLogitsBytes ∨
      (if chunkN > 0 then max 1 (split.maxLogitsElems / chunkN) else chunkM) = 1 := by
  split
  next =>
    rcases Nat.lt_or_ge (split.maxLogitsElems / chunkN) 1 with short | long
    · exact Or.inr (max_eq_left short.le)
    · rw [max_eq_right long]
      have inBudget := Nat.div_mul_le_self split.maxLogitsElems chunkN
      have isElems : split.maxLogitsElems * 4 ≤ split.maxLogitsBytes := Nat.div_mul_le_self _ _
      exact Or.inl ((Nat.mul_le_mul_right 4 inBudget).trans isElems)
  next none =>
    rw [Nat.eq_zero_of_not_pos none, Nat.mul_zero, Nat.zero_mul]
    exact Or.inl (Nat.zero_le _)

theorem follow_parts (reqStart reqStop maxQ chunkM count : Nat)
    (isPrevious : 0 < index → previous = some (reqStart, reqStop)) :
    Follow previous ((List.range' index count).map fun index =>
      ⟨reqStart, reqStop, index * maxQ, index * maxQ + min maxQ (chunkM - index * maxQ)⟩) := by
  induction count generalizing index previous with
  | zero => exact trivial
  | succ count ih =>
    rw [List.range'_succ, List.map_cons]
    refine ⟨fun later => isPrevious ?_, ih fun _ => rfl⟩
    exact Nat.pos_of_mul_pos_right later

theorem subChunks_tiling {starts lens : Nat → Nat} {chunkM chunkN reqStart reqStop : Nat} (someReq : reqStart < reqStop)
    (someRow : 0 < chunkM) (isRows : starts reqStop = starts reqStart + chunkM)
    (isLens : ∑ req ∈ Ico reqStart reqStop, lens req = chunkN) (inWorkspace : chunkN ≤ split.workspaceSize) :
    ∃ specs, split.subChunks chunkM chunkN reqStart reqStop = .ok specs ∧
      Tiling starts lens split.workspaceSize split.maxLogitsBytes reqStart reqStop specs := by
  have somePart : 0 < if chunkN > 0 then max 1 (split.maxLogitsElems / chunkN) else chunkM := by
    split
    next => exact Nat.one_pos.trans_le (le_max_left _ _)
    next => exact someRow
  have isPart := @part_logits split chunkM chunkN
  rw [subChunks]
  generalize (if chunkN > 0 then max 1 (split.maxLogitsElems / chunkN) else chunkM) = maxQ at *
  rw [if_neg somePart.ne']
  have inChunk : ∀ index ∈ List.range (cdiv chunkM maxQ), index * maxQ < chunkM := fun index inRange =>
    (lt_cdiv_iff somePart).mp (List.mem_range.mp inRange)
  refine ⟨_, rfl, ?_, ?_, ?_, ?_, ?_⟩
  · omega
  · have mono : Monotone fun index => starts reqStart + min chunkM (index * maxQ) := fun index later le =>
      Nat.add_le_add_left (min_le_min_left _ (Nat.mul_le_mul_right _ le)) _
    have spans := flatMap_spans mono (cdiv chunkM maxQ)
    rw [Nat.zero_mul, Nat.min_zero, Nat.add_zero, min_eq_left (le_cdiv_mul chunkM somePart), ← isRows] at spans
    rw [← spans, List.flatMap_map]
    apply List.flatMap_congr
    intro index inRange
    have below := inChunk index inRange
    rw [ChunkSpec.tokens, Nat.add_mul, Nat.one_mul]
    dsimp only
    congr 1
    · omega
    · omega
  · intro spec isSpec
    obtain ⟨index, -, rfl⟩ := List.mem_map.mp isSpec
    exact ⟨le_rfl, le_rfl⟩
  · intro spec isSpec
    obtain ⟨index, inRange, rfl⟩ := List.mem_map.mp isSpec
    have below := inChunk index inRange
    refine ⟨someReq, ?_, ?_, ?_, ?_⟩
    · dsimp only
      omega
    · dsimp only
      omega
    · dsimp only
      rw [isLens]
      exact inWorkspace
    · dsimp only
      rw [isLens, Nat.add_sub_cancel_left]
      have rowsLe : min maxQ (chunkM - index * maxQ) ≤ maxQ := min_le_left _ _
      rcases isPart with inBudget | single
      · exact Or.inl ((Nat.mul_le_mul_right 4 (Nat.mul_le_mul_right chunkN rowsLe)).trans inBudget)
      · exact Or.inr (by omega)
  · intro previous
    rw [List.range_eq_range']
    exact follow_parts _ _ _ _ _ fun none => absurd none (Nat.lt_irrefl 0)

structure Places (split : ChunkSplit) (starts lens : Nat → Nat) : Prop where
  rows : ∀ index < split.count,
    starts (index + split.requestOffset + 1) = starts (index + split.requestOffset) + split.queryLensCpu index
  lens : ∀ index < split.count, lens (index + split.requestOffset) = split.seqLensCpu index
  someRow : ∀ index < split.count, 0 < split.queryLensCpu index
  inWorkspace : ∀ index < split.count, split.seqLensCpu index ≤ split.workspaceSize

section

variable {starts lens : Nat → Nat} (places : split.Places starts lens)

include places

theorem Places.rows_between {first last : Nat} (le : first ≤ last) (inRange : last ≤ split.count) :
    starts (last + split.requestOffset) =
      starts (first + split.requestOffset) + ∑ index ∈ Ico first last, split.queryLensCpu index := by
  induction last, le using Nat.le_induction with
  | base => rw [Ico_self, sum_empty, Nat.add_zero]
  | succ last le ih =>
    rw [sum_Ico_succ_top le, ← Nat.add_assoc, ← ih (by omega), Nat.add_right_comm,
      places.rows last inRange]

theorem Places.lens_between {first last : Nat} (inRange : last ≤ split.count) :
    ∑ req ∈ Ico (first + split.requestOffset) (last + split.requestOffset), lens req =
      ∑ index ∈ Ico first last, split.seqLensCpu index := by
  rw [← sum_Ico_add']
  apply sum_congr rfl
  intro index isIndex
  exact places.lens index ((mem_Ico.mp isIndex).2.trans_le inRange)

theorem splitFrom_tiling {start : Nat} (inRange : start ≤ split.count) :
    ∃ specs, split.splitFrom start = .ok specs ∧
      Tiling starts lens split.workspaceSize split.maxLogitsBytes (start + split.requestOffset)
        (split.count + split.requestOffset) specs := by
  induction isRest : split.count - start using Nat.strong_induction_on generalizing start with
  | _ rest ih =>
    rw [splitFrom]
    split
    next inLoop =>
      obtain ⟨advances, stops⟩ := split.nextChunk_advances inLoop
      obtain ⟨isRows, isLens, fits⟩ := nextChunk_spec (places.inWorkspace start inLoop)
      have someRow : 0 < (split.nextChunk start).1 := by
        rw [isRows]
        apply sum_pos
        · intro index isIndex
          exact places.someRow index ((mem_Ico.mp isIndex).2.trans_le stops)
        · exact nonempty_Ico.mpr advances
      obtain ⟨sub, isSub, subTiling⟩ := @subChunks_tiling split starts lens (split.nextChunk start).1
        (split.nextChunk start).2.1 (start + split.requestOffset)
        ((split.nextChunk start).2.2 + split.requestOffset) (by omega) someRow
        (by rw [isRows]; exact places.rows_between advances.le stops)
        (by rw [isLens]; exact places.lens_between stops) fits
      obtain ⟨others, isOthers, otherTiling⟩ := ih _ (by omega) stops rfl
      refine ⟨sub ++ others, ?_, subTiling.append (by omega) (by omega) otherTiling⟩
      rw [isSub, isOthers]
      rfl
    next outside =>
      have isEnd : start = split.count := by omega
      subst isEnd
      exact ⟨[], rfl, Tiling.nil _ _ _ _ _⟩

theorem splitIndexerPrefillChunks_tiling :
    ∃ specs, split.splitIndexerPrefillChunks = .ok specs ∧
      Tiling starts lens split.workspaceSize split.maxLogitsBytes split.requestOffset
        (split.count + split.requestOffset) specs := by
  have tiling := splitFrom_tiling places (Nat.zero_le split.count)
  rw [Nat.zero_add] at tiling
  exact tiling

end

end ChunkSplit

/-! ## The chunks of a batch -/

/-- The batches of the runner: prefill requests have query tokens, and the lengths of the host bound those
of the device. -/
structure IndexerBatch.Formed (batch : IndexerBatch) : Prop where
  ranges : BlockTables.TokenRanges batch.queryStartLoc batch.numReqs
  decodes : batch.numDecodes ≤ batch.numReqs
  someToken : ∀ req < batch.numReqs, batch.numDecodes ≤ req → 0 < batch.queryLen req
  cached : ∀ req < batch.numReqs, batch.queryLen req ≤ batch.seqLens req
  upperBound : ∀ req < batch.numReqs, batch.seqLens req ≤ batch.seqLensCpuUpperBound req

variable {req : Nat}

theorem IndexerBatch.Formed.queryEnd {batch : IndexerBatch} (formed : batch.Formed)
    (inBatch : req < batch.numReqs) : batch.queryStartLoc (req + 1) = batch.queryStartLoc req + batch.queryLen req :=
  (Nat.add_sub_cancel' (formed.ranges.mono req inBatch)).symm

namespace IndexerConfig

variable {config : IndexerConfig} {batch : IndexerBatch}

theorem pagedSplit_tiling (formed : batch.Formed) {supertileK : Nat}
    (inWorkspace : supertileK ≤ config.maxPrefillBufferSize)
    (isPrefill : index < batch.numReqs - batch.numDecodes) :
    ∃ specs, (config.pagedSplit batch supertileK index).splitIndexerPrefillChunks = .ok specs ∧
      Tiling batch.queryStartLoc (fun _ => supertileK) config.maxPrefillBufferSize config.maxLogitsBytes
        (batch.numDecodes + index) (batch.numDecodes + (index + 1)) specs := by
  have isReq : batch.numDecodes + index < batch.numReqs := by omega
  have places : (config.pagedSplit batch supertileK index).Places batch.queryStartLoc fun _ => supertileK := by
    constructor
    · intro place isFirst
      rw [Nat.lt_one_iff.mp isFirst, Nat.zero_add]
      exact formed.queryEnd isReq
    · exact fun _ _ => rfl
    · exact fun _ _ => formed.someToken _ isReq (Nat.le_add_right _ _)
    · exact fun _ _ => inWorkspace
  obtain ⟨specs, isSpecs, tiling⟩ := ChunkSplit.splitIndexerPrefillChunks_tiling places
  refine ⟨specs, isSpecs, ?_⟩
  have isLast : 1 + (batch.numDecodes + index) = batch.numDecodes + (index + 1) := by omega
  exact isLast ▸ tiling

theorem packedSplit_tiling (formed : batch.Formed)
    (inWorkspace : ∀ req < batch.numReqs, batch.numDecodes ≤ req →
      config.compressedSeqLen (batch.seqLensCpuUpperBound req) ≤ config.maxPrefillBufferSize) :
    ∃ specs, (config.packedSplit batch).splitIndexerPrefillChunks = .ok specs ∧
      Tiling batch.queryStartLoc (fun req => config.compressedSeqLen (batch.seqLensCpuUpperBound req))
        config.maxPrefillBufferSize config.maxLogitsBytes batch.numDecodes batch.numReqs specs := by
  have isReq : ∀ index < batch.numReqs - batch.numDecodes, batch.numDecodes + index < batch.numReqs := by
    intro index isPrefill
    omega
  have places : (config.packedSplit batch).Places batch.queryStartLoc fun req =>
      config.compressedSeqLen (batch.seqLensCpuUpperBound req) := by
    constructor
    · intro index isPrefill
      show batch.queryStartLoc (index + batch.numDecodes + 1) = batch.queryStartLoc (index + batch.numDecodes) +
        batch.queryLen (batch.numDecodes + index)
      rw [Nat.add_comm index, formed.queryEnd (isReq index isPrefill)]
    · intro index _
      rw [Nat.add_comm]
      rfl
    · exact fun index isPrefill => formed.someToken _ (isReq index isPrefill) (Nat.le_add_right _ _)
    · exact fun index isPrefill => inWorkspace _ (isReq index isPrefill) (Nat.le_add_right _ _)
  obtain ⟨specs, isSpecs, tiling⟩ := ChunkSplit.splitIndexerPrefillChunks_tiling places
  exact ⟨specs, isSpecs, Nat.sub_add_cancel formed.decodes ▸ tiling⟩

theorem chunkSpecs_tiling (formed : batch.Formed)
    (inWorkspace : ∀ req < batch.numReqs, batch.numDecodes ≤ req →
      config.splitLen batch req ≤ config.maxPrefillBufferSize) :
    ∃ specs, config.chunkSpecs batch = .ok specs ∧
      Tiling batch.queryStartLoc (config.splitLen batch) config.maxPrefillBufferSize config.maxLogitsBytes
        batch.numDecodes batch.numReqs specs := by
  have decodes := formed.decodes
  cases isMode : config.b12xSupertileK with
  | none =>
    have isLen : config.splitLen batch = fun req => config.compressedSeqLen (batch.seqLensCpuUpperBound req) := by
      funext req
      rw [splitLen, isMode, Option.getD_none]
    rw [isLen] at inWorkspace ⊢
    rw [chunkSpecs, isMode]
    exact packedSplit_tiling formed inWorkspace
  | some supertileK =>
    have isLen : config.splitLen batch = fun _ => supertileK := by
      funext req
      rw [splitLen, isMode, Option.getD_some]
    rw [isLen] at inWorkspace ⊢
    rw [chunkSpecs, isMode]
    have fits : ∀ index < batch.numReqs - batch.numDecodes, supertileK ≤ config.maxPrefillBufferSize :=
      fun index isPrefill => inWorkspace (batch.numDecodes + index) (by omega) (Nat.le_add_right _ _)
    -- the requests are tiled one after the other
    have prefixes : ∀ count ≤ batch.numReqs - batch.numDecodes, ∃ specs,
        ((List.range count).mapM fun prefillIdx =>
          (config.pagedSplit batch supertileK prefillIdx).splitIndexerPrefillChunks) = .ok specs ∧
        Tiling batch.queryStartLoc (fun _ => supertileK) config.maxPrefillBufferSize config.maxLogitsBytes
          batch.numDecodes (batch.numDecodes + count) specs.flatten := by
      intro count inRange
      induction count with
      | zero => exact ⟨[], rfl, Tiling.nil _ _ _ _ _⟩
      | succ count ih =>
        obtain ⟨specs, isSpecs, tiling⟩ := ih (by omega)
        obtain ⟨others, isOthers, otherTiling⟩ := pagedSplit_tiling formed (fits count inRange) inRange
        refine ⟨specs ++ [others], ?_, ?_⟩
        · rw [List.range_succ, List.mapM_append, isSpecs, List.mapM_cons, isOthers]
          rfl
        · rw [List.flatten_append, List.flatten_singleton]
          exact tiling.append (Nat.le_add_right _ _) (by omega) otherTiling
    obtain ⟨specs, isSpecs, tiling⟩ := prefixes _ le_rfl
    rw [Nat.add_sub_cancel' decodes] at tiling
    refine ⟨specs.flatten, ?_, tiling⟩
    dsimp only
    rw [isSpecs]
    rfl

/-! ## The compressed tokens -/

variable (config) in
/-- The number of compressed tokens of this rank that a prefix of the sequence completes. -/
def completeTokens (seqLen : Nat) : Nat :=
  (List.range seqLen).countP fun token => decide ((token + 1) * config.compressRatio ≤ seqLen) &&
    decide (dealtTo config.dcpWorldSize config.cpKvCacheInterleaveSize token = config.dcpRank)

theorem completeTokens_eq (seqLen : Nat) : config.completeTokens seqLen =
    dealtBefore config.dcpWorldSize config.cpKvCacheInterleaveSize config.dcpRank (seqLen / config.compressRatio) := by
  have isComplete : ∀ token, (token + 1) * config.compressRatio ≤ seqLen ↔ token < seqLen / config.compressRatio :=
    fun token => (Nat.le_div_iff_mul_le config.compressRatio_pos).symm
  have split : List.range seqLen = List.range (seqLen / config.compressRatio) ++
      (List.range (seqLen - seqLen / config.compressRatio)).map (seqLen / config.compressRatio + ·) := by
    rw [← List.range_add, Nat.add_sub_cancel' (Nat.div_le_self _ _)]
  rw [completeTokens, split, List.countP_append, ← countP_dealtTo config.isRank config.interleave_pos]
  have behind : ((List.range (seqLen - seqLen / config.compressRatio)).map (seqLen / config.compressRatio + ·)).countP
      (fun token => decide ((token + 1) * config.compressRatio ≤ seqLen) &&
        decide (dealtTo config.dcpWorldSize config.cpKvCacheInterleaveSize token = config.dcpRank)) = 0 := by
    rw [List.countP_eq_zero]
    intro token isToken
    obtain ⟨offset, -, rfl⟩ := List.mem_map.mp isToken
    simp [isComplete]
  rw [behind, Nat.add_zero]
  apply List.countP_congr
  intro token isToken
  simp [isComplete, List.mem_range.mp isToken]

theorem completeTokens_mono {seqLen later : Nat} (le : seqLen ≤ later) :
    config.completeTokens seqLen ≤ config.completeTokens later := by
  rw [completeTokens_eq, completeTokens_eq]
  exact dealtBefore_mono config.isRank config.interleave_pos (Nat.div_le_div_right le)

theorem dealtBefore_single (single : ¬config.dcpWorldSize > 1) (count : Nat) :
    dealtBefore config.dcpWorldSize config.cpKvCacheInterleaveSize config.dcpRank count = count := by
  have isRank := config.isRank
  have isOne : config.dcpWorldSize = 1 := by omega
  have isFirst : config.dcpRank = 0 := by omega
  rw [dealtBefore, isOne, isFirst, Nat.one_mul, Nat.zero_mul, Nat.sub_zero,
    Nat.min_eq_left (Nat.mod_lt _ config.interleave_pos).le, Nat.div_add_mod']

theorem compressedSeqLen_eq (seqLen : Nat) : config.compressedSeqLen seqLen = config.completeTokens seqLen := by
  have isLogical : (if config.compressRatio > 1 then seqLen / config.compressRatio else seqLen) =
      seqLen / config.compressRatio := by
    split
    next => rfl
    next notCompressed =>
      have positive := config.compressRatio_pos
      rw [show config.compressRatio = 1 by omega, Nat.div_one]
  rw [compressedSeqLen, isLogical, completeTokens_eq]
  split
  next => rw [dcpLocalLen_eq config.interleave_pos, Int.toNat_natCast]
  next single => rw [dealtBefore_single single]

theorem seqLenPerToken_eq (seqLen : Nat) : config.seqLenPerToken seqLen = config.completeTokens seqLen := by
  rw [seqLenPerToken, completeTokens_eq]
  dsimp only
  split
  next =>
    generalize seqLen / config.compressRatio = count
    rw [dealtBefore, Nat.div_div_eq_div_mul, Nat.mul_comm config.cpKvCacheInterleaveSize config.dcpWorldSize,
      Nat.mul_assoc, Nat.mul_comm config.cpKvCacheInterleaveSize config.dcpWorldSize, ← Nat.mod_eq_sub_div_mul]
  next single => rw [dealtBefore_single single]

/-! ## The kernel -/

section

variable {spec : ChunkSpec} {chunk : PrefillChunk}

theorem relative_ranges (formed : batch.Formed) (inBatch : spec.reqStop ≤ batch.numReqs) :
    BlockTables.TokenRanges
      (fun index => batch.queryStartLoc (spec.reqStart + index) - batch.queryStartLoc spec.reqStart)
      (spec.reqStop - spec.reqStart) := by
  constructor
  intro index inChunk
  have mono := formed.ranges.mono (spec.reqStart + index) (by omega)
  rw [← Nat.add_assoc]
  omega

/-- After the kernel the row of a query token has the value of its request and its offset. -/
theorem rows_stored (formed : batch.Formed) (inBatch : spec.reqStop ≤ batch.numReqs) {value : Nat → Nat → Nat}
    {before after : Buffer Nat Nat}
    (launched : Launched (List.range (spec.reqStop - spec.reqStart))
      (fun batchIdx => rowStores batch spec (value batchIdx) batchIdx) before after)
    {token : Nat} (above : spec.reqStart ≤ req) (below : req < spec.reqStop)
    (isToken : batch.queryStartLoc req ≤ token) (inQuery : token < batch.queryStartLoc (req + 1))
    (fromRow : batch.queryStartLoc spec.reqStart + spec.queryStart ≤ token)
    (toRow : token < batch.queryStartLoc spec.reqStart + spec.queryStop) :
    after (token - (batch.queryStartLoc spec.reqStart + spec.queryStart)) =
      value (req - spec.reqStart) (token - batch.queryStartLoc req) := by
  have ranges : BlockTables.TokenRanges
      (fun index => batch.queryStartLoc (spec.reqStart + index) - batch.queryStartLoc spec.reqStart)
      (spec.reqStop - spec.reqStart) := relative_ranges formed inBatch
  have isReq : spec.reqStart + (req - spec.reqStart) = req := by omega
  have first := formed.ranges.le above (by omega)
  have stored : (⟨token - (batch.queryStartLoc spec.reqStart + spec.queryStart),
      value (req - spec.reqStart) (token - batch.queryStartLoc req)⟩ : Store Nat Nat) ∈
      rowStores batch spec (value (req - spec.reqStart)) (req - spec.reqStart) := by
    apply List.mem_filterMap.mpr
    rw [isReq]
    refine ⟨token - batch.queryStartLoc req, (mem_blockLoop (by omega)).mpr ⟨Nat.zero_le _, by omega⟩, ?_⟩
    rw [if_pos (by omega)]
    congr 2
    omega
  apply launched.agreed (List.mem_range.mpr (by omega)) stored
  intro other otherInGrid last lastStored same
  obtain ⟨offset, inLoop, isStore⟩ := List.mem_filterMap.mp lastStored
  have offsetBelow := ((mem_blockLoop (by omega)).mp inLoop).2
  dsimp only at isStore
  split at isStore
  next inRows =>
    cases isStore
    dsimp only at same ⊢
    have isOther : other = req - spec.reqStart := by
      apply @BlockTables.TokenRanges.unique _ _ ranges _ _ (token - batch.queryStartLoc spec.reqStart)
        (List.mem_range.mp otherInGrid) (by omega)
      · omega
      · rw [← Nat.add_assoc]
        omega
      · rw [isReq]
        omega
      · rw [← Nat.add_assoc, isReq]
        omega
    subst isOther
    rw [isReq] at same inRows
    have isOffset : offset = token - batch.queryStartLoc req := by omega
    rw [isOffset]
  next => cases isStore

/-- What the metadata of a chunk lets its query tokens see. -/
structure ChunkSees (config : IndexerConfig) (batch : IndexerBatch) (spec : ChunkSpec) (chunk : PrefillChunk) :
    Prop where
  /-- A token sees the compressed tokens that are complete at its position, in the part of its request. -/
  sees : ∀ req, spec.reqStart ≤ req → req < spec.reqStop → ∀ token, batch.queryStartLoc req ≤ token →
    token < batch.queryStartLoc (req + 1) → chunk.tokenStart ≤ token → token < chunk.tokenEnd →
    chunk.cuSeqlenKs (token - chunk.tokenStart) = chunk.cuSeqLens (req - spec.reqStart) ∧
      chunk.cuSeqlenKe (token - chunk.tokenStart) = chunk.cuSeqLens (req - spec.reqStart) +
        config.completeTokens (batch.seqLens req - batch.queryLen req + (token - batch.queryStartLoc req) + 1) ∧
      chunk.cuSeqlenKe (token - chunk.tokenStart) ≤ chunk.cuSeqLens (req - spec.reqStart + 1)
  /-- The parts of the requests follow each other in the buffer, by the lengths of the device. -/
  starts : ∀ index ≤ chunk.numReqs, chunk.cuSeqLens index =
    ∑ offset ∈ range index, config.completeTokens (batch.seqLens (spec.reqStart + offset))
  tokenToSeq : ∀ index < chunk.numReqs, ∀ entry, chunk.cuSeqLens index ≤ entry → entry < chunk.cuSeqLens (index + 1) →
    chunk.tokenToSeq entry = index
  allocated : chunk.cuSeqLens chunk.numReqs ≤ chunk.totalSeqLens

theorem cuSeqLens_succ (index : Nat) : config.cuSeqLens batch spec (index + 1) =
    config.cuSeqLens batch spec index + config.completeTokens (batch.seqLens (spec.reqStart + index)) := by
  rw [cuSeqLens, sum_range_succ, compressedSeqLen_eq]
  rfl

theorem ChunkBuilt.chunkSees (formed : batch.Formed) (inBatch : spec.reqStop ≤ batch.numReqs)
    (built : config.ChunkBuilt batch spec chunk) : config.ChunkSees batch spec chunk := by
  obtain ⟨_, ks⟩ := built.cuSeqlenKs
  obtain ⟨_, ke⟩ := built.cuSeqlenKe
  obtain ⟨_, toSeq⟩ := built.tokenToSeq
  constructor
  · intro req above below token isToken inQuery fromRow toRow
    rw [built.tokenStart] at fromRow ⊢
    rw [built.tokenEnd] at toRow
    have isReq : spec.reqStart + (req - spec.reqStart) = req := by omega
    have first := formed.ranges.le above (by omega)
    have cached := formed.cached req (by omega)
    have isKs := rows_stored formed inBatch ks above below isToken inQuery fromRow toRow
    have isKe := rows_stored formed inBatch ke above below isToken inQuery fromRow toRow
    rw [isReq, seqLenPerToken_eq] at isKe
    have isPosition : batch.seqLens req - (batch.queryStartLoc (req + 1) - batch.queryStartLoc spec.reqStart -
        (batch.queryStartLoc req - batch.queryStartLoc spec.reqStart)) + 1 + (token - batch.queryStartLoc req) =
        batch.seqLens req - batch.queryLen req + (token - batch.queryStartLoc req) + 1 := by
      rw [IndexerBatch.queryLen] at *
      omega
    rw [isPosition] at isKe
    have inSequence : batch.seqLens req - batch.queryLen req + (token - batch.queryStartLoc req) + 1 ≤
        batch.seqLens req := by
      rw [IndexerBatch.queryLen] at *
      omega
    rw [built.cuSeqLens]
    refine ⟨isKs, isKe, ?_⟩
    rw [isKe, cuSeqLens_succ, isReq]
    exact Nat.add_le_add_left (completeTokens_mono inSequence) _
  · intro index _
    rw [built.cuSeqLens, IndexerConfig.cuSeqLens]
    exact sum_congr rfl fun offset _ => compressedSeqLen_eq _
  · intro index inChunk entry above below
    rw [built.numReqs] at inChunk
    rw [built.cuSeqLens] at above below
    have ranges : BlockTables.TokenRanges (config.cuSeqLens batch spec) (spec.reqStop - spec.reqStart) := by
      constructor
      intro index _
      rw [cuSeqLens_succ]
      exact Nat.le_add_right _ _
    have stored : (⟨entry, index⟩ : Store Nat Nat) ∈ config.tokenToSeqStores batch spec index := by
      apply List.mem_map.mpr
      refine ⟨entry - config.cuSeqLens batch spec index, (mem_blockLoop (by omega)).mpr ⟨Nat.zero_le _, by omega⟩, ?_⟩
      rw [Nat.add_sub_cancel' above]
    apply toSeq.agreed (List.mem_range.mpr inChunk) stored
    intro other otherInGrid last lastStored same
    obtain ⟨offset, inLoop, rfl⟩ := List.mem_map.mp lastStored
    have offsetBelow := ((mem_blockLoop (by omega)).mp inLoop).2
    dsimp only at same ⊢
    exact @BlockTables.TokenRanges.unique _ _ ranges _ _ entry (List.mem_range.mp otherInGrid) inChunk (by omega)
      (by omega) above below
  · rw [built.cuSeqLens, built.totalSeqLens, built.numReqs, IndexerConfig.cuSeqLens, IndexerConfig.totalSeqLens,
      sum_Ico_eq_sum_range]
    apply sum_le_sum
    intro offset inChunk
    have below := mem_range.mp inChunk
    rw [compressedSeqLen_eq, compressedSeqLen_eq]
    exact completeTokens_mono (formed.upperBound _ (by omega))

theorem dropped_sees_nothing (formed : batch.Formed) (inBatch : spec.reqStop ≤ batch.numReqs)
    (dropped : config.totalSeqLens batch spec = 0) (above : spec.reqStart ≤ req)
    (below : req < spec.reqStop) {token : Nat} (inQuery : token < batch.queryStartLoc (req + 1))
    (isToken : batch.queryStartLoc req ≤ token) :
    config.completeTokens (batch.seqLens req - batch.queryLen req + (token - batch.queryStartLoc req) + 1) = 0 := by
  have isZero := sum_eq_zero_iff.mp dropped req (mem_Ico.mpr ⟨above, below⟩)
  rw [compressedSeqLen_eq] at isZero
  have cached := formed.cached req (by omega)
  have bound := formed.upperBound req (by omega)
  have inBound : batch.seqLens req - batch.queryLen req + (token - batch.queryStartLoc req) + 1 ≤
      batch.seqLensCpuUpperBound req := by
    rw [IndexerBatch.queryLen] at *
    omega
  have atMost := @completeTokens_mono config _ _ inBound
  omega

end

/-! ## The chunks that are kept -/

theorem follow_built {specs : List ChunkSpec} {chunks : List PrefillChunk}
    (follow : Follow previous specs) (built : List.Forall₂ (config.ChunkBuilt batch) specs chunks)
    {chunk : PrefillChunk} (isChunk : chunks[index]? = some chunk) (skips : chunk.skipKvGather = true) :
    (index = 0 ∧ previous = some chunk.blockTable) ∨
      ∃ before other, index = before + 1 ∧ chunks[before]? = some other ∧ other.blockTable = chunk.blockTable := by
  induction built generalizing previous index with
  | nil => cases isChunk
  | @cons spec first specs chunks isFirst _ ih =>
    cases index with
    | zero =>
      cases isChunk
      rw [isFirst.skipKvGather, decide_eq_true_eq] at skips
      rw [isFirst.blockTable]
      exact Or.inl ⟨rfl, follow.1 skips⟩
    | succ index =>
      rcases ih follow.2 isChunk with ⟨rfl, same⟩ | ⟨before, other, rfl, isOther, same⟩
      · refine Or.inr ⟨0, first, rfl, rfl, ?_⟩
        rw [isFirst.blockTable]
        exact Option.some.inj same
      · exact Or.inr ⟨before + 1, other, rfl, isOther, same⟩

/-- The prefill chunks of a batch: they tile its query tokens within the budgets, a chunk without a gather
follows one of the same requests, each token sees what is complete at it, and a chunk that is left out has
nothing to see. -/
theorem prefillChunks_hold (formed : batch.Formed)
    (inWorkspace : ∀ req < batch.numReqs, batch.numDecodes ≤ req →
      config.splitLen batch req ≤ config.maxPrefillBufferSize) :
    ∃ specs, config.chunkSpecs batch = .ok specs ∧
      Tiling batch.queryStartLoc (config.splitLen batch) config.maxPrefillBufferSize config.maxLogitsBytes
        batch.numDecodes batch.numReqs specs ∧
      (∀ chunks, config.ChunksBuilt batch specs chunks → ∀ index chunk, chunks[index]? = some chunk →
        chunk.skipKvGather = true → ∃ before other, index = before + 1 ∧ chunks[before]? = some other ∧
          other.blockTable = chunk.blockTable) ∧
      (∀ spec ∈ specs, ∀ chunk, config.ChunkBuilt batch spec chunk → config.ChunkSees batch spec chunk) ∧
      ∀ spec ∈ specs, config.totalSeqLens batch spec = 0 → ∀ req, spec.reqStart ≤ req → req < spec.reqStop →
        ∀ token, batch.queryStartLoc req ≤ token → token < batch.queryStartLoc (req + 1) →
          config.completeTokens (batch.seqLens req - batch.queryLen req + (token - batch.queryStartLoc req) + 1) =
            0 := by
  obtain ⟨specs, isSpecs, tiling⟩ := chunkSpecs_tiling formed inWorkspace
  refine ⟨specs, isSpecs, tiling, ?_, ?_, ?_⟩
  · intro chunks built index chunk isChunk skips
    have sameTotal : ∀ spec other : ChunkSpec, spec.reqStart = other.reqStart → spec.reqStop = other.reqStop →
        decide (config.totalSeqLens batch spec ≠ 0) = decide (config.totalSeqLens batch other ≠ 0) := by
      intro spec other sameStart sameStop
      rw [totalSeqLens, totalSeqLens, sameStart, sameStop]
    have follow : Follow none (specs.filter fun spec => config.totalSeqLens batch spec ≠ 0) :=
      (tiling.follow none).filter _ sameTotal fun _ _ same => same
    rcases follow_built follow built isChunk skips with ⟨-, none⟩ | following
    · cases none
    · exact following
  · intro spec isSpec chunk built
    exact built.chunkSees formed (tiling.within spec isSpec).2
  · intro spec isSpec dropped req above below token isToken inQuery
    exact dropped_sees_nothing formed (tiling.within spec isSpec).2 dropped above below inQuery isToken

private theorem indexerRatio_pos : 0 < 4 := Nat.succ_pos 3

/-- Four tokens to a compressed one, on the second of two ranks. -/
private def indexerConfig : IndexerConfig where
  compressRatio := 4
  dcpWorldSize := 2
  dcpRank := 1
  cpKvCacheInterleaveSize := 1
  maxPrefillBufferSize := 12
  maxLogitsBytes := 64
  b12xSupertileK := none
  compressRatio_pos := indexerRatio_pos
  isRank := Nat.one_lt_two
  interleave_pos := Nat.one_pos

private def indexerBatch : IndexerBatch where
  numReqs := 4
  numDecodes := 1
  queryStartLoc req := [0, 1, 6, 16, 18].getD req 18
  seqLens req := [9, 40, 10, 2].getD req 0
  seqLensCpuUpperBound req := [9, 40, 12, 2].getD req 0

theorem indexerBatch_tiled : ∃ specs, indexerConfig.chunkSpecs indexerBatch = .ok specs ∧
    specs.flatMap (ChunkSpec.tokens indexerBatch.queryStartLoc) = List.range' 1 17 := by
  have formed : indexerBatch.Formed := ⟨⟨by decide⟩, by decide, by decide, by decide, by decide⟩
  obtain ⟨specs, isSpecs, tiling, -⟩ := @prefillChunks_hold indexerConfig _ formed (by decide)
  exact ⟨specs, isSpecs, tiling.tokens⟩

end IndexerConfig

end DeepSpark
