import DeepSpark.Lib.Ragged

/-!
`make_local_attention_virtual_batches` of `v1/attention/backends/utils.py`.

Owns the virtual requests that a batch is broken into for chunked local attention, and that the keys
a query sees in its virtual request are those of its chunk.
-/

namespace DeepSpark

open Lib List

structure Matrix2D where
  rows : List (List Int)
  width : Nat
  sameWidth : ∀ row ∈ rows, row.length = width

/-- What the function reads of a `CommonAttentionMetadata`. -/
structure LocalAttentionInputs where
  queryStartLocCpu : List Int
  seqLensCpu : List Int
  blockTableTensor : Matrix2D
  numActualTokens : Int
  slotMapping : List Int

/-- The `CommonAttentionMetadata` of the virtual requests. -/
structure VirtualBatches where
  queryStartLoc : List Int
  seqLens : List Int
  numReqs : Nat
  numActualTokens : Int
  maxQueryLen : Int
  maxSeqLen : Int
  blockTableTensor : List (List Int)
  slotMapping : List Int
  numComputedTokensCpu : List Int
deriving DecidableEq, Repr

/-- `cdiv` of signed numbers. -/
def intCdiv (a b : Int) : Int := -(a.fdiv (-b))

namespace LocalAttentionInputs

variable (inputs : LocalAttentionInputs) (attnChunkSize blockSize : Nat)

def qSeqlens : List Int := List.zipWith (· - ·) inputs.queryStartLocCpu.tail inputs.queryStartLocCpu.dropLast

def qTokensInFirstBlock : List Int :=
  List.zipWith (fun seqLen q => min (attnChunkSize - (seqLen - q).fmod attnChunkSize) q) inputs.seqLensCpu
    inputs.qSeqlens

def tokensInLastBlock : List Int :=
  inputs.seqLensCpu.map fun seqLen => attnChunkSize + seqLen.fmod (-attnChunkSize)

def localBlocks : List Int :=
  (List.zipWith (· - ·) inputs.qSeqlens (inputs.qTokensInFirstBlock attnChunkSize)).map fun q =>
    1 + intCdiv q attnChunkSize

def cuNumBlocks : List Int := npCumsum (inputs.localBlocks attnChunkSize)

def virtualBatches : Int := ((inputs.cuNumBlocks attnChunkSize).getLast?).getD 0

def arange : List Int :=
  List.zipWith (· - ·) (Lib.arange (inputs.virtualBatches attnChunkSize))
    (repeatEach (List.zipWith (· - ·) (inputs.cuNumBlocks attnChunkSize) (inputs.localBlocks attnChunkSize))
      (inputs.localBlocks attnChunkSize))

def rarange : List Int :=
  List.zipWith (fun blocks index => blocks - index - 1)
    (repeatEach (inputs.localBlocks attnChunkSize) (inputs.localBlocks attnChunkSize)) (inputs.arange attnChunkSize)

/-- `seqlens_q_local` with the first virtual request of each request set. -/
def seqlensQFirst : List Int :=
  assignMasked
    (repeatEach (List.zipWith (· - ·) inputs.qSeqlens (inputs.qTokensInFirstBlock attnChunkSize))
      (inputs.localBlocks attnChunkSize))
    ((inputs.arange attnChunkSize).map fun index => decide (index = 0)) (inputs.qTokensInFirstBlock attnChunkSize)

def seqlensQLocal : List Int :=
  let later := (inputs.arange attnChunkSize).map fun index => decide (index > 0)
  assignMasked (inputs.seqlensQFirst attnChunkSize) later
    (selectMasked
      (List.zipWith (fun seqlen index => min (seqlen - attnChunkSize * (index - 1)) (attnChunkSize : Int))
        (inputs.seqlensQFirst attnChunkSize) (inputs.arange attnChunkSize)) later)

def cuSeqlensQLocal : List Int := 0 :: npCumsum (inputs.seqlensQLocal attnChunkSize)

def seqlensKLocal : List Int :=
  assignAt (List.replicate (inputs.virtualBatches attnChunkSize).toNat (attnChunkSize : Int))
    ((inputs.cuNumBlocks attnChunkSize).map (· - 1)) (inputs.tokensInLastBlock attnChunkSize)

def numComputedTokensLocal : List Int :=
  List.zipWith (· - ·) (inputs.seqlensKLocal attnChunkSize) (inputs.seqlensQLocal attnChunkSize)

def kSeqstartsAbsolute : List Int :=
  List.zipWith (· - ·) (repeatEach inputs.seqLensCpu (inputs.localBlocks attnChunkSize))
    (List.zipWith (fun index tokens => index * attnChunkSize + tokens) (inputs.rarange attnChunkSize)
      (repeatEach (inputs.tokensInLastBlock attnChunkSize) (inputs.localBlocks attnChunkSize)))

def blockStarts : List Int := (inputs.kSeqstartsAbsolute attnChunkSize).map fun start => start.fdiv blockSize

def blockIndices : List Int :=
  ((inputs.blockStarts attnChunkSize blockSize).flatMap fun start =>
    (List.range (attnChunkSize / blockSize)).map fun (page : Nat) => start + (page : Int)).map
      fun index => min index ((inputs.blockTableTensor.width : Int) - 1)

def batchIndices : List Int :=
  repeatEach (Lib.arange inputs.seqLensCpu.length)
    ((inputs.localBlocks attnChunkSize).map fun blocks => blocks * (attnChunkSize / blockSize : Nat))

def makeBlockTable (blockTable : Matrix2D) : Except PyError (List (List Int)) := do
  let entries ← ((inputs.batchIndices attnChunkSize blockSize).zip
    (inputs.blockIndices attnChunkSize blockSize)).mapM fun index => do
      let row ← pyIndex blockTable.rows index.1
      pyIndex row index.2
  return viewRows (inputs.virtualBatches attnChunkSize).toNat entries

def makeLocalAttentionVirtualBatches :
    Except PyError (VirtualBatches × (Matrix2D → Except PyError (List (List Int)))) := do
  let _ ← match (inputs.cuNumBlocks attnChunkSize).getLast? with
    | some last => pure last
    | none => throw (.indexError "index -1 is out of bounds for axis 0 with size 0")
  if blockSize = 0 then throw (.zeroDivisionError "integer modulo by zero")
  pyAssert (attnChunkSize % blockSize = 0)
    s!"attn_chunk_size {attnChunkSize} is not divisible by block_size {blockSize}"
  let blockTableLocal ← inputs.makeBlockTable attnChunkSize blockSize inputs.blockTableTensor
  return ({ queryStartLoc := inputs.cuSeqlensQLocal attnChunkSize
            seqLens := inputs.seqlensKLocal attnChunkSize
            numReqs := (inputs.seqlensKLocal attnChunkSize).length
            numActualTokens := inputs.numActualTokens
            maxQueryLen := ((inputs.seqlensQLocal attnChunkSize).max?).getD 0
            maxSeqLen := ((inputs.seqlensKLocal attnChunkSize).max?).getD 0
            blockTableTensor := blockTableLocal
            slotMapping := inputs.slotMapping
            numComputedTokensCpu := inputs.numComputedTokensLocal attnChunkSize },
    inputs.makeBlockTable attnChunkSize blockSize)

end LocalAttentionInputs

/-! ## The chunks of one request -/

structure LocalRequest where
  queryLen : Nat
  seqLen : Nat
  blockIds : List Int
  queryLen_pos : 0 < queryLen
  queryLen_le : queryLen ≤ seqLen

namespace LocalRequest

variable (request : LocalRequest) (chunk : Nat)

def start : Nat := request.seqLen - request.queryLen

def firstChunk : Nat := request.start / chunk

def numChunks : Nat := (request.seqLen - 1) / chunk + 1 - request.firstChunk chunk

def chunkStart (index : Nat) : Nat := (request.firstChunk chunk + index) * chunk

def chunkEnd (index : Nat) : Nat := min (request.chunkStart chunk index + chunk) request.seqLen

def chunkQueries (index : Nat) : Nat :=
  request.chunkEnd chunk index - max (request.chunkStart chunk index) request.start

def chunkKeys (index : Nat) : Nat := request.chunkEnd chunk index - request.chunkStart chunk index

theorem chunkStart_succ (index : Nat) :
    request.chunkStart chunk (index + 1) = request.chunkStart chunk index + chunk := by
  rw [chunkStart, chunkStart]
  ring

variable {chunk}

theorem chunkStart_mono {first second : Nat} (ordered : first ≤ second) :
    request.chunkStart chunk first ≤ request.chunkStart chunk second :=
  Nat.mul_le_mul_right _ (Nat.add_le_add_left ordered _)

variable (positive : 0 < chunk)

include positive

theorem chunkStart_first :
    request.chunkStart chunk 0 ≤ request.start ∧ request.start < request.chunkStart chunk 0 + chunk ∧
      request.start = request.chunkStart chunk 0 + request.start % chunk := by
  have split := Nat.div_add_mod request.start chunk
  have below := Nat.mod_lt request.start positive
  rw [Nat.mul_comm] at split
  rw [chunkStart, firstChunk, Nat.add_zero]
  omega

theorem chunkStart_last : ∃ others, request.numChunks chunk = others + 1 ∧
    request.chunkStart chunk others < request.seqLen ∧
      request.seqLen ≤ request.chunkStart chunk others + chunk := by
  have someQuery := request.queryLen_pos
  have within := request.queryLen_le
  have ordered : request.firstChunk chunk ≤ (request.seqLen - 1) / chunk := by
    apply Nat.div_le_div_right
    rw [start]
    omega
  refine ⟨(request.seqLen - 1) / chunk - request.firstChunk chunk, ?_, ?_⟩
  · rw [numChunks]
    omega
  · have split := Nat.div_add_mod (request.seqLen - 1) chunk
    have below := Nat.mod_lt (request.seqLen - 1) positive
    rw [Nat.mul_comm] at split
    rw [chunkStart, Nat.add_sub_cancel' ordered]
    omega

theorem numChunks_pos : 0 < request.numChunks chunk := by
  obtain ⟨others, isCount, -⟩ := request.chunkStart_last positive
  omega

theorem chunkStart_lt {index : Nat} (isChunk : index < request.numChunks chunk) :
    request.chunkStart chunk index < request.seqLen := by
  obtain ⟨others, isCount, begins, -⟩ := request.chunkStart_last positive
  exact (request.chunkStart_mono (by omega)).trans_lt begins

theorem chunkEnd_of_later {index : Nat} (later : index + 1 < request.numChunks chunk) :
    request.chunkEnd chunk index = request.chunkStart chunk index + chunk := by
  have begins := request.chunkStart_lt positive later
  rw [chunkStart_succ] at begins
  exact Nat.min_eq_left begins.le

theorem chunkEnd_last {index : Nat} (isLast : index + 1 = request.numChunks chunk) :
    request.chunkEnd chunk index = request.seqLen := by
  obtain ⟨others, isCount, -, ends⟩ := request.chunkStart_last positive
  have same : index = others := by omega
  rw [chunkEnd, same]
  exact Nat.min_eq_right ends

theorem sum_chunkQueries {index : Nat} (isChunk : index ≤ request.numChunks chunk) :
    request.start + ((List.range index).map (request.chunkQueries chunk)).sum =
      max request.start (min (request.chunkStart chunk index) request.seqLen) := by
  have first := request.chunkStart_first positive
  induction index with
  | zero =>
    simp only [range_zero, map_nil, sum_nil]
    omega
  | succ index ih =>
    have before := ih (Nat.le_of_succ_le isChunk)
    have ordered : request.chunkStart chunk 0 ≤ request.chunkStart chunk index :=
      request.chunkStart_mono (Nat.zero_le index)
    rw [range_succ, map_append, sum_append, map_singleton, sum_singleton, ← Nat.add_assoc,
      before, chunkQueries, chunkEnd, chunkStart_succ]
    omega

theorem sum_chunkQueries_all :
    ((List.range (request.numChunks chunk)).map (request.chunkQueries chunk)).sum = request.queryLen := by
  have total := request.sum_chunkQueries positive (Nat.le_refl _)
  obtain ⟨others, isCount, -, ends⟩ := request.chunkStart_last positive
  have within := request.queryLen_le
  have isStart : request.start = request.seqLen - request.queryLen := rfl
  have behind : request.seqLen ≤ request.chunkStart chunk (request.numChunks chunk) := by
    rw [isCount, chunkStart_succ]
    exact ends
  omega

theorem place_of_query {place : Nat} (isQuery : place < request.queryLen) :
    ∃ index < request.numChunks chunk,
      (request.start + place) % chunk = request.start + place - request.chunkStart chunk index ∧
      request.chunkStart chunk index ≤ request.start + place ∧
      request.start + place < request.chunkEnd chunk index := by
  have within := request.queryLen_le
  have isStart : request.start = request.seqLen - request.queryLen := rfl
  have ordered : request.firstChunk chunk ≤ (request.start + place) / chunk :=
    Nat.div_le_div_right (Nat.le_add_right _ _)
  have isBegin : request.chunkStart chunk ((request.start + place) / chunk - request.firstChunk chunk) =
      (request.start + place) / chunk * chunk := by
    rw [chunkStart, Nat.add_sub_cancel' ordered]
  have split := Nat.div_add_mod (request.start + place) chunk
  have below := Nat.mod_lt (request.start + place) positive
  rw [Nat.mul_comm] at split
  have notBehind : (request.start + place) / chunk ≤ (request.seqLen - 1) / chunk := by
    apply Nat.div_le_div_right
    omega
  refine ⟨(request.start + place) / chunk - request.firstChunk chunk, ?_, ?_, ?_, ?_⟩
  · rw [numChunks]
    omega
  · rw [isBegin]
    omega
  · rw [isBegin]
    omega
  · rw [chunkEnd, isBegin]
    omega

end LocalRequest

/-! ## The vectors of a batch -/

theorem intCdiv_natCast (count : Nat) {size : Nat} (positive : 0 < size) :
    intCdiv (count : Int) (size : Int) = ((count + size - 1) / size : Nat) := by
  have sizePositive : (0 : Int) < size := by exact_mod_cast positive
  have low := Nat.div_mul_le_self (count + size - 1) size
  have high := @Nat.lt_div_mul_add (count + size - 1) _ positive
  have isQuotient : (-(count : Int)) / (size : Int) = -(((count + size - 1) / size : Nat) : Int) := by
    rw [Int.ediv_eq_iff_of_pos sizePositive, Int.neg_mul]
    omega
  rw [intCdiv, ← Int.neg_fdiv_neg, neg_neg, Int.fdiv_eq_ediv_of_nonneg _ sizePositive.le, isQuotient, neg_neg]

def tableEntry (blockIds : List Int) (page : Nat) : Int := (blockIds[min page (blockIds.length - 1)]?).getD 0

theorem pyIndex_clipped {blockIds : List Int} {width : Nat} (hasWidth : blockIds.length = width)
    (someColumn : 0 < width) (page : Nat) :
    pyIndex blockIds (min (page : Int) ((width : Int) - 1)) = .ok (tableEntry blockIds page) := by
  have isColumn : min (page : Int) ((width : Int) - 1) = (min page (blockIds.length - 1) : Nat) := by omega
  have inRow : min page (blockIds.length - 1) < blockIds.length := by omega
  rw [isColumn, tableEntry, getElem?_eq_getElem inRow, Option.getD_some]
  exact pyIndex_natCast (getElem?_eq_getElem inRow)

/-- A batch as the runner builds it. A sequence has a token, so the table has a column. -/
structure LocalBatch where
  requests : List LocalRequest
  width : Nat
  numActualTokens : Int
  slotMapping : List Int
  someRequest : requests ≠ []
  sameWidth : ∀ request ∈ requests, request.blockIds.length = width
  width_pos : 0 < width

namespace LocalBatch

open LocalRequest
open LocalAttentionInputs hiding arange

variable (batch : LocalBatch)

def inputs : LocalAttentionInputs where
  queryStartLocCpu := 0 :: npCumsum (batch.requests.map fun request => (request.queryLen : Int))
  seqLensCpu := batch.requests.map fun request => (request.seqLen : Int)
  blockTableTensor :=
    { rows := batch.requests.map blockIds
      width := batch.width
      sameWidth := by
        intro row member
        obtain ⟨request, isRequest, rfl⟩ := mem_map.mp member
        exact batch.sameWidth request isRequest }
  numActualTokens := batch.numActualTokens
  slotMapping := batch.slotMapping

theorem qSeqlens_eq : batch.inputs.qSeqlens = batch.requests.map fun request => (request.queryLen : Int) :=
  diff_npCumsumFrom 0 _

variable {chunk : Nat} (positive : 0 < chunk)

include positive

theorem qTokensInFirstBlock_eq : batch.inputs.qTokensInFirstBlock chunk =
    batch.requests.map fun request => (request.chunkQueries chunk 0 : Int) := by
  rw [qTokensInFirstBlock, qSeqlens_eq, inputs, zipWith_map, zipWith_self]
  apply map_congr_left
  intro request _
  have within := request.queryLen_le
  have isStart : request.start = request.seqLen - request.queryLen := rfl
  have first := request.chunkStart_first positive
  have isDifference : (request.seqLen : Int) - request.queryLen = (request.start : Nat) := by omega
  rw [isDifference, Int.fmod_eq_emod_of_nonneg _ (Int.natCast_nonneg chunk), ← Int.natCast_emod,
    chunkQueries, chunkEnd]
  omega

theorem tokensInLastBlock_eq : batch.inputs.tokensInLastBlock chunk =
    batch.requests.map fun request => (request.chunkKeys chunk (request.numChunks chunk - 1) : Int) := by
  rw [tokensInLastBlock, inputs, map_map]
  apply map_congr_left
  intro request _
  obtain ⟨others, isCount, begins, ends⟩ := request.chunkStart_last positive
  have isLast := request.chunkEnd_last positive isCount.symm
  have isMod : (-(request.seqLen : Int)) % (chunk : Int) =
      (request.chunkStart chunk others : Int) + chunk - request.seqLen := by
    rw [Int.emod_eq_iff (by omega)]
    refine ⟨by omega, by omega, ?_⟩
    rw [chunkStart]
    exact ⟨(request.firstChunk chunk + others : Nat) + 1, by push_cast; ring⟩
  have isFmod : (request.seqLen : Int).fmod (-(chunk : Int)) =
      request.seqLen - (request.chunkStart chunk others + chunk) := by
    rw [← neg_neg (request.seqLen : Int), Int.neg_fmod_neg, Int.fmod_eq_emod_of_nonneg _ (Int.natCast_nonneg chunk),
      isMod]
    ring
  rw [Function.comp_apply, isFmod, isCount, Nat.add_sub_cancel, chunkKeys, isLast]
  omega

theorem localBlocks_eq : batch.inputs.localBlocks chunk =
    batch.requests.map fun request => (request.numChunks chunk : Int) := by
  rw [localBlocks, qSeqlens_eq, qTokensInFirstBlock_eq batch positive, zipWith_map,
    zipWith_self, map_map]
  apply map_congr_left
  intro request _
  have first := request.chunkStart_first positive
  have within := request.queryLen_le
  have isStart : request.start = request.seqLen - request.queryLen := rfl
  have fewer : request.chunkQueries chunk 0 ≤ request.queryLen := by
    rw [chunkQueries, chunkEnd]
    omega
  obtain ⟨others, isCount, begins, ends⟩ := request.chunkStart_last positive
  have isQuotient : (request.queryLen - request.chunkQueries chunk 0 + chunk - 1) / chunk = others := by
    have isLast : request.chunkStart chunk others = request.chunkStart chunk 0 + others * chunk := by
      rw [chunkStart, chunkStart]
      ring
    have isFirst : request.chunkQueries chunk 0 =
        min (request.chunkStart chunk 0 + chunk) request.seqLen - request.start := by
      rw [chunkQueries, chunkEnd, Nat.max_eq_right first.1]
    apply Nat.div_eq_of_lt_le
    · omega
    · rw [Nat.succ_mul]
      omega
  rw [Function.comp_apply, ← Nat.cast_sub fewer, intCdiv_natCast _ positive, isQuotient, isCount]
  omega

theorem virtualBatches_eq : batch.inputs.virtualBatches chunk =
    ((batch.requests.map fun request => request.numChunks chunk).sum : Nat) := by
  have someBlock : (batch.requests.map fun request => (request.numChunks chunk : Int)) ≠ [] := by
    simpa using batch.someRequest
  rw [virtualBatches, cuNumBlocks, localBlocks_eq batch positive, npCumsum,
    getLast?_npCumsumFrom someBlock, Option.getD_some, Int.zero_add, sum_natCast]

theorem arange_eq : batch.inputs.arange chunk =
    ragged batch.requests (fun request => request.numChunks chunk) fun _ index => (index : Int) := by
  rw [LocalAttentionInputs.arange, virtualBatches_eq batch positive, cuNumBlocks,
    localBlocks_eq batch positive, ← sum_natCast]
  exact batched_arange _ _

theorem rarange_eq : batch.inputs.rarange chunk =
    ragged batch.requests (fun request => request.numChunks chunk) fun request index =>
      (request.numChunks chunk : Int) - index - 1 := by
  rw [rarange, arange_eq batch positive, localBlocks_eq batch positive, repeatEach_map,
    zipWith_ragged]

theorem seqlensQFirst_eq : batch.inputs.seqlensQFirst chunk =
    ragged batch.requests (fun request => request.numChunks chunk) fun request index =>
      if index = 0 then (request.chunkQueries chunk 0 : Int)
      else (request.queryLen : Int) - request.chunkQueries chunk 0 := by
  have isMask : (ragged batch.requests (fun request => request.numChunks chunk) fun _ index => (index : Int)).map
      (fun index => decide (index = 0)) =
      ragged batch.requests (fun request => request.numChunks chunk) fun _ index => decide (index = 0) := by
    simp [map_ragged]
  rw [seqlensQFirst, arange_eq batch positive, isMask, localBlocks_eq batch positive,
    qSeqlens_eq, qTokensInFirstBlock_eq batch positive, zipWith_map, zipWith_self, repeatEach_map]
  exact assignMasked_first _ _ (fun request _ => request.numChunks_pos positive) _ _

theorem seqlensQLocal_eq : batch.inputs.seqlensQLocal chunk =
    ragged batch.requests (fun request => request.numChunks chunk) fun request index =>
      (request.chunkQueries chunk index : Int) := by
  rw [seqlensQLocal, seqlensQFirst_eq batch positive, arange_eq batch positive, map_ragged,
    zipWith_ragged]
  rw [assignMasked_select (by simp [length_ragged]) (by simp [length_ragged]), List.zip, zipWith_ragged,
    zipWith_ragged]
  apply ragged_congr
  intro request _ index isChunk
  have first := request.chunkStart_first positive
  have within := request.queryLen_le
  have isStart : request.start = request.seqLen - request.queryLen := rfl
  have begins := request.chunkStart_lt positive isChunk
  cases index with
  | zero => simp
  | succ before =>
    have isFirst : request.chunkQueries chunk 0 =
        min (request.chunkStart chunk 0 + chunk) request.seqLen - request.start := by
      rw [chunkQueries, chunkEnd, Nat.max_eq_right first.1]
    have isBegin : request.chunkStart chunk (before + 1) = request.chunkStart chunk 0 + chunk + chunk * before := by
      rw [chunkStart, chunkStart]
      ring
    have isLater : (0 : Int) < (before + 1 : Nat) := by omega
    rw [isBegin] at begins
    rw [if_pos (decide_eq_true isLater), if_neg (Nat.succ_ne_zero before), isFirst, chunkQueries,
      chunkEnd, isBegin, Nat.cast_succ, add_sub_cancel_right]
    omega

theorem seqlensKLocal_eq : batch.inputs.seqlensKLocal chunk =
    ragged batch.requests (fun request => request.numChunks chunk) fun request index =>
      (request.chunkKeys chunk index : Int) := by
  rw [seqlensKLocal, virtualBatches_eq batch positive, cuNumBlocks,
    localBlocks_eq batch positive, tokensInLastBlock_eq batch positive, Int.toNat_natCast,
    assignAt_last _ _ fun request _ => request.numChunks_pos positive]
  apply ragged_congr
  intro request _ index isChunk
  split
  next isLast => rw [← isLast, Nat.add_sub_cancel]
  next notLast =>
    rw [chunkKeys, request.chunkEnd_of_later positive (by omega), Nat.add_sub_cancel_left]

theorem kSeqstartsAbsolute_eq : batch.inputs.kSeqstartsAbsolute chunk =
    ragged batch.requests (fun request => request.numChunks chunk) fun request index =>
      (request.chunkStart chunk index : Int) := by
  rw [kSeqstartsAbsolute, rarange_eq batch positive, localBlocks_eq batch positive,
    tokensInLastBlock_eq batch positive, inputs, repeatEach_map, repeatEach_map, zipWith_ragged, zipWith_ragged]
  apply ragged_congr
  intro request _ index isChunk
  obtain ⟨others, isCount, begins, -⟩ := request.chunkStart_last positive
  have isLast := request.chunkEnd_last positive isCount.symm
  have isStart : request.chunkStart chunk others = request.chunkStart chunk index + (others - index) * chunk := by
    rw [chunkStart, chunkStart, ← Nat.add_mul, Nat.add_assoc,
      Nat.add_sub_cancel' (by omega)]
  have isDistance : ((others + 1 : Nat) : Int) - index - 1 = (others - index : Nat) := by omega
  rw [isCount, Nat.add_sub_cancel, chunkKeys, isLast, isDistance]
  omega

/-! ## The virtual block table -/

variable {blockSize : Nat}

theorem batchIndices_eq : batch.inputs.batchIndices chunk blockSize =
    ragged batch.requests.zipIdx (fun entry => entry.1.numChunks chunk * (chunk / blockSize)) fun entry _ =>
      (entry.2 : Int) := by
  have isRange : arange batch.inputs.seqLensCpu.length = batch.requests.zipIdx.map fun entry => (entry.2 : Int) := by
    have seconds := congrArg (List.map Int.ofNat) (zipIdx_map_snd 0 batch.requests)
    rw [map_map, ← range_eq_range'] at seconds
    rw [arange, inputs, length_map, Int.toNat_natCast]
    exact seconds.symm
  have isCount : (batch.requests.map fun request => (request.numChunks chunk : Int)).map
      (fun blocks : Int => blocks * (chunk / blockSize : Nat)) = batch.requests.zipIdx.map fun entry =>
        ((entry.1.numChunks chunk * (chunk / blockSize) : Nat) : Int) := by
    conv_lhs => rw [← zipIdx_map_fst 0 batch.requests]
    rw [map_map, map_map]
    apply map_congr_left
    intro entry _
    exact (Nat.cast_mul _ _).symm
  rw [batchIndices, localBlocks_eq batch positive, isRange, isCount, repeatEach_map]

theorem blockIndices_eq : batch.inputs.blockIndices chunk blockSize =
    ragged batch.requests.zipIdx (fun entry => entry.1.numChunks chunk * (chunk / blockSize)) fun entry place =>
      min ((entry.1.chunkStart chunk (place / (chunk / blockSize)) / blockSize + place % (chunk / blockSize) : Nat) :
        Int) (batch.width - 1) := by
  have isStart : ∀ start : Nat, (start : Int).fdiv blockSize = (start / blockSize : Nat) := by
    intro start
    rw [Int.fdiv_eq_ediv_of_nonneg _ (Int.natCast_nonneg blockSize), Int.natCast_ediv]
  rw [blockIndices, blockStarts, kSeqstartsAbsolute_eq batch positive,
    map_ragged, ragged_flatMap, map_ragged, ragged_zipIdx]
  simp only [isStart]
  rfl

def chunkBlocks (chunk blockSize : Nat) (request : LocalRequest) (index : Nat) : List Int :=
  (List.range (chunk / blockSize)).map fun page =>
    tableEntry request.blockIds (request.chunkStart chunk index / blockSize + page)

theorem makeBlockTable_eq : batch.inputs.makeBlockTable chunk blockSize batch.inputs.blockTableTensor =
    .ok (ragged batch.requests (fun request => request.numChunks chunk) (chunkBlocks chunk blockSize)) := by
  let rows := ragged batch.requests (fun request => request.numChunks chunk) (chunkBlocks chunk blockSize)
  let indices := (batch.inputs.batchIndices chunk blockSize).zip (batch.inputs.blockIndices chunk blockSize)
  let places := ragged batch.requests.zipIdx (fun entry => entry.1.numChunks chunk * (chunk / blockSize))
    fun entry place => (entry, place)
  let page : LocalRequest → Nat → Nat := fun request place =>
    request.chunkStart chunk (place / (chunk / blockSize)) / blockSize + place % (chunk / blockSize)
  have isIndices : indices = places.map fun entry =>
      ((entry.1.2 : Int), min (page entry.1.1 entry.2 : Int) ((batch.width : Int) - 1)) := by
    show List.zip _ _ = _
    rw [batchIndices_eq batch positive, blockIndices_eq batch positive, List.zip, zipWith_ragged, map_ragged]
  have isRows : (places.map fun entry => tableEntry entry.1.1.blockIds (page entry.1.1 entry.2)) = rows.flatten := by
    have flat := ragged_flatMap batch.requests (fun request => request.numChunks chunk) Prod.mk (chunk / blockSize)
      fun (entry : LocalRequest × Nat) page =>
        tableEntry entry.1.blockIds (entry.1.chunkStart chunk entry.2 / blockSize + page)
    rw [map_ragged, ← ragged_zipIdx batch.requests (fun request => request.numChunks chunk * (chunk / blockSize))
      fun request place => tableEntry request.blockIds (page request place), ← flat, flatMap_def, map_ragged]
    rfl
  have entries : indices.mapM (fun index => do
        let row ← pyIndex batch.inputs.blockTableTensor.rows index.1
        pyIndex row index.2) = .ok rows.flatten := by
    rw [isIndices, mapM_map, ← isRows]
    apply mapM_ok
    intro entry member
    obtain ⟨⟨request, row⟩, isEntry, place, -, rfl⟩ := (mem_ragged _ _).mp member
    have isRequest : batch.requests[row]? = some request := mem_zipIdx_iff_getElem?.mp isEntry
    have isRow : batch.inputs.blockTableTensor.rows[row]? = some request.blockIds := by
      rw [inputs, getElem?_map, isRequest, Option.map_some]
    show (pyIndex _ (row : Int) >>= fun row => _) = _
    rw [pyIndex_natCast isRow]
    exact pyIndex_clipped (batch.sameWidth request (mem_of_getElem? isRequest)) batch.width_pos _
  have isWidth : ∀ row ∈ rows, row.length = chunk / blockSize := by
    intro row member
    obtain ⟨request, -, index, -, rfl⟩ := (mem_ragged _ _).mp member
    rw [chunkBlocks, length_map, length_range]
  have isLength : rows.length = (batch.inputs.virtualBatches chunk).toNat := by
    rw [virtualBatches_eq batch positive, Int.toNat_natCast, length_ragged]
  have someRow : rows ≠ [] := by
    obtain ⟨request, member⟩ := exists_mem_of_ne_nil _ batch.someRequest
    exact ne_nil_of_mem ((mem_ragged _ _).mpr ⟨request, member, 0, request.numChunks_pos positive, rfl⟩)
  rw [makeBlockTable, entries, ← isLength]
  exact congrArg Except.ok (viewRows_flatten someRow isWidth)

end LocalBatch

/-! ## What a query sees -/

namespace VirtualBatches

variable (virtual : VirtualBatches) (blockSize : Nat)

def queryLens : List Int := List.zipWith (· - ·) virtual.queryStartLoc.tail virtual.queryStartLoc.dropLast

def Sees (row place key : Nat) : Prop :=
  ∃ queryLen seqLen, virtual.queryLens[row]? = some queryLen ∧ virtual.seqLens[row]? = some seqLen ∧
    (key : Int) ≤ seqLen - queryLen + place

def cell (row key : Nat) : Option (Int × Nat) :=
  ((virtual.blockTableTensor[row]?).bind (·[key / blockSize]?)).map (·, key % blockSize)

end VirtualBatches

def LocalRequest.cell (request : LocalRequest) (blockSize position : Nat) : Option (Int × Nat) :=
  (request.blockIds[position / blockSize]?).map (·, position % blockSize)

structure LocalBatch.Chunked (batch : LocalBatch) (chunk blockSize : Nat) (virtual : VirtualBatches) : Prop where
  inOrder : ∃ groups : List (List Int), groups.flatten = virtual.queryLens ∧
    groups.map List.sum = batch.requests.map fun request => (request.queryLen : Int)
  sees : ∀ (index : Nat) (request : LocalRequest) (rowStart : Int), batch.requests[index]? = some request →
    batch.inputs.queryStartLocCpu[index]? = some rowStart → ∀ query < request.queryLen,
      ∃ (row place : Nat) (virtualStart virtualLen : Int), virtual.queryStartLoc[row]? = some virtualStart ∧
        virtual.queryLens[row]? = some virtualLen ∧ place < virtualLen ∧ rowStart + query = virtualStart + place ∧
        (∀ key, virtual.Sees row place key ↔ key ≤ (request.start + query) % chunk) ∧
        ∀ key ≤ (request.start + query) % chunk, ∀ cell,
          request.cell blockSize (request.start + query - (request.start + query) % chunk + key) = some cell →
            virtual.cell blockSize row key = some cell

section

variable (batch : LocalBatch) {chunk blockSize : Nat}

def LocalBatch.virtual (chunk blockSize : Nat) : VirtualBatches where
  queryStartLoc := batch.inputs.cuSeqlensQLocal chunk
  seqLens := batch.inputs.seqlensKLocal chunk
  numReqs := (batch.inputs.seqlensKLocal chunk).length
  numActualTokens := batch.numActualTokens
  maxQueryLen := ((batch.inputs.seqlensQLocal chunk).max?).getD 0
  maxSeqLen := ((batch.inputs.seqlensKLocal chunk).max?).getD 0
  blockTableTensor := ragged batch.requests (fun request => request.numChunks chunk) (chunkBlocks chunk blockSize)
  slotMapping := batch.slotMapping
  numComputedTokensCpu := batch.inputs.numComputedTokensLocal chunk

theorem LocalRequest.cell_chunkBlocks (request : LocalRequest) (divides : blockSize ∣ chunk) {index key : Nat}
    (inChunk : key < chunk) {cell : Int × Nat}
    (isCell : request.cell blockSize (request.chunkStart chunk index + key) = some cell) :
    ((LocalBatch.chunkBlocks chunk blockSize request index)[key / blockSize]?).map (·, key % blockSize) =
      some cell := by
  have aligned : blockSize ∣ request.chunkStart chunk index := divides.mul_left _
  have inPages : key / blockSize < chunk / blockSize := Nat.div_lt_div_of_lt_of_dvd divides inChunk
  obtain ⟨block, isBlock, rfl⟩ := Option.map_eq_some_iff.mp isCell
  rw [Nat.add_div_of_dvd_right aligned] at isBlock
  have inRow := (List.getElem?_eq_some_iff.mp isBlock).1
  have notClipped : min (request.chunkStart chunk index / blockSize + key / blockSize)
      (request.blockIds.length - 1) = request.chunkStart chunk index / blockSize + key / blockSize := by
    omega
  have isOffset : (request.chunkStart chunk index + key) % blockSize = key % blockSize := by
    rw [Nat.add_mod, Nat.mod_eq_zero_of_dvd aligned, Nat.zero_add, Nat.mod_mod]
  rw [LocalBatch.chunkBlocks, getElem?_map, getElem?_range inPages, Option.map_some, Option.map_some,
    tableEntry, notClipped, isBlock, Option.getD_some, isOffset]

variable (positive : 0 < chunk)

include positive

theorem makeLocalAttentionVirtualBatches_ok (blockPositive : 0 < blockSize) (divides : blockSize ∣ chunk) :
    batch.inputs.makeLocalAttentionVirtualBatches chunk blockSize =
      .ok (batch.virtual chunk blockSize, batch.inputs.makeBlockTable chunk blockSize) := by
  have someBlock : (batch.requests.map fun request => (request.numChunks chunk : Int)) ≠ [] := by
    simpa using batch.someRequest
  have isLast := getLast?_npCumsumFrom someBlock 0
  have noRest : decide (chunk % blockSize = 0) = true := decide_eq_true (Nat.mod_eq_zero_of_dvd divides)
  rw [LocalAttentionInputs.makeLocalAttentionVirtualBatches, batch.makeBlockTable_eq positive,
    LocalAttentionInputs.cuNumBlocks, batch.localBlocks_eq positive, npCumsum, isLast, noRest, pyAssert_true,
    if_neg blockPositive.ne']
  rfl

theorem LocalBatch.queryLens_virtual : (batch.virtual chunk blockSize).queryLens =
    ragged batch.requests (fun request => request.numChunks chunk) fun request index =>
      (request.chunkQueries chunk index : Int) := by
  rw [VirtualBatches.queryLens, virtual, LocalAttentionInputs.cuSeqlensQLocal, tail_cons, npCumsum,
    diff_npCumsumFrom, batch.seqlensQLocal_eq positive]

theorem LocalBatch.sum_queries (requests : List LocalRequest) :
    (ragged requests (fun request => request.numChunks chunk) fun request index =>
      (request.chunkQueries chunk index : Int)).sum = (requests.map fun request => (request.queryLen : Int)).sum := by
  rw [sum_ragged]
  congr 1
  apply map_congr_left
  intro request _
  rw [sum_natCast, request.sum_chunkQueries_all positive]

theorem LocalBatch.queryStartLoc_virtual (before behind : List LocalRequest) (request : LocalRequest)
    (isSplit : batch.requests = before ++ request :: behind) {index : Nat} (isChunk : index < request.numChunks chunk) :
    (batch.virtual chunk blockSize).queryStartLoc[(before.map fun request => request.numChunks chunk).sum + index]? =
      some ((before.map fun request => (request.queryLen : Int)).sum +
        (((List.range index).map (request.chunkQueries chunk)).sum : Nat)) := by
  rw [virtual, LocalAttentionInputs.cuSeqlensQLocal, batch.seqlensQLocal_eq positive, isSplit,
    getElem?_zero_cons_npCumsum, take_ragged (fun request : LocalRequest => request.numChunks chunk) _ _ _ _
    isChunk.le, sum_append, sum_queries positive, ← sum_natCast (List.range index)]
  rw [length_ragged, map_append, sum_append, map_cons, sum_cons]
  omega

/-- `make_local_attention_virtual_batches` is causal attention within chunks. -/
theorem makeLocalAttentionVirtualBatches_chunked (blockPositive : 0 < blockSize) (divides : blockSize ∣ chunk) :
    ∃ virtual makeBlockTable,
      batch.inputs.makeLocalAttentionVirtualBatches chunk blockSize = .ok (virtual, makeBlockTable) ∧
        batch.Chunked chunk blockSize virtual := by
  refine ⟨batch.virtual chunk blockSize, _, makeLocalAttentionVirtualBatches_ok batch positive blockPositive divides,
    ⟨batch.requests.map fun request =>
      (List.range (request.numChunks chunk)).map fun index => (request.chunkQueries chunk index : Int), ?_, ?_⟩, ?_⟩
  · rw [batch.queryLens_virtual positive, ragged, flatMap_def]
  · rw [map_map]
    apply map_congr_left
    intro request _
    rw [Function.comp_apply, sum_natCast, request.sum_chunkQueries_all positive]
  · intro number request rowStart isRequest isRow query isQuery
    obtain ⟨index, isChunk, isRest, begins, ends⟩ := request.place_of_query positive isQuery
    obtain ⟨inBatch, isGiven⟩ := List.getElem?_eq_some_iff.mp isRequest
    have isSplit : batch.requests = batch.requests.take number ++ request :: batch.requests.drop (number + 1) := by
      rw [← isGiven, getElem_cons_drop, take_append_drop]
    have isRowStart : rowStart = ((batch.requests.take number).map fun request => (request.queryLen : Int)).sum := by
      have inRange : number ≤ (batch.requests.map fun request => (request.queryLen : Int)).length := by
        rw [length_map]
        exact inBatch.le
      have isSum := getElem?_zero_cons_npCumsum inRange
      rw [map_take]
      exact Option.some.inj (isRow.symm.trans isSum)
    have isStart := @LocalBatch.queryStartLoc_virtual batch _ blockSize positive _ _ request isSplit _ isChunk
    generalize isNumber : ((batch.requests.take number).map fun request => request.numChunks chunk).sum + index = row
      at isStart
    have atRow : ∀ {α : Type} (value : LocalRequest → Nat → α),
        (ragged batch.requests (fun request => request.numChunks chunk) value)[row]? = some (value request index) := by
      intro α value
      rw [isSplit, ← isNumber]
      exact getElem?_ragged _ _ _ _ _ isChunk
    have isLen : (batch.virtual chunk blockSize).queryLens[row]? = some (request.chunkQueries chunk index : Int) := by
      rw [batch.queryLens_virtual positive, atRow]
    have isKeys : (batch.virtual chunk blockSize).seqLens[row]? = some (request.chunkKeys chunk index : Int) := by
      rw [LocalBatch.virtual, batch.seqlensKLocal_eq positive, atRow]
    have before := request.sum_chunkQueries positive isChunk.le
    have chunkBegins := request.chunkStart_lt positive isChunk
    have inChunk := Nat.mod_lt (request.start + query) positive
    have isQueries : request.chunkQueries chunk index =
        request.chunkEnd chunk index - max (request.chunkStart chunk index) request.start := rfl
    have areKeys : request.chunkKeys chunk index =
        request.chunkEnd chunk index - request.chunkStart chunk index := rfl
    refine ⟨row, request.start + query - max (request.chunkStart chunk index) request.start, _, _, isStart, isLen,
      ?_, ?_, fun key => ⟨?_, fun visible => ⟨_, _, isLen, isKeys, ?_⟩⟩, ?_⟩
    · omega
    · omega
    · rintro ⟨queryLen, seqLen, sameLen, sameKeys, visible⟩
      rw [isLen] at sameLen
      rw [isKeys] at sameKeys
      cases sameLen
      cases sameKeys
      omega
    · omega
    · intro key visible cell isCell
      have isPosition : request.start + query - (request.start + query) % chunk + key =
          request.chunkStart chunk index + key := by
        omega
      rw [isPosition] at isCell
      rw [VirtualBatches.cell, LocalBatch.virtual, atRow, Option.bind_some]
      exact request.cell_chunkBlocks divides (visible.trans_lt inChunk) isCell

end

/-- The example of the source: queries of lengths 4, 10 and 5 after 2, 7 and 4 tokens, chunks of
4 and blocks of 2. -/
private def threeRequests : LocalBatch where
  requests :=
    [⟨4, 6, [0, 1, 2, 3, 4, 5, 6, 7, 8, 9], Nat.succ_pos _, Nat.le_add_left 4 2⟩,
     ⟨10, 17, [10, 11, 12, 13, 14, 15, 16, 17, 18, 19], Nat.succ_pos _, Nat.le_add_left 10 7⟩,
     ⟨5, 9, [20, 21, 22, 23, 24, 25, 26, 27, 28, 29], Nat.succ_pos _, Nat.le_add_left 5 4⟩]
  width := 10
  numActualTokens := 19
  slotMapping := []
  someRequest := cons_ne_nil _ _
  sameWidth := by simp
  width_pos := Nat.succ_pos _

theorem threeRequests_chunked : ∃ virtual makeBlockTable,
    threeRequests.inputs.makeLocalAttentionVirtualBatches 4 2 = .ok (virtual, makeBlockTable) ∧
      threeRequests.Chunked 4 2 virtual :=
  makeLocalAttentionVirtualBatches_chunked threeRequests (Nat.succ_pos _) (Nat.succ_pos _) ⟨2, rfl⟩

example : (threeRequests.inputs.makeLocalAttentionVirtualBatches 4 2).map (fun result =>
    (result.1.queryStartLoc, result.1.seqLens, result.1.blockTableTensor)) =
      .ok ([0, 2, 4, 5, 9, 13, 14, 18, 19], [4, 2, 4, 4, 4, 1, 4, 1],
        [[0, 1], [2, 3], [12, 13], [14, 15], [16, 17], [18, 19], [22, 23], [24, 25]]) := by
  rfl

end DeepSpark
