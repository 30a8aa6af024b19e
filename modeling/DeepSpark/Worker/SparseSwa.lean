import DeepSpark.Lib.Compaction
import DeepSpark.Worker.ContextParallel
import DeepSpark.Worker.InputBatch

/-!
`DeepseekSparseSWAMetadataBuilder` of `v1/attention/backends/mla/sparse_swa.py`.

Owns the split of a batch into decodes and prefills, the metadata of a sliding window group with the
kernels that turn the window of a token into slots, and that the slots read for a window are those
that were written for its positions.
-/

namespace DeepSpark

open Lib List

structure CommonAttentionMetadata where
  queryStartLoc : Nat → Nat
  seqLens : Buffer Nat Nat
  numReqs : Nat
  numActualTokens : Nat
  maxQueryLen : Nat
  blockTable : Buffer Nat Nat
  blockTableStride : Nat
  slotMapping : Buffer Nat Int
  numSlots : Nat

structure DecodePrefillSplit where
  numDecodes : Nat
  numPrefills : Nat
  numDecodeTokens : Nat
  numPrefillTokens : Nat
deriving DecidableEq, Repr

namespace CommonAttentionMetadata

variable (metadata : CommonAttentionMetadata)

def queryLens : List Nat :=
  (List.range metadata.numReqs).map fun r => metadata.queryStartLoc (r + 1) - metadata.queryStartLoc r

def reqIdPerToken : List Nat :=
  (List.range metadata.numReqs).flatMap fun r =>
    List.replicate (metadata.queryStartLoc (r + 1) - metadata.queryStartLoc r) r

/-- `split_decodes_and_prefills`, of a batch ordered by the lengths of its queries. -/
def splitDecodesAndPrefills (decodeThreshold : Nat) : DecodePrefillSplit :=
  if metadata.maxQueryLen ≤ decodeThreshold then ⟨metadata.numReqs, 0, metadata.numActualTokens, 0⟩
  else if metadata.queryLens.headD 0 > decodeThreshold then ⟨0, metadata.numReqs, 0, metadata.numActualTokens⟩
  else
    match metadata.queryLens.findIdx? (· > decodeThreshold) with
    | none => ⟨metadata.numReqs, 0, metadata.numActualTokens, 0⟩
    | some firstPrefill =>
      let numDecodeTokens := metadata.queryStartLoc firstPrefill
      ⟨firstPrefill, metadata.numReqs - firstPrefill, numDecodeTokens, metadata.numActualTokens - numDecodeTokens⟩

end CommonAttentionMetadata

structure SwaMetadataBuilder where
  windowSize : Nat
  blockSize : Nat
  numSpeculativeTokens : Nat
  dcpWorldSize : Nat
  dcpRank : Nat
  cpKvCacheInterleaveSize : Nat

structure SwaBuffers where
  tokenToReqIndices : Buffer Nat Nat
  isValidToken : Buffer Nat Bool
  decodeSwaIndices : Buffer Nat Int
  decodeSwaLens : Buffer Nat Nat

namespace SwaMetadataBuilder

variable (builder : SwaMetadataBuilder) (metadata : CommonAttentionMetadata)

/-- `reorder_batch_threshold` and the tokens that are verified with it. -/
def decodeThreshold : Nat := 1 + builder.numSpeculativeTokens

def split : DecodePrefillSplit := metadata.splitDecodesAndPrefills builder.decodeThreshold

/-- A batch of decodes is taken to have one token for each request. -/
def oneTokenEach : Bool :=
  (builder.split metadata).numPrefillTokens = 0 && (builder.split metadata).numDecodeTokens = metadata.numReqs

def tokenToReqIndices (before : SwaBuffers) : Buffer Nat Nat := fun token =>
  if builder.oneTokenEach metadata then token
  else (metadata.reqIdPerToken[token]?).getD (before.tokenToReqIndices token)

/-- `token_to_req_indices.shape[0]`. -/
def numQueryTokens : Nat :=
  if builder.oneTokenEach metadata then (builder.split metadata).numDecodeTokens
  else metadata.reqIdPerToken.length

/-- `is_valid_token`: a rank of several owns no slot for most tokens it has to read for. -/
def isValidToken (before : SwaBuffers) : Buffer Nat Bool := fun token =>
  if token < metadata.numSlots then
    if builder.dcpWorldSize > 1 then decide (token < builder.numQueryTokens metadata)
    else decide (0 ≤ metadata.slotMapping token)
  else before.isValidToken token

/-- The window of a token: its request, and the positions from the first to before the last. -/
structure Window where
  reqIdx : Nat
  startPos : Nat
  endPos : Nat

def window (before : SwaBuffers) (token : Nat) : Window :=
  let reqIdx := builder.tokenToReqIndices metadata before token
  let queryStart := metadata.queryStartLoc reqIdx
  let queryLen := metadata.queryStartLoc (reqIdx + 1) - queryStart
  let prefixLen := metadata.seqLens reqIdx - queryLen
  let pos := prefixLen + token - queryStart
  ⟨reqIdx, pos + 1 - builder.windowSize, pos + 1⟩

/-- `_compute_swa_indices_and_lens_kernel`: its stores to a row of `swa_indices`. -/
def swaIndexStores (before : SwaBuffers) (token : Nat) : List (Store Nat Int) :=
  if builder.isValidToken metadata before token then
    let window := builder.window metadata before token
    let swaLen := window.endPos - window.startPos
    (blockLoop 0 builder.windowSize 1024).map fun offset =>
      let position := window.startPos + offset
      let blockNumber := metadata.blockTable (window.reqIdx * metadata.blockTableStride + position / builder.blockSize)
      let slotId := blockNumber * builder.blockSize + position % builder.blockSize
      ⟨token * builder.windowSize + offset, if offset < swaLen then (slotId : Int) else -1⟩
  else []

def swaLenStores (before : SwaBuffers) (token : Nat) : List (Store Nat Nat) :=
  let window := builder.window metadata before token
  [⟨token, if builder.isValidToken metadata before token then window.endPos - window.startPos else 0⟩]

def dcpSlot (reqIdx position : Nat) : Bool × Int :=
  let virtualBlockSize := builder.blockSize * builder.dcpWorldSize
  let blockIndex := position / virtualBlockSize
  let blockNumber := metadata.blockTable (reqIdx * metadata.blockTableStride + blockIndex)
  let virtualBlockOffset := position - blockIndex * virtualBlockSize
  let isLocal := virtualBlockOffset / builder.cpKvCacheInterleaveSize % builder.dcpWorldSize = builder.dcpRank
  let localBlockOffset :=
    virtualBlockOffset / (builder.dcpWorldSize * builder.cpKvCacheInterleaveSize) * builder.cpKvCacheInterleaveSize +
      virtualBlockOffset % builder.cpKvCacheInterleaveSize
  (isLocal, ((blockNumber * builder.blockSize + localBlockOffset : Nat) : Int))

/-- `_compute_dcp_swa_indices_and_lens_kernel`: its stores to a row of `swa_indices`, and the length. -/
def dcpSwaRow (before : SwaBuffers) (token : Nat) : List (Store Nat Int) × Nat :=
  let window := builder.window metadata before token
  compactLoop (-1)
    (fun offset => decide (window.startPos + offset < window.endPos) &&
      (builder.dcpSlot metadata window.reqIdx (window.startPos + offset)).1)
    (fun offset => (builder.dcpSlot metadata window.reqIdx (window.startPos + offset)).2)
    (token * builder.windowSize) builder.windowSize 1024
    (List.range' 0 (cdiv builder.windowSize 1024) 1024) 0

def dcpSwaIndexStores (before : SwaBuffers) (token : Nat) : List (Store Nat Int) :=
  if builder.isValidToken metadata before token then (builder.dcpSwaRow metadata before token).1 else []

def dcpSwaLenStores (before : SwaBuffers) (token : Nat) : List (Store Nat Nat) :=
  [⟨token, if builder.isValidToken metadata before token then (builder.dcpSwaRow metadata before token).2 else 0⟩]

/-- `build`: the launch over the tokens of the batch. -/
structure Built (before after : SwaBuffers) : Prop where
  decodeSwaIndices : LaunchedInOrder (List.range metadata.numActualTokens)
    (if builder.dcpWorldSize > 1 then builder.dcpSwaIndexStores metadata before
      else builder.swaIndexStores metadata before) before.decodeSwaIndices after.decodeSwaIndices
  decodeSwaLens : Launched (List.range metadata.numActualTokens)
    (if builder.dcpWorldSize > 1 then builder.dcpSwaLenStores metadata before
      else builder.swaLenStores metadata before) before.decodeSwaLens after.decodeSwaLens

end SwaMetadataBuilder

open SwaMetadataBuilder

/-- `DeepseekSparseSWAMetadata`: the split, and the slots and lengths by row of each part. -/
structure SwaMetadata where
  split : DecodePrefillSplit
  decodeSwaIndices : Nat → Nat → Int
  decodeSwaLens : Nat → Nat
  prefillSwaIndices : Nat → Nat → Int
  prefillSwaLens : Nat → Nat

/-- The metadata `build` returns, views of its buffers. -/
def SwaMetadataBuilder.metadata (builder : SwaMetadataBuilder) (common : CommonAttentionMetadata)
    (buffers : SwaBuffers) : SwaMetadata where
  split := builder.split common
  decodeSwaIndices row column := buffers.decodeSwaIndices (row * builder.windowSize + column)
  decodeSwaLens := buffers.decodeSwaLens
  prefillSwaIndices row column :=
    buffers.decodeSwaIndices (((builder.split common).numDecodeTokens + row) * builder.windowSize + column)
  prefillSwaLens row := buffers.decodeSwaLens ((builder.split common).numDecodeTokens + row)

def SwaMetadata.tokenRow (metadata : SwaMetadata) (token : Nat) : (Nat → Int) × Nat :=
  if token < metadata.split.numDecodeTokens then (metadata.decodeSwaIndices token, metadata.decodeSwaLens token)
  else (metadata.prefillSwaIndices (token - metadata.split.numDecodeTokens),
    metadata.prefillSwaLens (token - metadata.split.numDecodeTokens))

/-! ## The batch of the runner -/

structure BatchPadding where
  numReqs : Nat
  numTokens : Nat
  isFull : Bool

/-- A padded batch has room for the batch; a full graph takes decodes of one length only. -/
structure BatchPadding.Covers (padding : BatchPadding) (layout : BatchLayout) : Prop where
  numReqs : layout.numReqs ≤ padding.numReqs
  numTokens : layout.queryStartLoc layout.numReqs ≤ padding.numTokens
  isUniform : padding.isFull = true → ∃ queryLen, (∀ row < layout.numReqs, layout.queryLen row = queryLen) ∧
    padding.numTokens = queryLen * padding.numReqs

/-- The metadata `prepare_attn` hands to the builder of a group. -/
def BatchLayout.commonAttentionMetadata (layout : BatchLayout) (padding : BatchPadding) (seqLens blockTable : Buffer Nat Nat)
    (blockTableStride : Nat) (slotMapping : Buffer Nat Int) : CommonAttentionMetadata where
  queryStartLoc r := layout.queryStartLoc (min r layout.numReqs)
  seqLens := seqLens
  numReqs := if padding.isFull then padding.numReqs else layout.numReqs
  numActualTokens := if padding.isFull then padding.numTokens else layout.queryStartLoc layout.numReqs
  maxQueryLen := (List.range layout.numReqs).foldr (fun row longest => max (layout.queryLen row) longest) 0
  blockTable := blockTable
  blockTableStride := blockTableStride
  slotMapping := slotMapping
  numSlots := padding.numTokens

/-- The context parallel size `initialize_kv_cache` gives a group, by the `dcp_replicated` of its
specification; a sliding window MLA specification has none. -/
def groupCpSize (dcpReplicated : Option Bool) (dcpSize : Nat) : Nat :=
  if dcpReplicated.getD false then 1 else dcpSize

def SwaMetadataBuilder.init (config : TablesConfig) (i windowSize numSpeculativeTokens : Nat) : SwaMetadataBuilder where
  windowSize := windowSize
  blockSize := (config.group i).blockSize
  numSpeculativeTokens := numSpeculativeTokens
  dcpWorldSize := config.cpSize
  dcpRank := if config.cpSize > 1 then config.cpRank else 0
  cpKvCacheInterleaveSize := config.cpInterleave

/-! ## The requests of the tokens -/

section Tokens

variable {starts : Nat → Nat}

theorem length_repeat (mono : Monotone starts) (zero : starts 0 = 0) (n : Nat) :
    ((List.range n).flatMap fun r => List.replicate (starts (r + 1) - starts r) r).length = starts n := by
  induction n with
  | zero => exact zero.symm
  | succ n ih =>
    have step := mono (Nat.le_add_right n 1)
    rw [range_succ, flatMap_append, length_append, ih]
    simp only [flatMap_cons, flatMap_nil, append_nil, length_replicate]
    omega

/-- `np.repeat` gives each index the range of its repetitions. -/
theorem getElem?_repeat (mono : Monotone starts) (zero : starts 0 = 0) {n r token : Nat} (inside : r < n)
    (above : starts r ≤ token) (below : token < starts (r + 1)) :
    ((List.range n).flatMap fun r => List.replicate (starts (r + 1) - starts r) r)[token]? = some r := by
  induction n with
  | zero => cases inside
  | succ n ih =>
    rw [range_succ, flatMap_append]
    by_cases isLast : r = n
    · subst isLast
      rw [getElem?_append_right (by rw [length_repeat mono zero]; exact above), length_repeat mono zero]
      simp only [flatMap_cons, flatMap_nil, append_nil]
      rw [getElem?_replicate, if_pos (by omega)]
    · have inFront : r < n := by omega
      have reaches : starts (r + 1) ≤ starts n := mono (by omega)
      rw [getElem?_append_left (by rw [length_repeat mono zero]; omega)]
      exact ih inFront

end Tokens

section Batch

variable {layout : BatchLayout} {padding : BatchPadding} {seqLens blockTable : Buffer Nat Nat} {stride : Nat}
  {slotMapping : Buffer Nat Int} {builder : SwaMetadataBuilder} {row : Nat}

section

variable (wellFormed : layout.WellFormed)

include wellFormed

theorem starts_monotone :
    Monotone fun r => layout.queryStartLoc (min r layout.numReqs) := fun first second ordered =>
  wellFormed.tokens.le (by omega) (min_le_right second layout.numReqs)

theorem split_covers (covers : padding.Covers layout) :
    (builder.split (layout.commonAttentionMetadata padding seqLens blockTable stride slotMapping)).numDecodeTokens +
      (builder.split (layout.commonAttentionMetadata padding seqLens blockTable stride slotMapping)).numPrefillTokens =
    (layout.commonAttentionMetadata padding seqLens blockTable stride slotMapping).numActualTokens := by
  rw [split, CommonAttentionMetadata.splitDecodesAndPrefills]
  split
  next => exact Nat.add_zero _
  next =>
    split
    next => exact Nat.zero_add _
    next =>
      split
      next => exact Nat.add_zero _
      next first _ =>
        refine Nat.add_sub_cancel' ?_
        have inBatch := wellFormed.tokens.le (min_le_right first layout.numReqs) le_rfl
        refine inBatch.trans ?_
        show layout.queryStartLoc layout.numReqs ≤
          if padding.isFull then padding.numTokens else layout.queryStartLoc layout.numReqs
        split
        next => exact covers.numTokens
        next => exact le_rfl

theorem queryStartLoc_grows {first second : Nat} (ordered : first ≤ second)
    (inBatch : second ≤ layout.numReqs) :
    layout.queryStartLoc first + (second - first) ≤ layout.queryStartLoc second := by
  induction second with
  | zero => rw [Nat.le_zero.mp ordered]; exact le_rfl
  | succ second ih =>
    by_cases isLast : first = second + 1
    · rw [isLast, Nat.sub_self]
      exact le_rfl
    · have before := ih (by omega) (by omega)
      have hasToken := wellFormed.sampled second (by omega)
      rw [wellFormed.queryEnd (by omega)]
      omega

section

variable (starts : layout.queryStartLoc 0 = 0) (covers : padding.Covers layout)

include starts covers

theorem queryStartLoc_of_oneTokenEach
    (one : builder.oneTokenEach (layout.commonAttentionMetadata padding seqLens blockTable stride slotMapping) = true)
    {r : Nat} (inBatch : r ≤ layout.numReqs) : layout.queryStartLoc r = r := by
  have parts : (builder.split
      (layout.commonAttentionMetadata padding seqLens blockTable stride slotMapping)).numDecodeTokens + _ = _ :=
    split_covers wellFormed covers
  rw [SwaMetadataBuilder.oneTokenEach, Bool.and_eq_true, decide_eq_true_iff, decide_eq_true_iff] at one
  rw [one.1, one.2] at parts
  have counts : (if padding.isFull then padding.numReqs else layout.numReqs) =
      if padding.isFull then padding.numTokens else layout.queryStartLoc layout.numReqs := parts
  have isOne : ∀ row < layout.numReqs, layout.queryLen row = 1 := by
    intro row inRow
    cases isFull : padding.isFull with
    | true =>
      obtain ⟨queryLen, uniform, isProduct⟩ := covers.isUniform isFull
      have some := covers.numReqs
      rw [isFull, if_pos rfl, if_pos rfl, isProduct] at counts
      rw [uniform row inRow]
      exact Nat.eq_of_mul_eq_mul_right (show 0 < padding.numReqs by omega) (by rw [← counts, Nat.one_mul])
    | false =>
      rw [isFull, if_neg Bool.false_ne_true, if_neg Bool.false_ne_true] at counts
      have before := queryStartLoc_grows wellFormed (Nat.zero_le row) inRow.le
      have after := queryStartLoc_grows wellFormed (show row + 1 ≤ layout.numReqs from inRow) le_rfl
      have hasToken := wellFormed.sampled row inRow
      rw [wellFormed.queryEnd inRow] at after
      omega
  induction r with
  | zero => exact starts
  | succ r ih =>
    rw [wellFormed.queryEnd (by omega), isOne r (by omega), ih (by omega)]

theorem tokenToReqIndices_eq
    (before : SwaBuffers) {token : Nat} (own : layout.ownsToken row token) :
    builder.tokenToReqIndices (layout.commonAttentionMetadata padding seqLens blockTable stride slotMapping) before token =
      row ∧
    token < builder.numQueryTokens (layout.commonAttentionMetadata padding seqLens blockTable stride slotMapping) := by
  obtain ⟨inBatch, above, below⟩ := own
  have monotone := starts_monotone wellFormed
  have atRow : min row layout.numReqs = row := min_eq_left inBatch.le
  have atNext : min (row + 1) layout.numReqs = row + 1 := min_eq_left inBatch
  rw [tokenToReqIndices, numQueryTokens]
  by_cases one : builder.oneTokenEach
      (layout.commonAttentionMetadata padding seqLens blockTable stride slotMapping) = true
  · have isRow := queryStartLoc_of_oneTokenEach wellFormed starts covers one inBatch.le
    have isNext := queryStartLoc_of_oneTokenEach wellFormed starts covers one (show row + 1 ≤ layout.numReqs from inBatch)
    have padded : layout.numReqs ≤
        (layout.commonAttentionMetadata padding seqLens blockTable stride slotMapping).numReqs := by
      show layout.numReqs ≤ if padding.isFull then padding.numReqs else layout.numReqs
      split
      next => exact covers.numReqs
      next => exact le_rfl
    rw [if_pos one, if_pos one]
    rw [SwaMetadataBuilder.oneTokenEach, Bool.and_eq_true, decide_eq_true_iff, decide_eq_true_iff] at one
    rw [one.2]
    omega
  · have found : (layout.commonAttentionMetadata padding seqLens blockTable stride slotMapping).reqIdPerToken[token]? =
        some row := by
      refine getElem?_repeat monotone (by rw [Nat.zero_min]; exact starts) ?_ (by rw [atRow]; exact above)
        (by rw [atNext]; exact below)
      show row < if padding.isFull then padding.numReqs else layout.numReqs
      have padded := covers.numReqs
      split <;> omega
    rw [if_neg one, if_neg one, found]
    exact ⟨rfl, (List.getElem?_eq_some_iff.mp found).1⟩

theorem window_eq
    (before : SwaBuffers) {numComputedTokens offset : Nat} (inBatch : row < layout.numReqs)
    (isSeqLen : seqLens row = numComputedTokens + layout.queryLen row) (inQuery : offset < layout.queryLen row) :
    builder.window (layout.commonAttentionMetadata padding seqLens blockTable stride slotMapping) before
      (layout.queryStartLoc row + offset) =
    ⟨row, numComputedTokens + offset + 1 - builder.windowSize, numComputedTokens + offset + 1⟩ := by
  have own : layout.ownsToken row (layout.queryStartLoc row + offset) := by
    refine ⟨inBatch, Nat.le_add_right _ _, ?_⟩
    rw [wellFormed.queryEnd inBatch]
    omega
  have isRow : builder.tokenToReqIndices (layout.commonAttentionMetadata padding seqLens blockTable stride slotMapping)
      before (layout.queryStartLoc row + offset) = row := (tokenToReqIndices_eq wellFormed starts covers before own).1
  have atRow : min row layout.numReqs = row := min_eq_left inBatch.le
  have atNext : min (row + 1) layout.numReqs = row + 1 := min_eq_left inBatch
  have isPosition : seqLens row - (layout.queryStartLoc (row + 1) - layout.queryStartLoc row) +
      (layout.queryStartLoc row + offset) - layout.queryStartLoc row = numComputedTokens + offset := by
    rw [isSeqLen, ← BatchLayout.queryLen]
    omega
  rw [window, isRow]
  dsimp only [BatchLayout.commonAttentionMetadata]
  rw [atRow, atNext, isPosition]

end

end

end Batch

/-! ## The slots of a window -/

def windowPositions (windowSize endPos : Nat) : List Nat :=
  (List.range (endPos - (endPos - windowSize))).map (endPos - windowSize + ·)

theorem mem_windowPositions {windowSize endPos position : Nat} :
    position ∈ windowPositions windowSize endPos ↔ endPos ≤ position + windowSize ∧ position < endPos := by
  simp only [windowPositions, mem_map, mem_range]
  constructor
  · rintro ⟨offset, inside, rfl⟩
    omega
  · rintro ⟨reaches, below⟩
    exact ⟨position - (endPos - windowSize), by omega, by omega⟩

theorem filter_offsets (windowSize endPos : Nat) (isLocal : Nat → Bool) (slot : Nat → Int) :
    ((List.range windowSize).filter fun offset => decide (endPos - windowSize + offset < endPos) &&
      isLocal (endPos - windowSize + offset)).map (fun offset => slot (endPos - windowSize + offset)) =
    ((windowPositions windowSize endPos).filter isLocal).map slot := by
  obtain ⟨rest, isSum⟩ : ∃ rest, windowSize = (endPos - (endPos - windowSize)) + rest :=
    ⟨windowSize - (endPos - (endPos - windowSize)), by omega⟩
  have outside : ((List.range rest).map (endPos - (endPos - windowSize) + ·)).filter (fun offset =>
      decide (endPos - windowSize + offset < endPos) && isLocal (endPos - windowSize + offset)) = [] := by
    rw [filter_eq_nil_iff]
    intro offset member
    obtain ⟨lane, inRest, rfl⟩ := mem_map.mp member
    rw [Bool.and_eq_true, decide_eq_true_iff]
    omega
  have inside : (List.range (endPos - (endPos - windowSize))).filter (fun offset =>
      decide (endPos - windowSize + offset < endPos) && isLocal (endPos - windowSize + offset)) =
      (List.range (endPos - (endPos - windowSize))).filter (isLocal ∘ (endPos - windowSize + ·)) := by
    apply filter_congr
    intro offset member
    have below := mem_range.mp member
    rw [decide_eq_true (show endPos - windowSize + offset < endPos by omega), Bool.true_and, Function.comp_apply]
  calc _ = ((List.range ((endPos - (endPos - windowSize)) + rest)).filter fun offset =>
          decide (endPos - windowSize + offset < endPos) && isLocal (endPos - windowSize + offset)).map
            (fun offset => slot (endPos - windowSize + offset)) := by rw [← isSum]
    _ = ((List.range (endPos - (endPos - windowSize))).filter (isLocal ∘ (endPos - windowSize + ·))).map
          (fun offset => slot (endPos - windowSize + offset)) := by
        rw [range_add, filter_append, outside, append_nil, inside]
    _ = _ := by
        rw [windowPositions, filter_map, map_map]
        rfl

theorem filter_slots {positions : List Nat} {written : Nat → Int} {isLocal : Nat → Bool} {slot : Nat → Int}
    (isWritten : ∀ position ∈ positions, written position = if isLocal position then slot position else padSlotId)
    (isSlot : ∀ position, slot position ≠ padSlotId) :
    (positions.map written).filter (· ≠ padSlotId) = (positions.filter isLocal).map slot := by
  induction positions with
  | nil => rfl
  | cons position rest ih =>
    have ofRest := ih fun other member => isWritten other (mem_cons_of_mem _ member)
    have ofFirst := isWritten position mem_cons_self
    rw [map_cons]
    cases isHere : isLocal position with
    | true =>
      rw [isHere, if_pos rfl] at ofFirst
      rw [filter_cons_of_pos (by simpa [ofFirst] using isSlot position), filter_cons_of_pos isHere,
        map_cons, ofRest, ofFirst]
    | false =>
      rw [isHere, if_neg Bool.false_ne_true] at ofFirst
      rw [filter_cons_of_neg (by simp [ofFirst]), filter_cons_of_neg (by simp [isHere]), ofRest]

/-- The slots this rank wrote for the window of a position, in the order of the positions. -/
def BlockTables.windowSlots (config : TablesConfig) (tables : BlockTables) (i reqStateIdx windowSize position : Nat) :
    List Int :=
  ((windowPositions windowSize (position + 1)).map (tables.computedSlot config i reqStateIdx)).filter (· ≠ padSlotId)

/-- What a rank reads a batch with: its block tables, and the buffers before and after. -/
structure SwaRun where
  tables : BlockTables
  inputsBefore : InputBuffers
  inputs : InputBuffers
  nextPrefillTokens : Buffer Nat Int
  inputTableBefore : Buffer Nat Nat
  inputTable : Buffer Nat Nat
  slotMappingBefore : Buffer Nat Int
  slotMapping : Buffer Nat Int
  before : SwaBuffers
  after : SwaBuffers

def SwaRun.common (run : SwaRun) (config : TablesConfig) (i : Nat) (layout : BatchLayout) (padding : BatchPadding) :
    CommonAttentionMetadata :=
  layout.commonAttentionMetadata padding run.inputs.seqLens run.inputTable (config.group i).stride run.slotMapping

/-- One batch on one rank, in runner order, for rows whose blocks are allocated. -/
structure SwaRun.Step (config : TablesConfig) (i : Nat) (builder : SwaMetadataBuilder) (layout : BatchLayout)
    (padding : BatchPadding) (states : DeviceStates) (run : SwaRun) : Prop where
  assembled : layout.Assembled states run.inputsBefore run.inputs run.nextPrefillTokens
  gathered : run.tables.Gathered config layout.idxMapping layout.numReqs padding.numReqs i run.inputTableBefore
    run.inputTable
  computed : run.tables.SlotsComputed config layout.idxMapping layout.queryStartLoc run.inputs.positions layout.numReqs i
    run.slotMappingBefore run.slotMapping
  built : builder.Built (run.common config i layout padding) run.before run.after
  fits : ∀ row < layout.numReqs, run.tables.numBlocksGpu i (layout.idxMapping row) ≤ (config.group i).stride
  allocated : ∀ row < layout.numReqs, states.numComputedTokens (layout.idxMapping row) + layout.queryLen row ≤
    run.tables.numBlocksGpu i (layout.idxMapping row) * ((config.group i).kernelBlockSize * (config.group i).groupCpSize)

section Rows

variable {config : TablesConfig} {i windowSize numSpeculativeTokens : Nat} {layout : BatchLayout} {padding : BatchPadding}
  {states : DeviceStates} {run : SwaRun} {row : Nat}

section

variable (step : run.Step config i (.init config i windowSize numSpeculativeTokens) layout padding states)

include step

/-- The input table has the block of each position up to the end of the query. -/
theorem SwaRun.Step.block_eq
    (covers : padding.Covers layout) (inBatch : row < layout.numReqs) {position : Nat}
    (below : position < states.numComputedTokens (layout.idxMapping row) + layout.queryLen row) :
    run.inputTable (row * (config.group i).stride +
      position / ((config.group i).kernelBlockSize * (config.group i).groupCpSize)) =
    (run.tables.blockTables i).gpu (layout.idxMapping row * (config.group i).stride +
      position / ((config.group i).kernelBlockSize * (config.group i).groupCpSize)) :=
  step.gathered.entry covers.numReqs step.fits inBatch
    (Nat.div_lt_of_lt_mul (by
      rw [Nat.mul_comm]
      exact below.trans_le (step.allocated row inBatch)))

/-- The slot the reader computes for a position is the one the writer computed, where the rank has
the position. -/
theorem SwaRun.Step.dcpSlot_eq
    (covers : padding.Covers layout) (notSplit : (config.group i).kernelBlockSize = (config.group i).blockSize)
    (sharded : (config.group i).groupCpSize = config.cpSize) (several : 1 < config.cpSize) (inBatch : row < layout.numReqs)
    {position : Nat} (below : position < states.numComputedTokens (layout.idxMapping row) + layout.queryLen row) :
    run.tables.computedSlot config i (layout.idxMapping row) position =
      if ((init config i windowSize numSpeculativeTokens).dcpSlot (run.common config i layout padding)
          row position).1 then
        ((init config i windowSize numSpeculativeTokens).dcpSlot (run.common config i layout padding)
          row position).2
      else padSlotId := by
  have isBlock := step.block_eq covers inBatch below
  have offset : position - position / ((config.group i).blockSize * config.cpSize) *
      ((config.group i).blockSize * config.cpSize) = position % ((config.group i).blockSize * config.cpSize) := by
    rw [Nat.mul_comm, Nat.mod_eq_sub_mul_div]
  rw [notSplit, sharded] at isBlock
  rw [BlockTables.computedSlot, dcpSlot]
  simp only [decide_eq_true_eq]
  rw [notSplit, sharded, if_neg several.ne', if_neg several.ne']
  refine if_congr ?_ ?_ rfl
  · dsimp only [init]
    rw [offset, if_pos several]
  · dsimp only [init, SwaRun.common, BatchLayout.commonAttentionMetadata]
    rw [isBlock, offset, Nat.mul_comm config.cpSize config.cpInterleave]

section

variable (wellFormed : layout.WellFormed) (starts : layout.queryStartLoc 0 = 0)
  (covers : padding.Covers layout)

include wellFormed starts covers

theorem SwaRun.Step.valid
    (positive : 0 < config.cpSize) {token : Nat} (own : layout.ownsToken row token) :
    (init config i windowSize numSpeculativeTokens).isValidToken (run.common config i layout padding)
      run.before token = true := by
  have inTokens : token < padding.numTokens := by
    have inAll := wellFormed.tokens.le (show row + 1 ≤ layout.numReqs from own.1) le_rfl
    exact own.2.2.trans_le (inAll.trans covers.numTokens)
  rw [isValidToken, if_pos (show token < (run.common config i layout padding).numSlots from inTokens)]
  by_cases several : 1 < config.cpSize
  · rw [if_pos (show (init config i windowSize numSpeculativeTokens).dcpWorldSize > 1 from several),
      decide_eq_true_iff]
    exact (tokenToReqIndices_eq wellFormed starts covers run.before own).2
  · rw [if_neg (show ¬ (init config i windowSize numSpeculativeTokens).dcpWorldSize > 1 from several),
      decide_eq_true_iff]
    have isSlot : run.slotMapping token = _ := step.computed.slot wellFormed.tokens own.1 own.2.1 own.2.2
    show 0 ≤ run.slotMapping token
    rw [isSlot, BlockTables.computedSlot, if_pos (show config.cpSize = 1 by omega)]
    exact Int.natCast_nonneg _

theorem SwaRun.Step.dcp_row
    (notSplit : (config.group i).kernelBlockSize = (config.group i).blockSize)
    (sharded : (config.group i).groupCpSize = config.cpSize) (several : 1 < config.cpSize)
    (inBatch : row < layout.numReqs) {offset : Nat} (inQuery : offset < layout.queryLen row) (before : Buffer Nat Int) :
    let token := layout.queryStartLoc row + offset
    let slots := run.tables.windowSlots config i (layout.idxMapping row) windowSize
      (states.numComputedTokens (layout.idxMapping row) + offset)
    let result := (init config i windowSize numSpeculativeTokens).dcpSwaRow
      (run.common config i layout padding) run.before token
    result.2 = slots.length ∧
      ∀ column < windowSize, before.write result.1 (token * windowSize + column) = (slots[column]?).getD (-1) := by
  intro token slots result
  set builder := init config i windowSize numSpeculativeTokens
  set common := run.common config i layout padding
  have isWindow : builder.window common run.before token = _ :=
    window_eq wellFormed starts covers run.before inBatch (step.assembled.seqLen inBatch) inQuery
  set endPos := states.numComputedTokens (layout.idxMapping row) + offset + 1 with isEnd
  let kept (column : Nat) : Bool := decide (endPos - windowSize + column < endPos) &&
    (builder.dcpSlot common row (endPos - windowSize + column)).1
  let slotAt (column : Nat) : Int := (builder.dcpSlot common row (endPos - windowSize + column)).2
  have isResult : result = compactLoop (-1) kept slotAt (token * windowSize) windowSize 1024
      (List.range' 0 (cdiv windowSize 1024) 1024) 0 := by
    show dcpSwaRow _ common run.before token = _
    rw [dcpSwaRow, isWindow]
    rfl
  have isSlots : slots = ((List.range windowSize).filter kept).map slotAt := by
    rw [filter_offsets windowSize endPos (fun position => (builder.dcpSlot common row position).1)
      (fun position => (builder.dcpSlot common row position).2)]
    refine filter_slots (fun position member => ?_) fun position => natCast_ne_padSlotId _
    exact step.dcpSlot_eq covers notSplit sharded several inBatch (by
      have below := (mem_windowPositions.mp member).2
      omega)
  have covered : windowSize ≤ 0 + cdiv windowSize 1024 * 1024 := by
    rw [cdiv]
    omega
  have empty : min 0 windowSize = 0 := Nat.zero_min windowSize
  rw [isResult, isSlots]
  have found := @compactLoop_spec _ (-1) kept slotAt (token * windowSize) windowSize 1024 (cdiv windowSize 1024) 0 0 before
    covered (by rw [empty]; rfl) (by rw [empty]; intro _ member; cases member)
  refine ⟨?_, fun column inside => ?_⟩
  · rw [found.1, length_map, countP_eq_length_filter]
  · rw [found.2 column inside, compactedRow, getElem?_map]
    cases ((List.range windowSize).filter kept)[column]? <;> rfl

theorem SwaRun.Step.single_row
    (notSplit : (config.group i).kernelBlockSize = (config.group i).blockSize)
    (sharded : (config.group i).groupCpSize = config.cpSize) (single : config.cpSize = 1)
    (inBatch : row < layout.numReqs) {offset : Nat} (inQuery : offset < layout.queryLen row) (before : Buffer Nat Int) :
    let token := layout.queryStartLoc row + offset
    let slots := run.tables.windowSlots config i (layout.idxMapping row) windowSize
      (states.numComputedTokens (layout.idxMapping row) + offset)
    (init config i windowSize numSpeculativeTokens).swaLenStores (run.common config i layout padding)
        run.before token = [⟨token, slots.length⟩] ∧
      ∀ column < windowSize, before.write ((init config i windowSize numSpeculativeTokens).swaIndexStores
        (run.common config i layout padding) run.before token) (token * windowSize + column) =
          (slots[column]?).getD (-1) := by
  intro token slots
  have isWindow : (init config i windowSize numSpeculativeTokens).window
      (run.common config i layout padding) run.before token = _ :=
    window_eq wellFormed starts covers run.before inBatch (step.assembled.seqLen inBatch) inQuery
  have own : layout.ownsToken row token := by
    refine ⟨inBatch, Nat.le_add_right _ _, ?_⟩
    rw [wellFormed.queryEnd inBatch]
    omega
  have isValid := step.valid wellFormed starts covers (by omega) own
  set endPos := states.numComputedTokens (layout.idxMapping row) + offset + 1 with isEnd
  have isSlot : ∀ position < endPos, run.tables.computedSlot config i (layout.idxMapping row) position =
      ((run.inputTable (row * (config.group i).stride + position / (config.group i).blockSize) *
        (config.group i).blockSize + position % (config.group i).blockSize : Nat) : Int) := by
    intro position below
    have isBlock := step.block_eq covers inBatch (show position < _ by omega)
    rw [notSplit, sharded, single, Nat.mul_one] at isBlock
    rw [BlockTables.computedSlot, if_pos single, notSplit, sharded, single, Nat.mul_one, isBlock]
  have isSlots : slots = (List.range (endPos - (endPos - windowSize))).map fun column =>
      run.tables.computedSlot config i (layout.idxMapping row) (endPos - windowSize + column) := by
    show ((windowPositions windowSize endPos).map _).filter _ = _
    rw [windowPositions, map_map, filter_eq_self.mpr]
    · rfl
    · intro slot member
      obtain ⟨column, inside, rfl⟩ := mem_map.mp member
      have below := mem_range.mp inside
      rw [Function.comp_apply, isSlot _ (by omega), decide_eq_true_iff]
      exact natCast_ne_padSlotId _
  constructor
  · rw [swaLenStores, isWindow, isSlots, length_map, length_range, isValid]
    rfl
  · intro column inside
    rw [swaIndexStores, if_pos isValid, isWindow]
    have member : Store.mk (token * windowSize + column) ((slots[column]?).getD (-1)) ∈
        (blockLoop 0 windowSize 1024).map fun offset => Store.mk (token * windowSize + offset)
          (if offset < endPos - (endPos - windowSize) then
            ((run.inputTable (row * (config.group i).stride + (endPos - windowSize + offset) / (config.group i).blockSize) *
              (config.group i).blockSize + (endPos - windowSize + offset) % (config.group i).blockSize : Nat) : Int)
          else -1) := by
      refine mem_map.mpr ⟨column, (mem_blockLoop (by omega)).mpr ⟨Nat.zero_le _, inside⟩, ?_⟩
      rw [isSlots, getElem?_map]
      by_cases below : column < endPos - (endPos - windowSize)
      · rw [if_pos below, getElem?_range below, Option.map_some, Option.getD_some, isSlot _ (by omega)]
      · rw [if_neg below, getElem?_eq_none (by rw [length_range]; omega)]
        rfl
    refine Buffer.write_agreed before member fun other stored same => ?_
    obtain ⟨otherColumn, -, rfl⟩ := mem_map.mp stored
    obtain ⟨found, -, isStore⟩ := mem_map.mp member
    have sameColumn : otherColumn = column := Nat.add_left_cancel same
    have isColumn : found = column := Nat.add_left_cancel (congrArg Store.address isStore)
    have isValue := congrArg Store.value isStore
    rw [isColumn] at isValue
    rw [sameColumn]
    exact isValue

end

end

theorem SwaMetadataBuilder.store_in_row (builder : SwaMetadataBuilder) (common : CommonAttentionMetadata)
    (before : SwaBuffers) (token : Nat) :
    ∀ store ∈ (if builder.dcpWorldSize > 1 then builder.dcpSwaIndexStores common before
      else builder.swaIndexStores common before) token,
      ∃ column < builder.windowSize, store.address = token * builder.windowSize + column := by
  split
  next =>
    rw [dcpSwaIndexStores]
    split
    next =>
      have empty : min 0 builder.windowSize = 0 := Nat.zero_min _
      exact compactLoop_address _ (by rw [empty]; rfl)
    next => nofun
  next =>
    rw [swaIndexStores]
    split
    next =>
      intro store member
      obtain ⟨column, inLoop, rfl⟩ := mem_map.mp member
      exact ⟨column, ((mem_blockLoop (by omega)).mp inLoop).2, rfl⟩
    next => nofun

theorem SwaMetadataBuilder.tokenRow_metadata (builder : SwaMetadataBuilder) (common : CommonAttentionMetadata)
    (buffers : SwaBuffers) (token : Nat) : (builder.metadata common buffers).tokenRow token =
      (fun column => buffers.decodeSwaIndices (token * builder.windowSize + column), buffers.decodeSwaLens token) := by
  rw [SwaMetadata.tokenRow]
  by_cases isDecode : token < (builder.metadata common buffers).split.numDecodeTokens
  · rw [if_pos isDecode]
    rfl
  · have isSum := Nat.add_sub_cancel' (not_lt.mp isDecode)
    have isSum : (builder.split common).numDecodeTokens +
        (token - (builder.metadata common buffers).split.numDecodeTokens) = token := isSum
    rw [if_neg isDecode]
    dsimp only [metadata] at isSum ⊢
    rw [isSum]

/-- A row of the metadata holds the slots of its rank for the window of its token. -/
theorem SwaRun.Step.tokenRow_eq
    (step : run.Step config i (.init config i windowSize numSpeculativeTokens) layout padding states)
    (wellFormed : layout.WellFormed) (starts : layout.queryStartLoc 0 = 0) (covers : padding.Covers layout)
    (positive : 0 < config.cpSize) (notSplit : (config.group i).kernelBlockSize = (config.group i).blockSize)
    (sharded : (config.group i).groupCpSize = config.cpSize) (inBatch : row < layout.numReqs) {offset : Nat}
    (inQuery : offset < layout.queryLen row) :
    let token := layout.queryStartLoc row + offset
    let slots := run.tables.windowSlots config i (layout.idxMapping row) windowSize
      (states.numComputedTokens (layout.idxMapping row) + offset)
    let read := ((init config i windowSize numSpeculativeTokens).metadata
      (run.common config i layout padding) run.after).tokenRow token
    read.2 = slots.length ∧ ∀ column < windowSize, read.1 column = (slots[column]?).getD (-1) := by
  intro token slots read
  set builder := init config i windowSize numSpeculativeTokens with isBuilder
  have own : layout.ownsToken row token := by
    refine ⟨inBatch, Nat.le_add_right _ _, ?_⟩
    rw [wellFormed.queryEnd inBatch]
    omega
  have isValid := step.valid wellFormed starts covers positive own
  have inGrid : token ∈ List.range (run.common config i layout padding).numActualTokens := by
    have inAll := wellFormed.tokens.le (show row + 1 ≤ layout.numReqs from inBatch) le_rfl
    have padded := covers.numTokens
    refine mem_range.mpr (own.2.2.trans_le (inAll.trans ?_))
    show layout.queryStartLoc layout.numReqs ≤
      if padding.isFull then padding.numTokens else layout.queryStartLoc layout.numReqs
    split <;> omega
  have isRead : read = (fun column => run.after.decodeSwaIndices (token * windowSize + column),
      run.after.decodeSwaLens token) := builder.tokenRow_metadata _ _ token
  have rows : ∀ column < windowSize, run.after.decodeSwaIndices (token * windowSize + column) =
      run.before.decodeSwaIndices.write ((if builder.dcpWorldSize > 1 then
        builder.dcpSwaIndexStores (run.common config i layout padding) run.before
        else builder.swaIndexStores (run.common config i layout padding) run.before) token)
        (token * windowSize + column) := by
    intro column inside
    refine step.built.decodeSwaIndices.own inGrid fun other _ store member isAddress => ?_
    obtain ⟨otherColumn, otherInside, isOther⟩ :=
      builder.store_in_row (run.common config i layout padding) run.before other store member
    exact (flat_inj otherInside inside (isOther.symm.trans isAddress)).1
  have lens : ∀ stored, (if builder.dcpWorldSize > 1 then
      builder.dcpSwaLenStores (run.common config i layout padding) run.before
      else builder.swaLenStores (run.common config i layout padding) run.before) token = [⟨token, stored⟩] →
      run.after.decodeSwaLens token = stored := by
    intro stored isStored
    have member : (⟨token, stored⟩ : Store Nat Nat) ∈ (if builder.dcpWorldSize > 1 then
        builder.dcpSwaLenStores (run.common config i layout padding) run.before
        else builder.swaLenStores (run.common config i layout padding) run.before) token := by
      rw [isStored]
      exact mem_singleton_self _
    refine step.built.decodeSwaLens.agreed inGrid member fun other _ store member isAddress => ?_
    have ownAddress : store.address = other := by
      split at member
      all_goals exact congrArg Store.address (mem_singleton.mp member)
    have isToken : other = token := ownAddress.symm.trans isAddress
    rw [isToken, isStored, mem_singleton] at member
    rw [member]
  rw [isRead]
  by_cases several : 1 < config.cpSize
  · have isSeveral : builder.dcpWorldSize > 1 := several
    obtain ⟨isLength, isRow⟩ := step.dcp_row wellFormed starts covers notSplit sharded several inBatch inQuery
      run.before.decodeSwaIndices
    constructor
    · refine lens _ ?_
      rw [if_pos isSeveral, dcpSwaLenStores, isValid, if_pos rfl, isLength]
    · intro column inside
      show run.after.decodeSwaIndices _ = _
      rw [rows column inside, if_pos isSeveral, dcpSwaIndexStores, if_pos isValid]
      exact isRow column inside
  · have isSingle : ¬ builder.dcpWorldSize > 1 := several
    obtain ⟨isLength, isRow⟩ := step.single_row wellFormed starts covers notSplit sharded (by omega) inBatch inQuery
      run.before.decodeSwaIndices
    constructor
    · refine lens _ ?_
      rw [if_neg isSingle]
      exact isLength
    · intro column inside
      show run.after.decodeSwaIndices _ = _
      rw [rows column inside, if_neg isSingle]
      exact isRow column inside

end Rows

theorem SwaRun.exists_step (config : TablesConfig) (i : Nat) (builder : SwaMetadataBuilder) (layout : BatchLayout)
    (padding : BatchPadding) (states : DeviceStates) (tables : BlockTables)
    (fits : ∀ row < layout.numReqs, tables.numBlocksGpu i (layout.idxMapping row) ≤ (config.group i).stride)
    (allocated : ∀ row < layout.numReqs, states.numComputedTokens (layout.idxMapping row) + layout.queryLen row ≤
      tables.numBlocksGpu i (layout.idxMapping row) * ((config.group i).kernelBlockSize * (config.group i).groupCpSize)) :
    ∃ run : SwaRun, run.tables = tables ∧ run.Step config i builder layout padding states := by
  obtain ⟨inputs, nextTokens, assembled⟩ := layout.exists_assembled states ⟨fun _ => 0, fun _ => 0, fun _ => 0, fun _ => 0⟩
  set inputTable := launch (List.range padding.numReqs)
    (tables.gatherStores config layout.idxMapping layout.numReqs i) fun _ => 0 with isTable
  set slotMapping := launch (List.range (layout.numReqs + 1)) (tables.slotMappingStores config layout.idxMapping
    layout.queryStartLoc inputs.positions layout.numReqs i) fun _ => 0 with isSlots
  let before : SwaBuffers := ⟨fun _ => 0, fun _ => false, fun _ => 0, fun _ => 0⟩
  let common := layout.commonAttentionMetadata padding inputs.seqLens inputTable (config.group i).stride slotMapping
  let after : SwaBuffers := {
    before with
    decodeSwaIndices := launch (List.range common.numActualTokens) (if builder.dcpWorldSize > 1 then
      builder.dcpSwaIndexStores common before else builder.swaIndexStores common before) before.decodeSwaIndices
    decodeSwaLens := launch (List.range common.numActualTokens) (if builder.dcpWorldSize > 1 then
      builder.dcpSwaLenStores common before else builder.swaLenStores common before) before.decodeSwaLens }
  exact ⟨⟨tables, _, inputs, nextTokens, _, inputTable, _, slotMapping, before, after⟩, rfl, assembled,
    launched_launch _ _ _, launched_launch _ _ _,
    ⟨launchedInOrder_launch nodup_range _ _, launched_launch _ _ _⟩, fits, allocated⟩

/-- On every rank of a group a row of the metadata holds the slots that were written for the window of
its token, and each position of the window has a slot on one rank. -/
theorem swa_rows_hold_window (config : TablesConfig) (i windowSize numSpeculativeTokens : Nat) (layout : BatchLayout)
    (padding : BatchPadding) (states : DeviceStates) (run : Nat → SwaRun) (positive : 0 < config.cpSize)
    (notSplit : (config.group i).kernelBlockSize = (config.group i).blockSize)
    (sharded : (config.group i).groupCpSize = groupCpSize none config.cpSize) (wellFormed : layout.WellFormed)
    (starts : layout.queryStartLoc 0 = 0) (covers : padding.Covers layout)
    (steps : ∀ rank < config.cpSize, (run rank).Step (config.onRank rank) i
      (.init (config.onRank rank) i windowSize numSpeculativeTokens) layout padding states)
    (row : Nat) (inBatch : row < layout.numReqs) (offset : Nat) (inQuery : offset < layout.queryLen row) :
    let token := layout.queryStartLoc row + offset
    let position := states.numComputedTokens (layout.idxMapping row) + offset
    (∀ rank < config.cpSize,
      let slots := (run rank).tables.windowSlots (config.onRank rank) i (layout.idxMapping row) windowSize position
      let read := ((init (config.onRank rank) i windowSize numSpeculativeTokens).metadata
        ((run rank).common (config.onRank rank) i layout padding) (run rank).after).tokenRow token
      read.2 = slots.length ∧ ∀ column < windowSize, read.1 column = (slots[column]?).getD (-1)) ∧
    ∀ inWindow ∈ windowPositions windowSize (position + 1), ∃! rank, rank < config.cpSize ∧
      (run rank).tables.computedSlot (config.onRank rank) i (layout.idxMapping row) inWindow ≠ padSlotId :=
  ⟨fun rank inGroup => (steps rank inGroup).tokenRow_eq wellFormed starts covers positive notSplit sharded inBatch inQuery,
    fun inWindow _ => existsUnique_rank config positive sharded (fun rank => (run rank).tables) _ inWindow⟩

/-- Two ranks, with blocks of two slots and one request, at position 5 of blocks 7 and 3. -/
def twoRankConfig : TablesConfig where
  numKvCacheGroups := 1
  group _ := ⟨2, 2, 2, 2, Nat.two_pos, Nat.two_pos, Nat.two_pos, by decide⟩
  maxNumReqs := 1
  maxNumBatchedTokens := 2
  cpSize := 2
  cpRank := 0
  cpInterleave := 1
  maxNumReqs_pos := Nat.one_pos

def twoRankTables : BlockTables := ⟨fun _ => ⟨fun address => if address = 0 then 7 else 3, []⟩, fun _ _ => 2, fun _ _ => 2⟩

def twoTokenLayout : BatchLayout := ⟨1, 8, 0, 1, fun _ => 0, fun r => 2 * r, fun r => r⟩

def twoTokenStates : DeviceStates :=
  ⟨fun _ => 0, fun _ => 4, fun _ => 6, fun _ => 4, fun _ => 0, fun _ _ => 0, fun _ => 0⟩

theorem swa_rows_hold_window_at_five : ∃ run : Nat → SwaRun,
    (∀ rank < 2, (run rank).Step (twoRankConfig.onRank rank) 0 (.init (twoRankConfig.onRank rank) 0 3 0) twoTokenLayout
      ⟨1, 2, false⟩ twoTokenStates) ∧
    let read := ((init (twoRankConfig.onRank 1) 0 3 0).metadata
      ((run 1).common (twoRankConfig.onRank 1) 0 twoTokenLayout ⟨1, 2, false⟩) (run 1).after).tokenRow 1
    read.2 = 2 ∧ read.1 0 = 15 ∧ read.1 1 = 6 ∧ read.1 2 = -1 := by
  have exists_run : ∀ rank, ∃ run : SwaRun, run.tables = twoRankTables ∧ run.Step (twoRankConfig.onRank rank) 0
      (.init (twoRankConfig.onRank rank) 0 3 0) twoTokenLayout ⟨1, 2, false⟩
      twoTokenStates := fun rank =>
    SwaRun.exists_step _ 0 _ twoTokenLayout _ _ twoRankTables
      (fun _ _ => show 2 ≤ 2 * (2 / 2) by decide) fun row inBatch => by
        cases Nat.lt_one_iff.mp inBatch
        show 4 + (2 * (0 + 1) - 2 * 0) ≤ 2 * (2 * 2)
        decide
  choose run isTables steps using exists_run
  refine ⟨run, fun rank _ => steps rank, ?_⟩
  have wellFormed : twoTokenLayout.WellFormed := by
    refine ⟨fun row inBatch other inBatchToo _ => ?_, ⟨fun row _ => ?_⟩, ⟨fun row _ => ?_⟩, fun row inBatch => ?_⟩
    · cases Nat.lt_one_iff.mp inBatch
      cases Nat.lt_one_iff.mp inBatchToo
      rfl
    · show 2 * row ≤ 2 * (row + 1)
      omega
    · exact Nat.le_add_right row 1
    · cases Nat.lt_one_iff.mp inBatch
      decide
  have covers : BatchPadding.Covers ⟨1, 2, false⟩ twoTokenLayout := ⟨by decide, by decide, nofun⟩
  have held := (swa_rows_hold_window twoRankConfig 0 3 0 twoTokenLayout ⟨1, 2, false⟩ _ run (by decide) rfl rfl wellFormed
    rfl covers (fun rank _ => steps rank) 0 (by decide) 1 (by decide)).1 1 (by decide)
  rw [isTables] at held
  have slots : twoRankTables.windowSlots (twoRankConfig.onRank 1) 0 (twoTokenLayout.idxMapping 0) 3
      (twoTokenStates.numComputedTokens (twoTokenLayout.idxMapping 0) + 1) = [15, 6] := by
    decide
  rw [slots] at held
  exact ⟨held.1, held.2 0 (by decide), held.2 1 (by decide), held.2 2 (by decide)⟩

end DeepSpark
