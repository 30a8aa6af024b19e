import DeepSpark.Lib.Atomics
import DeepSpark.Lib.PyError
import DeepSpark.Attention.CompressedSlots
import DeepSpark.Worker.SparseSwa

/-!
The page table of the sparse MLA backend: `v1/attention/backends/mla/b12x_mla_sparse.py`.

Owns the metadata of a batch, the kernels that turn the selected tokens of a row into cache slots and
compact them, and that a row is the slots of its valid selected tokens in order, whatever bound of the
lengths the host has.
-/

namespace DeepSpark

open Lib List

/-! ## The metadata -/

structure MlaSparseConfig where
  blockSize : Nat
  topkTokens : Nat
  dcpWorldSize : Nat
  dcpRank : Nat
  cpKvCacheInterleaveSize : Nat
  blockSize_pos : 0 < blockSize
  isRank : dcpRank < dcpWorldSize
  interleave_pos : 0 < cpKvCacheInterleaveSize

/-- What the builder reads of a `CommonAttentionMetadata`. -/
structure MlaSparseBatch where
  numReqs : Nat
  numActualTokens : Nat
  maxQueryLen : Nat
  queryStartLoc : Nat → Nat
  seqLens : Nat → Nat
  dcpLocalSeqLens : Option (Nat → Int)
  seqLensCpuUpperBound : Option (Nat → Nat)
  blockTable : Buffer Nat Nat
  maxNumBlocksPerReq : Nat

structure MlaSparseBuffers where
  reqIdPerToken : Buffer Nat Nat
  cacheSeqLensPerToken : Buffer Nat Int
  cacheSeqLensPerReq : Buffer Nat Int
  pageTable1 : Buffer Nat Int
  nsaCacheSeqlens : Buffer Nat Int

namespace MlaSparseBatch

variable (batch : MlaSparseBatch)

def queryLen (req : Nat) : Nat := batch.queryStartLoc (req + 1) - batch.queryStartLoc req

def seqLensForReq (req : Nat) : Int :=
  match batch.dcpLocalSeqLens with
  | some localSeqLens => localSeqLens req
  | none => batch.seqLens req

/-- `seq_lens_cpu_src`; without an upper bound the device lengths are copied. -/
def seqLensCpuSrc : Nat → Nat := batch.seqLensCpuUpperBound.getD batch.seqLens

def reqIdPerTokenNp : List Nat :=
  (List.range batch.numReqs).flatMap fun req =>
    List.replicate (batch.queryStartLoc (req + 1) - batch.queryStartLoc req) req

end MlaSparseBatch

/-- `buffer[:count].copy_(values)`. -/
def copyFront {α : Type} (buffer : Buffer Nat α) (count : Nat) (values : Nat → α) : Buffer Nat α :=
  fun index => if index < count then values index else buffer index

namespace MlaSparseConfig

variable (config : MlaSparseConfig) (batch : MlaSparseBatch)

def rankLen (seqLen : Nat) : Int :=
  if batch.dcpLocalSeqLens.isSome then
    dcpLocalLen config.dcpWorldSize config.cpKvCacheInterleaveSize seqLen config.dcpRank
  else seqLen

/-- A round of the loop over the requests: `per_token_lens[start:end]`. -/
def lensRound (lens : Nat → Int) (req : Nat) : Nat → Int :=
  let qLen := batch.queryLen req
  if qLen ≤ 0 then lens
  else
    let start := batch.queryStartLoc req
    let contextLen := batch.seqLensCpuSrc req - qLen
    fun token =>
      if start ≤ token ∧ token < batch.queryStartLoc (req + 1) then
        config.rankLen batch (contextLen + 1 + (token - start))
      else lens token

def perTokenLens : Nat → Int := (List.range batch.numReqs).foldl (config.lensRound batch) fun _ => 0

def build (buffers : MlaSparseBuffers) : Except PyError MlaSparseBuffers :=
  if batch.maxQueryLen ≤ 1 ∧ batch.numActualTokens = batch.numReqs then
    .ok { buffers with
      reqIdPerToken := copyFront buffers.reqIdPerToken batch.numActualTokens id
      cacheSeqLensPerToken := copyFront buffers.cacheSeqLensPerToken batch.numActualTokens batch.seqLensForReq
      cacheSeqLensPerReq := copyFront buffers.cacheSeqLensPerReq batch.numReqs batch.seqLensForReq }
  else
    let numQueryTokens := batch.queryStartLoc batch.numReqs
    if numQueryTokens > batch.numActualTokens then
      .error (.runtimeError (s!"B12X sparse MLA metadata received query_start_loc with {numQueryTokens} tokens, " ++
        s!"exceeding padded capacity {batch.numActualTokens}"))
    else
      .ok { buffers with
        reqIdPerToken := copyFront buffers.reqIdPerToken batch.numActualTokens fun token =>
          (batch.reqIdPerTokenNp[token]?).getD 0
        cacheSeqLensPerToken := copyFront buffers.cacheSeqLensPerToken batch.numActualTokens (config.perTokenLens batch)
        cacheSeqLensPerReq := copyFront buffers.cacheSeqLensPerReq batch.numReqs batch.seqLensForReq }

/-! ## The rows -/

/-- `_convert_req_index_to_global_index_kernel`: whether a selected token has a block, and its slot. -/
def convertIndex (req : Nat) (tok : Int) : Bool × Int :=
  let blockId := tok.tdiv config.blockSize
  let inblockOff := tok.tmod config.blockSize
  let validBlock := decide (blockId < batch.maxNumBlocksPerReq) && decide (blockId ≥ 0)
  let isInvalidTok := decide (tok < 0) || !validBlock
  let base := if validBlock then batch.blockTable (req * batch.maxNumBlocksPerReq + blockId.toNat) else 0
  (!isInvalidTok, if isInvalidTok then -1 else base * config.blockSize + inblockOff)

def convertStores (reqIdPerToken : Nat → Nat) (topkIndices : Nat → Nat → Int) (program : Nat × Nat) :
    List (Store Nat Int) :=
  (List.range 128).map fun lane =>
    let indiceId := program.2 * 128 + lane
    ⟨program.1 * config.topkTokens + indiceId,
      (config.convertIndex batch (reqIdPerToken program.1) (topkIndices program.1 indiceId)).2⟩

def countUpdates (reqIdPerToken : Nat → Nat) (topkIndices : Nat → Nat → Int) (program : Nat × Nat) :
    List (Update Nat Int) :=
  [⟨program.1, ((List.range 128).countP fun lane =>
    (config.convertIndex batch (reqIdPerToken program.1) (topkIndices program.1 (program.2 * 128 + lane))).1 : Nat)⟩]

variable (pageTable : Buffer Nat Int) (width row : Nat)

/-- The value of a lane of the compaction, loaded before anything is stored. -/
def laneValue (offs : Nat) : Int := if offs < width then pageTable (row * config.topkTokens + offs) else -1

def laneValid (offs : Nat) : Bool := decide (offs < width) && decide (config.laneValue pageTable width row offs ≥ 0)

def validCount : Nat := (List.range (nextPowerOf2 width)).countP (config.laneValid pageTable width row)

/-- `_compact_page_table_valid_prefix_kernel`: the stores to the row. -/
def compactStores : List (Store Nat Int) :=
  let lanes := List.range (nextPowerOf2 width)
  let isValid := config.laneValid pageTable width row
  ((lanes.zip (cumsum 0 (lanes.map isValid))).filterMap fun (offs, sum) =>
      if isValid offs then
        some (Store.mk (row * config.topkTokens + (sum - 1)) (config.laneValue pageTable width row offs))
      else none) ++
    lanes.filterMap fun offs =>
      if offs < width ∧ offs ≥ config.validCount pageTable width row then
        some (Store.mk (row * config.topkTokens + offs) (-1))
      else none

/-- `_compact_page_table_valid_prefix_kernel`: the store to the length. -/
def compactLenStores : List (Store Nat Int) := [⟨row, (config.validCount pageTable width row : Int)⟩]

def maskStores (nsaLens : Buffer Nat Int) (program : Nat × Nat) : List (Store Nat Int) :=
  (List.range 128).filterMap fun lane =>
    let offs := program.2 * 128 + lane
    if offs < width ∧ (offs : Int) ≥ nsaLens program.1 then some ⟨program.1 * config.topkTokens + offs, -1⟩ else none

end MlaSparseConfig

def LaunchedUnlessEmpty {ι α π : Type} [DecidableEq ι] (numRows width : Nat) (grid : List π)
    (stores : π → List (Store ι α)) (before after : Buffer ι α) : Prop :=
  if width = 0 ∨ numRows = 0 then after = before else Launched grid stores before after

def tileGrid (numRows tiles : Nat) : List (Nat × Nat) :=
  (List.range numRows).flatMap fun row => (List.range tiles).map fun tile => (row, tile)

/-- The page table and the lengths between the kernels of `forward_mqa`. -/
structure PageTableTrace where
  converted : Buffer Nat Int
  counted : Buffer Nat Int
  compacted : Buffer Nat Int
  compactLens : Buffer Nat Int
  nsaLens : Buffer Nat Int
  pageTable : Buffer Nat Int

variable {req column : Nat}

namespace MlaSparseConfig

variable (config : MlaSparseConfig) (batch : MlaSparseBatch)

/-- The assertions of the conversion, for a view of the columns of the page table. -/
def checkConvert (width : Nat) : Except PyError Unit := do
  pyAssert (width % 128 = 0) s!"NUM_TOPK_TOKENS ({width}) must be divisible by BLOCK_N (128)"
  pyAssert (min width config.topkTokens = width) ""

/-- `forward_mqa` up to the kernel, for the rows of its queries. -/
structure RowsPrepared (buffers : MlaSparseBuffers) (numRows width : Nat) (topkIndices : Nat → Nat → Int)
    (trace : PageTableTrace) : Prop where
  accepted : config.checkConvert width = .ok ()
  converted : Launched (tileGrid numRows (width / 128)) (config.convertStores batch buffers.reqIdPerToken topkIndices)
    buffers.pageTable1 trace.converted
  counted : Combined (· + ·) (tileGrid numRows (width / 128))
    (config.countUpdates batch buffers.reqIdPerToken topkIndices)
    (copyFront buffers.nsaCacheSeqlens numRows fun _ => 0) trace.counted
  compacted : LaunchedUnlessEmpty numRows width (List.range numRows) (config.compactStores trace.converted width)
    trace.converted trace.compacted
  compactLens : LaunchedUnlessEmpty numRows width (List.range numRows) (config.compactLenStores trace.converted width)
    trace.counted trace.compactLens
  nsaLens : trace.nsaLens = copyFront trace.compactLens numRows fun row =>
    min (trace.compactLens row) (buffers.cacheSeqLensPerToken row)
  masked : LaunchedUnlessEmpty numRows width (tileGrid numRows (cdiv width 128)) (config.maskStores width trace.nsaLens)
    trace.compacted trace.pageTable

def launchUnlessEmpty {ι α π : Type} [DecidableEq ι] (numRows width : Nat) (grid : List π)
    (stores : π → List (Store ι α)) (before : Buffer ι α) : Buffer ι α :=
  if width = 0 ∨ numRows = 0 then before else launch grid stores before

theorem launched_launchUnlessEmpty {ι α π : Type} [DecidableEq ι] (numRows width : Nat) (grid : List π)
    (stores : π → List (Store ι α)) (before : Buffer ι α) :
    LaunchedUnlessEmpty numRows width grid stores before (launchUnlessEmpty numRows width grid stores before) := by
  rw [LaunchedUnlessEmpty, launchUnlessEmpty]
  split
  next => rfl
  next => exact launched_launch _ _ _

def prepareRows (buffers : MlaSparseBuffers) (numRows width : Nat) (topkIndices : Nat → Nat → Int) : PageTableTrace :=
  let grid := tileGrid numRows (width / 128)
  let converted := launch grid (config.convertStores batch buffers.reqIdPerToken topkIndices) buffers.pageTable1
  let counted := (copyFront buffers.nsaCacheSeqlens numRows fun _ => 0).combined (· + ·)
    (grid.flatMap (config.countUpdates batch buffers.reqIdPerToken topkIndices))
  let compacted := launchUnlessEmpty numRows width (List.range numRows) (config.compactStores converted width) converted
  let compactLens :=
    launchUnlessEmpty numRows width (List.range numRows) (config.compactLenStores converted width) counted
  let nsaLens := copyFront compactLens numRows fun row => min (compactLens row) (buffers.cacheSeqLensPerToken row)
  { converted, counted, compacted, compactLens, nsaLens
    pageTable := launchUnlessEmpty numRows width (tileGrid numRows (cdiv width 128)) (config.maskStores width nsaLens)
      compacted }

theorem rowsPrepared_prepareRows (buffers : MlaSparseBuffers) (numRows width : Nat) (topkIndices : Nat → Nat → Int)
    (accepted : config.checkConvert width = .ok ()) :
    config.RowsPrepared batch buffers numRows width topkIndices
      (config.prepareRows batch buffers numRows width topkIndices) where
  accepted := accepted
  converted := launched_launch _ _ _
  counted := ⟨_, List.Perm.refl _, rfl⟩
  compacted := launched_launchUnlessEmpty _ _ _ _ _
  compactLens := launched_launchUnlessEmpty _ _ _ _ _
  nsaLens := rfl
  masked := launched_launchUnlessEmpty _ _ _ _ _

/-! ## What a row is for -/

/-- The batches of the runner: padded requests come last, have no query and no length, and the lengths
of the host bound those of the device. -/
structure Formed : Prop where
  startsAtZero : batch.queryStartLoc 0 = 0
  ranges : BlockTables.TokenRanges batch.queryStartLoc batch.numReqs
  queryLens : ∀ req < batch.numReqs, batch.queryLen req ≤ batch.maxQueryLen
  cached : ∀ req < batch.numReqs, batch.queryLen req ≤ batch.seqLens req
  padding : ∀ req < batch.numReqs, batch.queryLen req = 0 →
    batch.seqLens req = 0 ∧ ∀ later < batch.numReqs, req ≤ later → batch.queryLen later = 0
  upperBound : ∀ req < batch.numReqs, batch.seqLens req ≤ batch.seqLensCpuSrc req
  localLens : ∀ req < batch.numReqs, batch.seqLensForReq req = config.rankLen batch (batch.seqLens req)

/-- The number of tokens on this rank that a query token sees. -/
def visibleLen (req token : Nat) : Int :=
  config.rankLen batch (batch.seqLens req - batch.queryLen req + (token - batch.queryStartLoc req) + 1)

/-- The valid entries of a row of selected tokens. -/
def selected (topkIndices : Nat → Nat → Int) (width row : Nat) : List Int :=
  ((List.range width).map (topkIndices row)).filter fun index => decide (0 ≤ index)

def slot (req : Nat) (index : Int) : Int :=
  batch.blockTable (req * batch.maxNumBlocksPerReq + (index / config.blockSize).toNat) * config.blockSize +
    index % config.blockSize

structure RowHolds (trace : PageTableTrace) (width row : Nat) (slots : List Int) : Prop where
  length : trace.nsaLens row = slots.length
  columns : ∀ column < width, trace.pageTable (row * config.topkTokens + column) = (slots[column]?).getD (-1)

/-! ## The bounds -/

variable {config batch}

theorem rankLen_eq (seqLen : Nat) : config.rankLen batch seqLen =
    if batch.dcpLocalSeqLens.isSome then
      (dealtBefore config.dcpWorldSize config.cpKvCacheInterleaveSize config.dcpRank seqLen : Int)
    else seqLen := by
  rw [rankLen, dcpLocalLen_eq config.interleave_pos]

theorem rankLen_mono {shorter longer : Nat} (le : shorter ≤ longer) :
    config.rankLen batch shorter ≤ config.rankLen batch longer := by
  rw [rankLen_eq, rankLen_eq]
  split
  · exact Int.ofNat_le.mpr (dealtBefore_mono config.isRank config.interleave_pos le)
  · exact Int.ofNat_le.mpr le

theorem rankLen_zero : config.rankLen batch 0 = 0 := by
  rw [rankLen_eq, dealtBefore]
  simp

theorem lensRound_apply (lens : Nat → Int) (req token : Nat) : config.lensRound batch lens req token =
    if batch.queryStartLoc req ≤ token ∧ token < batch.queryStartLoc (req + 1) then
      config.rankLen batch (batch.seqLensCpuSrc req - batch.queryLen req + 1 + (token - batch.queryStartLoc req))
    else lens token := by
  rw [lensRound]
  split
  next none =>
    rw [if_neg]
    rw [MlaSparseBatch.queryLen] at none
    omega
  next => rfl

/-- After some rounds the tokens of their requests have their bounds, and the others none. -/
theorem lensRounds_spec (ranges : BlockTables.TokenRanges batch.queryStartLoc batch.numReqs) {rounds : Nat}
    (inBatch : rounds ≤ batch.numReqs) (token : Nat) :
    (batch.queryStartLoc rounds ≤ token →
      (List.range rounds).foldl (config.lensRound batch) (fun _ => 0) token = 0) ∧
    ∀ req < rounds, batch.queryStartLoc req ≤ token → token < batch.queryStartLoc (req + 1) →
      (List.range rounds).foldl (config.lensRound batch) (fun _ => 0) token =
        config.rankLen batch
          (batch.seqLensCpuSrc req - batch.queryLen req + 1 + (token - batch.queryStartLoc req)) := by
  induction rounds with
  | zero => exact ⟨fun _ => rfl, fun _ none => absurd none (Nat.not_lt_zero _)⟩
  | succ rounds ih =>
    obtain ⟨behind, ofEarlier⟩ := ih (by omega)
    have mono := ranges.mono rounds (by omega)
    rw [range_succ, foldl_append, foldl_cons, foldl_nil, lensRound_apply]
    constructor
    · intro above
      rw [if_neg (by omega), behind (mono.trans above)]
    · intro req isReq above below
      rcases Nat.lt_succ_iff_lt_or_eq.mp isReq with earlier | rfl
      · have before := ranges.le (show req + 1 ≤ rounds from earlier) (by omega)
        rw [if_neg (by omega), ofEarlier req earlier above below]
      · rw [if_pos ⟨above, below⟩]

theorem queryStartLoc_of_single (formed : config.Formed batch) (single : batch.maxQueryLen ≤ 1)
    (inBatch : req ≤ batch.numReqs) (someToken : ∀ earlier < req, batch.queryLen earlier ≠ 0) :
    batch.queryStartLoc req = req := by
  induction req with
  | zero => exact formed.startsAtZero
  | succ req ih =>
    have isStart := ih (by omega) fun earlier isEarlier => someToken earlier (by omega)
    have isOne := someToken req (Nat.lt_succ_self req)
    have atMost := formed.queryLens req inBatch
    rw [MlaSparseBatch.queryLen] at isOne atMost
    omega

theorem someToken_before (formed : config.Formed batch) (inBatch : req < batch.numReqs)
    (someToken : batch.queryLen req ≠ 0) : ∀ earlier ≤ req, batch.queryLen earlier ≠ 0 := fun earlier isEarlier none =>
  someToken ((formed.padding earlier (isEarlier.trans_lt inBatch) none).2 req inBatch isEarlier)

/-- What the metadata holds: each token its request and a bound of what it sees, and padding no length. -/
theorem build_spec {buffers after : MlaSparseBuffers} (formed : config.Formed batch)
    (built : config.build batch buffers = .ok after) :
    (∀ req < batch.numReqs, ∀ token, batch.queryStartLoc req ≤ token → token < batch.queryStartLoc (req + 1) →
      after.reqIdPerToken token = req ∧ config.visibleLen batch req token ≤ after.cacheSeqLensPerToken token) ∧
    ∀ token, batch.queryStartLoc batch.numReqs ≤ token → token < batch.numActualTokens →
      after.cacheSeqLensPerToken token = 0 := by
  rw [build] at built
  split at built
  next hot =>
    obtain ⟨single, isTokens⟩ := hot
    cases built
    constructor
    · intro req inBatch token above below
      have someToken : batch.queryLen req ≠ 0 := by
        rw [MlaSparseBatch.queryLen]
        omega
      have before := someToken_before formed inBatch someToken
      have isStart := queryStartLoc_of_single formed single inBatch.le
        fun earlier isEarlier => before earlier isEarlier.le
      have isEnd := queryStartLoc_of_single formed single (show req + 1 ≤ batch.numReqs from inBatch)
        fun earlier isEarlier => before earlier (Nat.lt_succ_iff.mp isEarlier)
      have isToken : token = req := by omega
      have isOne : batch.queryLen req = 1 := by
        rw [MlaSparseBatch.queryLen]
        omega
      have someLen := formed.cached req inBatch
      subst isToken
      refine ⟨if_pos (isTokens ▸ inBatch), ?_⟩
      simp only [copyFront]
      rw [if_pos (isTokens ▸ inBatch), formed.localLens token inBatch]
      exact rankLen_mono (by omega)
    · intro token isPadding isToken
      have inBatch : token < batch.numReqs := isTokens ▸ isToken
      have none : batch.queryLen token = 0 := by
        by_contra someToken
        have isEnd := queryStartLoc_of_single formed single (show token + 1 ≤ batch.numReqs from inBatch)
          fun earlier isEarlier => someToken_before formed inBatch someToken earlier (Nat.lt_succ_iff.mp isEarlier)
        have inside := formed.ranges.le (show token + 1 ≤ batch.numReqs from inBatch) le_rfl
        omega
      simp only [copyFront]
      rw [if_pos isToken, formed.localLens token inBatch, (formed.padding token inBatch none).1, rankLen_zero]
  next =>
    dsimp only at built
    split at built
    next => cases built
    next fits =>
    cases built
    constructor
    · intro req inBatch token above below
      have inside := formed.ranges.le (show req + 1 ≤ batch.numReqs from inBatch) le_rfl
      have isToken : token < batch.numActualTokens := by omega
      have mono : Monotone fun index => batch.queryStartLoc (min index batch.numReqs) := fun first second ordered =>
        formed.ranges.le (by omega) (min_le_right second batch.numReqs)
      have same : batch.reqIdPerTokenNp = (List.range batch.numReqs).flatMap fun req =>
          List.replicate (batch.queryStartLoc (min (req + 1) batch.numReqs) -
            batch.queryStartLoc (min req batch.numReqs)) req := by
        apply flatMap_congr
        intro other isOther
        have inRange := mem_range.mp isOther
        rw [min_eq_left inRange.le, min_eq_left (show other + 1 ≤ batch.numReqs from inRange)]
      have isReq : batch.reqIdPerTokenNp[token]? = some req := by
        rw [same]
        apply getElem?_repeat mono _ inBatch
        · rwa [min_eq_left inBatch.le]
        · rwa [min_eq_left (show req + 1 ≤ batch.numReqs from inBatch)]
        · rw [Nat.zero_min]
          exact formed.startsAtZero
      simp only [copyFront]
      rw [if_pos isToken, if_pos isToken, isReq, perTokenLens,
        (lensRounds_spec formed.ranges le_rfl token).2 req inBatch above below]
      refine ⟨rfl, rankLen_mono ?_⟩
      have bound := formed.upperBound req inBatch
      omega
    · intro token isPadding isToken
      simp only [copyFront]
      rw [if_pos isToken, perTokenLens, (lensRounds_spec formed.ranges le_rfl token).1 isPadding]

/-! ## The kernels -/

theorem mem_tileGrid {numRows tiles row tile : Nat} :
    (row, tile) ∈ tileGrid numRows tiles ↔ row < numRows ∧ tile < tiles := by
  simp [tileGrid]

theorem checkConvert_ok {width : Nat} (accepted : config.checkConvert width = .ok ()) :
    width % 128 = 0 ∧ width ≤ config.topkTokens := by
  obtain ⟨_, aligned, accepted⟩ := bind_eq_ok.mp accepted
  have isAligned := of_decide_eq_true (pyAssert_eq_ok.mp aligned)
  have fits := of_decide_eq_true (pyAssert_eq_ok.mp accepted)
  exact ⟨isAligned, by omega⟩

theorem convertIndex_valid {req : Nat} {index : Int} (isToken : 0 ≤ index)
    (inTable : index < batch.maxNumBlocksPerReq * config.blockSize) :
    (config.convertIndex batch req index).2 = config.slot batch req index := by
  have positive : (0 : Int) < config.blockSize := Int.natCast_pos.mpr config.blockSize_pos
  have isBlock : index / config.blockSize < batch.maxNumBlocksPerReq := Int.ediv_lt_of_lt_mul positive inTable
  have isNonneg : 0 ≤ index / (config.blockSize : Int) := Int.ediv_nonneg isToken positive.le
  rw [convertIndex, slot, Int.tdiv_eq_ediv_of_nonneg isToken, Int.tmod_eq_emod_of_nonneg isToken]
  simp [isBlock, isNonneg, isToken]

theorem convertIndex_invalid {index : Int} (isNegative : index < 0) :
    (config.convertIndex batch req index).2 = -1 := by
  simp [convertIndex, isNegative]

theorem slot_nonneg (index : Int) : 0 ≤ config.slot batch req index := by
  have positive : (0 : Int) < config.blockSize := Int.natCast_pos.mpr config.blockSize_pos
  exact Int.add_nonneg (Int.mul_nonneg (Int.natCast_nonneg _) positive.le) (Int.emod_nonneg _ positive.ne')

section

variable {width numRows row : Nat} {topkIndices : Nat → Nat → Int} {buffers : MlaSparseBuffers} {trace : PageTableTrace}

theorem RowsPrepared.converted_eq (prepared : config.RowsPrepared batch buffers numRows width topkIndices trace)
    (isRow : row < numRows) (isColumn : column < width) :
    trace.converted (row * config.topkTokens + column) =
      (config.convertIndex batch (buffers.reqIdPerToken row) (topkIndices row column)).2 := by
  obtain ⟨aligned, fits⟩ := checkConvert_ok prepared.accepted
  have isPlace : column / 128 * 128 + column % 128 = column := by omega
  have inGrid : (row, column / 128) ∈ tileGrid numRows (width / 128) := mem_tileGrid.mpr ⟨isRow, by omega⟩
  have stored : (⟨row * config.topkTokens + column,
      (config.convertIndex batch (buffers.reqIdPerToken row) (topkIndices row column)).2⟩ : Store Nat Int) ∈
      config.convertStores batch buffers.reqIdPerToken topkIndices (row, column / 128) := by
    apply mem_map.mpr
    refine ⟨column % 128, mem_range.mpr (by omega), ?_⟩
    rw [isPlace]
  apply prepared.converted.agreed inGrid stored
  intro other otherInGrid last lastStored same
  obtain ⟨otherRow, otherTile⟩ := other
  obtain ⟨-, isTile⟩ := mem_tileGrid.mp otherInGrid
  obtain ⟨lane, inRange, rfl⟩ := mem_map.mp lastStored
  have isLane := mem_range.mp inRange
  obtain ⟨rfl, rfl⟩ := flat_inj (show otherTile * 128 + lane < config.topkTokens by omega)
    (isColumn.trans_le fits) same
  rfl

theorem filter_laneValid (pageTable : Buffer Nat Int) :
    (List.range (nextPowerOf2 width)).filter (config.laneValid pageTable width row) =
      (List.range width).filter fun offs => decide (0 ≤ pageTable (row * config.topkTokens + offs)) := by
  have split : List.range (nextPowerOf2 width) =
      List.range width ++ (List.range (nextPowerOf2 width - width)).map (width + ·) := by
    rw [← range_add, Nat.add_sub_cancel' (le_nextPowerOf2 width)]
  have past : ((List.range (nextPowerOf2 width - width)).map (width + ·)).filter
      (config.laneValid pageTable width row) = [] := by
    apply filter_eq_nil_iff.mpr
    intro offs isPast
    obtain ⟨lane, -, rfl⟩ := mem_map.mp isPast
    simp [laneValid]
  rw [split, filter_append, past, append_nil]
  apply filter_congr
  intro offs inRow
  have below := mem_range.mp inRow
  simp [laneValid, laneValue, below]

theorem validCount_eq (pageTable : Buffer Nat Int) : config.validCount pageTable width row =
    ((List.range width).filter fun offs => decide (0 ≤ pageTable (row * config.topkTokens + offs))).length := by
  rw [validCount, countP_eq_length_filter, filter_laneValid]

/-- What the compaction stores: the valid values in order, and -1 behind them. -/
theorem mem_compactStores {pageTable : Buffer Nat Int} {store : Store Nat Int} :
    store ∈ config.compactStores pageTable width row ↔
      (∃ rank offs, ((List.range width).filter fun offs =>
          decide (0 ≤ pageTable (row * config.topkTokens + offs)))[rank]? = some offs ∧
        store = ⟨row * config.topkTokens + rank, pageTable (row * config.topkTokens + offs)⟩) ∨
      ∃ offs < width, config.validCount pageTable width row ≤ offs ∧ store = ⟨row * config.topkTokens + offs, -1⟩ := by
  rw [compactStores]
  rw [filterMap_zip_cumsum (config.laneValid pageTable width row) fun sum offs =>
    Store.mk (row * config.topkTokens + (sum - 1)) (config.laneValue pageTable width row offs), filter_laneValid,
    mem_append]
  apply or_congr
  · rw [mem_mapIdx]
    constructor
    · rintro ⟨rank, inRange, rfl⟩
      have inRow := mem_range.mp (mem_of_mem_filter (getElem_mem inRange))
      refine ⟨rank, _, getElem?_eq_getElem inRange, ?_⟩
      rw [laneValue, if_pos inRow, Nat.zero_add, Nat.add_sub_cancel]
    · rintro ⟨rank, offs, isOffs, rfl⟩
      obtain ⟨inRange, rfl⟩ := List.getElem?_eq_some_iff.mp isOffs
      have inRow := mem_range.mp (mem_of_mem_filter (getElem_mem inRange))
      refine ⟨rank, inRange, ?_⟩
      rw [laneValue, if_pos inRow, Nat.zero_add, Nat.add_sub_cancel]
  · rw [mem_filterMap]
    constructor
    · rintro ⟨offs, -, isStore⟩
      split at isStore
      next past =>
        cases isStore
        exact ⟨offs, past.1, past.2, rfl⟩
      next => cases isStore
    · rintro ⟨offs, inRow, past, rfl⟩
      exact ⟨offs, mem_range.mpr (inRow.trans_le (le_nextPowerOf2 width)), if_pos ⟨inRow, past⟩⟩

def compactValues (config : MlaSparseConfig) (pageTable : Buffer Nat Int) (width row : Nat) : List Int :=
  ((List.range width).map fun offs => pageTable (row * config.topkTokens + offs)).filter fun value => decide (0 ≤ value)

theorem compactValues_getElem? (pageTable : Buffer Nat Int) (rank : Nat) :
    (config.compactValues pageTable width row)[rank]? =
      (((List.range width).filter fun offs => decide (0 ≤ pageTable (row * config.topkTokens + offs)))[rank]?).map
        fun offs => pageTable (row * config.topkTokens + offs) := by
  rw [compactValues, filter_map, getElem?_map]
  rfl

theorem length_compactValues (pageTable : Buffer Nat Int) :
    (config.compactValues pageTable width row).length = config.validCount pageTable width row := by
  rw [compactValues, filter_map, length_map, validCount_eq]
  rfl

section

variable (prepared : config.RowsPrepared batch buffers numRows width topkIndices trace)
  (isRow : row < numRows)

include prepared isRow

theorem RowsPrepared.compacted_eq (isColumn : column < width) :
    trace.compacted (row * config.topkTokens + column) =
      ((config.compactValues trace.converted width row)[column]?).getD (-1) := by
  obtain ⟨-, fits⟩ := checkConvert_ok prepared.accepted
  have launched := prepared.compacted
  rw [LaunchedUnlessEmpty, if_neg (by omega)] at launched
  have countLe : config.validCount trace.converted width row ≤ width := by
    rw [validCount_eq]
    simpa using length_filter_le _ (List.range width)
  have stored : (⟨row * config.topkTokens + column,
      ((config.compactValues trace.converted width row)[column]?).getD (-1)⟩ : Store Nat Int) ∈
      config.compactStores trace.converted width row := by
    rw [mem_compactStores, compactValues_getElem?]
    cases isValue : ((List.range width).filter fun offs =>
        decide (0 ≤ trace.converted (row * config.topkTokens + offs)))[column]? with
    | some offs => exact Or.inl ⟨column, offs, isValue, rfl⟩
    | none =>
      refine Or.inr ⟨column, isColumn, ?_, rfl⟩
      rw [validCount_eq]
      exact getElem?_eq_none_iff.mp isValue
  apply launched.agreed (mem_range.mpr isRow) stored
  intro other otherInGrid last lastStored same
  rcases mem_compactStores.mp lastStored with ⟨rank, offs, isOffs, rfl⟩ | ⟨offs, inRow, past, rfl⟩
  · have inRange := (List.getElem?_eq_some_iff.mp isOffs).1
    have isRank : rank < width := by
      have atMost := length_filter_le (fun offs => decide (0 ≤ trace.converted (other * config.topkTokens + offs)))
        (List.range width)
      rw [length_range] at atMost
      omega
    obtain ⟨rfl, rfl⟩ := flat_inj (isRank.trans_le fits) (isColumn.trans_le fits) same
    rw [compactValues_getElem?, isOffs]
    rfl
  · obtain ⟨rfl, rfl⟩ := flat_inj (inRow.trans_le fits) (isColumn.trans_le fits) same
    rw [getElem?_eq_none (by rw [length_compactValues]; exact past)]
    rfl

/-- After the compaction the length of a row is the number of its valid values. -/
theorem RowsPrepared.compactLens_eq :
    trace.compactLens row = (config.compactValues trace.converted width row).length := by
  have launched := prepared.compactLens
  rw [LaunchedUnlessEmpty] at launched
  split at launched
  next empty =>
    have noColumn : width = 0 := by omega
    subst noColumn
    have untouched : trace.counted row = copyFront buffers.nsaCacheSeqlens numRows (fun _ => 0) row := by
      apply prepared.counted.untouched
      intro program inGrid
      obtain ⟨programRow, tile⟩ := program
      exact absurd (mem_tileGrid.mp inGrid).2 (Nat.not_lt_zero tile)
    rw [launched, untouched, copyFront, if_pos isRow]
    rfl
  next =>
    rw [length_compactValues]
    have owns : ∀ program ∈ List.range numRows, ∀ store ∈ config.compactLenStores trace.converted width program,
        id store.address = program := by
      intro program _ store stored
      rw [mem_singleton.mp stored]
      rfl
    apply launched.owned owns (mem_range.mpr isRow) (mem_singleton.mpr rfl)
    intro other stored _
    rw [mem_singleton.mp stored]

theorem RowsPrepared.masked_eq (isColumn : column < width) :
    trace.pageTable (row * config.topkTokens + column) =
      if (column : Int) < trace.nsaLens row then trace.compacted (row * config.topkTokens + column) else -1 := by
  obtain ⟨-, fits⟩ := checkConvert_ok prepared.accepted
  have launched := prepared.masked
  rw [LaunchedUnlessEmpty, if_neg (by omega)] at launched
  have isStored : ∀ program ∈ tileGrid numRows (cdiv width 128),
      ∀ store ∈ config.maskStores width trace.nsaLens program, store.value = -1 ∧
        ∃ offs < width, trace.nsaLens program.1 ≤ offs ∧
          store.address = program.1 * config.topkTokens + offs := by
    intro program _ store stored
    obtain ⟨lane, -, isStore⟩ := mem_filterMap.mp stored
    dsimp only at isStore
    split at isStore
    next masked =>
      cases isStore
      exact ⟨rfl, _, masked.1, masked.2, rfl⟩
    next => cases isStore
  split
  next inside =>
    apply launched.untouched
    intro program inGrid store stored same
    obtain ⟨-, offs, inRow, past, isAddress⟩ := isStored program inGrid store stored
    obtain ⟨isProgram, rfl⟩ := flat_inj (inRow.trans_le fits) (isColumn.trans_le fits) (isAddress.symm.trans same)
    rw [isProgram] at past
    omega
  next past =>
    have isPlace : column / 128 * 128 + column % 128 = column := by omega
    have inGrid : (row, column / 128) ∈ tileGrid numRows (cdiv width 128) := by
      rw [mem_tileGrid, lt_cdiv_iff (by omega)]
      exact ⟨isRow, by omega⟩
    have stored : (⟨row * config.topkTokens + column, -1⟩ : Store Nat Int) ∈
        config.maskStores width trace.nsaLens (row, column / 128) := by
      apply mem_filterMap.mpr
      refine ⟨column % 128, mem_range.mpr (by omega), ?_⟩
      dsimp only
      rw [isPlace, if_pos ⟨isColumn, by omega⟩]
    apply launched.agreed inGrid stored
    intro other otherInGrid last lastStored _
    exact (isStored other otherInGrid last lastStored).1

theorem RowsPrepared.row_holds
    (bounded : ((config.compactValues trace.converted width row).length : Int) ≤ buffers.cacheSeqLensPerToken row) :
    config.RowHolds trace width row (config.compactValues trace.converted width row) := by
  have isLen : trace.nsaLens row = (config.compactValues trace.converted width row).length := by
    rw [prepared.nsaLens, copyFront, if_pos isRow, prepared.compactLens_eq isRow, min_eq_left bounded]
  refine ⟨isLen, fun column isColumn => ?_⟩
  rw [prepared.masked_eq isRow isColumn, prepared.compacted_eq isRow isColumn, isLen]
  split
  next => rfl
  next past =>
    rw [getElem?_eq_none (by omega)]
    rfl

end

theorem filter_converted {indices : List Int}
    (inTable : ∀ index ∈ indices.filter fun index => decide (0 ≤ index),
      index < batch.maxNumBlocksPerReq * config.blockSize) :
    ((indices.map fun index => (config.convertIndex batch req index).2).filter fun value => decide (0 ≤ value)) =
      (indices.filter fun index => decide (0 ≤ index)).map (config.slot batch req) := by
  induction indices with
  | nil => rfl
  | cons index rest ih =>
    by_cases isToken : 0 ≤ index
    · rw [filter_cons_of_pos (by simpa using isToken)] at inTable ⊢
      have isSlot := @convertIndex_valid config batch req index isToken (inTable index mem_cons_self)
      rw [map_cons, isSlot, filter_cons_of_pos (by simpa using slot_nonneg index), map_cons,
        ih fun other isOther => inTable other (mem_cons_of_mem _ isOther)]
    · rw [filter_cons_of_neg (by simpa using isToken)] at inTable ⊢
      rw [map_cons, convertIndex_invalid (not_le.mp isToken), filter_cons_of_neg (by decide),
        ih inTable]

theorem RowsPrepared.values_eq (prepared : config.RowsPrepared batch buffers numRows width topkIndices trace)
    (isRow : row < numRows)
    (inTable : ∀ index ∈ selected topkIndices width row, index < batch.maxNumBlocksPerReq * config.blockSize) :
    config.compactValues trace.converted width row =
      (selected topkIndices width row).map (config.slot batch (buffers.reqIdPerToken row)) := by
  have isConverted : (List.range width).map (fun offs => trace.converted (row * config.topkTokens + offs)) =
      ((List.range width).map (topkIndices row)).map fun index =>
        (config.convertIndex batch (buffers.reqIdPerToken row) index).2 := by
    rw [map_map]
    apply map_congr_left
    intro offs inRow
    exact prepared.converted_eq isRow (mem_range.mp inRow)
  rw [compactValues, isConverted, filter_converted inTable]
  rfl

end

theorem length_le_of_distinct {tokens : List Int} {len : Int} (distinct : tokens.Nodup)
    (inRange : ∀ token ∈ tokens, 0 ≤ token ∧ token < len) (isLen : 0 ≤ len) : (tokens.length : Int) ≤ len := by
  have inInterval : tokens.toFinset ⊆ Finset.Ico 0 len := by
    intro token isToken
    exact Finset.mem_Ico.mpr (inRange token (mem_toFinset.mp isToken))
  have atMost := Finset.card_le_card inInterval
  rw [toFinset_card_of_nodup distinct, Int.card_Ico] at atMost
  omega

/-- The row of a query token is the slots of the tokens that are selected for it, and the row of a padding
token is empty. -/
theorem pageTable_holds {buffers after : MlaSparseBuffers} {numRows width : Nat} {topkIndices : Nat → Nat → Int}
    {trace : PageTableTrace} (formed : config.Formed batch) (built : config.build batch buffers = .ok after)
    (prepared : config.RowsPrepared batch after numRows width topkIndices trace)
    (inBatch : numRows ≤ batch.numActualTokens) :
    (∀ req < batch.numReqs, ∀ row < numRows, batch.queryStartLoc req ≤ row → row < batch.queryStartLoc (req + 1) →
      (selected topkIndices width row).Nodup →
      (∀ index ∈ selected topkIndices width row, index < config.visibleLen batch req row) →
      config.visibleLen batch req row ≤ batch.maxNumBlocksPerReq * config.blockSize →
      config.RowHolds trace width row ((selected topkIndices width row).map (config.slot batch req))) ∧
    ∀ row < numRows, batch.queryStartLoc batch.numReqs ≤ row → config.RowHolds trace width row [] := by
  obtain ⟨ofToken, ofPadding⟩ := build_spec formed built
  constructor
  · intro req isReq row isRow above below distinct visible wide
    obtain ⟨isReqId, bounded⟩ := ofToken req isReq row above below
    have values := prepared.values_eq isRow fun index isIndex => (visible index isIndex).trans_le wide
    rw [isReqId] at values
    rw [← values]
    apply prepared.row_holds isRow
    rw [values, length_map]
    refine (length_le_of_distinct distinct (fun index isIndex => ⟨?_, visible index isIndex⟩) ?_).trans bounded
    · simpa using (mem_filter.mp isIndex).2
    · rw [visibleLen, ← @rankLen_zero config batch]
      exact rankLen_mono (Nat.zero_le _)
  · intro row isRow isPadding
    have noBound := ofPadding row isPadding (isRow.trans_le inBatch)
    have isLen : trace.nsaLens row = 0 := by
      rw [prepared.nsaLens, copyFront, if_pos isRow, prepared.compactLens_eq isRow, noBound]
      omega
    refine ⟨isLen, fun column isColumn => ?_⟩
    rw [prepared.masked_eq isRow isColumn, isLen, if_neg (by omega)]
    rfl

private theorem sparseBlock_pos : 0 < 64 := Nat.succ_pos 63

private def sparseConfig : MlaSparseConfig where
  blockSize := 64
  topkTokens := 2048
  dcpWorldSize := 2
  dcpRank := 0
  cpKvCacheInterleaveSize := 1
  blockSize_pos := sparseBlock_pos
  isRank := Nat.two_pos
  interleave_pos := Nat.one_pos

/-- Three query tokens of two requests, a padded request and a padding token; the host expects three more
tokens of the first request. -/
private def sparseBatch : MlaSparseBatch where
  numReqs := 3
  numActualTokens := 4
  maxQueryLen := 2
  queryStartLoc req := if req = 0 then 0 else if req = 1 then 2 else 3
  seqLens req := if req = 0 then 200 else if req = 1 then 70 else 0
  dcpLocalSeqLens := some fun req => if req = 0 then 100 else if req = 1 then 35 else 0
  seqLensCpuUpperBound := some fun req => if req = 0 then 203 else if req = 1 then 70 else 0
  blockTable index := index + 1
  maxNumBlocksPerReq := 2

private def sparseIndices (_ column : Nat) : Int := if column = 1 then 70 else if column = 3 then 2 else -1

theorem sparseBatch_row : ∃ buffers trace,
    sparseConfig.build sparseBatch ⟨id, fun _ => 9, fun _ => 9, fun _ => 9, fun _ => 9⟩ = .ok buffers ∧
    sparseConfig.RowsPrepared sparseBatch buffers 4 128 sparseIndices trace ∧
    sparseConfig.RowHolds trace 128 0 [134, 66] ∧ sparseConfig.RowHolds trace 128 3 [] := by
  have formed : sparseConfig.Formed sparseBatch :=
    ⟨rfl, ⟨by decide⟩, by decide, by decide, by decide, by decide, by decide⟩
  have isSelected : selected sparseIndices 128 0 = [70, 2] := by decide +kernel
  obtain ⟨buffers, built⟩ : ∃ buffers, sparseConfig.build sparseBatch
      ⟨id, fun _ => 9, fun _ => 9, fun _ => 9, fun _ => 9⟩ = .ok buffers := ⟨_, rfl⟩
  have prepared := rowsPrepared_prepareRows sparseConfig sparseBatch buffers 4 128 sparseIndices rfl
  obtain ⟨ofToken, ofPadding⟩ := pageTable_holds formed built prepared le_rfl
  have held := ofToken 0 (by decide) 0 (by decide) (by decide) (by decide)
  rw [isSelected] at held
  exact ⟨buffers, _, built, prepared, held (by decide) (by decide) (by decide), ofPadding 3 (by decide) (by decide)⟩

end MlaSparseConfig

end DeepSpark
