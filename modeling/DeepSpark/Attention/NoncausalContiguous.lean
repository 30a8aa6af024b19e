import DeepSpark.Lib.PyError
import DeepSpark.Worker.BlockTables

/-!
The contiguous non-causal draft path: `_forward_noncausal_contiguous` of `v1/attention/backends/b12x_attn.py`.

Owns the capacities of the path, the cumulative lengths, the gather of the last keys of each request, and
that a query attends to the cached positions of its window exactly where the offsets of the gather fit
`int32`. The cumulative lengths and the offsets into the block table are not wrapped: they count rows and
entries, of which there are fewer than elements.
-/

namespace DeepSpark

open Lib

/-! ## The path -/

/-- What the plan of the path is made from; the path needs a sliding window. -/
structure ContigConfig where
  maxModelLen : Nat
  numSpeculativeTokens : Nat
  windowLeft : Nat
  maxNumSeqs : Nat
  numKvHeads : Nat
  headSize : Nat
  pageSize : Nat
  pageSize_pos : 0 < pageSize

/-- The metadata of a batch, and the rows of its query and output tensors. -/
structure ContigBatch where
  metadataTokens : Nat
  queryRows : Nat
  outputRows : Nat
  maxQueryLen : Nat
  numReqs : Nat
  queryStartLoc : Nat → Nat
  seqLens : Nat → Nat
  blockTable : Buffer Nat Nat
  blockTableStride : Nat

def ContigBatch.numActualTokens (batch : ContigBatch) : Nat :=
  min (min batch.metadataTokens batch.queryRows) batch.outputRows

def ContigBatch.queryLen (batch : ContigBatch) (req : Nat) : Nat :=
  batch.queryStartLoc (req + 1) - batch.queryStartLoc req

def ContigBatch.position (batch : ContigBatch) (req token : Nat) : Nat :=
  batch.seqLens req - batch.queryLen req + (token - batch.queryStartLoc req)

/-- The strides of a cache, which the kernel takes as `int32` constants. -/
structure CacheStrides where
  stride0 : Nat
  stride1 : Nat
  stride2 : Nat
  stride3 : Nat
  isInt32 : ∀ stride ∈ [stride0, stride1, stride2, stride3], stride < 2 ^ 31

def CacheStrides.offset (strides : CacheStrides) (blockId pageSlot headIdx dim : Nat) : Nat :=
  blockId * strides.stride0 + pageSlot * strides.stride1 + headIdx * strides.stride2 + dim * strides.stride3

structure CacheLayout where
  keys : CacheStrides
  values : CacheStrides

/-- The keys or the values of a cache, with the strides and the scales of the tensor. -/
structure CacheSide (α σ : Type) extends CacheStrides where
  cache : Buffer Int α
  scale : Buffer Nat σ
  scaleNumel : Nat

/-- A paged cache; `asStored` is what a store does to an element, with its scale where the cache is FP8. -/
structure ContigCache (α β σ : Type) where
  keys : CacheSide α σ
  values : CacheSide α σ
  hasFp8Kv : Bool
  asStored : α → Option σ → β

inductive CuSeqlens where
  | q
  | k
deriving DecidableEq, Repr

/-- The buffers of the path, of query rows `ν` and elements `β`. -/
structure ContigWorkspace (β ν : Type) where
  qBuf : Buffer Nat ν
  kBuf : Buffer Int β
  vBuf : Buffer Int β
  cu : Buffer (CuSeqlens × Nat) Nat

namespace ContigConfig

variable (config : ContigConfig)

def contigQPerReq : Nat := 1 + config.numSpeculativeTokens

def contigMaxQRows : Nat := max (config.maxNumSeqs * config.contigQPerReq) 1

def contigMaxKvWindow : Nat :=
  max (min (config.maxModelLen + config.contigQPerReq) (config.windowLeft + config.contigQPerReq)) 1

def contigMaxKvRows : Nat := max (config.maxNumSeqs * config.contigMaxKvWindow) 1

def checkCapacity (batch : ContigBatch) : Except PyError Unit := do
  if batch.numReqs > config.maxNumSeqs then
    throw (.valueError s!"B12X_ATTN DFlash batch {batch.numReqs} exceeds contiguous capacity {config.maxNumSeqs}.")
  if batch.numActualTokens > config.contigMaxQRows then
    throw (.valueError (s!"B12X_ATTN DFlash query tokens {batch.numActualTokens} exceed contiguous capacity " ++
      s!"{config.contigMaxQRows}."))
  if batch.maxQueryLen > config.contigQPerReq then
    throw (.valueError (s!"B12X_ATTN DFlash max query length {batch.maxQueryLen} exceeds contiguous capacity " ++
      s!"{config.contigQPerReq}."))

/-- The accumulators of the loop of `_b12x_noncausal_cu_lens_kernel`, and what it stored. -/
structure CuLens where
  qAcc : Nat
  kAcc : Nat
  stores : List (Store (CuSeqlens × Nat) Nat)

def cuLensStep (batch : ContigBatch) (lens : CuLens) (reqIdx : Nat) : CuLens :=
  let active := decide (reqIdx < batch.numReqs)
  let seqLen := if active then batch.seqLens reqIdx else 0
  let qStart := if active then batch.queryStartLoc reqIdx else 0
  let qEnd := if active then batch.queryStartLoc (reqIdx + 1) else 0
  let qLen := if active then qEnd - qStart else 0
  let kLen := if active then min seqLen config.contigMaxKvWindow else 0
  { qAcc := lens.qAcc + qLen
    kAcc := lens.kAcc + kLen
    stores := lens.stores ++ [⟨(.q, reqIdx), lens.qAcc⟩, ⟨(.k, reqIdx), lens.kAcc⟩] }

/-- `_b12x_noncausal_cu_lens_kernel`: one program. -/
def cuLensStores (batch : ContigBatch) (_ : Unit) : List (Store (CuSeqlens × Nat) Nat) :=
  let lens := (List.range config.maxNumSeqs).foldl (config.cuLensStep batch) ⟨0, 0, []⟩
  lens.stores ++ [⟨(.q, config.maxNumSeqs), lens.qAcc⟩, ⟨(.k, config.maxNumSeqs), lens.kAcc⟩]

end ContigConfig

/-- What an offset is once the kernel has computed it, in `int32`. -/
@[irreducible] def int32 (offset : Nat) : Int := (offset : Int).bmod (2 ^ 32)

theorem int32_lt (offset : Nat) : int32 offset < 2 ^ 31 := by
  unfold int32
  exact Int.bmod_lt (by decide)

theorem int32_eq_iff {offset : Nat} : int32 offset = offset ↔ offset < 2 ^ 31 := by
  constructor
  · intro same
    have lt := int32_lt offset
    omega
  · intro lt
    unfold int32
    exact Int.bmod_eq_of_le (by omega) (by omega)

theorem int32_first : int32 (2 ^ 31) < 0 := by
  unfold int32
  decide

section

variable {α β σ : Type} (cache : ContigCache α β σ)

def ContigCache.layout : CacheLayout := ⟨cache.keys.toCacheStrides, cache.values.toCacheStrides⟩

/-- An element of a head as it is stored. -/
def ContigCache.scaled (side : CacheSide α σ) (numKvHeads headIdx : Nat) (element : α) : β :=
  if cache.hasFp8Kv then
    cache.asStored element (some (if side.scaleNumel = numKvHeads then side.scale headIdx else side.scale 0))
  else cache.asStored element none

def ContigCache.load (side : CacheSide α σ) (numKvHeads blockId pageSlot headIdx dim : Nat) : β :=
  cache.scaled side numKvHeads headIdx (side.cache (int32 (side.offset blockId pageSlot headIdx dim)))

end

namespace ContigConfig

variable {α β σ ν : Type} (config : ContigConfig) (batch : ContigBatch) (cache : ContigCache α β σ)

def outOffset (row headIdx dim : Nat) : Nat :=
  row * config.numKvHeads * config.headSize + headIdx * config.headSize + dim

/-- `_b12x_gather_paged_kv_to_contiguous_kernel`: what one program stores to one of its outputs. -/
def gatherStores (side : CacheSide α σ) (cu : Buffer (CuSeqlens × Nat) Nat) (program : Nat × Nat × Nat) :
    List (Store Int β) :=
  let (reqIdx, tokBlock, headDimBlock) := program
  let numDBlocks := cdiv config.headSize 32
  let headIdx := headDimBlock / numDBlocks
  let dimBlock := headDimBlock - headIdx * numDBlocks
  let activeReq := decide (reqIdx < batch.numReqs)
  let seqLen := if activeReq then batch.seqLens reqIdx else 0
  let gatherLen := min seqLen config.contigMaxKvWindow
  let startToken := seqLen - gatherLen
  let outStart := if activeReq then cu (.k, reqIdx) else 0
  (List.range 16).flatMap fun token => (List.range 32).filterMap fun dim =>
    let tokenOffset := tokBlock * 16 + token
    let dimOffset := dimBlock * 32 + dim
    if (activeReq ∧ tokenOffset < gatherLen) ∧ dimOffset < config.headSize then
      let logicalToken := startToken + tokenOffset
      let pageOffset := logicalToken / config.pageSize
      let pageSlot := logicalToken - pageOffset * config.pageSize
      let blockId := batch.blockTable (reqIdx * batch.blockTableStride + pageOffset)
      some ⟨int32 (config.outOffset (outStart + tokenOffset) headIdx dimOffset),
        cache.load side config.numKvHeads blockId pageSlot headIdx dimOffset⟩
    else none

def gatherGrid : List (Nat × Nat × Nat) :=
  (List.range config.maxNumSeqs).flatMap fun reqIdx =>
    (List.range (cdiv config.contigMaxKvWindow 16)).flatMap fun tokBlock =>
      (List.range (config.numKvHeads * cdiv config.headSize 32)).map fun headDimBlock =>
        (reqIdx, tokBlock, headDimBlock)

/-- The query rows are copied, then the cumulative lengths are computed, then the keys and the values are
gathered. -/
structure Launches (query : Nat → ν) (before after : ContigWorkspace β ν) : Prop where
  queries : ∀ row, after.qBuf row = if row < batch.numActualTokens then query row else before.qBuf row
  cuLens : Launched [()] (config.cuLensStores batch) before.cu after.cu
  keys : Launched config.gatherGrid (config.gatherStores batch cache cache.keys after.cu) before.kBuf after.kBuf
  values : Launched config.gatherGrid (config.gatherStores batch cache cache.values after.cu) before.vBuf after.vBuf

/-- `_forward_noncausal_contiguous` up to the dense kernel. -/
structure Gathered (query : Nat → ν) (before after : ContigWorkspace β ν) : Prop where
  accepted : config.checkCapacity batch = .ok ()
  launches : if batch.numActualTokens = 0 then after = before else config.Launches batch cache query before after

/-- The path with the programs of each launch in order. -/
def gather (query : Nat → ν) (before : ContigWorkspace β ν) : ContigWorkspace β ν :=
  if batch.numActualTokens = 0 then before else
    let cu := launch [()] (config.cuLensStores batch) before.cu
    { qBuf := fun row => if row < batch.numActualTokens then query row else before.qBuf row
      kBuf := launch config.gatherGrid (config.gatherStores batch cache cache.keys cu) before.kBuf
      vBuf := launch config.gatherGrid (config.gatherStores batch cache cache.values cu) before.vBuf
      cu }

theorem gathered_gather (query : Nat → ν) (before : ContigWorkspace β ν)
    (accepted : config.checkCapacity batch = .ok ()) :
    config.Gathered batch cache query before (config.gather batch cache query before) where
  accepted := accepted
  launches := by
    rw [gather]
    split
    next => rfl
    next =>
      exact
        { queries := fun _ => rfl
          cuLens := launched_launch _ _ _
          keys := launched_launch _ _ _
          values := launched_launch _ _ _ }

/-! ## What the path is for -/

/-- The rows of the gathered keys that the dense kernel lets a query row attend to. -/
def varlenKeyRows (cu : Buffer (CuSeqlens × Nat) Nat) (token : Nat) : List Nat :=
  (List.range config.maxNumSeqs).flatMap fun req =>
    let qLen := cu (.q, req + 1) - cu (.q, req)
    let kLen := cu (.k, req + 1) - cu (.k, req)
    let query := token - cu (.q, req)
    if cu (.q, req) ≤ token ∧ token < cu (.q, req + 1) then
      ((List.range kLen).filter fun (key : Nat) =>
        decide (|(key : Int) - ((query : Int) + kLen - qLen)| ≤ config.windowLeft)).map (cu (.k, req) + ·)
    else []

def windowPositions (seqLen pos : Nat) : List Nat :=
  (List.range seqLen).filter fun (key : Nat) => decide (|(key : Int) - pos| ≤ config.windowLeft)

/-- Where a cache has an element of a position of a request. -/
def cachedAt (strides : CacheStrides) (req pos headIdx dim : Nat) : Nat :=
  strides.offset (batch.blockTable (req * batch.blockTableStride + pos / config.pageSize)) (pos % config.pageSize)
    headIdx dim

def cached (side : CacheSide α σ) (req pos headIdx dim : Nat) : β :=
  cache.scaled side config.numKvHeads headIdx
    (side.cache (config.cachedAt batch side.toCacheStrides req pos headIdx dim : Nat))

/-- Each query token attends to the cached positions of its window, once each and in order, and nothing is
written outside the buffers. -/
structure Attends (query : Nat → ν) (after : ContigWorkspace β ν) : Prop where
  queries : ∀ token < batch.numActualTokens, after.qBuf token = query token
  attends : ∀ req < batch.numReqs, ∀ token, batch.queryStartLoc req ≤ token → token < batch.queryStartLoc (req + 1) →
    ∀ headIdx < config.numKvHeads, ∀ dim < config.headSize,
      (config.varlenKeyRows after.cu token).map (fun row =>
          (after.kBuf (config.outOffset row headIdx dim), after.vBuf (config.outOffset row headIdx dim))) =
        (config.windowPositions (batch.seqLens req) (batch.position req token)).map fun pos =>
          (config.cached batch cache cache.keys req pos headIdx dim,
            config.cached batch cache cache.values req pos headIdx dim)
  lengths : ∀ req < config.maxNumSeqs, after.cu (.q, req + 1) - after.cu (.q, req) ≤ config.contigQPerReq ∧
    after.cu (.k, req + 1) - after.cu (.k, req) ≤ config.contigMaxKvWindow
  queryRows : batch.numActualTokens ≤ config.contigMaxQRows
  cuInside : ∀ store ∈ config.cuLensStores batch (), store.address.2 < config.maxNumSeqs + 1
  gatherInside : ∀ side, ∀ program ∈ config.gatherGrid,
    ∀ store ∈ config.gatherStores batch cache side after.cu program, 0 ≤ store.address ∧
      store.address < (config.contigMaxKvRows * config.numKvHeads * config.headSize : Nat)

/-- Whatever is cached and in whatever order the programs of a launch run, each query token attends to its
window. -/
def AttendsAlways (layout : CacheLayout) : Prop :=
  ∀ (α β σ ν : Type) (cache : ContigCache α β σ) (query : Nat → ν) (before after : ContigWorkspace β ν),
    cache.layout = layout → config.Gathered batch cache query before after →
      if batch.numActualTokens = 0 then after = before else config.Attends batch cache query after

/-- The gathered elements, and the cached ones of a position in the window of a query token, are below `2 ^ 31`. -/
structure FitsInt32 (layout : CacheLayout) : Prop where
  rows : (∑ req ∈ Finset.range batch.numReqs, min (batch.seqLens req) config.contigMaxKvWindow) *
    config.numKvHeads * config.headSize ≤ 2 ^ 31
  reads : ∀ req < batch.numReqs, ∀ token, batch.queryStartLoc req ≤ token → token < batch.queryStartLoc (req + 1) →
    ∀ pos ∈ config.windowPositions (batch.seqLens req) (batch.position req token),
      ∀ headIdx < config.numKvHeads, ∀ dim < config.headSize,
        config.cachedAt batch layout.keys req pos headIdx dim < 2 ^ 31 ∧
          config.cachedAt batch layout.values req pos headIdx dim < 2 ^ 31

/-! ## The cumulative lengths -/

def qLen (batch : ContigBatch) (req : Nat) : Nat := if req < batch.numReqs then batch.queryLen req else 0

def kLen (req : Nat) : Nat :=
  if req < batch.numReqs then min (batch.seqLens req) config.contigMaxKvWindow else 0

def cuContent : CuSeqlens × Nat → Nat
  | (.q, index) => ∑ req ∈ Finset.range index, qLen batch req
  | (.k, index) => ∑ req ∈ Finset.range index, config.kLen batch req

variable {config batch cache}

theorem cuLens_rounds (count : Nat) :
    (List.range count).foldl (config.cuLensStep batch) ⟨0, 0, []⟩ =
      ⟨config.cuContent batch (.q, count), config.cuContent batch (.k, count), (List.range count).flatMap fun index =>
        [⟨(.q, index), config.cuContent batch (.q, index)⟩, ⟨(.k, index), config.cuContent batch (.k, index)⟩]⟩ := by
  induction count with
  | zero => rfl
  | succ count ih =>
    rw [List.range_succ, List.foldl_append, ih, List.flatMap_append]
    simp only [List.foldl_cons, List.foldl_nil, cuLensStep, cuContent, Finset.sum_range_succ, qLen, kLen,
      ContigBatch.queryLen, decide_eq_true_eq, List.flatMap_cons, List.flatMap_nil, List.append_nil]
    by_cases active : count < batch.numReqs
    · simp only [if_pos active]
    · simp only [if_neg active]

theorem cuLensStores_eq : config.cuLensStores batch () = (List.range (config.maxNumSeqs + 1)).flatMap fun index =>
    [⟨(.q, index), config.cuContent batch (.q, index)⟩, ⟨(.k, index), config.cuContent batch (.k, index)⟩] := by
  rw [cuLensStores]
  simp only [cuLens_rounds]
  rw [List.range_succ, List.flatMap_append, List.flatMap_singleton]

theorem mem_cuLensStores {store : Store (CuSeqlens × Nat) Nat} (stored : store ∈ config.cuLensStores batch ()) :
    store.address.2 < config.maxNumSeqs + 1 ∧ store.value = config.cuContent batch store.address := by
  rw [cuLensStores_eq] at stored
  obtain ⟨index, inRange, stored⟩ := List.mem_flatMap.mp stored
  simp only [List.mem_cons, List.not_mem_nil, or_false] at stored
  rcases stored with rfl | rfl
  · exact ⟨List.mem_range.mp inRange, rfl⟩
  · exact ⟨List.mem_range.mp inRange, rfl⟩

variable {index : Nat}

/-- After the kernel the cumulative lengths are those of the requests of the batch. -/
theorem cuLens_eq {before after : Buffer (CuSeqlens × Nat) Nat}
    (ran : Launched [()] (config.cuLensStores batch) before after) (which : CuSeqlens)
    (inBuffer : index ≤ config.maxNumSeqs) : after (which, index) = config.cuContent batch (which, index) := by
  have agrees : Agrees [()] (config.cuLensStores batch) :=
    Agrees.of_content (config.cuContent batch) fun _ _ store stored => (mem_cuLensStores stored).2
  have stored : ⟨(which, index), config.cuContent batch (which, index)⟩ ∈ config.cuLensStores batch () := by
    rw [cuLensStores_eq]
    apply List.mem_flatMap.mpr
    refine ⟨index, List.mem_range.mpr (by omega), ?_⟩
    cases which
    · exact List.mem_cons_self
    · exact List.mem_cons_of_mem _ List.mem_cons_self
  exact ran.reads agrees (List.mem_singleton.mpr rfl) stored

theorem cuContent_k_succ (index : Nat) :
    config.cuContent batch (.k, index + 1) = config.cuContent batch (.k, index) + config.kLen batch index :=
  Finset.sum_range_succ _ _

theorem cuContent_q (ranges : BlockTables.TokenRanges batch.queryStartLoc batch.numReqs)
    (startsAtZero : batch.queryStartLoc 0 = 0) :
    config.cuContent batch (.q, index) = batch.queryStartLoc (min index batch.numReqs) := by
  induction index with
  | zero => rw [Nat.zero_min, startsAtZero]; rfl
  | succ index ih =>
    have next : config.cuContent batch (.q, index + 1) = config.cuContent batch (.q, index) + qLen batch index :=
      Finset.sum_range_succ _ _
    rw [next, ih, qLen]
    split
    next active =>
      rw [Nat.min_eq_left active.le, Nat.min_eq_left active, ContigBatch.queryLen]
      exact Nat.add_sub_of_le (ranges.mono index active)
    next inactive => rw [Nat.min_eq_right (by omega), Nat.min_eq_right (by omega), Nat.add_zero]

theorem kLen_le (req : Nat) : config.kLen batch req ≤ config.contigMaxKvWindow := by
  rw [kLen]
  split
  · exact min_le_right _ _
  · exact Nat.zero_le _

theorem cuContent_k_le (index : Nat) : config.cuContent batch (.k, index) ≤ index * config.contigMaxKvWindow := by
  calc config.cuContent batch (.k, index)
      ≤ ∑ _req ∈ Finset.range index, config.contigMaxKvWindow := Finset.sum_le_sum fun req _ => kLen_le req
    _ = index * config.contigMaxKvWindow := by rw [Finset.sum_const, Finset.card_range, smul_eq_mul]

theorem cuContent_k_all (inCapacity : batch.numReqs ≤ config.maxNumSeqs) :
    config.cuContent batch (.k, config.maxNumSeqs) =
      ∑ req ∈ Finset.range batch.numReqs, min (batch.seqLens req) config.contigMaxKvWindow := by
  calc config.cuContent batch (.k, config.maxNumSeqs)
      = ∑ req ∈ Finset.range batch.numReqs, config.kLen batch req :=
        (Finset.sum_subset (Finset.range_subset_range.mpr inCapacity) fun req _ inactive =>
          if_neg fun active => inactive (Finset.mem_range.mpr active)).symm
    _ = _ := Finset.sum_congr rfl fun req active => if_pos (Finset.mem_range.mp active)

theorem cuContent_k_row {count row : Nat} (isRow : row < config.cuContent batch (.k, count)) :
    ∃ req < count, ∃ offset < config.kLen batch req, config.cuContent batch (.k, req) + offset = row := by
  induction count with
  | zero => exact absurd isRow (Nat.not_lt_zero _)
  | succ count ih =>
    rw [cuContent_k_succ] at isRow
    rcases Nat.lt_or_ge row (config.cuContent batch (.k, count)) with below | above
    · obtain ⟨req, isReq, found⟩ := ih below
      exact ⟨req, isReq.trans (Nat.lt_succ_self _), found⟩
    · exact ⟨count, Nat.lt_succ_self _, row - config.cuContent batch (.k, count), by omega, by omega⟩

theorem kRanges : BlockTables.TokenRanges (fun index => config.cuContent batch (.k, index)) config.maxNumSeqs :=
  ⟨fun index _ => by
    rw [cuContent_k_succ]
    exact Nat.le_add_right _ _⟩

/-! ## The gather -/

section

variable {α β σ ν : Type} {cache : ContigCache α β σ}

def loaded (config : ContigConfig) (batch : ContigBatch) (cache : ContigCache α β σ) (side : CacheSide α σ)
    (req pos headIdx dim : Nat) : β :=
  cache.scaled side config.numKvHeads headIdx
    (side.cache (int32 (config.cachedAt batch side.toCacheStrides req pos headIdx dim)))

def gatherCell (config : ContigConfig) (batch : ContigBatch) (cache : ContigCache α β σ) (side : CacheSide α σ)
    (cu : Buffer (CuSeqlens × Nat) Nat) (req offset headIdx dim : Nat) : Store Int β :=
  ⟨int32 (config.outOffset (cu (.k, req) + offset) headIdx dim),
    loaded config batch cache side req (batch.seqLens req - config.kLen batch req + offset) headIdx dim⟩

theorem mem_gatherGrid {reqIdx tokBlock headDimBlock : Nat} :
    (reqIdx, tokBlock, headDimBlock) ∈ config.gatherGrid ↔ reqIdx < config.maxNumSeqs ∧
      tokBlock < cdiv config.contigMaxKvWindow 16 ∧ headDimBlock < config.numKvHeads * cdiv config.headSize 32 := by
  simp [gatherGrid]

theorem gatherStores_eq (side : CacheSide α σ) (cu : Buffer (CuSeqlens × Nat) Nat) (req tokBlock headDimBlock : Nat) :
    config.gatherStores batch cache side cu (req, tokBlock, headDimBlock) =
      (List.range 16).flatMap fun token => (List.range 32).filterMap fun dim =>
        let headIdx := headDimBlock / cdiv config.headSize 32
        let dimOffset := (headDimBlock - headIdx * cdiv config.headSize 32) * 32 + dim
        if tokBlock * 16 + token < config.kLen batch req ∧ dimOffset < config.headSize then
          some (gatherCell config batch cache side cu req (tokBlock * 16 + token) headIdx dimOffset)
        else none := by
  rw [gatherStores]
  by_cases active : req < batch.numReqs
  · simp only [active, decide_true, if_true, true_and, kLen, gatherCell, loaded, ContigCache.load,
      cachedAt, Nat.mod_eq_sub_div_mul]
  · simp only [active, decide_false, Bool.false_eq_true, false_and, if_false, kLen, Nat.not_lt_zero]

variable {side : CacheSide α σ} {cu : Buffer (CuSeqlens × Nat) Nat}

theorem gatherStores_cell {program : Nat × Nat × Nat}
    (inGrid : program ∈ config.gatherGrid) {store : Store Int β}
    (stored : store ∈ config.gatherStores batch cache side cu program) :
    ∃ req offset headIdx dim, req < config.maxNumSeqs ∧ offset < config.kLen batch req ∧
      headIdx < config.numKvHeads ∧ dim < config.headSize ∧
      store = gatherCell config batch cache side cu req offset headIdx dim := by
  obtain ⟨req, tokBlock, headDimBlock⟩ := program
  obtain ⟨isReq, -, isHead⟩ := mem_gatherGrid.mp inGrid
  rw [gatherStores_eq] at stored
  obtain ⟨token, -, stored⟩ := List.mem_flatMap.mp stored
  obtain ⟨dim, -, stored⟩ := List.mem_filterMap.mp stored
  dsimp only at stored
  split at stored
  next valid =>
    refine ⟨req, _, _, _, isReq, valid.1, ?_, valid.2, (Option.some.inj stored).symm⟩
    rw [Nat.mul_comm] at isHead
    exact Nat.div_lt_of_lt_mul isHead
  next => cases stored

variable {dim : Nat}

theorem gatherCell_stored (side : CacheSide α σ) (cu : Buffer (CuSeqlens × Nat) Nat)
    {req offset headIdx : Nat} (isReq : req < config.maxNumSeqs) (inWindow : offset < config.kLen batch req)
    (isHead : headIdx < config.numKvHeads) (isDim : dim < config.headSize) :
    ∃ program ∈ config.gatherGrid, gatherCell config batch cache side cu req offset headIdx dim ∈
      config.gatherStores batch cache side cu program := by
  have inBuffer := inWindow.trans_le (kLen_le req)
  have isBlock : dim / 32 < cdiv config.headSize 32 := by
    rw [lt_cdiv_iff (by omega)]
    omega
  have isHeadIdx : (headIdx * cdiv config.headSize 32 + dim / 32) / cdiv config.headSize 32 = headIdx := by
    rw [Nat.mul_comm, Nat.mul_add_div (by omega), Nat.div_eq_of_lt isBlock, Nat.add_zero]
  have isDimOffset : (headIdx * cdiv config.headSize 32 + dim / 32 - headIdx * cdiv config.headSize 32) * 32 +
      dim % 32 = dim := by omega
  have isOffset : offset / 16 * 16 + offset % 16 = offset := by omega
  refine ⟨(req, offset / 16, headIdx * cdiv config.headSize 32 + dim / 32), mem_gatherGrid.mpr ⟨isReq, ?_, ?_⟩, ?_⟩
  · rw [lt_cdiv_iff (by omega)]
    omega
  · exact flat_lt isHead isBlock
  · rw [gatherStores_eq]
    apply List.mem_flatMap.mpr
    refine ⟨offset % 16, List.mem_range.mpr (by omega), List.mem_filterMap.mpr
      ⟨dim % 32, List.mem_range.mpr (by omega), ?_⟩⟩
    rw [isHeadIdx]
    dsimp only
    rw [isDimOffset, isOffset, if_pos ⟨inWindow, isDim⟩]

theorem outOffset_inj {row other headIdx otherHead otherDim : Nat} (isHead : headIdx < config.numKvHeads)
    (isOtherHead : otherHead < config.numKvHeads) (isDim : dim < config.headSize)
    (isOtherDim : otherDim < config.headSize)
    (same : config.outOffset row headIdx dim = config.outOffset other otherHead otherDim) :
    row = other ∧ headIdx = otherHead ∧ dim = otherDim := by
  rw [outOffset, outOffset, ← Nat.add_mul, ← Nat.add_mul] at same
  obtain ⟨sameRow, sameDim⟩ := flat_inj isDim isOtherDim same
  obtain ⟨sameReq, sameHead⟩ := flat_inj isHead isOtherHead sameRow
  exact ⟨sameReq, sameHead, sameDim⟩

theorem outOffset_lt {rows row headIdx : Nat} (isRow : row < rows) (isHead : headIdx < config.numKvHeads)
    (isDim : dim < config.headSize) :
    config.outOffset row headIdx dim < rows * config.numKvHeads * config.headSize := by
  rw [outOffset, ← Nat.add_mul]
  exact flat_lt (flat_lt isRow isHead) isDim

theorem exists_outOffset {rows address : Nat} (isAddress : address < rows * config.numKvHeads * config.headSize) :
    ∃ row < rows, ∃ headIdx < config.numKvHeads, ∃ dim < config.headSize,
      config.outOffset row headIdx dim = address := by
  have isRow : address / config.headSize < rows * config.numKvHeads := Nat.div_lt_of_lt_mul (by rwa [Nat.mul_comm])
  refine ⟨address / config.headSize / config.numKvHeads, Nat.div_lt_of_lt_mul (by rwa [Nat.mul_comm]),
    address / config.headSize % config.numKvHeads, Nat.mod_lt _ (Nat.pos_of_ne_zero fun none => ?_),
    address % config.headSize, Nat.mod_lt _ (Nat.pos_of_ne_zero fun none => ?_), ?_⟩
  · rw [none, Nat.mul_zero] at isRow
    exact Nat.not_lt_zero _ isRow
  · rw [none, Nat.mul_zero] at isAddress
    exact Nat.not_lt_zero _ isAddress
  · rw [outOffset, ← Nat.add_mul, Nat.div_add_mod', Nat.div_add_mod']

section

variable (isCu : ∀ index ≤ config.maxNumSeqs, cu (.k, index) = config.cuContent batch (.k, index))
include isCu

theorem gatheredRow_lt {req offset : Nat} (isReq : req < config.maxNumSeqs)
    (inWindow : offset < config.kLen batch req) :
    cu (.k, req) + offset < config.cuContent batch (.k, config.maxNumSeqs) := by
  calc cu (.k, req) + offset
      < config.cuContent batch (.k, req + 1) := by
        rw [isCu _ isReq.le, cuContent_k_succ]
        omega
    _ ≤ config.cuContent batch (.k, config.maxNumSeqs) := kRanges.le isReq le_rfl

variable (fits : config.cuContent batch (.k, config.maxNumSeqs) * config.numKvHeads * config.headSize ≤ 2 ^ 31)
include fits

theorem int32_outOffset {req offset headIdx : Nat} (isReq : req < config.maxNumSeqs)
    (inWindow : offset < config.kLen batch req) (isHead : headIdx < config.numKvHeads)
    (isDim : dim < config.headSize) :
    int32 (config.outOffset (cu (.k, req) + offset) headIdx dim) =
      config.outOffset (cu (.k, req) + offset) headIdx dim :=
  int32_eq_iff.mpr ((outOffset_lt (gatheredRow_lt isCu isReq inWindow) isHead isDim).trans_le fits)

theorem gathered_element {before after : Buffer Int β}
    (ran : Launched config.gatherGrid (config.gatherStores batch cache side cu) before after)
    {req offset headIdx : Nat} (isReq : req < config.maxNumSeqs) (inWindow : offset < config.kLen batch req)
    (isHead : headIdx < config.numKvHeads) (isDim : dim < config.headSize) :
    after (config.outOffset (cu (.k, req) + offset) headIdx dim) =
      loaded config batch cache side req (batch.seqLens req - config.kLen batch req + offset) headIdx dim := by
  obtain ⟨program, inGrid, stored⟩ := gatherCell_stored side cu isReq inWindow isHead isDim
  rw [← int32_outOffset isCu fits isReq inWindow isHead isDim]
  apply ran.agreed inGrid stored
  intro other otherInGrid last lastStored same
  obtain ⟨otherReq, otherOffset, otherHead, otherDim, isOtherReq, inOther, isOtherHead, isOtherDim, rfl⟩ :=
    gatherStores_cell otherInGrid lastStored
  rw [gatherCell, gatherCell, int32_outOffset isCu fits isOtherReq inOther isOtherHead isOtherDim,
    int32_outOffset isCu fits isReq inWindow isHead isDim] at same
  obtain ⟨sameRow, rfl, rfl⟩ := outOffset_inj isOtherHead isHead isOtherDim isDim (Int.ofNat.inj same)
  rw [isCu _ isOtherReq.le, isCu _ isReq.le] at sameRow
  have isNext := @cuContent_k_succ config batch req
  have isOtherNext := @cuContent_k_succ config batch otherReq
  obtain rfl := @kRanges config batch |>.unique isOtherReq isReq (Nat.le_add_right _ otherOffset)
    (by omega) (by omega) (by omega)
  rw [Nat.add_left_cancel sameRow]

theorem gatherStores_inside
    {program : Nat × Nat × Nat} (inGrid : program ∈ config.gatherGrid) {store : Store Int β}
    (stored : store ∈ config.gatherStores batch cache side cu program) :
    0 ≤ store.address ∧ store.address < (config.contigMaxKvRows * config.numKvHeads * config.headSize : Nat) := by
  obtain ⟨req, offset, headIdx, dim, isReq, inWindow, isHead, isDim, rfl⟩ := gatherStores_cell inGrid stored
  have isRow : cu (.k, req) + offset < config.contigMaxKvRows := by
    calc cu (.k, req) + offset
        < config.cuContent batch (.k, config.maxNumSeqs) := gatheredRow_lt isCu isReq inWindow
      _ ≤ config.maxNumSeqs * config.contigMaxKvWindow := cuContent_k_le _
      _ ≤ config.contigMaxKvRows := le_max_left _ _
  rw [gatherCell, int32_outOffset isCu fits isReq inWindow isHead isDim]
  exact ⟨Int.natCast_nonneg _, Int.ofNat_lt.mpr (outOffset_lt isRow isHead isDim)⟩

end

/-- Where more is gathered, an element of it is stored before the buffer. -/
theorem gathered_le {side : CacheSide α σ}
    (isCu : ∀ index ≤ config.maxNumSeqs, cu (.k, index) = config.cuContent batch (.k, index))
    (inside : ∀ program ∈ config.gatherGrid, ∀ store ∈ config.gatherStores batch cache side cu program,
      0 ≤ store.address) :
    config.cuContent batch (.k, config.maxNumSeqs) * config.numKvHeads * config.headSize ≤ 2 ^ 31 := by
  by_contra wraps
  obtain ⟨row, isRow, headIdx, isHead, dim, isDim, isAddress⟩ := exists_outOffset (not_le.mp wraps)
  obtain ⟨req, isReq, offset, inWindow, rfl⟩ := cuContent_k_row isRow
  obtain ⟨program, inGrid, stored⟩ := gatherCell_stored side cu isReq inWindow isHead isDim
  have isBefore := inside program inGrid _ stored
  rw [gatherCell, isCu _ isReq.le, isAddress] at isBefore
  exact absurd int32_first (not_lt.mpr isBefore)

end

/-! ## The window -/

theorem flatMap_range_single {γ : Type} {rows : Nat → List γ} {count : Nat} (inRange : index < count)
    (others : ∀ other < count, other ≠ index → rows other = []) : (List.range count).flatMap rows = rows index := by
  induction count with
  | zero => exact absurd inRange (Nat.not_lt_zero _)
  | succ count ih =>
    rw [List.range_succ, List.flatMap_append, List.flatMap_singleton]
    rcases Nat.lt_succ_iff_lt_or_eq.mp inRange with below | rfl
    · rw [ih below fun other isOther => others other (by omega), others count (by omega) (by omega),
        List.append_nil]
    · have empty : (List.range index).flatMap rows = [] :=
        List.flatMap_eq_nil_iff.mpr fun other isOther =>
          others other (by have := List.mem_range.mp isOther; omega) (List.mem_range.mp isOther).ne
      rw [empty, List.nil_append]

theorem windowPositions_eq {seqLen keys queries query : Nat} (isLast : keys ≤ seqLen) (queriesCached : queries ≤ seqLen)
    (outside : ∀ key < seqLen - keys, key + config.windowLeft < seqLen - queries + query) :
    config.windowPositions seqLen (seqLen - queries + query) =
      ((List.range keys).filter fun (key : Nat) =>
        decide (|(key : Int) - ((query : Int) + keys - queries)| ≤ config.windowLeft)).map (seqLen - keys + ·) := by
  have split : List.range seqLen = List.range (seqLen - keys) ++ (List.range keys).map (seqLen - keys + ·) := by
    rw [← List.range_add, Nat.sub_add_cancel isLast]
  have none : (List.range (seqLen - keys)).filter (fun (key : Nat) =>
      decide (|(key : Int) - ((seqLen - queries + query : Nat) : Int)| ≤ config.windowLeft)) = [] := by
    apply List.filter_eq_nil_iff.mpr
    intro key isKey inWindow
    have far := outside key (List.mem_range.mp isKey)
    have near := (abs_le.mp (of_decide_eq_true inWindow)).1
    omega
  rw [windowPositions, split, List.filter_append, none, List.nil_append, List.filter_map]
  congr 1
  apply List.filter_congr
  intro key _
  have same : ((seqLen - keys + key : Nat) : Int) - ((seqLen - queries + query : Nat) : Int) =
      (key : Int) - ((query : Int) + keys - queries) := by omega
  simp only [Function.comp, same]

section

variable {α β σ ν : Type} {cache : ContigCache α β σ}

theorem outside_window {req query : Nat} (active : req < batch.numReqs)
    (shortQuery : batch.queryLen req ≤ config.contigQPerReq)
    (inModel : batch.seqLens req ≤ config.maxModelLen + config.contigQPerReq) (key : Nat)
    (isOld : key < batch.seqLens req - config.kLen batch req) :
    key + config.windowLeft < batch.seqLens req - batch.queryLen req + query := by
  rw [kLen, if_pos active, contigMaxKvWindow] at isOld
  rw [contigQPerReq] at *
  omega

theorem varlenKeyRows_eq {cu : Buffer (CuSeqlens × Nat) Nat}
    (isCu : ∀ which, ∀ index ≤ config.maxNumSeqs, cu (which, index) = config.cuContent batch (which, index))
    (ranges : BlockTables.TokenRanges batch.queryStartLoc batch.numReqs) (startsAtZero : batch.queryStartLoc 0 = 0)
    (inCapacity : batch.numReqs ≤ config.maxNumSeqs) {req token : Nat} (active : req < batch.numReqs)
    (above : batch.queryStartLoc req ≤ token) (below : token < batch.queryStartLoc (req + 1)) :
    config.varlenKeyRows cu token =
      ((List.range (config.kLen batch req)).filter fun (key : Nat) =>
        decide (|(key : Int) - (((token - batch.queryStartLoc req : Nat) : Int) + config.kLen batch req -
          batch.queryLen req)| ≤ config.windowLeft)).map (cu (.k, req) + ·) := by
  have isQuery : ∀ index ≤ config.maxNumSeqs, cu (.q, index) = batch.queryStartLoc (min index batch.numReqs) := by
    intro index inBuffer
    rw [isCu _ _ inBuffer, cuContent_q ranges startsAtZero]
  have isStart : cu (.q, req) = batch.queryStartLoc req := by
    rw [isQuery _ (by omega), Nat.min_eq_left active.le]
  have isEnd : cu (.q, req + 1) = batch.queryStartLoc (req + 1) := by
    rw [isQuery _ (by omega), Nat.min_eq_left active]
  have isKeys : cu (.k, req + 1) - cu (.k, req) = config.kLen batch req := by
    rw [isCu _ _ (by omega), isCu _ _ (by omega), cuContent_k_succ, Nat.add_sub_cancel_left]
  rw [varlenKeyRows, flatMap_range_single (active.trans_le inCapacity)]
  · dsimp only
    rw [isStart, isEnd, isKeys, if_pos ⟨above, below⟩, ContigBatch.queryLen]
  · intro other isOther notReq
    apply if_neg
    intro inOther
    rw [isQuery _ isOther.le, isQuery _ isOther] at inOther
    rcases Nat.lt_or_ge other batch.numReqs with isActive | inactive
    · rw [Nat.min_eq_left isActive.le, Nat.min_eq_left isActive] at inOther
      exact notReq (ranges.unique isActive active inOther.1 inOther.2 above below)
    · rw [Nat.min_eq_right inactive, Nat.min_eq_right (by omega)] at inOther
      omega

theorem checkCapacity_ok (accepted : config.checkCapacity batch = .ok ()) :
    batch.numReqs ≤ config.maxNumSeqs ∧ batch.numActualTokens ≤ config.contigMaxQRows := by
  rw [checkCapacity] at accepted
  split at accepted
  next => cases accepted
  next fits =>
  dsimp only at accepted
  split at accepted
  next => cases accepted
  next rows => exact ⟨not_lt.mp fits, not_lt.mp rows⟩

section

variable {query : Nat → ν} {before after : ContigWorkspace β ν}

theorem Launches.cu (ran : config.Launches batch cache query before after) (which : CuSeqlens) (index : Nat)
    (inBuffer : index ≤ config.maxNumSeqs) : after.cu (which, index) = config.cuContent batch (which, index) :=
  cuLens_eq ran.cuLens which inBuffer

variable (ran : config.Launches batch cache query before after)
  (inCapacity : batch.numReqs ≤ config.maxNumSeqs)
  (fits : config.cuContent batch (.k, config.maxNumSeqs) * config.numKvHeads * config.headSize ≤ 2 ^ 31)
  (ranges : BlockTables.TokenRanges batch.queryStartLoc batch.numReqs) (startsAtZero : batch.queryStartLoc 0 = 0)
  (queries : ∀ req < batch.numReqs, batch.queryLen req ≤ config.contigQPerReq)
  (lengths : ∀ req < batch.numReqs, batch.queryLen req ≤ batch.seqLens req ∧
    batch.seqLens req ≤ config.maxModelLen + config.contigQPerReq)
include ran inCapacity fits ranges startsAtZero queries lengths

/-- A query token attends to what the gather read for the positions of its window, each in its place. -/
theorem varlenKeyRows_loaded {req token headIdx dim : Nat} (active : req < batch.numReqs)
    (above : batch.queryStartLoc req ≤ token) (below : token < batch.queryStartLoc (req + 1))
    (isHead : headIdx < config.numKvHeads) (isDim : dim < config.headSize) :
    (config.varlenKeyRows after.cu token).map (fun row =>
        (after.kBuf (config.outOffset row headIdx dim), after.vBuf (config.outOffset row headIdx dim))) =
      (config.windowPositions (batch.seqLens req) (batch.position req token)).map fun pos =>
        (loaded config batch cache cache.keys req pos headIdx dim,
          loaded config batch cache cache.values req pos headIdx dim) := by
  have isReq := active.trans_le inCapacity
  have keysLe : config.kLen batch req ≤ batch.seqLens req := by
    rw [kLen, if_pos active]
    exact min_le_left _ _
  rw [varlenKeyRows_eq ran.cu ranges startsAtZero inCapacity active above below, ContigBatch.position,
    windowPositions_eq keysLe (lengths req active).1
      fun key => outside_window active (queries req active) (lengths req active).2 key,
    List.map_map, List.map_map]
  apply List.map_congr_left
  intro key isKey
  have inWindow := List.mem_range.mp (List.mem_of_mem_filter isKey)
  exact Prod.ext (gathered_element (ran.cu .k) fits ran.keys isReq inWindow isHead isDim)
    (gathered_element (ran.cu .k) fits ran.values isReq inWindow isHead isDim)

theorem Launches.attends (rows : batch.numActualTokens ≤ config.contigMaxQRows)
    (reads : config.FitsInt32 batch cache.layout) : config.Attends batch cache query after := by
  have isQ : ∀ index, config.cuContent batch (.q, index + 1) = config.cuContent batch (.q, index) + qLen batch index :=
    fun index => Finset.sum_range_succ _ _
  constructor
  · intro token isToken
    rw [ran.queries, if_pos isToken]
  · intro req active token above below headIdx isHead dim isDim
    rw [varlenKeyRows_loaded ran inCapacity fits ranges startsAtZero queries lengths active above below isHead isDim]
    apply List.map_congr_left
    intro pos inWindow
    obtain ⟨isKey, isValue⟩ := reads.reads req active token above below pos inWindow headIdx isHead dim isDim
    rw [ContigCache.layout] at isKey isValue
    rw [loaded, loaded, cached, cached, int32_eq_iff.mpr isKey, int32_eq_iff.mpr isValue]
  · intro req isReq
    rw [ran.cu _ _ isReq, ran.cu _ _ isReq.le, ran.cu _ _ isReq, ran.cu _ _ isReq.le, isQ, cuContent_k_succ,
      Nat.add_sub_cancel_left, Nat.add_sub_cancel_left]
    refine ⟨?_, kLen_le req⟩
    rw [qLen]
    split
    next active => exact queries req active
    next => exact Nat.zero_le _
  · exact rows
  · intro store stored
    exact (mem_cuLensStores stored).1
  · intro side program inGrid store stored
    exact gatherStores_inside (ran.cu .k) fits inGrid stored

end

def addressed (layout : CacheLayout) : ContigCache Int Int Unit where
  keys := { layout.keys with cache := id, scale := fun _ => (), scaleNumel := 1 }
  values := { layout.values with cache := id, scale := fun _ => (), scaleNumel := 1 }
  hasFp8Kv := false
  asStored element _ := element

theorem addressed_loaded (layout : CacheLayout) (side : CacheSide Int Unit) (isCache : side.cache = id)
    {req pos headIdx dim : Nat}
    (same : loaded config batch (addressed layout) side req pos headIdx dim =
      config.cached batch (addressed layout) side req pos headIdx dim) :
    config.cachedAt batch side.toCacheStrides req pos headIdx dim < 2 ^ 31 := by
  have isScaled : ∀ element, (addressed layout).scaled side config.numKvHeads headIdx element = element := fun _ => rfl
  rw [loaded, cached, isScaled, isScaled, isCache, id, id] at same
  exact int32_eq_iff.mp same

end

section

variable {layout : CacheLayout} (accepted : config.checkCapacity batch = .ok ())
  (ranges : BlockTables.TokenRanges batch.queryStartLoc batch.numReqs) (startsAtZero : batch.queryStartLoc 0 = 0)
  (queries : ∀ req < batch.numReqs, batch.queryLen req ≤ config.contigQPerReq)
  (lengths : ∀ req < batch.numReqs, batch.queryLen req ≤ batch.seqLens req ∧
    batch.seqLens req ≤ config.maxModelLen + config.contigQPerReq)
include accepted ranges startsAtZero queries lengths

theorem AttendsAlways.fitsInt32 (attends : config.AttendsAlways batch layout) (isBatch : batch.numActualTokens ≠ 0) :
    config.FitsInt32 batch layout := by
  obtain ⟨inCapacity, -⟩ := checkCapacity_ok accepted
  have gathered := config.gathered_gather batch (addressed layout) id ⟨id, id, id, fun _ => 0⟩ accepted
  have result := attends _ _ _ _ (addressed layout) id _ _ rfl gathered
  have ran := gathered.launches
  rw [if_neg isBatch] at result ran
  have fits := gathered_le (ran.cu .k) fun program inGrid store stored =>
    (result.gatherInside (addressed layout).keys program inGrid store stored).1
  constructor
  · rwa [cuContent_k_all inCapacity] at fits
  · intro req active token above below pos inWindow headIdx isHead dim isDim
    have same := result.attends req active token above below headIdx isHead dim isDim
    rw [varlenKeyRows_loaded ran inCapacity fits ranges startsAtZero queries lengths active above below isHead
      isDim] at same
    obtain ⟨isKey, isValue⟩ := Prod.ext_iff.mp (List.map_inj_left.mp same pos inWindow)
    have keyBelow := addressed_loaded layout (addressed layout).keys rfl isKey
    have valueBelow := addressed_loaded layout (addressed layout).values rfl isValue
    exact ⟨keyBelow, valueBelow⟩

/-- The contiguous path attends as the paged one would where the offsets of the gather fit `int32`. -/
theorem attendsAlways_iff :
    config.AttendsAlways batch layout ↔ (batch.numActualTokens ≠ 0 → config.FitsInt32 batch layout) := by
  obtain ⟨inCapacity, rows⟩ := checkCapacity_ok accepted
  constructor
  · exact AttendsAlways.fitsInt32 accepted ranges startsAtZero queries lengths
  · intro fits α β σ ν cache query before after isLayout gathered
    have launches := gathered.launches
    split
    next isEmpty => rwa [if_pos isEmpty] at launches
    next isBatch =>
      rw [if_neg isBatch] at launches
      subst isLayout
      have gatheredFits := (fits isBatch).rows
      rw [← cuContent_k_all inCapacity] at gatheredFits
      exact launches.attends inCapacity gatheredFits ranges startsAtZero queries lengths rows (fits isBatch)

end

/-- A window of 71 keys on both sides, with two draft tokens. -/
private def draftConfig : ContigConfig where
  maxModelLen := 200
  numSpeculativeTokens := 2
  windowLeft := 70
  maxNumSeqs := 4
  numKvHeads := 2
  headSize := 64
  pageSize := 64
  pageSize_pos := Nat.succ_pos _

/-- A request longer than the window and a short one. -/
private def draftBatch : ContigBatch where
  metadataTokens := 6
  queryRows := 6
  outputRows := 6
  maxQueryLen := 3
  numReqs := 2
  queryStartLoc req := 3 * req
  seqLens req := if req = 0 then 150 else 10
  blockTable index := index + 7
  blockTableStride := 4

/-- Pages of keys and of values in turn. -/
private def draftStrides : CacheStrides := ⟨16384, 128, 64, 1, by decide⟩

theorem draftBatch_attends : draftConfig.AttendsAlways draftBatch ⟨draftStrides, draftStrides⟩ := by
  refine (attendsAlways_iff rfl ⟨fun req _ => Nat.mul_le_mul_left 3 (Nat.le_succ req)⟩ rfl (by decide)
    (by decide)).mpr fun _ => ⟨by decide, ?_⟩
  intro req active token _ _ pos inWindow headIdx isHead dim isDim
  have isPos := List.mem_range.mp (List.mem_of_mem_filter inWindow)
  simp only [draftConfig, draftBatch, draftStrides, cachedAt, CacheStrides.offset] at *
  split at isPos <;> omega

/-- Pages of 128 slots, of eight heads of 128 dimensions. -/
private def largeConfig : ContigConfig where
  maxModelLen := 4096
  numSpeculativeTokens := 2
  windowLeft := 70
  maxNumSeqs := 4
  numKvHeads := 8
  headSize := 128
  pageSize := 128
  pageSize_pos := Nat.succ_pos _

/-- One request of three query tokens, in the block 8192. -/
private def largeBatch : ContigBatch where
  metadataTokens := 3
  queryRows := 3
  outputRows := 3
  maxQueryLen := 3
  numReqs := 1
  queryStartLoc req := 3 * req
  seqLens _ := 3
  blockTable _ := 8192
  blockTableStride := 32

/-- Each block has a page of keys and a page of values. -/
private def largeStrides : CacheStrides := ⟨2 * 128 * 8 * 128, 8 * 128, 128, 1, by decide⟩

/-- The offset of the block is `2 ^ 31`. -/
theorem largeBatch_wraps : ¬largeConfig.AttendsAlways largeBatch ⟨largeStrides, largeStrides⟩ := by
  intro attends
  have fits := attends.fitsInt32 rfl ⟨fun req _ => Nat.mul_le_mul_left 3 (Nat.le_succ req)⟩ rfl (by decide)
    (by decide) (by decide)
  exact absurd (fits.reads 0 (by decide) 0 (by decide) (by decide) 0 (by decide) 0 (by decide) 0 (by decide)).1
    (by decide)

end ContigConfig

end DeepSpark
