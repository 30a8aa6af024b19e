import DeepSpark.BlockPool.Invariant
import DeepSpark.Coordinator.Spec

/-!
`find_longest_cache_hit` of the single-type managers.

Owns the full-attention, sliding-window and Mamba lookups of
`v1/core/single_type_kv_cache_manager.py`, and one specification for all of
them: the returned length is aligned and within the bound, and every block the
next token needs was found in the pool under the request's hash.

The source returns one list of blocks per group and edits all of them alike;
here one list of rows stands for them. A row is the cached block of every group
at that index, or none for the null block in every group.
-/

namespace DeepSpark

open Lib

/-- The entries of `computed_blocks` at one index. -/
abbrev HitRow := Option (List BlockId)

/-- `while block_size != alignment_tokens and len(...) % ... != 0: pop()`; the
fuel is the number of rows. -/
def popUnaligned (blockSize alignmentTokens : Nat) : Nat → List HitRow → List HitRow
  | 0, rows => rows
  | fuel + 1, rows =>
    if blockSize ≠ alignmentTokens ∧ rows.length * blockSize % alignmentTokens ≠ 0 then
      popUnaligned blockSize alignmentTokens fuel rows.dropLast
    else rows

variable {rows : List HitRow} {index maxLength : Nat} {spec : KVCacheSpec} {dropEagleBlock : Bool}

section

variable (blockHashes : BlockHashList) (kvCacheGroupIds : List Nat) (pool : BlockPool)

/-- `block_pool.get_cached_block(block_hashes[i], kv_cache_group_ids)`. -/
def cachedAt (index : Nat) : Except PyError (Option (List BlockId)) := do
  pool.getCachedBlock (← blockHashes.getItem index) kvCacheGroupIds

/-- The scan of `FullAttentionManager`, left to right until the first miss. -/
def scanPrefix : Nat → Nat → Except PyError (List HitRow)
  | 0, _ => .ok []
  | count + 1, index => do
      match ← cachedAt blockHashes kvCacheGroupIds pool index with
      | none => .ok []
      | some row => do
          let rest ← scanPrefix count (index + 1)
          .ok (some row :: rest)

/-- `FullAttentionManager.find_longest_cache_hit`. `islice` stops at the end of
the hashes. -/
def FullAttentionManager.findLongestCacheHit (maxLength blockSize : Nat) (dropEagleBlock : Bool)
    (alignmentTokens : Nat) : Except PyError (List HitRow) := do
  let maxNumBlocks := maxLength / blockSize
  let computed ← scanPrefix blockHashes kvCacheGroupIds pool
    (min maxNumBlocks blockHashes.length) 0
  let computed := if dropEagleBlock then computed.dropLast else computed
  .ok (popUnaligned blockSize alignmentTokens computed.length computed)

def contiguousBlocksForHit (windowSize blockSize : Nat) (useEagle : Bool) : Nat :=
  (windowSize - 1 + blockSize - 1) / blockSize + if useEagle then 1 else 0

/-- The scan of `SlidingWindowManager`, right to left from below `index`:
whether a match was found, the rows, and the length of the current run. -/
def scanWindow (blockSize needed : Nat) (dropEagleBlock : Bool) (alignmentTokens : Nat) :
    Nat → List HitRow → Nat → Except PyError (Bool × List HitRow × Nat)
  | 0, rows, numContiguousBlocks => .ok (false, rows, numContiguousBlocks)
  | index + 1, rows, numContiguousBlocks => do
      match ← cachedAt blockHashes kvCacheGroupIds pool index with
      | none => scanWindow blockSize needed dropEagleBlock alignmentTokens index rows 0
      | some row =>
        let postPopBlocks := if dropEagleBlock then index else index + 1
        if numContiguousBlocks = 0 ∧ blockSize ≠ alignmentTokens ∧
            postPopBlocks * blockSize % alignmentTokens ≠ 0 then
          scanWindow blockSize needed dropEagleBlock alignmentTokens index rows
            numContiguousBlocks
        else
          let rows := rows.set index (some row)
          let run := numContiguousBlocks + 1
          if run ≥ needed then .ok (true, rows.take (index + run), run)
          else scanWindow blockSize needed dropEagleBlock alignmentTokens index rows run

def SlidingWindowManager.findLongestCacheHit (slidingWindow maxLength blockSize : Nat)
    (dropEagleBlock : Bool) (alignmentTokens : Nat) : Except PyError (List HitRow) := do
  let needed := contiguousBlocksForHit slidingWindow blockSize dropEagleBlock
  let maxNumBlocks := maxLength / blockSize
  let (matchFound, computed, numContiguousBlocks) ←
    scanWindow blockHashes kvCacheGroupIds pool blockSize needed dropEagleBlock alignmentTokens
      maxNumBlocks (List.replicate maxNumBlocks none) 0
  let computed :=
    if matchFound then computed
    else
      let computed := computed.take numContiguousBlocks
      popUnaligned blockSize alignmentTokens computed.length computed
  if dropEagleBlock ∧ computed ≠ [] then
    let computed := computed.dropLast
    .ok (popUnaligned blockSize alignmentTokens computed.length computed)
  else .ok computed

/-- The scan of `MambaManager`, right to left to the last aligned cached
state. -/
def scanState (blockSize alignmentTokens : Nat) : Nat → Except PyError (List HitRow)
  | 0 => .ok []
  | index + 1 => do
      match ← cachedAt blockHashes kvCacheGroupIds pool index with
      | none => scanState blockSize alignmentTokens index
      | some row =>
        if blockSize ≠ alignmentTokens ∧ (index + 1) * blockSize % alignmentTokens ≠ 0 then
          scanState blockSize alignmentTokens index
        else .ok (List.replicate index none ++ [some row])

/-- `MambaManager.find_longest_cache_hit`. It has no use for
`drop_eagle_block`. -/
def MambaManager.findLongestCacheHit (maxLength blockSize alignmentTokens : Nat) :
    Except PyError (List HitRow) :=
  scanState blockHashes kvCacheGroupIds pool blockSize alignmentTokens (maxLength / blockSize)

def ChunkedLocalAttentionManager.findLongestCacheHit (attentionChunkSize maxLength blockSize : Nat)
    (dropEagleBlock : Bool) (alignmentTokens : Nat) : Except PyError (List HitRow) := do
  pyAssert (!dropEagleBlock) "Hybrid KV cache is not supported for eagle + chunked local attention."
  pyAssert (blockSize = alignmentTokens)
    ("KV cache groups with different block sizes are not compatible with " ++
      "chunked local attention now")
  let maxNumBlocks := maxLength / blockSize
  let localAttentionStartIdx := maxLength / attentionChunkSize * attentionChunkSize
  let localAttentionStartBlockIdx := localAttentionStartIdx / blockSize
  let rest ← scanPrefix blockHashes kvCacheGroupIds pool
    (maxNumBlocks - localAttentionStartBlockIdx) localAttentionStartBlockIdx
  .ok (List.replicate localAttentionStartBlockIdx none ++ rest)

/-- `manager_cls.find_longest_cache_hit` for the manager class of a spec. -/
def KVCacheSpec.findLongestCacheHit (spec : KVCacheSpec) (maxLength : Nat) (dropEagleBlock : Bool)
    (alignmentTokens : Nat) : Except PyError (List HitRow) :=
  match spec.kind with
  | .fullAttention => FullAttentionManager.findLongestCacheHit blockHashes kvCacheGroupIds pool
      maxLength spec.blockSize dropEagleBlock alignmentTokens
  | .slidingWindow window => SlidingWindowManager.findLongestCacheHit blockHashes kvCacheGroupIds
      pool window maxLength spec.blockSize dropEagleBlock alignmentTokens
  | .chunkedLocal chunk => ChunkedLocalAttentionManager.findLongestCacheHit blockHashes
      kvCacheGroupIds pool chunk maxLength spec.blockSize dropEagleBlock alignmentTokens
  | .mamba _ _ => MambaManager.findLongestCacheHit blockHashes kvCacheGroupIds pool maxLength
      spec.blockSize alignmentTokens

/-! ## What a lookup guarantees -/

def Hit (rows : List HitRow) (index : Nat) : Prop :=
  ∃ row, rows[index]? = some (some row) ∧
    cachedAt blockHashes kvCacheGroupIds pool index = .ok (some row)

variable {blockHashes kvCacheGroupIds pool}

theorem Hit.take {count : Nat} (below : index < count)
    (hit : Hit blockHashes kvCacheGroupIds pool rows index) :
    Hit blockHashes kvCacheGroupIds pool (rows.take count) index := by
  obtain ⟨row, read, cached⟩ := hit
  exact ⟨row, by rw [List.getElem?_take_of_lt below, read], cached⟩

theorem popUnaligned_eq_take (blockSize alignmentTokens : Nat) {fuel : Nat}
    (enough : rows.length ≤ fuel) :
    ∃ count ≤ rows.length, popUnaligned blockSize alignmentTokens fuel rows = rows.take count ∧
      alignmentTokens ∣ count * blockSize := by
  induction fuel generalizing rows with
  | zero =>
    have empty : rows = [] := List.length_eq_zero_iff.mp (by omega)
    exact ⟨0, by simp, by simp [popUnaligned, empty], by simp⟩
  | succ fuel ih =>
    rw [popUnaligned]
    split
    next unaligned =>
      have shorter : rows.dropLast.length ≤ fuel := by
        rw [List.length_dropLast]
        omega
      obtain ⟨count, le, popped, aligned⟩ := ih shorter
      rw [List.length_dropLast] at le
      refine ⟨count, by omega, ?_, aligned⟩
      rw [popped, List.dropLast_eq_take, List.take_take, Nat.min_eq_left le]
    next stop =>
      refine ⟨rows.length, le_rfl, (List.take_length).symm, ?_⟩
      by_cases same : blockSize = alignmentTokens
      · rw [same]
        exact Nat.dvd_mul_left _ _
      · exact Nat.dvd_of_mod_eq_zero (by
          by_contra notZero
          exact stop ⟨same, notZero⟩)

theorem popUnaligned_of_aligned {blockSize alignmentTokens fuel : Nat}
    (aligned : alignmentTokens ∣ rows.length * blockSize) :
    popUnaligned blockSize alignmentTokens fuel rows = rows := by
  cases fuel with
  | zero => rfl
  | succ fuel =>
    rw [popUnaligned, if_neg]
    exact fun both => both.2 (Nat.mod_eq_zero_of_dvd aligned)

theorem scanPrefix_hits {count : Nat}
    (ran : scanPrefix blockHashes kvCacheGroupIds pool count index = .ok rows) :
    rows.length ≤ count ∧ ∀ offset < rows.length, ∃ row, rows[offset]? = some (some row) ∧
      cachedAt blockHashes kvCacheGroupIds pool (index + offset) = .ok (some row) := by
  induction count generalizing index rows with
  | zero =>
    cases ran
    simp
  | succ count ih =>
    rw [scanPrefix] at ran
    obtain ⟨found, read, ran⟩ := bind_eq_ok.mp ran
    cases found with
    | none =>
      cases ran
      simp
    | some row =>
      obtain ⟨rest, ranRest, ran⟩ := bind_eq_ok.mp ran
      cases ran
      obtain ⟨short, hits⟩ := ih ranRest
      refine ⟨by simpa using short, ?_⟩
      intro offset below
      cases offset with
      | zero => exact ⟨row, rfl, read⟩
      | succ offset =>
        obtain ⟨other, otherRead, cached⟩ := hits offset (by simpa using below)
        refine ⟨other, by simpa using otherRead, ?_⟩
        rw [← cached]
        congr 1
        omega

/-- What the loop of the hybrid coordinator relies on: an aligned length within
the bound, after an EAGLE drop one block short of it and followed by a cached
block, and a hit wherever the next token needs a block. -/
structure LookupSpec (blockHashes : BlockHashList) (kvCacheGroupIds : List Nat) (pool : BlockPool)
    (spec : KVCacheSpec) (maxLength : Nat) (dropEagleBlock : Bool) (alignmentTokens : Nat)
    (rows : List HitRow) : Prop where
  aligned : alignmentTokens ∣ rows.length * spec.blockSize
  bound : rows.length * spec.blockSize ≤ maxLength
  dropped : dropEagleBlock = true → spec.isMamba = false → rows ≠ [] →
    (rows.length + 1) * spec.blockSize ≤ maxLength
  lookAhead : dropEagleBlock = true → spec.isMamba = false → rows ≠ [] →
    ∃ row, cachedAt blockHashes kvCacheGroupIds pool rows.length = .ok (some row)
  hits : ∀ index < rows.length,
    spec.kind.getNumSkippedTokens (rows.length * spec.blockSize : Nat) / spec.blockSize ≤ index →
      Hit blockHashes kvCacheGroupIds pool rows index
  allHits : spec.isFullAttention = true → ∀ index < rows.length,
    Hit blockHashes kvCacheGroupIds pool rows index

theorem FullAttentionManager.findLongestCacheHit_spec {alignmentTokens : Nat}
    (ran : FullAttentionManager.findLongestCacheHit blockHashes kvCacheGroupIds pool maxLength
      spec.blockSize dropEagleBlock alignmentTokens = .ok rows) :
    LookupSpec blockHashes kvCacheGroupIds pool spec maxLength dropEagleBlock alignmentTokens
      rows := by
  obtain ⟨scanned, scan, ran⟩ := bind_eq_ok.mp ran
  obtain ⟨short, scanHits⟩ := scanPrefix_hits scan
  have scanBound : scanned.length * spec.blockSize ≤ maxLength :=
    (Nat.mul_le_mul_right _ (short.trans (Nat.min_le_left _ _))).trans (Nat.div_mul_le_self _ _)
  set kept := if dropEagleBlock then scanned.dropLast else scanned with keptDef
  have keptTake : ∃ count, kept = scanned.take count ∧
      (dropEagleBlock = true → scanned.take count ≠ [] → (scanned.take count).length + 1 ≤
        scanned.length) := by
    cases dropEagleBlock with
    | true =>
      refine ⟨scanned.length - 1, by rw [keptDef, if_pos rfl, List.dropLast_eq_take], ?_⟩
      intro _ nonempty
      have positive := List.length_pos_iff.mpr nonempty
      rw [List.length_take] at positive ⊢
      omega
    | false => exact ⟨scanned.length, by simp [keptDef], by simp⟩
  obtain ⟨front, keptEq, dropBound⟩ := keptTake
  obtain ⟨count, le, popped, aligned⟩ := popUnaligned_eq_take spec.blockSize alignmentTokens
    (le_refl kept.length)
  have rowsEq : rows = kept.take count := by
    rw [← popped]
    exact (Except.ok.inj ran).symm
  have rowsLength : rows.length = count := by
    rw [rowsEq, List.length_take, Nat.min_eq_left le]
  have allHits : ∀ index < rows.length, Hit blockHashes kvCacheGroupIds pool rows index := by
    intro index below
    rw [rowsEq, keptEq] at below ⊢
    have inside : index < scanned.length := by
      rw [List.length_take, List.length_take] at below
      omega
    obtain ⟨row, read, cached⟩ := scanHits index inside
    rw [Nat.zero_add] at cached
    rw [List.length_take, List.length_take] at below
    exact Hit.take (by omega) (Hit.take (by omega) ⟨row, read, cached⟩)
  have shorter : dropEagleBlock = true → rows ≠ [] → rows.length + 1 ≤ scanned.length := by
    intro isDropped nonempty
    have keptNonempty : scanned.take front ≠ [] := by
      intro empty
      rw [rowsEq, keptEq, empty] at nonempty
      simp at nonempty
    have bound := dropBound isDropped keptNonempty
    rw [← keptEq] at bound
    omega
  refine ⟨by rw [rowsLength]; exact aligned, ?_, ?_, ?_, fun index below _ => allHits index below,
    fun _ => allHits⟩
  · refine le_trans (Nat.mul_le_mul_right _ ?_) scanBound
    rw [rowsLength]
    refine le.trans ?_
    rw [keptEq]
    exact List.length_take_le' _ _
  · intro isDropped _ nonempty
    exact le_trans (Nat.mul_le_mul_right _ (shorter isDropped nonempty)) scanBound
  · intro isDropped _ nonempty
    obtain ⟨row, -, cached⟩ := scanHits rows.length (shorter isDropped nonempty)
    rw [Nat.zero_add] at cached
    exact ⟨row, cached⟩

theorem scanState_eq {blockSize alignmentTokens count : Nat}
    (ran : scanState blockHashes kvCacheGroupIds pool blockSize alignmentTokens count = .ok rows) :
    rows = [] ∨ ∃ index < count, ∃ row, rows = List.replicate index none ++ [some row] ∧
      cachedAt blockHashes kvCacheGroupIds pool index = .ok (some row) ∧
      alignmentTokens ∣ (index + 1) * blockSize := by
  induction count with
  | zero =>
    cases ran
    exact Or.inl rfl
  | succ index ih =>
    rw [scanState] at ran
    obtain ⟨found, read, ran⟩ := bind_eq_ok.mp ran
    cases found with
    | none =>
      rcases ih ran with empty | ⟨other, below, rest⟩
      · exact Or.inl empty
      · exact Or.inr ⟨other, Nat.lt_succ_of_lt below, rest⟩
    | some row =>
      dsimp only at ran
      split at ran
      next =>
        rcases ih ran with empty | ⟨other, below, rest⟩
        · exact Or.inl empty
        · exact Or.inr ⟨other, Nat.lt_succ_of_lt below, rest⟩
      next stop =>
        refine Or.inr ⟨index, Nat.lt_succ_self index, row, (Except.ok.inj ran).symm, read, ?_⟩
        by_cases same : blockSize = alignmentTokens
        · rw [same]
          exact Nat.dvd_mul_left _ _
        · exact Nat.dvd_of_mod_eq_zero (by
            by_contra notZero
            exact stop ⟨same, notZero⟩)

theorem MambaManager.findLongestCacheHit_spec {mode : MambaCacheMode}
    {numSpeculativeBlocks alignmentTokens : Nat}
    (isMamba : spec.kind = .mamba mode numSpeculativeBlocks)
    (positive : 0 < spec.blockSize)
    (ran : MambaManager.findLongestCacheHit blockHashes kvCacheGroupIds pool maxLength
      spec.blockSize alignmentTokens = .ok rows) :
    LookupSpec blockHashes kvCacheGroupIds pool spec maxLength dropEagleBlock alignmentTokens
      rows := by
  have notFull : spec.isFullAttention = true → False := by
    simp [KVCacheSpec.isFullAttention, isMamba]
  have mamba : spec.isMamba = false → False := by
    simp [KVCacheSpec.isMamba, isMamba]
  rcases scanState_eq ran with rfl | ⟨index, below, row, rfl, cached, aligned⟩
  · exact ⟨by simp, by simp, fun _ isFalse => (mamba isFalse).elim,
      fun _ isFalse => (mamba isFalse).elim, by simp, by simp⟩
  · have length : (List.replicate index none ++ [some row] : List HitRow).length = index + 1 := by
      simp
    refine ⟨by rw [length]; exact aligned, ?_, fun _ isFalse => (mamba isFalse).elim,
      fun _ isFalse => (mamba isFalse).elim, ?_, fun isTrue => (notFull isTrue).elim⟩
    · rw [length]
      exact (Nat.mul_le_mul_right _ below).trans (Nat.div_mul_le_self _ _)
    · intro other otherBelow needed
      rw [length] at otherBelow needed
      have isLast : other = index := by
        rw [isMamba] at needed
        have quotient : (((index + 1) * spec.blockSize : Nat) - 1 : Int) / spec.blockSize =
            index := by
          have split : (((index + 1) * spec.blockSize : Nat) - 1 : Int) =
              ((spec.blockSize - 1 : Nat) : Int) + (spec.blockSize : Int) * index := by
            push_cast [Nat.cast_sub positive]
            ring
          have positiveInt : (spec.blockSize : Int) ≠ 0 := by omega
          rw [split, Int.add_mul_ediv_left _ _ positiveInt,
            Int.ediv_eq_zero_of_lt (by omega) (by omega), zero_add]
        rw [SpecKind.getNumSkippedTokens, quotient] at needed
        omega
      subst isLast
      exact ⟨row, by simp, cached⟩

/-! ## The sliding-window scan -/

/-- The run of hits `[index, index + run)` the scan is in; its upper end is
aligned once the EAGLE block is taken off. -/
structure WindowRun (blockHashes : BlockHashList) (kvCacheGroupIds : List Nat) (pool : BlockPool)
    (blockSize alignmentTokens : Nat) (dropEagleBlock : Bool) (rows : List HitRow)
    (index run : Nat) : Prop where
  hits : ∀ position, index ≤ position → position < index + run →
    Hit blockHashes kvCacheGroupIds pool rows position
  aligned : 0 < run →
    alignmentTokens ∣ (index + run - if dropEagleBlock then 1 else 0) * blockSize

theorem scanWindow_run {blockSize needed alignmentTokens : Nat}
    {run : Nat} (inside : index + run ≤ rows.length)
    (start : WindowRun blockHashes kvCacheGroupIds pool blockSize alignmentTokens dropEagleBlock
      rows index run)
    {matchFound : Bool} {final : List HitRow} {finalRun : Nat}
    (ran : scanWindow blockHashes kvCacheGroupIds pool blockSize needed dropEagleBlock
      alignmentTokens index rows run = .ok (matchFound, final, finalRun)) :
    (matchFound = true ∧ 0 < finalRun ∧ needed ≤ finalRun ∧ final.length ≤ rows.length ∧
      ∃ first, final.length = first + finalRun ∧
        WindowRun blockHashes kvCacheGroupIds pool blockSize alignmentTokens dropEagleBlock final
          first finalRun) ∨
    (matchFound = false ∧ final.length = rows.length ∧ finalRun ≤ rows.length ∧
      ∀ position < finalRun, Hit blockHashes kvCacheGroupIds pool final position) := by
  induction index generalizing rows run with
  | zero =>
    rw [scanWindow] at ran
    cases ran
    refine Or.inr ⟨rfl, rfl, by omega, ?_⟩
    exact fun position below => start.hits position (Nat.zero_le _) (by omega)
  | succ index ih =>
    rw [scanWindow] at ran
    obtain ⟨found, read, ran⟩ := bind_eq_ok.mp ran
    cases found with
    | none =>
      refine ih (by omega) ⟨?_, by simp⟩ ran
      exact fun position low high => absurd high (by omega)
    | some row =>
      dsimp only at ran
      generalize postEq : (if dropEagleBlock = true then index else index + 1) =
        postPopBlocks at ran
      split at ran
      next unaligned =>
        obtain ⟨rfl, -, -⟩ := unaligned
        refine ih (by omega) ⟨?_, by simp⟩ ran
        exact fun position low high => absurd high (by omega)
      next aligned =>
        have extended : WindowRun blockHashes kvCacheGroupIds pool blockSize alignmentTokens
            dropEagleBlock (rows.set index (some row)) index (run + 1) := by
          refine ⟨?_, fun _ => ?_⟩
          · intro position low high
            by_cases isIndex : position = index
            · subst isIndex
              refine ⟨row, ?_, read⟩
              rw [List.getElem?_set_self (by omega)]
            · obtain ⟨other, otherRead, cached⟩ := start.hits position (by omega) (by omega)
              refine ⟨other, ?_, cached⟩
              rw [List.getElem?_set_ne (Ne.symm isIndex), otherRead]
          · by_cases isFirst : run = 0
            · subst isFirst
              by_cases same : blockSize = alignmentTokens
              · rw [same]
                exact Nat.dvd_mul_left _ _
              · refine Nat.dvd_of_mod_eq_zero ?_
                by_contra notZero
                have top : index + (0 + 1) - (if dropEagleBlock then 1 else 0) =
                    postPopBlocks := by
                  rw [← postEq]
                  cases dropEagleBlock <;> simp
                rw [top] at notZero
                exact aligned ⟨rfl, same, notZero⟩
            · have before := start.aligned (by omega)
              have regroup : index + (run + 1) = index + 1 + run := by omega
              rwa [regroup]
        have setLength : (rows.set index (some row)).length = rows.length :=
          List.length_set
        split at ran
        next enough =>
          cases ran
          have takeLength : ((rows.set index (some row)).take (index + (run + 1))).length =
              index + (run + 1) := by
            rw [List.length_take, setLength]
            omega
          refine Or.inl ⟨rfl, by omega, enough, by rw [takeLength]; omega, index, takeLength,
            ?_, extended.aligned⟩
          exact fun position low high => Hit.take high (extended.hits position low high)
        next =>
          have rest := ih (by rw [setLength]; omega) extended ran
          rwa [setLength] at rest

/-- The blocks the next token reads are the last `cdiv(window - 1, block_size)`
ones. -/
private theorem window_needed {window blockSize length : Nat} (positive : 0 < blockSize)
    (needed : SpecKind.getNumSkippedTokens (.slidingWindow window) (length * blockSize : Nat) /
      blockSize ≤ index) :
    length ≤ index + (window - 1 + blockSize - 1) / blockSize := by
  have quotient : window - 1 ≤ (window - 1 + blockSize - 1) / blockSize * blockSize := by
    have division := Nat.div_add_mod (window - 1 + blockSize - 1) blockSize
    have remainder := Nat.mod_lt (window - 1 + blockSize - 1) positive
    rw [Nat.mul_comm] at division
    omega
  set reach := (window - 1 + blockSize - 1) / blockSize
  by_contra short
  have apart : (index + 1 + reach) * blockSize ≤ length * blockSize :=
    Nat.mul_le_mul_right _ (by omega)
  have expand : (index + 1 + reach) * blockSize = (index + 1) * blockSize + reach * blockSize :=
    Nat.add_mul _ _ _
  have skipped : ((index + 1 : Nat) : Int) * blockSize ≤
      SpecKind.getNumSkippedTokens (.slidingWindow window) (length * blockSize : Nat) := by
    rw [SpecKind.getNumSkippedTokens]
    refine le_trans ?_ (le_max_right _ _)
    have product : (((index + 1) * blockSize : Nat) : Int) = ((index + 1 : Nat) : Int) * blockSize :=
      Nat.cast_mul _ _
    rw [← product]
    omega
  have positiveInt : (0 : Int) < blockSize := by omega
  have above := (Int.le_ediv_iff_mul_le positiveInt).mpr skipped
  omega

theorem SlidingWindowManager.findLongestCacheHit_spec {window : Nat} {alignmentTokens : Nat}
    (isWindow : spec.kind = .slidingWindow window) (positive : 0 < spec.blockSize)
    (ran : SlidingWindowManager.findLongestCacheHit blockHashes kvCacheGroupIds pool window
      maxLength spec.blockSize dropEagleBlock alignmentTokens = .ok rows) :
    LookupSpec blockHashes kvCacheGroupIds pool spec maxLength dropEagleBlock alignmentTokens
      rows := by
  obtain ⟨⟨matchFound, scanned, finalRun⟩, scan, ran⟩ := bind_eq_ok.mp ran
  have ended := scanWindow_run (by simp) ⟨fun position low high => absurd high (by omega), by simp⟩
    scan
  rw [List.length_replicate] at ended
  have notFull : spec.isFullAttention = true → False := by
    simp [KVCacheSpec.isFullAttention, isWindow]
  have tokenBound : ∀ count ≤ maxLength / spec.blockSize, count * spec.blockSize ≤ maxLength :=
    fun count le => (Nat.mul_le_mul_right _ le).trans (Nat.div_mul_le_self _ _)
  dsimp only at ran
  rcases ended with ⟨rfl, runPositive, enough, short, first, length, run⟩ |
    ⟨rfl, length, runShort, hits⟩
  · rw [if_pos rfl] at ran
    have nonempty : scanned ≠ [] := by
      rintro rfl
      rw [List.length_nil] at length
      omega
    have aligned := run.aligned runPositive
    cases dropEagleBlock with
    | false =>
      rw [if_neg (by simp)] at ran
      cases ran
      refine ⟨by rw [length]; exact aligned, tokenBound _ short, by simp, by simp, ?_,
        fun isTrue => (notFull isTrue).elim⟩
      intro index below needed
      rw [isWindow] at needed
      have inWindow := window_needed positive needed
      rw [contiguousBlocksForHit] at enough
      exact run.hits index (by simp at enough; omega) (by omega)
    | true =>
      rw [if_pos ⟨rfl, nonempty⟩] at ran
      have dropLength : scanned.dropLast.length = first + finalRun - 1 := by
        rw [List.length_dropLast, length]
      rw [popUnaligned_of_aligned (by rw [dropLength]; exact aligned)] at ran
      cases ran
      refine ⟨by rw [dropLength]; exact aligned, tokenBound _ (by omega),
        fun _ _ _ => tokenBound _ (by omega), fun _ _ _ => ?_, ?_,
        fun isTrue => (notFull isTrue).elim⟩
      · obtain ⟨row, -, cached⟩ := run.hits (first + finalRun - 1) (by omega) (by omega)
        rw [dropLength]
        exact ⟨row, cached⟩
      intro index below needed
      rw [isWindow] at needed
      have inWindow := window_needed positive needed
      rw [contiguousBlocksForHit, if_pos rfl] at enough
      rw [List.dropLast_eq_take, length]
      exact Hit.take (by omega) (run.hits index (by omega) (by omega))
  · simp only [Bool.false_eq_true, if_false] at ran
    obtain ⟨count, le, popped, aligned⟩ := popUnaligned_eq_take spec.blockSize alignmentTokens
      (le_refl (scanned.take finalRun).length)
    rw [List.length_take] at le
    rw [popped, List.take_take, Nat.min_eq_left (by omega : count ≤ finalRun)] at ran
    have takeLength : ∀ other ≤ count, (scanned.take other).length = other := by
      intro other otherLe
      rw [List.length_take]
      omega
    have allHits : ∀ other ≤ count, ∀ index < other,
        Hit blockHashes kvCacheGroupIds pool (scanned.take other) index := fun other otherLe index
      below => Hit.take below (hits index (by omega))
    split at ran
    next dropped =>
      obtain ⟨isDropped, nonempty⟩ := dropped
      have countPositive : 0 < count := by
        have positiveLength := List.length_pos_iff.mpr nonempty
        rwa [takeLength count le_rfl] at positiveLength
      have dropEq : (scanned.take count).dropLast = scanned.take (count - 1) := by
        rw [List.dropLast_eq_take, takeLength count le_rfl, List.take_take,
          Nat.min_eq_left (Nat.sub_le _ _)]
      rw [dropEq] at ran
      obtain ⟨fewer, fewerLe, poppedAgain, alignedAgain⟩ := popUnaligned_eq_take spec.blockSize
        alignmentTokens (le_refl (scanned.take (count - 1)).length)
      rw [takeLength _ (Nat.sub_le _ _)] at fewerLe
      rw [poppedAgain, List.take_take, Nat.min_eq_left fewerLe] at ran
      cases ran
      have fewerLength := takeLength fewer (by omega)
      refine ⟨by rw [fewerLength]; exact alignedAgain, ?_, fun _ _ _ => ?_, fun _ _ _ => ?_, ?_,
        fun isTrue => (notFull isTrue).elim⟩
      · exact tokenBound _ (by omega)
      · exact tokenBound _ (by omega)
      · obtain ⟨row, -, cached⟩ := hits fewer (by omega)
        rw [fewerLength]
        exact ⟨row, cached⟩
      · intro index below _
        rw [fewerLength] at below
        exact allHits fewer (by omega) index below
    next kept =>
      cases ran
      have countLength := takeLength count le_rfl
      refine ⟨by rw [countLength]; exact aligned, tokenBound _ (by omega), ?_, ?_, ?_,
        fun isTrue => (notFull isTrue).elim⟩
      · intro isDropped _ nonempty
        exact absurd ⟨isDropped, nonempty⟩ kept
      · intro isDropped _ nonempty
        exact absurd ⟨isDropped, nonempty⟩ kept
      · intro index below _
        rw [countLength] at below
        exact allHits count le_rfl index below

/-- The specification holds of the lookup of every kind but chunked local
attention. -/
theorem KVCacheSpec.findLongestCacheHit_spec {alignmentTokens : Nat} (positive : 0 < spec.blockSize)
    (notChunked : ∀ chunk, spec.kind ≠ .chunkedLocal chunk)
    (ran : spec.findLongestCacheHit blockHashes kvCacheGroupIds pool maxLength dropEagleBlock
      alignmentTokens = .ok rows) :
    LookupSpec blockHashes kvCacheGroupIds pool spec maxLength dropEagleBlock alignmentTokens
      rows := by
  unfold KVCacheSpec.findLongestCacheHit at ran
  split at ran
  next => exact FullAttentionManager.findLongestCacheHit_spec ran
  next window isWindow => exact SlidingWindowManager.findLongestCacheHit_spec isWindow positive ran
  next chunk isChunked => exact absurd isChunked (notChunked chunk)
  next mode numSpeculativeBlocks isMamba =>
    exact MambaManager.findLongestCacheHit_spec isMamba positive ran

/-- Neither kind of lookup goes beyond the candidate it starts from, but for a Mamba
lookup with a drop. -/
theorem KVCacheSpec.findLongestCacheHit_le {alignmentTokens candidate longest : Nat} (positive : 0 < spec.blockSize)
    (notMamba : dropEagleBlock = true → spec.isMamba = false)
    (ran : spec.findLongestCacheHit blockHashes kvCacheGroupIds pool
      (if dropEagleBlock then min (candidate + spec.blockSize) longest else candidate) dropEagleBlock
      alignmentTokens = .ok rows) : rows.length * spec.blockSize ≤ candidate := by
  by_cases isChunked : ∃ chunk, spec.kind = .chunkedLocal chunk
  · obtain ⟨chunk, isChunked⟩ := isChunked
    rw [KVCacheSpec.findLongestCacheHit, isChunked] at ran
    obtain ⟨_, noDrop, ran⟩ := bind_eq_ok.mp ran
    obtain ⟨_, -, ran⟩ := bind_eq_ok.mp ran
    obtain ⟨rest, scan, ran⟩ := bind_eq_ok.mp ran
    cases ran
    have undropped : dropEagleBlock = false := by simpa using pyAssert_eq_ok.mp noDrop
    rw [undropped, if_neg Bool.false_ne_true] at scan ⊢
    have startsInside : candidate / chunk * chunk / spec.blockSize ≤ candidate / spec.blockSize :=
      Nat.div_le_div_right (Nat.div_mul_le_self _ _)
    have short := (scanPrefix_hits scan).1
    rw [List.length_append, List.length_replicate]
    exact (Nat.mul_le_mul_right _ (by omega)).trans (Nat.div_mul_le_self candidate spec.blockSize)
  · have lookup := findLongestCacheHit_spec positive (fun chunk isKind => isChunked ⟨chunk, isKind⟩) ran
    cases dropEagleBlock with
    | false => exact lookup.bound
    | true =>
      by_cases empty : rows = []
      · simp [empty]
      · have dropped := lookup.dropped rfl (notMamba rfl) empty
        rw [if_pos rfl, Nat.add_mul, Nat.one_mul] at dropped
        omega

/-! ## Lookups that return -/

def Readable (blockHashes : BlockHashList) (kvCacheGroupIds : List Nat) (pool : BlockPool)
    (bound : Nat) : Prop :=
  ∀ index < bound, ∃ found, cachedAt blockHashes kvCacheGroupIds pool index = .ok found

theorem getCachedBlock_ok (wellFormed : pool.cachedBlockHashToBlock.WellFormed)
    (blockHash : BlockHash) {groupIds : List Nat} (fits : ∀ groupId ∈ groupIds, groupId < 2 ^ 32) :
    ∃ found, pool.getCachedBlock blockHash groupIds = .ok found := by
  induction groupIds with
  | nil => exact ⟨_, rfl⟩
  | cons groupId rest ih =>
    obtain ⟨others, ranRest⟩ := ih fun other member =>
      fits other (List.mem_cons_of_mem _ member)
    have made := makeBlockHashWithGroupId_eq_ok.mpr
      ⟨fits groupId List.mem_cons_self, rfl (a := blockHash ++ Bytes.bigEndian 4 groupId)⟩
    rw [BlockPool.getCachedBlock, made]
    simp only [bind, Except.bind, BlockHashToBlockMap.getOneBlock_of_wellFormed wellFormed]
    cases (pool.cachedBlockHashToBlock.stored (blockHash ++ Bytes.bigEndian 4 groupId)).head? with
    | none => exact ⟨_, rfl⟩
    | some block =>
      simp only [ranRest]
      cases others with
      | none => exact ⟨_, rfl⟩
      | some blocks => exact ⟨_, rfl⟩

theorem scanPrefix_ok (count index : Nat)
    (readable : Readable blockHashes kvCacheGroupIds pool (index + count)) :
    ∃ rows, scanPrefix blockHashes kvCacheGroupIds pool count index = .ok rows := by
  induction count generalizing index with
  | zero => exact ⟨_, rfl⟩
  | succ count ih =>
    obtain ⟨found, read⟩ := readable index (by omega)
    have regroup : index + 1 + count = index + (count + 1) := by omega
    obtain ⟨rest, ranRest⟩ := ih (index + 1) (by rwa [regroup])
    rw [scanPrefix, read]
    cases found with
    | none => exact ⟨_, rfl⟩
    | some row =>
      simp only [bind, Except.bind, ranRest]
      exact ⟨_, rfl⟩

theorem scanWindow_ok (blockSize needed alignmentTokens : Nat) (dropEagleBlock : Bool)
    (readable : Readable blockHashes kvCacheGroupIds pool index) (rows : List HitRow) (run : Nat) :
    ∃ result, scanWindow blockHashes kvCacheGroupIds pool blockSize needed dropEagleBlock
      alignmentTokens index rows run = .ok result := by
  induction index generalizing rows run with
  | zero => exact ⟨_, rfl⟩
  | succ index ih =>
    have rest := ih fun other below => readable other (by omega)
    obtain ⟨found, read⟩ := readable index (by omega)
    rw [scanWindow, read]
    cases found with
    | none => exact rest rows 0
    | some row =>
      simp only [bind, Except.bind]
      generalize (if dropEagleBlock = true then index else index + 1) = postPopBlocks
      split
      next => exact rest rows run
      next =>
        split
        next => exact ⟨_, rfl⟩
        next => exact rest _ _

theorem scanState_ok {blockSize alignmentTokens count : Nat}
    (readable : Readable blockHashes kvCacheGroupIds pool count) :
    ∃ rows, scanState blockHashes kvCacheGroupIds pool blockSize alignmentTokens count =
      .ok rows := by
  induction count with
  | zero => exact ⟨_, rfl⟩
  | succ index ih =>
    have rest := ih fun other below => readable other (by omega)
    obtain ⟨found, read⟩ := readable index (by omega)
    rw [scanState, read]
    cases found with
    | none => exact rest
    | some row =>
      simp only [bind, Except.bind]
      split
      next => exact rest
      next => exact ⟨_, rfl⟩

theorem KVCacheSpec.findLongestCacheHit_ok
    (dropEagleBlock : Bool) (alignmentTokens : Nat) (notChunked : ∀ chunk, spec.kind ≠ .chunkedLocal chunk)
    (readable : Readable blockHashes kvCacheGroupIds pool (maxLength / spec.blockSize)) :
    ∃ rows, spec.findLongestCacheHit blockHashes kvCacheGroupIds pool maxLength dropEagleBlock
      alignmentTokens = .ok rows := by
  unfold KVCacheSpec.findLongestCacheHit
  split
  next =>
    obtain ⟨rows, scanned⟩ := scanPrefix_ok
      (min (maxLength / spec.blockSize) blockHashes.length) 0
      (fun index below => readable index (by omega))
    simp only [FullAttentionManager.findLongestCacheHit, scanned, bind, Except.bind]
    exact ⟨_, rfl⟩
  next window isWindow =>
    obtain ⟨⟨matchFound, rows, run⟩, scanned⟩ := scanWindow_ok spec.blockSize
      (contiguousBlocksForHit window spec.blockSize dropEagleBlock) alignmentTokens dropEagleBlock
      readable (List.replicate (maxLength / spec.blockSize) none) 0
    simp only [SlidingWindowManager.findLongestCacheHit, scanned, bind, Except.bind]
    generalize (if matchFound = true then rows else popUnaligned spec.blockSize alignmentTokens
      (rows.take run).length (rows.take run)) = computed
    split <;> exact ⟨_, rfl⟩
  next chunk isChunked => exact absurd isChunked (notChunked chunk)
  next => exact scanState_ok readable

end

end DeepSpark
