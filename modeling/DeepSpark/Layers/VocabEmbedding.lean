import DeepSpark.Lib.Chunks
import DeepSpark.Lib.PyError
import DeepSpark.Lib.RoundRobin

/-!
`VocabParallelEmbedding` of `model_executor/layers/vocab_parallel_embedding.py`.

Owns the construction of the layer on a rank, the mask of a lookup, the loader of the weights and the
mapping of the gathered rows, and that the shards partition the table.
-/

namespace DeepSpark

open Lib List

/-! ## The layer -/

def padVocabSize (vocabSize padTo : Nat) : Nat := (vocabSize + padTo - 1) / padTo * padTo

/-- `ensure_divisibility` and the quotient. -/
def divide (numerator denominator : Nat) : Except PyError Nat := do
  pyAssert (numerator % denominator = 0) s!"{numerator} is not divisible by {denominator}"
  return numerator / denominator

def vocabRangeFromPerPartitionVocabSize (perPartitionVocabSize rank offset : Nat) : Nat × Nat :=
  let indexF := rank * perPartitionVocabSize
  let indexL := indexF + perPartitionVocabSize
  (indexF + offset, indexL + offset)

def vocabRangeFromGlobalVocabSize (globalVocabSize rank worldSize offset : Nat) : Except PyError (Nat × Nat) := do
  let perPartitionVocabSize ← divide globalVocabSize worldSize
  return vocabRangeFromPerPartitionVocabSize perPartitionVocabSize rank offset

structure ShardIndices where
  paddedOrgVocabStartIndex : Nat
  paddedOrgVocabEndIndex : Nat
  paddedAddedVocabStartIndex : Nat
  paddedAddedVocabEndIndex : Nat
  orgVocabStartIndex : Nat
  orgVocabEndIndex : Nat
  addedVocabStartIndex : Nat
  addedVocabEndIndex : Nat
deriving DecidableEq, Repr

namespace ShardIndices

variable (self : ShardIndices)

def numOrgElements : Nat := self.orgVocabEndIndex - self.orgVocabStartIndex

def numAddedElements : Nat := self.addedVocabEndIndex - self.addedVocabStartIndex

def numOrgElementsPadded : Nat := self.paddedOrgVocabEndIndex - self.paddedOrgVocabStartIndex

def numAddedElementsPadded : Nat := self.paddedAddedVocabEndIndex - self.paddedAddedVocabStartIndex

def numOrgVocabPadding : Nat := self.numOrgElementsPadded - self.numOrgElements

def numElementsPadded : Nat := self.numOrgElementsPadded + self.numAddedElementsPadded

/-- `__post_init__`: where the first four assertions hold, the sizes above are not negative. -/
def postInit : Except PyError Unit := do
  pyAssert (self.paddedOrgVocabStartIndex ≤ self.paddedOrgVocabEndIndex) ""
  pyAssert (self.paddedAddedVocabStartIndex ≤ self.paddedAddedVocabEndIndex) ""
  pyAssert (self.orgVocabStartIndex ≤ self.orgVocabEndIndex) ""
  pyAssert (self.addedVocabStartIndex ≤ self.addedVocabEndIndex) ""
  pyAssert (self.orgVocabStartIndex ≤ self.paddedOrgVocabStartIndex) ""
  pyAssert (self.addedVocabStartIndex ≤ self.paddedAddedVocabStartIndex) ""
  pyAssert (self.orgVocabEndIndex ≤ self.paddedOrgVocabEndIndex) ""
  pyAssert (self.addedVocabEndIndex ≤ self.paddedAddedVocabEndIndex) ""
  pyAssert (self.numOrgElements ≤ self.numOrgElementsPadded) ""
  pyAssert (self.numAddedElements ≤ self.numAddedElementsPadded) ""

end ShardIndices

def getIndices (vocabSizePadded orgVocabSizePadded vocabSize orgVocabSize tpRank tpSize : Nat) :
    Except PyError ShardIndices := do
  let numAddedEmbeddingsPadded := vocabSizePadded - orgVocabSizePadded
  let paddedOrg ← vocabRangeFromGlobalVocabSize orgVocabSizePadded tpRank tpSize 0
  let paddedAdded ← vocabRangeFromGlobalVocabSize numAddedEmbeddingsPadded tpRank tpSize orgVocabSize
  let indices : ShardIndices :=
    { paddedOrgVocabStartIndex := paddedOrg.1
      paddedOrgVocabEndIndex := paddedOrg.2
      paddedAddedVocabStartIndex := paddedAdded.1
      paddedAddedVocabEndIndex := paddedAdded.2
      orgVocabStartIndex := min paddedOrg.1 orgVocabSize
      orgVocabEndIndex := min paddedOrg.2 orgVocabSize
      addedVocabStartIndex := min paddedAdded.1 vocabSize
      addedVocabEndIndex := min paddedAdded.2 vocabSize }
  indices.postInit
  return indices

structure VocabParallelEmbedding where
  tpSize : Nat
  numEmbeddings : Nat
  orgVocabSize : Nat
  orgVocabSizePadded : Nat
  numEmbeddingsPadded : Nat
  numEmbeddingsPerPartition : Nat
  shardIndices : ShardIndices
deriving DecidableEq, Repr

/-- The arguments of the constructor; `virtualPaddingSize` is that of a virtual TP plan. -/
structure EmbeddingConfig where
  numEmbeddings : Nat
  orgNumEmbeddings : Option Nat
  paddingSize : Nat
  virtualPaddingSize : Option Nat
  tpSize : Nat

namespace EmbeddingConfig

variable (config : EmbeddingConfig)

def padding : Nat := config.virtualPaddingSize.getD config.paddingSize

/-- `org_num_embeddings or num_embeddings`. -/
def orgVocabSize : Nat :=
  if config.orgNumEmbeddings.getD 0 = 0 then config.numEmbeddings else config.orgNumEmbeddings.getD 0

def orgVocabSizePadded : Nat := padVocabSize config.orgVocabSize config.padding

/-- The padded base is not below the base, so the sum is not negative where tokens are missing. -/
def numEmbeddingsPadded : Nat :=
  padVocabSize (config.orgVocabSizePadded + config.numEmbeddings - config.orgVocabSize) config.padding

def init (tpRank : Nat) : Except PyError VocabParallelEmbedding := do
  if config.padding = 0 then throw (.zeroDivisionError "integer division or modulo by zero")
  pyAssert (config.orgVocabSizePadded ≤ config.numEmbeddingsPadded) ""
  let shardIndices ← getIndices config.numEmbeddingsPadded config.orgVocabSizePadded config.numEmbeddings
    config.orgVocabSize tpRank config.tpSize
  let numEmbeddingsPerPartition ← divide config.numEmbeddingsPadded config.tpSize
  pyAssert (shardIndices.numElementsPadded = numEmbeddingsPerPartition) ""
  return { tpSize := config.tpSize
           numEmbeddings := config.numEmbeddings
           orgVocabSize := config.orgVocabSize
           orgVocabSizePadded := config.orgVocabSizePadded
           numEmbeddingsPadded := config.numEmbeddingsPadded
           numEmbeddingsPerPartition
           shardIndices }

end EmbeddingConfig

/-- `get_masked_input_and_mask`: the row of a token, and whether it is of another rank. -/
def getMaskedInputAndMask (input : Int) (orgVocabStartIndex orgVocabEndIndex numOrgVocabPadding addedVocabStartIndex
    addedVocabEndIndex : Int) : Int × Bool :=
  let orgVocabMask := decide (input ≥ orgVocabStartIndex) && decide (input < orgVocabEndIndex)
  let addedVocabMask := decide (input ≥ addedVocabStartIndex) && decide (input < addedVocabEndIndex)
  let addedOffset := addedVocabStartIndex - (orgVocabEndIndex - orgVocabStartIndex) - numOrgVocabPadding
  let validOffset := orgVocabStartIndex * orgVocabMask.toInt + addedOffset * addedVocabMask.toInt
  let vocabMask := orgVocabMask || addedVocabMask
  (vocabMask.toInt * (input - validOffset), !vocabMask)

/-- The lists that `get_sharded_to_full_mapping` fills. -/
structure MappingLists where
  baseEmbeddings : List Nat
  addedEmbeddings : List Nat
  padding : List Nat

namespace VocabParallelEmbedding

variable (layer : VocabParallelEmbedding)

def mapShard (lists : MappingLists) (tpRank : Nat) : Except PyError MappingLists := do
  let shardIndices ← getIndices layer.numEmbeddingsPadded layer.orgVocabSizePadded layer.numEmbeddings
    layer.orgVocabSize tpRank layer.tpSize
  let rangeStart := layer.numEmbeddingsPerPartition * tpRank
  let rangeEnd := layer.numEmbeddingsPerPartition * (tpRank + 1)
  let orgPadded := shardIndices.numOrgElementsPadded
  pyAssert (rangeStart + orgPadded + shardIndices.numAddedElementsPadded = rangeEnd) ""
  return { baseEmbeddings := lists.baseEmbeddings ++ List.range' rangeStart shardIndices.numOrgElements
           addedEmbeddings := lists.addedEmbeddings ++
             List.range' (rangeStart + orgPadded) shardIndices.numAddedElements
           padding := lists.padding ++
             List.range' (rangeStart + shardIndices.numOrgElements) (orgPadded - shardIndices.numOrgElements) ++
             List.range' (rangeStart + orgPadded + shardIndices.numAddedElements)
               (shardIndices.numAddedElementsPadded - shardIndices.numAddedElements) }

def getShardedToFullMapping : Except PyError (Option (List Nat)) := do
  if layer.tpSize < 2 then return none
  let lists ← (List.range layer.tpSize).foldlM layer.mapShard ⟨[], [], []⟩
  let ret := lists.baseEmbeddings ++ lists.addedEmbeddings ++ lists.padding
  pyAssert (ret.length = layer.numEmbeddingsPadded) ""
  return some ret

variable {M : Type} [AddCommMonoid M]

/-- `weight_loader` of an unquantised parameter: rows of `param` behind the shard are zero. -/
def weightLoader (param loadedWeight : List M) : Except PyError (List M) := do
  let startIdx := layer.shardIndices.orgVocabStartIndex
  let shardSize := layer.shardIndices.orgVocabEndIndex - startIdx
  pyAssert (loadedWeight.length = layer.orgVocabSize) ""
  if loadedWeight.length < startIdx + shardSize then throw (.runtimeError "start + length exceeds dimension size")
  let loadedWeight := (loadedWeight.drop startIdx).take shardSize
  if param.length < loadedWeight.length then throw (.runtimeError "shapes do not match")
  return loadedWeight ++ List.replicate (param.length - loadedWeight.length) 0

/-- The row that `forward` looks up on a rank, and whether the result is masked. -/
def maskedInput (input : Int) : Int × Bool :=
  if layer.tpSize > 1 then
    getMaskedInputAndMask input layer.shardIndices.orgVocabStartIndex layer.shardIndices.orgVocabEndIndex
      layer.shardIndices.numOrgVocabPadding layer.shardIndices.addedVocabStartIndex
      layer.shardIndices.addedVocabEndIndex
  else (input, false)

/-- `forward` on a rank, up to the reduction. -/
def outputParallel (weight : List M) (input : Int) : Except PyError M := do
  let (maskedInput, inputMask) := layer.maskedInput input
  match if maskedInput < 0 then none else weight[maskedInput.toNat]? with
  | none => throw (.indexError "index out of range in self")
  | some row => return if inputMask then 0 else row

end VocabParallelEmbedding

open ShardIndices

/-- `forward`: the sum of the ranks. -/
def allReduceForward {M : Type} [AddCommMonoid M] (layers : List (VocabParallelEmbedding × List M)) (input : Int) :
    Except PyError M := do
  let outputs ← layers.mapM fun rank => rank.1.outputParallel rank.2 input
  return outputs.sum

/-! ## The constructor -/

theorem dvd_padVocabSize (vocabSize padTo : Nat) : padTo ∣ padVocabSize vocabSize padTo := ⟨_, Nat.mul_comm _ _⟩

theorem le_padVocabSize (vocabSize : Nat) {padTo : Nat} (positive : 0 < padTo) :
    vocabSize ≤ padVocabSize vocabSize padTo := by
  have split := @Nat.lt_div_mul_add (vocabSize + padTo - 1) _ positive
  rw [padVocabSize]
  omega

theorem divide_eq_ok {numerator denominator quotient : Nat} :
    divide numerator denominator = .ok quotient ↔ numerator % denominator = 0 ∧ quotient = numerator / denominator := by
  rw [divide]
  constructor
  · intro ran
    obtain ⟨_, divides, isQuotient⟩ := bind_eq_ok.mp ran
    cases isQuotient
    exact ⟨of_decide_eq_true (pyAssert_eq_ok.mp divides), rfl⟩
  · rintro ⟨divides, rfl⟩
    rw [decide_eq_true divides]
    rfl

section

variable {input orgStart orgEnd orgPadding addedStart addedEnd : Int}

theorem getMaskedInputAndMask_org (notAdded : ¬ (addedStart ≤ input ∧ input < addedEnd)) :
    getMaskedInputAndMask input orgStart orgEnd orgPadding addedStart addedEnd =
      if orgStart ≤ input ∧ input < orgEnd then (input - orgStart, false) else (0, true) := by
  rw [getMaskedInputAndMask, ← Bool.decide_and, ← Bool.decide_and, decide_eq_false notAdded]
  split
  next isOrg => simp [decide_eq_true isOrg]
  next notOrg => simp [decide_eq_false notOrg]

theorem getMaskedInputAndMask_added (notOrg : ¬ (orgStart ≤ input ∧ input < orgEnd)) :
    getMaskedInputAndMask input orgStart orgEnd orgPadding addedStart addedEnd =
      if addedStart ≤ input ∧ input < addedEnd then
        (input - (addedStart - (orgEnd - orgStart) - orgPadding), false)
      else (0, true) := by
  rw [getMaskedInputAndMask, ← Bool.decide_and, ← Bool.decide_and, decide_eq_false notOrg]
  split
  next isAdded => simp [decide_eq_true isAdded]
  next notAdded => simp [decide_eq_false notAdded]

end

namespace EmbeddingConfig

variable (config : EmbeddingConfig)

def orgShard : Nat := config.orgVocabSizePadded / config.tpSize

def addedShard : Nat := (config.numEmbeddingsPadded - config.orgVocabSizePadded) / config.tpSize

def indices (tpRank : Nat) : ShardIndices where
  paddedOrgVocabStartIndex := tpRank * config.orgShard
  paddedOrgVocabEndIndex := tpRank * config.orgShard + config.orgShard
  paddedAddedVocabStartIndex := tpRank * config.addedShard + config.orgVocabSize
  paddedAddedVocabEndIndex := tpRank * config.addedShard + config.addedShard + config.orgVocabSize
  orgVocabStartIndex := min (tpRank * config.orgShard) config.orgVocabSize
  orgVocabEndIndex := min (tpRank * config.orgShard + config.orgShard) config.orgVocabSize
  addedVocabStartIndex := min (tpRank * config.addedShard + config.orgVocabSize) config.numEmbeddings
  addedVocabEndIndex :=
    min (tpRank * config.addedShard + config.addedShard + config.orgVocabSize) config.numEmbeddings

def layer (tpRank : Nat) : VocabParallelEmbedding where
  tpSize := config.tpSize
  numEmbeddings := config.numEmbeddings
  orgVocabSize := config.orgVocabSize
  orgVocabSizePadded := config.orgVocabSizePadded
  numEmbeddingsPadded := config.numEmbeddingsPadded
  numEmbeddingsPerPartition := config.orgShard + config.addedShard
  shardIndices := config.indices tpRank

structure Accepted : Prop where
  padding_pos : 0 < config.padding
  notBelow : config.orgVocabSizePadded ≤ config.numEmbeddingsPadded
  orgDivides : config.orgVocabSizePadded % config.tpSize = 0
  addedDivides : (config.numEmbeddingsPadded - config.orgVocabSizePadded) % config.tpSize = 0

theorem postInit_indices (tpRank : Nat) : (config.indices tpRank).postInit = .ok () := by
  simp only [postInit, bind_eq_ok, pyAssert_eq_ok, indices,
    numOrgElements, numAddedElements, numOrgElementsPadded,
    numAddedElementsPadded, exists_const]
  refine ⟨?_, ?_, ?_, ?_, ?_, ?_, ?_, ?_, ?_, ?_⟩
  all_goals
    apply decide_eq_true
    omega

variable {config} (accepted : config.Accepted)

include accepted

theorem Accepted.getIndices_eq (tpRank : Nat) :
    getIndices config.numEmbeddingsPadded config.orgVocabSizePadded config.numEmbeddings config.orgVocabSize tpRank
      config.tpSize = .ok (config.indices tpRank) := by
  have isOrg := divide_eq_ok.mpr ⟨accepted.orgDivides, rfl⟩
  have isAdded := divide_eq_ok.mpr ⟨accepted.addedDivides, rfl⟩
  rw [getIndices, vocabRangeFromGlobalVocabSize, vocabRangeFromGlobalVocabSize, isOrg, isAdded]
  show ((config.indices tpRank).postInit >>= fun _ => pure (config.indices tpRank)) = _
  rw [postInit_indices]
  rfl

theorem Accepted.orgShard_mul : config.tpSize * config.orgShard = config.orgVocabSizePadded :=
  Nat.mul_div_cancel' (Nat.dvd_of_mod_eq_zero accepted.orgDivides)

theorem Accepted.addedShard_mul :
    config.tpSize * config.addedShard = config.numEmbeddingsPadded - config.orgVocabSizePadded :=
  Nat.mul_div_cancel' (Nat.dvd_of_mod_eq_zero accepted.addedDivides)

theorem Accepted.numEmbeddingsPadded_eq :
    config.numEmbeddingsPadded = config.tpSize * (config.orgShard + config.addedShard) := by
  rw [Nat.mul_add, accepted.orgShard_mul, accepted.addedShard_mul, Nat.add_sub_cancel' accepted.notBelow]

theorem Accepted.init_eq (someRank : 0 < config.tpSize) (tpRank : Nat) :
    config.init tpRank = .ok (config.layer tpRank) := by
  have noRest : config.numEmbeddingsPadded % config.tpSize = 0 := by
    rw [accepted.numEmbeddingsPadded_eq, Nat.mul_mod_right]
  have isPartition : config.numEmbeddingsPadded / config.tpSize = config.orgShard + config.addedShard := by
    rw [accepted.numEmbeddingsPadded_eq, Nat.mul_div_cancel_left _ someRank]
  have isSize : (config.indices tpRank).numElementsPadded = config.orgShard + config.addedShard := by
    simp only [indices, numElementsPadded, numOrgElementsPadded,
      numAddedElementsPadded]
    omega
  rw [init, if_neg accepted.padding_pos.ne', decide_eq_true accepted.notBelow, pyAssert_true,
    accepted.getIndices_eq, divide_eq_ok.mpr ⟨noRest, rfl⟩, isPartition]
  show (pyAssert (decide ((config.indices tpRank).numElementsPadded = config.orgShard + config.addedShard)) "" >>=
    fun _ => pure (config.layer tpRank)) = _
  rw [decide_eq_true isSize]
  rfl

omit accepted in
/-- Where the constructor returns on a rank, its checks hold; they are the same on every rank. -/
theorem accepted_of_init {tpRank : Nat} {layer : VocabParallelEmbedding} (ran : config.init tpRank = .ok layer) :
    config.Accepted := by
  rw [init] at ran
  split at ran
  next => cases ran
  next notZero =>
    obtain ⟨_, notBelow, ran⟩ := bind_eq_ok.mp ran
    obtain ⟨shardIndices, gotIndices, _⟩ := bind_eq_ok.mp ran
    obtain ⟨_, orgRange, gotIndices⟩ := bind_eq_ok.mp gotIndices
    obtain ⟨_, addedRange, _⟩ := bind_eq_ok.mp gotIndices
    obtain ⟨_, orgQuotient, _⟩ := bind_eq_ok.mp orgRange
    obtain ⟨_, addedQuotient, _⟩ := bind_eq_ok.mp addedRange
    exact ⟨Nat.pos_of_ne_zero notZero, of_decide_eq_true (pyAssert_eq_ok.mp notBelow),
      (divide_eq_ok.mp orgQuotient).1, (divide_eq_ok.mp addedQuotient).1⟩

omit accepted in
variable (config) in
/-- The checks of `divide`, for a vocabulary with added tokens or none. -/
structure Divides : Prop where
  padding_pos : 0 < config.padding
  isVocab : config.orgVocabSize ≤ config.numEmbeddings
  orgDivides : config.tpSize ∣ config.orgVocabSizePadded
  addedDivides : config.tpSize ∣ config.numEmbeddingsPadded - config.orgVocabSizePadded

omit accepted in
/-- Only `divide` rejects such a configuration. -/
theorem Divides.isAccepted (divides : config.Divides) : config.Accepted := by
  refine ⟨divides.padding_pos, ?_, Nat.mod_eq_zero_of_dvd divides.orgDivides,
    Nat.mod_eq_zero_of_dvd divides.addedDivides⟩
  have isVocab := divides.isVocab
  have enough := le_padVocabSize (config.orgVocabSizePadded + config.numEmbeddings - config.orgVocabSize)
    divides.padding_pos
  rw [numEmbeddingsPadded]
  omega

omit accepted in
/-- `divide` accepts a padding that the ranks divide, as that of a virtual TP plan. -/
theorem divides_of_padding (padding_pos : 0 < config.padding) (isVocab : config.orgVocabSize ≤ config.numEmbeddings)
    (divides : config.tpSize ∣ config.padding) : config.Divides := by
  have orgDivides : config.tpSize ∣ config.orgVocabSizePadded := divides.trans (dvd_padVocabSize _ _)
  exact ⟨padding_pos, isVocab, orgDivides, Nat.dvd_sub (divides.trans (dvd_padVocabSize _ _)) orgDivides⟩

/-! ## The rows of a token -/

omit accepted

variable {token : Nat}

theorem maskedInput_org (several : 1 < config.tpSize) (isOrg : token < config.orgVocabSize)
    (rank : Nat) : (config.layer rank).maskedInput token =
      if rank * config.orgShard ≤ token ∧ token < rank * config.orgShard + config.orgShard then
        (((token - rank * config.orgShard : Nat) : Int), false)
      else (0, true) := by
  have notAdded : ¬ (((config.indices rank).addedVocabStartIndex : Int) ≤ token ∧
      (token : Int) < (config.indices rank).addedVocabEndIndex) := by
    simp only [indices]
    omega
  rw [VocabParallelEmbedding.maskedInput, if_pos (show (config.layer rank).tpSize > 1 from several)]
  refine (getMaskedInputAndMask_org notAdded).trans ?_
  have sameRange : (((config.layer rank).shardIndices.orgVocabStartIndex : Int) ≤ token ∧
      (token : Int) < (config.layer rank).shardIndices.orgVocabEndIndex) ↔
      rank * config.orgShard ≤ token ∧ token < rank * config.orgShard + config.orgShard := by
    simp only [layer, indices]
    omega
  by_cases isLocal : rank * config.orgShard ≤ token ∧ token < rank * config.orgShard + config.orgShard
  · rw [if_pos isLocal, if_pos (sameRange.mpr isLocal), Prod.mk.injEq]
    simp only [layer, indices, and_true]
    omega
  · rw [if_neg isLocal, if_neg fun isLocal' => isLocal (sameRange.mp isLocal')]

theorem maskedInput_added (several : 1 < config.tpSize) (isAdded : config.orgVocabSize ≤ token)
    (isToken : token < config.numEmbeddings) (rank : Nat) : (config.layer rank).maskedInput token =
      if rank * config.addedShard + config.orgVocabSize ≤ token ∧
          token < rank * config.addedShard + config.addedShard + config.orgVocabSize then
        (((config.orgShard + (token - (rank * config.addedShard + config.orgVocabSize)) : Nat) : Int), false)
      else (0, true) := by
  have notOrg : ¬ (((config.indices rank).orgVocabStartIndex : Int) ≤ token ∧
      (token : Int) < (config.indices rank).orgVocabEndIndex) := by
    simp only [indices]
    omega
  rw [VocabParallelEmbedding.maskedInput, if_pos (show (config.layer rank).tpSize > 1 from several)]
  refine (getMaskedInputAndMask_added notOrg).trans ?_
  have sameRange : (((config.layer rank).shardIndices.addedVocabStartIndex : Int) ≤ token ∧
      (token : Int) < (config.layer rank).shardIndices.addedVocabEndIndex) ↔
      rank * config.addedShard + config.orgVocabSize ≤ token ∧
        token < rank * config.addedShard + config.addedShard + config.orgVocabSize := by
    simp only [layer, indices]
    omega
  by_cases isLocal : rank * config.addedShard + config.orgVocabSize ≤ token ∧
      token < rank * config.addedShard + config.addedShard + config.orgVocabSize
  · rw [if_pos isLocal, if_pos (sameRange.mpr isLocal), Prod.mk.injEq]
    simp only [layer, indices, numOrgVocabPadding, numOrgElementsPadded,
      numOrgElements, and_true]
    omega
  · rw [if_neg isLocal, if_neg fun isLocal' => isLocal (sameRange.mp isLocal')]

variable (config)

def owner (token : Nat) : Nat :=
  if token < config.orgVocabSize then token / config.orgShard
  else (token - config.orgVocabSize) / config.addedShard

def localRow (token : Nat) : Nat :=
  if token < config.orgVocabSize then token % config.orgShard
  else config.orgShard + (token - config.orgVocabSize) % config.addedShard

variable {config}

include accepted

theorem Accepted.orgVocabSize_le : config.orgVocabSize ≤ config.tpSize * config.orgShard := by
  rw [accepted.orgShard_mul]
  exact le_padVocabSize _ accepted.padding_pos

theorem Accepted.addedVocab_le (isVocab : config.orgVocabSize ≤ config.numEmbeddings) :
    config.numEmbeddings - config.orgVocabSize ≤ config.tpSize * config.addedShard := by
  have enough := le_padVocabSize (config.orgVocabSizePadded + config.numEmbeddings - config.orgVocabSize)
    accepted.padding_pos
  rw [accepted.addedShard_mul, numEmbeddingsPadded]
  omega

theorem Accepted.region (isToken : token < max config.orgVocabSize config.numEmbeddings) :
    (token < config.orgVocabSize ∧ 0 < config.orgShard ∧ token / config.orgShard < config.tpSize) ∨
      (¬ token < config.orgVocabSize ∧ 0 < config.addedShard ∧
        (token - config.orgVocabSize) / config.addedShard < config.tpSize) := by
  have orgFits := accepted.orgVocabSize_le
  by_cases isOrg : token < config.orgVocabSize
  · have positive : 0 < config.orgShard := by
      by_contra none
      rw [Nat.eq_zero_of_not_pos none, Nat.mul_zero] at orgFits
      omega
    refine .inl ⟨isOrg, positive, ?_⟩
    rw [Nat.div_lt_iff_lt_mul positive]
    omega
  · have addedFits := accepted.addedVocab_le (by omega)
    have positive : 0 < config.addedShard := by
      by_contra none
      rw [Nat.eq_zero_of_not_pos none, Nat.mul_zero] at addedFits
      omega
    refine .inr ⟨isOrg, positive, ?_⟩
    rw [Nat.div_lt_iff_lt_mul positive]
    omega

theorem Accepted.owner_lt (isToken : token < max config.orgVocabSize config.numEmbeddings) :
    config.owner token < config.tpSize := by
  rw [owner]
  rcases accepted.region isToken with ⟨isOrg, -, below⟩ | ⟨notOrg, -, below⟩
  · rw [if_pos isOrg]
    exact below
  · rw [if_neg notOrg]
    exact below

theorem Accepted.localRow_lt (isToken : token < max config.orgVocabSize config.numEmbeddings) :
    config.localRow token < config.orgShard + config.addedShard := by
  rw [localRow]
  rcases accepted.region isToken with ⟨isOrg, positive, -⟩ | ⟨notOrg, positive, -⟩
  · rw [if_pos isOrg]
    exact (Nat.mod_lt _ positive).trans_le (Nat.le_add_right _ _)
  · rw [if_neg notOrg]
    exact Nat.add_lt_add_left (Nat.mod_lt _ positive) _

theorem Accepted.token_unique {token other : Nat} (isToken : token < max config.orgVocabSize config.numEmbeddings)
    (isOther : other < max config.orgVocabSize config.numEmbeddings)
    (sameRank : config.owner token = config.owner other)
    (sameRow : config.localRow token = config.localRow other) : token = other := by
  rw [owner, owner] at sameRank
  rw [localRow, localRow] at sameRow
  rcases accepted.region isToken with ⟨isOrg, positive, -⟩ | ⟨notOrg, positive, -⟩
  · have inShard := Nat.mod_lt token positive
    rw [if_pos isOrg] at sameRank sameRow
    rcases accepted.region isOther with ⟨otherOrg, -, -⟩ | ⟨otherAdded, -, -⟩
    · rw [if_pos otherOrg] at sameRank sameRow
      rw [← Nat.div_add_mod token config.orgShard, sameRank, sameRow, Nat.div_add_mod]
    · rw [if_neg otherAdded] at sameRow
      omega
  · rw [if_neg notOrg] at sameRank sameRow
    rcases accepted.region isOther with ⟨otherOrg, orgPositive, -⟩ | ⟨otherAdded, -, -⟩
    · have inShard := Nat.mod_lt other orgPositive
      rw [if_pos otherOrg] at sameRow
      omega
    · rw [if_neg otherAdded] at sameRank sameRow
      have sameAdded := Nat.div_add_mod (token - config.orgVocabSize) config.addedShard
      rw [sameRank, Nat.add_left_cancel sameRow, Nat.div_add_mod] at sameAdded
      omega

theorem Accepted.maskedInput_eq (several : 1 < config.tpSize)
    (isToken : token < max config.orgVocabSize config.numEmbeddings) (rank : Nat) :
    (config.layer rank).maskedInput token =
      if config.owner token = rank then ((config.localRow token : Int), false) else (0, true) := by
  have place : ∀ {size value : Nat}, 0 < size →
      (value / size = rank ↔ rank * size ≤ value ∧ value < rank * size + size) := by
    intro size value positive
    rw [Nat.div_eq_iff positive, Nat.mul_comm]
    omega
  rw [owner, localRow]
  rcases accepted.region isToken with ⟨isOrg, positive, -⟩ | ⟨notOrg, positive, -⟩
  · rw [if_pos isOrg, if_pos isOrg, maskedInput_org several isOrg]
    by_cases own : token / config.orgShard = rank
    · have inShard := (place positive).mp own
      have isRow : token - rank * config.orgShard = token % config.orgShard := by
        rw [Nat.mod_eq_sub_div_mul, own]
      rw [if_pos own, if_pos inShard, isRow]
    · rw [if_neg own, if_neg fun inShard => own ((place positive).mpr inShard)]
  · rw [if_neg notOrg, if_neg notOrg, maskedInput_added several (by omega) (by omega)]
    by_cases own : (token - config.orgVocabSize) / config.addedShard = rank
    · have inShard := (place positive).mp own
      have isRow : token - (rank * config.addedShard + config.orgVocabSize) =
          (token - config.orgVocabSize) % config.addedShard := by
        rw [Nat.mod_eq_sub_div_mul, own]
        omega
      rw [if_pos own, if_pos (by omega), isRow]
    · rw [if_neg own, if_neg fun inShard => own ((place positive).mpr (by omega))]

/-! ## The gathered rows -/

omit accepted in
variable (config) in
def gatheredRow (token : Nat) : Nat :=
  (config.orgShard + config.addedShard) * config.owner token + config.localRow token

omit accepted in
theorem span_eq_map {rename : Nat → Nat} {first start count : Nat}
    (same : ∀ i < count, rename (start + i) = first + i) :
    List.range' first count = (List.range' start count).map rename := by
  rw [range'_eq_map_range, range'_eq_map_range, map_map]
  apply map_congr_left
  intro i inRange
  exact (same i (mem_range.mp inRange)).symm

omit accepted in
variable (config) in
def baseRows (rank : Nat) : List Nat :=
  List.range' ((config.orgShard + config.addedShard) * rank) (config.indices rank).numOrgElements

omit accepted in
variable (config) in
def addedRows (rank : Nat) : List Nat :=
  List.range' ((config.orgShard + config.addedShard) * rank + config.orgShard) (config.indices rank).numAddedElements

omit accepted in
variable (config) in
def paddingRows (rank : Nat) : List Nat :=
  List.range' ((config.orgShard + config.addedShard) * rank + (config.indices rank).numOrgElements)
      (config.orgShard - (config.indices rank).numOrgElements) ++
    List.range' ((config.orgShard + config.addedShard) * rank + config.orgShard +
        (config.indices rank).numAddedElements) (config.addedShard - (config.indices rank).numAddedElements)

theorem Accepted.mapShards (first : Nat) (ranks : List Nat) (lists : MappingLists) :
    ranks.foldlM (config.layer first).mapShard lists =
      .ok ⟨lists.baseEmbeddings ++ ranks.flatMap config.baseRows,
        lists.addedEmbeddings ++ ranks.flatMap config.addedRows,
        lists.padding ++ ranks.flatMap config.paddingRows⟩ := by
  induction ranks generalizing lists with
  | nil => simp [pure, Except.pure]
  | cons rank rest ih =>
    have isOrg : (config.indices rank).numOrgElementsPadded = config.orgShard := Nat.add_sub_cancel_left _ _
    have isAdded : (config.indices rank).numAddedElementsPadded = config.addedShard := by
      simp only [numAddedElementsPadded, indices]
      omega
    have isEnd : (config.orgShard + config.addedShard) * rank + config.orgShard + config.addedShard =
        (config.orgShard + config.addedShard) * (rank + 1) := by
      ring
    have shard : (config.layer first).mapShard lists rank =
        .ok ⟨lists.baseEmbeddings ++ config.baseRows rank, lists.addedEmbeddings ++ config.addedRows rank,
          lists.padding ++ config.paddingRows rank⟩ := by
      rw [VocabParallelEmbedding.mapShard]
      dsimp only [layer]
      rw [accepted.getIndices_eq]
      show (pyAssert (decide (_ + (config.indices rank).numOrgElementsPadded +
        (config.indices rank).numAddedElementsPadded = _)) "" >>= fun _ => _) = _
      rw [isOrg, isAdded, decide_eq_true isEnd, paddingRows, ← append_assoc]
      rfl
    rw [foldlM_cons, shard]
    show List.foldlM _ _ rest = _
    rw [ih]
    simp only [flatMap_cons, append_assoc]

theorem Accepted.flatMap_baseRows : (List.range config.tpSize).flatMap config.baseRows =
    (List.range config.orgVocabSize).map config.gatheredRow := by
  have fits := accepted.orgVocabSize_le
  have mono : Monotone fun rank => min (rank * config.orgShard) config.orgVocabSize := fun _ _ ordered =>
    min_le_min_right _ (Nat.mul_le_mul_right _ ordered)
  have spans := flatMap_spans mono config.tpSize
  rw [Nat.zero_mul, Nat.zero_min, Nat.sub_zero, Nat.min_eq_right fits, ← range_eq_range'] at spans
  rw [← spans, map_flatMap]
  apply flatMap_congr
  intro rank _
  have isSize : (config.indices rank).numOrgElements =
      min ((rank + 1) * config.orgShard) config.orgVocabSize - min (rank * config.orgShard) config.orgVocabSize := by
    rw [Nat.succ_mul]
    rfl
  rw [baseRows, isSize]
  apply span_eq_map
  intro i below
  rw [Nat.succ_mul] at below
  have isStart : min (rank * config.orgShard) config.orgVocabSize = rank * config.orgShard := by omega
  have isOrg : rank * config.orgShard + i < config.orgVocabSize := by omega
  have inShard : i < config.orgShard := by omega
  rw [isStart, gatheredRow, owner, localRow, if_pos isOrg, if_pos isOrg, div_of_place inShard, mod_of_place inShard]

theorem Accepted.flatMap_addedRows : (List.range config.tpSize).flatMap config.addedRows =
    (List.range' config.orgVocabSize (config.numEmbeddings - config.orgVocabSize)).map config.gatheredRow := by
  have mono : Monotone fun rank => min (rank * config.addedShard + config.orgVocabSize) config.numEmbeddings :=
    fun _ _ ordered => min_le_min_right _ (Nat.add_le_add_right (Nat.mul_le_mul_right _ ordered) _)
  have spans := flatMap_spans mono config.tpSize
  have isAll : List.range' (min (0 * config.addedShard + config.orgVocabSize) config.numEmbeddings)
      (min (config.tpSize * config.addedShard + config.orgVocabSize) config.numEmbeddings -
        min (0 * config.addedShard + config.orgVocabSize) config.numEmbeddings) =
      List.range' config.orgVocabSize (config.numEmbeddings - config.orgVocabSize) := by
    by_cases isVocab : config.orgVocabSize ≤ config.numEmbeddings
    · have fits := accepted.addedVocab_le isVocab
      congr 1 <;> omega
    · have none : config.numEmbeddings - config.orgVocabSize = 0 := by omega
      have noSpan : min (config.tpSize * config.addedShard + config.orgVocabSize) config.numEmbeddings -
          min (0 * config.addedShard + config.orgVocabSize) config.numEmbeddings = 0 := by
        omega
      rw [none, noSpan]
      rfl
  rw [isAll] at spans
  rw [← spans, map_flatMap]
  apply flatMap_congr
  intro rank _
  have isSize : (config.indices rank).numAddedElements =
      min ((rank + 1) * config.addedShard + config.orgVocabSize) config.numEmbeddings -
        min (rank * config.addedShard + config.orgVocabSize) config.numEmbeddings := by
    rw [Nat.succ_mul]
    rfl
  rw [addedRows, isSize]
  apply span_eq_map
  intro i below
  rw [Nat.succ_mul] at below
  have isStart : min (rank * config.addedShard + config.orgVocabSize) config.numEmbeddings =
      rank * config.addedShard + config.orgVocabSize := by
    omega
  have notOrg : ¬ rank * config.addedShard + config.orgVocabSize + i < config.orgVocabSize := by omega
  have inShard : i < config.addedShard := by omega
  have isAdded : rank * config.addedShard + config.orgVocabSize + i - config.orgVocabSize =
      rank * config.addedShard + i := by
    omega
  rw [isStart, gatheredRow, owner, localRow, if_neg notOrg, if_neg notOrg, isAdded, div_of_place inShard,
    mod_of_place inShard, Nat.add_assoc]

omit accepted in
theorem rows_perm (rank : Nat) : (config.baseRows rank ++ (config.addedRows rank ++ config.paddingRows rank)).Perm
    (List.range' ((config.orgShard + config.addedShard) * rank) (config.orgShard + config.addedShard)) := by
  have orgFits : (config.indices rank).numOrgElements ≤ config.orgShard := by
    simp only [indices, numOrgElements]
    omega
  have addedFits : (config.indices rank).numAddedElements ≤ config.addedShard := by
    simp only [indices, numAddedElements]
    omega
  rw [baseRows, addedRows, paddingRows]
  generalize (config.indices rank).numOrgElements = base at *
  generalize (config.indices rank).numAddedElements = added at *
  generalize (config.orgShard + config.addedShard) * rank = first
  have inOrder : List.range' first (config.orgShard + config.addedShard) =
      List.range' first base ++ (List.range' (first + base) (config.orgShard - base) ++
        (List.range' (first + config.orgShard) added ++
          List.range' (first + config.orgShard + added) (config.addedShard - added))) := by
    have behindBase : first + config.orgShard = first + base + (config.orgShard - base) := by omega
    rw [range'_append_1, Nat.add_sub_cancel' addedFits, behindBase, range'_append_1, range'_append_1]
    congr 1
    omega
  rw [inOrder]
  exact List.Perm.append_left _ (perm_append_comm_assoc _ _ _)

omit accepted in
variable (config) in
def mappedRows : List Nat :=
  (List.range config.orgVocabSize).map config.gatheredRow ++
    (List.range' config.orgVocabSize (config.numEmbeddings - config.orgVocabSize)).map config.gatheredRow ++
      (List.range config.tpSize).flatMap config.paddingRows

theorem Accepted.mappedRows_perm : config.mappedRows.Perm (List.range config.numEmbeddingsPadded) := by
  have mono : Monotone fun rank => (config.orgShard + config.addedShard) * rank := fun _ _ => Nat.mul_le_mul_left _
  have spans := flatMap_spans mono config.tpSize
  rw [Nat.mul_zero, Nat.sub_zero, Nat.mul_comm, ← accepted.numEmbeddingsPadded_eq, ← range_eq_range'] at spans
  have isShard : ∀ rank, (config.orgShard + config.addedShard) * (rank + 1) -
      (config.orgShard + config.addedShard) * rank = config.orgShard + config.addedShard := by
    intro rank
    rw [Nat.mul_succ, Nat.add_sub_cancel_left]
  simp only [isShard] at spans
  rw [mappedRows, ← accepted.flatMap_baseRows, ← accepted.flatMap_addedRows, ← spans, append_assoc]
  have behind := flatMap_append_perm (List.range config.tpSize) config.addedRows config.paddingRows
  have all := flatMap_append_perm (List.range config.tpSize) config.baseRows fun rank =>
    config.addedRows rank ++ config.paddingRows rank
  refine ((List.Perm.append_left _ behind).trans all).trans ?_
  exact List.Perm.flatMap_left _ fun rank _ => rows_perm rank

theorem Accepted.mapping_eq (several : 1 < config.tpSize) (rank : Nat) :
    (config.layer rank).getShardedToFullMapping = .ok (some config.mappedRows) := by
  have isLength := accepted.mappedRows_perm.length_eq
  rw [length_range] at isLength
  rw [VocabParallelEmbedding.getShardedToFullMapping, if_neg (by show ¬ config.tpSize < 2; omega)]
  show ((List.range config.tpSize).foldlM _ _ >>= _) = _
  rw [accepted.mapShards, accepted.flatMap_baseRows, accepted.flatMap_addedRows, nil_append, nil_append,
    nil_append]
  show (pyAssert (decide (config.mappedRows.length = config.numEmbeddingsPadded)) "" >>= fun _ => pure _) = _
  rw [decide_eq_true isLength]
  rfl

omit accepted in
theorem getElem?_mappedRows (isToken : token < max config.orgVocabSize config.numEmbeddings) :
    config.mappedRows[token]? = some (config.gatheredRow token) := by
  have isVocab : List.range config.orgVocabSize ++
      List.range' config.orgVocabSize (config.numEmbeddings - config.orgVocabSize) =
        List.range (max config.orgVocabSize config.numEmbeddings) := by
    have joined : List.range' 0 config.orgVocabSize ++ List.range' (0 + config.orgVocabSize)
        (config.numEmbeddings - config.orgVocabSize) = _ := range'_append_1
    rw [Nat.zero_add] at joined
    rw [range_eq_range', range_eq_range', joined]
    congr 1
    omega
  rw [mappedRows, ← map_append, isVocab, getElem?_append_left (by simpa using isToken), getElem?_map,
    getElem?_range isToken, Option.map_some]

/-! ## The lookups -/

variable {M : Type} [AddCommMonoid M]

omit accepted in
/-- The rows of the checkpoint that a rank loads. -/
abbrev orgRows (config : EmbeddingConfig) (rank : Nat) (checkpoint : List M) : List M :=
  (checkpoint.drop (config.indices rank).orgVocabStartIndex).take (config.indices rank).numOrgElements

omit accepted in
theorem weightLoader_eq (rank : Nat) {checkpoint param : List M}
    (isCheckpoint : checkpoint.length = config.orgVocabSize)
    (isParam : param.length = config.orgShard + config.addedShard) :
    ∃ zeros, (config.layer rank).weightLoader param checkpoint =
        .ok (config.orgRows rank checkpoint ++ List.replicate zeros 0) ∧
      (config.indices rank).numOrgElements + zeros = config.orgShard + config.addedShard := by
  have inCheckpoint : (config.indices rank).orgVocabStartIndex + (config.indices rank).numOrgElements ≤
      checkpoint.length := by
    rw [isCheckpoint]
    simp only [indices, numOrgElements]
    omega
  have inParam : (config.indices rank).numOrgElements ≤ config.orgShard := by
    simp only [indices, numOrgElements]
    omega
  have isLength : (config.orgRows rank checkpoint).length = (config.indices rank).numOrgElements := by
    rw [length_take, length_drop]
    omega
  refine ⟨param.length - (config.orgRows rank checkpoint).length, ?_, by omega⟩
  rw [VocabParallelEmbedding.weightLoader]
  show (pyAssert (decide (checkpoint.length = config.orgVocabSize)) "" >>= fun _ => _) = _
  rw [decide_eq_true isCheckpoint, pyAssert_true]
  show (if checkpoint.length < (config.indices rank).orgVocabStartIndex + (config.indices rank).numOrgElements then _
    else if param.length < (config.orgRows rank checkpoint).length then _ else _) = _
  rw [if_neg (by omega), if_neg (by omega)]
  rfl

omit accepted in
theorem loadedRow {rank token zeros : Nat} {checkpoint : List M}
    (isCheckpoint : checkpoint.length = config.orgVocabSize) (isOrg : token < config.orgVocabSize)
    (inShard : rank * config.orgShard ≤ token ∧ token < rank * config.orgShard + config.orgShard) :
    (config.orgRows rank checkpoint ++ List.replicate zeros 0)[token - rank * config.orgShard]? = checkpoint[token]? := by
  have isStart : (config.indices rank).orgVocabStartIndex = rank * config.orgShard := by
    simp only [indices]
    omega
  have inRows : token - rank * config.orgShard < (config.indices rank).numOrgElements := by
    simp only [indices, numOrgElements]
    omega
  have inCheckpoint : token - rank * config.orgShard < (config.orgRows rank checkpoint).length := by
    rw [length_take, length_drop, isCheckpoint, isStart]
    omega
  rw [getElem?_append_left inCheckpoint, getElem?_take_of_lt inRows, getElem?_drop, isStart,
    Nat.add_sub_cancel' inShard.1]

omit accepted in
theorem sum_owner {count owner : Nat} (isRank : owner < count) (row : M) :
    ((List.range count).map fun rank => if owner = rank then row else 0).sum = row := by
  induction count with
  | zero => exact absurd isRank (Nat.not_lt_zero _)
  | succ count ih =>
    rw [range_succ, map_append, sum_append, map_singleton, sum_singleton]
    by_cases isLast : owner = count
    · have noneBefore : (List.range count).map (fun rank => if owner = rank then row else 0) =
          (List.range count).map fun _ => 0 := by
        apply map_congr_left
        intro rank inRange
        have below := mem_range.mp inRange
        exact if_neg (by omega)
      rw [noneBefore, if_pos isLast, map_const', sum_replicate, smul_zero, zero_add]
    · rw [ih (by omega), if_neg isLast, add_zero]

theorem Accepted.outputParallel_eq {rank token zeros : Nat} {checkpoint : List M} {row : M}
    (isRank : rank < config.tpSize) (isCheckpoint : checkpoint.length = config.orgVocabSize)
    (isOrg : token < config.orgVocabSize) (isRow : checkpoint[token]? = some row)
    (isFull : (config.indices rank).numOrgElements + zeros = config.orgShard + config.addedShard) :
    (config.layer rank).outputParallel (config.orgRows rank checkpoint ++ List.replicate zeros 0) token =
      .ok (if config.owner token = rank then row else 0) := by
  have fits := accepted.orgVocabSize_le
  have isToken : token < max config.orgVocabSize config.numEmbeddings := by omega
  set weight := config.orgRows rank checkpoint ++ List.replicate zeros 0 with isWeight
  have isLength : weight.length = config.orgShard + config.addedShard := by
    have inCheckpoint : (config.indices rank).orgVocabStartIndex + (config.indices rank).numOrgElements ≤
        checkpoint.length := by
      rw [isCheckpoint]
      simp only [indices, numOrgElements]
      omega
    rw [isWeight, length_append, length_take, length_drop, length_replicate]
    omega
  have masked : (config.layer rank).maskedInput token = ((config.localRow token : Int), false) ∧
      config.owner token = rank ∧ weight[config.localRow token]? = some row ∨
      (config.layer rank).maskedInput token = (0, true) ∧ config.owner token ≠ rank := by
    have someRow : 0 < config.orgShard := by
      by_contra none
      rw [Nat.eq_zero_of_not_pos none, Nat.mul_zero] at fits
      omega
    have isOwner : config.owner token = token / config.orgShard := if_pos isOrg
    have isLocalRow : config.localRow token = token % config.orgShard := if_pos isOrg
    have split := Nat.div_add_mod' token config.orgShard
    have inShard := Nat.mod_lt token someRow
    have loaded : config.owner token = rank → weight[config.localRow token]? = some row := by
      intro own
      rw [isOwner] at own
      rw [own] at split
      have isPlace : token % config.orgShard = token - rank * config.orgShard := by omega
      rw [isLocalRow, isPlace, isWeight, loadedRow isCheckpoint isOrg (by omega), isRow]
    by_cases several : 1 < config.tpSize
    · rw [accepted.maskedInput_eq several isToken]
      by_cases own : config.owner token = rank
      · exact .inl ⟨if_pos own, own, loaded own⟩
      · exact .inr ⟨if_neg own, own⟩
    · have single : config.tpSize = 1 := by omega
      have own : config.owner token = rank := by
        rw [single, Nat.one_mul] at fits
        rw [isOwner, Nat.div_eq_of_lt (isOrg.trans_le fits)]
        omega
      have isPlace : config.localRow token = token := by
        rw [single, Nat.one_mul] at fits
        rw [isLocalRow, Nat.mod_eq_of_lt (isOrg.trans_le fits)]
      refine .inl ⟨?_, own, loaded own⟩
      rw [isPlace]
      exact if_neg several
  have nonempty : 0 < weight.length := by
    rw [isLength]
    exact (Nat.zero_le _).trans_lt (accepted.localRow_lt isToken)
  rw [VocabParallelEmbedding.outputParallel]
  rcases masked with ⟨isMasked, own, isLoaded⟩ | ⟨isMasked, foreign⟩
  · rw [isMasked, if_pos own]
    dsimp only
    rw [if_neg (by omega), Int.toNat_natCast, isLoaded]
    rfl
  · rw [isMasked, if_neg foreign]
    dsimp only
    rw [if_neg (by omega), Int.toNat_zero, getElem?_eq_getElem nonempty]
    rfl

end EmbeddingConfig

/-! ## The partition -/

structure EmbeddingConfig.VocabShards (config : EmbeddingConfig) : Prop where
  /-- A token is unmasked on one rank. -/
  oneRank : ∀ token < config.numEmbeddings, ∃! rank, rank < config.tpSize ∧
    ((config.layer rank).maskedInput token).2 = false
  /-- Its row is inside the partition. -/
  inPartition : ∀ rank < config.tpSize, ∀ token < config.numEmbeddings,
    ((config.layer rank).maskedInput token).2 = false →
      ∃ row < (config.layer rank).numEmbeddingsPerPartition, ((config.layer rank).maskedInput token).1 = (row : Nat)
  distinct : ∀ rank < config.tpSize, ∀ token < config.numEmbeddings, ∀ other < config.numEmbeddings,
    ((config.layer rank).maskedInput token).2 = false → ((config.layer rank).maskedInput other).2 = false →
      ((config.layer rank).maskedInput token).1 = ((config.layer rank).maskedInput other).1 → token = other
  /-- The ranks load their shards, and the sum of their lookups is the row of the checkpoint. -/
  lookup : ∀ {M : Type} [AddCommMonoid M] (checkpoint : List M) (params : Nat → List M),
    checkpoint.length = config.orgVocabSize →
    (∀ rank < config.tpSize, (params rank).length = (config.layer rank).numEmbeddingsPerPartition) →
      ∃ weights : Nat → List M,
        (∀ rank < config.tpSize, (config.layer rank).weightLoader (params rank) checkpoint = .ok (weights rank)) ∧
        ∀ token < config.orgVocabSize, ∃ row, checkpoint[token]? = some row ∧
          allReduceForward ((List.range config.tpSize).map fun rank => (config.layer rank, weights rank)) token =
            .ok row
  /-- Without a mapping the gathered rows are taken as they are. -/
  mapping : ∀ rank < config.tpSize, ∃ mapping, (config.layer rank).getShardedToFullMapping = .ok mapping ∧
    (mapping = none ↔ config.tpSize = 1) ∧
    let rows := mapping.getD (List.range config.numEmbeddingsPadded)
    rows.Perm (List.range (config.tpSize * (config.layer rank).numEmbeddingsPerPartition)) ∧
      ∀ token < config.numEmbeddings, ∀ owner < config.tpSize, ∀ row : Nat,
        (config.layer owner).maskedInput token = ((row : Int), false) →
          rows[token]? = some ((config.layer rank).numEmbeddingsPerPartition * owner + row)

namespace EmbeddingConfig

variable {config : EmbeddingConfig} (accepted : config.Accepted)

include accepted

theorem Accepted.lookup {M : Type} [AddCommMonoid M] (checkpoint : List M) (params : Nat → List M)
    (isCheckpoint : checkpoint.length = config.orgVocabSize)
    (areParams : ∀ rank < config.tpSize, (params rank).length = (config.layer rank).numEmbeddingsPerPartition) :
    ∃ weights : Nat → List M,
      (∀ rank < config.tpSize, (config.layer rank).weightLoader (params rank) checkpoint = .ok (weights rank)) ∧
      ∀ token < config.orgVocabSize, ∃ row, checkpoint[token]? = some row ∧
        allReduceForward ((List.range config.tpSize).map fun rank => (config.layer rank, weights rank)) token =
          .ok row := by
  have loads : ∀ rank, ∃ zeros, rank < config.tpSize →
      (config.layer rank).weightLoader (params rank) checkpoint =
        .ok (config.orgRows rank checkpoint ++ List.replicate zeros 0) ∧
      (config.indices rank).numOrgElements + zeros = config.orgShard + config.addedShard := by
    intro rank
    by_cases isRank : rank < config.tpSize
    · obtain ⟨zeros, isLoaded⟩ := weightLoader_eq rank isCheckpoint (areParams rank isRank)
      exact ⟨zeros, fun _ => isLoaded⟩
    · exact ⟨0, fun isRank' => absurd isRank' isRank⟩
  choose zeros isLoaded using loads
  refine ⟨_, fun rank isRank => (isLoaded rank isRank).1, fun token isOrg => ?_⟩
  have inCheckpoint : token < checkpoint.length := by omega
  refine ⟨checkpoint[token], getElem?_eq_getElem inCheckpoint, ?_⟩
  have outputs : ((List.range config.tpSize).map fun rank => (config.layer rank,
      config.orgRows rank checkpoint ++ List.replicate (zeros rank) 0)).mapM (fun rank => rank.1.outputParallel rank.2 token) =
      .ok ((List.range config.tpSize).map fun rank => if config.owner token = rank then checkpoint[token] else 0) := by
    rw [mapM_map]
    apply mapM_ok
    intro rank inRange
    have isRank := mem_range.mp inRange
    exact accepted.outputParallel_eq isRank isCheckpoint isOrg (getElem?_eq_getElem inCheckpoint)
      (isLoaded rank isRank).2
  rw [allReduceForward, outputs]
  exact congrArg Except.ok (sum_owner (accepted.owner_lt (by omega)) _)

theorem Accepted.shards (someRank : 0 < config.tpSize) : config.VocabShards := by
  have isVocab : ∀ {token}, token < config.numEmbeddings → token < max config.orgVocabSize config.numEmbeddings :=
    fun isToken => isToken.trans_le (le_max_right _ _)
  have single : ¬ 1 < config.tpSize → ∀ (rank : Nat) (token : Int),
      (config.layer rank).maskedInput token = (token, false) :=
    fun notSeveral rank token => if_neg notSeveral
  have isPadded : ∀ {token}, token < config.numEmbeddings → token < config.numEmbeddingsPadded := by
    intro token isToken
    have enough := le_padVocabSize (config.orgVocabSizePadded + config.numEmbeddings - config.orgVocabSize)
      accepted.padding_pos
    have orgFits : config.orgVocabSize ≤ config.orgVocabSizePadded := le_padVocabSize _ accepted.padding_pos
    rw [← numEmbeddingsPadded] at enough
    omega
  refine ⟨?_, ?_, ?_, accepted.lookup, ?_⟩
  · intro token isToken
    by_cases several : 1 < config.tpSize
    · refine ⟨config.owner token, ⟨accepted.owner_lt (isVocab isToken), ?_⟩, fun rank unmasked => ?_⟩
      · simp only [accepted.maskedInput_eq several (isVocab isToken), if_true]
      · have own := unmasked.2
        rw [accepted.maskedInput_eq several (isVocab isToken)] at own
        split at own
        next isRank => exact isRank.symm
        next => cases own
    · refine ⟨0, ⟨someRank, ?_⟩, fun rank unmasked => by omega⟩
      simp only [single several]
  · intro rank _ token isToken unmasked
    by_cases several : 1 < config.tpSize
    · rw [accepted.maskedInput_eq several (isVocab isToken)] at unmasked ⊢
      split at unmasked
      next own =>
        rw [if_pos own]
        exact ⟨config.localRow token, accepted.localRow_lt (isVocab isToken), rfl⟩
      next => cases unmasked
    · have isOne : config.tpSize = 1 := by omega
      have inPartition := isPadded isToken
      rw [accepted.numEmbeddingsPadded_eq, isOne, Nat.one_mul] at inPartition
      rw [single several]
      exact ⟨token, inPartition, rfl⟩
  · intro rank _ token isToken other isOther unmasked otherUnmasked sameRow
    by_cases several : 1 < config.tpSize
    · rw [accepted.maskedInput_eq several (isVocab isToken)] at unmasked sameRow
      rw [accepted.maskedInput_eq several (isVocab isOther)] at otherUnmasked sameRow
      split at unmasked
      next own =>
        split at otherUnmasked
        next otherOwn =>
          rw [if_pos own, if_pos otherOwn] at sameRow
          exact accepted.token_unique (isVocab isToken) (isVocab isOther) (own.trans otherOwn.symm)
            (Int.ofNat_inj.mp sameRow)
        next => cases otherUnmasked
      next => cases unmasked
    · rw [single several, single several] at sameRow
      exact Int.ofNat_inj.mp sameRow
  · intro rank _
    have isTotal : config.tpSize * (config.layer rank).numEmbeddingsPerPartition = config.numEmbeddingsPadded :=
      accepted.numEmbeddingsPadded_eq.symm
    rw [isTotal]
    by_cases several : 1 < config.tpSize
    · refine ⟨_, accepted.mapping_eq several rank, by simp; omega, accepted.mappedRows_perm, ?_⟩
      intro token isToken owner _ row isRow
      rw [accepted.maskedInput_eq several (isVocab isToken)] at isRow
      rw [Option.getD_some, getElem?_mappedRows (isVocab isToken), gatheredRow]
      split at isRow
      next own =>
        rw [own, Int.ofNat_inj.mp (Prod.mk.inj isRow).1]
        rfl
      next => cases isRow
    · have isOne : config.tpSize = 1 := by omega
      have noMapping : (config.layer rank).getShardedToFullMapping = .ok none := by
        rw [VocabParallelEmbedding.getShardedToFullMapping, if_pos (by show config.tpSize < 2; omega)]
        rfl
      refine ⟨none, noMapping, by simp [isOne], List.Perm.refl _, ?_⟩
      intro token isToken owner isOwner row isRow
      rw [single several] at isRow
      have sameRow : token = row := Int.ofNat_inj.mp (Prod.mk.inj isRow).1
      have isFirst : owner = 0 := by omega
      rw [Option.getD_none, getElem?_range (isPadded isToken), isFirst, Nat.mul_zero, Nat.zero_add, sameRow]

end EmbeddingConfig

/-- Where `divide` accepts the sizes or the constructor returns on a rank, it returns on every rank, and the
shards partition the table. -/
theorem vocabParallelEmbedding_partition (config : EmbeddingConfig) (someRank : 0 < config.tpSize)
    (accepts : config.Divides ∨ ∃ rank < config.tpSize, ∃ layer, config.init rank = .ok layer) :
    (∀ rank < config.tpSize, config.init rank = .ok (config.layer rank)) ∧ config.VocabShards := by
  have accepted : config.Accepted := by
    rcases accepts with divides | ⟨rank, -, layer, ran⟩
    · exact divides.isAccepted
    · exact EmbeddingConfig.accepted_of_init ran
  exact ⟨fun rank _ => accepted.init_eq someRank rank, accepted.shards someRank⟩

private def docstringConfig : EmbeddingConfig := ⟨1026, some 1010, 64, none, 2⟩

theorem vocabParallelEmbedding_docstring :
    (∀ rank < docstringConfig.tpSize, docstringConfig.init rank = .ok (docstringConfig.layer rank)) ∧
      docstringConfig.VocabShards := by
  apply vocabParallelEmbedding_partition docstringConfig Nat.two_pos
  exact .inl (EmbeddingConfig.divides_of_padding (by decide) (by decide) ⟨32, rfl⟩)

end DeepSpark
