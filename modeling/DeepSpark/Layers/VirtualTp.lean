import DeepSpark.Lib.Chunks
import DeepSpark.Lib.TrueDivision

/-!
Virtual tensor parallelism: `config/virtual_tp.py` and `model_executor/virtual_tp.py`.

Owns the plan that pads the axes of a model, the shards that the loaders take of a checkpoint, and that
the shards of an axis hold every row of it, heads beside their groups.
-/

namespace DeepSpark

open Lib

/-! ## The plan -/

inductive AxisName where
  | attentionHeads
  | kvHeads
  | indexHeads
  | outputGroups
  | moeIntermediateSize
  | denseIntermediateSize
  | sharedExpertIntermediateSize
  | vocabSize
deriving DecidableEq, Repr

structure VirtualAxis where
  originalSize : Nat
  paddedSize : Nat
  tpSize : Nat
  localSize : Nat
  paddingSize : Option Nat := none
  qHeadsPerKv : Option Nat := none
  headsPerGroup : Option Nat := none
deriving DecidableEq, Repr

structure VirtualTpPlan where
  isMinimaxM3 : Bool
  axes : List (AxisName × VirtualAxis)
deriving DecidableEq, Repr

/-- What the plan reads of the configuration of a model. -/
structure VirtualTpModel where
  isMinimaxM3 : Bool
  isDeepseekV4 : Bool
  numAttentionHeads : Option Nat := none
  numKeyValueHeads : Option Nat := none
  sparseNumIndexHeads : Option Nat := none
  oGroups : Option Nat := none
  intermediateSize : Option Nat := none
  denseIntermediateSize : Option Nat := none
  moeIntermediateSize : Option Nat := none
  nSharedExperts : Option Nat := none
  vocabSize : Option Nat := none
deriving DecidableEq, Repr

/-- The sizes that the plan reads of the parallel configuration. -/
structure VirtualTpParallel where
  tensorParallelSize : Nat
  dataParallelSize : Nat
  prefillContextParallelSize : Nat
deriving DecidableEq, Repr

def VirtualTpParallel.moeTpSize (parallel : VirtualTpParallel) : Nat :=
  parallel.tensorParallelSize * parallel.dataParallelSize * parallel.prefillContextParallelSize

def attentionHeadLocalAlignment : Nat := 8

def moeIntermediateLocalAlignment : Nat := 32

def sharedExpertFp8LocalAlignment : Nat := 128

def vocabGlobalAlignment : Nat := 64

def minimaxM3VirtualTpSize : Nat := 3

def minimaxM3QkPerKv : Nat := 16

def requireIntAttr (value : Option Nat) (attr : String) : Except PyError Nat :=
  match value with
  | some value => .ok value
  | none => .error (.valueError s!"B12X virtual TP padding requires config attribute '{attr}'.")

/-- `math.ceil(size / alignment) * alignment`. -/
def ceilTo (size alignment : Nat) : Except PyError Nat := do
  let units ← ceilTrueDiv size alignment
  return units * alignment

def makeVirtualAxis (originalSize tpSize localAlignment : Nat) : Except PyError VirtualAxis := do
  let localSize ← ceilTrueDiv originalSize tpSize
  let localSize ← ceilTo localSize localAlignment
  return { originalSize, paddedSize := localSize * tpSize, tpSize, localSize }

def makeNoopAxis (originalSize tpSize : Nat) : VirtualAxis where
  originalSize
  paddedSize := originalSize
  tpSize
  localSize := if tpSize > 0 ∧ originalSize % tpSize = 0 then originalSize / tpSize else 0

def makeNoopVocabAxis (originalSize tpSize : Nat) : VirtualAxis :=
  { makeNoopAxis originalSize tpSize with paddingSize := some (Nat.lcm vocabGlobalAlignment tpSize) }

def makeVirtualVocabAxis (originalSize tpSize : Nat) : Except PyError VirtualAxis := do
  let paddingSize := Nat.lcm vocabGlobalAlignment tpSize
  let paddedSize ← ceilTo originalSize paddingSize
  pyAssert (paddedSize % tpSize = 0) ""
  return { originalSize, paddedSize, tpSize, localSize := paddedSize / tpSize, paddingSize := some paddingSize }

/-- The loop of `_make_minimax_m3_attention_axis`: a multiple of the group size comes within
`q_heads_per_kv` steps. -/
def growLocalSize (qHeadsPerKv : Nat) : Nat → Nat → Nat
  | 0, localSize => localSize
  | fuel + 1, localSize =>
    if localSize % qHeadsPerKv ≠ 0 then growLocalSize qHeadsPerKv fuel (localSize + attentionHeadLocalAlignment)
    else localSize

def makeMinimaxM3AttentionAxis (originalSize originalKvHeads tpSize : Nat) : Except PyError VirtualAxis := do
  let qHeadsPerKv := originalSize / originalKvHeads
  let localSize ← ceilTrueDiv originalSize tpSize
  let localSize ← ceilTo localSize attentionHeadLocalAlignment
  let localSize := growLocalSize qHeadsPerKv qHeadsPerKv localSize
  return { originalSize, paddedSize := localSize * tpSize, tpSize, localSize }

def makeMinimaxM3KvAxis (originalSize localAttentionHeads qHeadsPerKv tpSize : Nat) : Except PyError VirtualAxis := do
  if localAttentionHeads % qHeadsPerKv ≠ 0 then
    throw (.valueError ("MiniMax M3 virtual TP padding produced a local query-head count that does not preserve " ++
      "the original GQA group size."))
  let localSize := localAttentionHeads / qHeadsPerKv
  return { originalSize, paddedSize := localSize * tpSize, tpSize, localSize, qHeadsPerKv := some qHeadsPerKv }

def makeVirtualOutputGroupAxis (originalSize originalAttentionHeads paddedAttentionHeads tpSize : Nat) :
    Except PyError VirtualAxis := do
  if originalSize = 0 then throw (.zeroDivisionError "integer modulo by zero")
  if originalAttentionHeads % originalSize ≠ 0 then
    throw (.valueError ("DeepSeek V4 virtual TP padding requires num_attention_heads to be divisible by " ++
      "o_groups."))
  let headsPerGroup := originalAttentionHeads / originalSize
  if headsPerGroup = 0 then throw (.zeroDivisionError "integer modulo by zero")
  if paddedAttentionHeads % headsPerGroup ≠ 0 then
    throw (.valueError ("DeepSeek V4 virtual TP padding produced attention heads that do not preserve the " ++
      "original heads-per-output-group ratio."))
  let paddedSize := paddedAttentionHeads / headsPerGroup
  if paddedSize % tpSize ≠ 0 then
    throw (.valueError ("DeepSeek V4 virtual TP padding produced output groups that are not divisible by " ++
      "tensor parallel size."))
  return { originalSize, paddedSize, tpSize, localSize := paddedSize / tpSize, headsPerGroup := some headsPerGroup }

def minimaxM3NoopPlan (heads kvHeads indexHeads intermediate dense sharedExperts vocab tpSize : Nat) :
    VirtualTpPlan where
  isMinimaxM3 := true
  axes :=
    [(.attentionHeads, makeNoopAxis heads tpSize),
     (.kvHeads, { makeNoopAxis kvHeads tpSize with
        qHeadsPerKv := some (if kvHeads > 0 ∧ heads % kvHeads = 0 then heads / kvHeads else 0) }),
     (.indexHeads, makeNoopAxis indexHeads tpSize),
     (.moeIntermediateSize, makeNoopAxis intermediate tpSize),
     (.denseIntermediateSize, makeNoopAxis dense tpSize),
     (.sharedExpertIntermediateSize, makeNoopAxis (intermediate * sharedExperts) tpSize),
     (.vocabSize, makeNoopVocabAxis vocab tpSize)]

def minimaxM3PaddedPlan (heads kvHeads indexHeads intermediate dense sharedExperts vocab : Nat)
    (parallel : VirtualTpParallel) : Except PyError VirtualTpPlan := do
  let tpSize := parallel.tensorParallelSize
  if kvHeads = 0 then throw (.zeroDivisionError "integer modulo by zero")
  if heads % kvHeads ≠ 0 then
    throw (.valueError ("MiniMax M3 virtual TP padding requires num_attention_heads to be divisible by " ++
      "num_key_value_heads."))
  let qHeadsPerKv := heads / kvHeads
  if qHeadsPerKv ≠ minimaxM3QkPerKv then
    throw (.valueError ("MiniMax M3 virtual TP padding currently expects 16 query heads per KV head, got " ++
      s!"{qHeadsPerKv}."))
  let attentionAxis ← makeMinimaxM3AttentionAxis heads kvHeads tpSize
  let kvAxis ← makeMinimaxM3KvAxis kvHeads attentionAxis.localSize qHeadsPerKv tpSize
  let indexAxis : VirtualAxis :=
    { originalSize := indexHeads, paddedSize := kvAxis.paddedSize, tpSize, localSize := kvAxis.localSize }
  let moeAxis ← makeVirtualAxis intermediate parallel.moeTpSize moeIntermediateLocalAlignment
  let denseAxis ← makeVirtualAxis dense tpSize sharedExpertFp8LocalAlignment
  let sharedExpertAxis ← makeVirtualAxis (intermediate * sharedExperts) tpSize sharedExpertFp8LocalAlignment
  let vocabAxis ← makeVirtualVocabAxis vocab tpSize
  return { isMinimaxM3 := true
           axes := [(.attentionHeads, attentionAxis), (.kvHeads, kvAxis), (.indexHeads, indexAxis),
             (.moeIntermediateSize, moeAxis), (.denseIntermediateSize, denseAxis),
             (.sharedExpertIntermediateSize, sharedExpertAxis), (.vocabSize, vocabAxis)] }

/-- `int(getattr(text_config, "n_shared_experts", 1) or 1)`. -/
def VirtualTpModel.sharedExperts (model : VirtualTpModel) : Nat :=
  if model.nSharedExperts.getD 1 = 0 then 1 else model.nSharedExperts.getD 1

def buildMinimaxM3VirtualTpPlan (model : VirtualTpModel) (parallel : VirtualTpParallel) :
    Except PyError VirtualTpPlan := do
  let heads ← requireIntAttr model.numAttentionHeads "num_attention_heads"
  let kvHeads ← requireIntAttr model.numKeyValueHeads "num_key_value_heads"
  let indexHeads := model.sparseNumIndexHeads.getD kvHeads
  let intermediate ← requireIntAttr model.intermediateSize "intermediate_size"
  let dense ← requireIntAttr model.denseIntermediateSize "dense_intermediate_size"
  let vocab ← requireIntAttr model.vocabSize "vocab_size"
  if parallel.tensorParallelSize ≠ minimaxM3VirtualTpSize then
    return minimaxM3NoopPlan heads kvHeads indexHeads intermediate dense model.sharedExperts vocab
      parallel.tensorParallelSize
  else minimaxM3PaddedPlan heads kvHeads indexHeads intermediate dense model.sharedExperts vocab parallel

def outputGroupAxes (model : VirtualTpModel) (originalAttentionHeads paddedAttentionHeads tpSize : Nat) :
    Except PyError (List (AxisName × VirtualAxis)) := do
  if model.isDeepseekV4 then
    let originalOutputGroups ← requireIntAttr model.oGroups "o_groups"
    let axis ← makeVirtualOutputGroupAxis originalOutputGroups originalAttentionHeads paddedAttentionHeads tpSize
    return [(.outputGroups, axis)]
  else return []

def sharedExpertAxes (model : VirtualTpModel) (moeOriginalSize tpSize : Nat) :
    Except PyError (List (AxisName × VirtualAxis)) := do
  match model.isDeepseekV4, model.nSharedExperts with
  | true, some nSharedExperts =>
    let axis ← makeVirtualAxis (moeOriginalSize * nSharedExperts) tpSize sharedExpertFp8LocalAlignment
    return [(.sharedExpertIntermediateSize, axis)]
  | _, _ => return []

def buildB12xVirtualTpPlan (model : VirtualTpModel) (parallel : VirtualTpParallel) : Except PyError VirtualTpPlan :=
  if model.isMinimaxM3 then buildMinimaxM3VirtualTpPlan model parallel
  else do
    let attentionTpSize := parallel.tensorParallelSize
    let originalAttentionHeads ← requireIntAttr model.numAttentionHeads "num_attention_heads"
    let attentionAxis ← makeVirtualAxis originalAttentionHeads attentionTpSize attentionHeadLocalAlignment
    let outputGroupAxis ← outputGroupAxes model originalAttentionHeads attentionAxis.paddedSize attentionTpSize
    let moeOriginalSize ← requireIntAttr model.moeIntermediateSize "moe_intermediate_size"
    let moeAxis ← makeVirtualAxis moeOriginalSize parallel.moeTpSize moeIntermediateLocalAlignment
    let sharedExpertAxis ← sharedExpertAxes model moeOriginalSize attentionTpSize
    let vocabSize ← requireIntAttr model.vocabSize "vocab_size"
    let vocabAxis ← makeVirtualVocabAxis vocabSize attentionTpSize
    return { isMinimaxM3 := false
             axes := [(.attentionHeads, attentionAxis), (.moeIntermediateSize, moeAxis), (.vocabSize, vocabAxis)] ++
               outputGroupAxis ++ sharedExpertAxis }

def VirtualTpPlan.requiresPadding (plan : VirtualTpPlan) : Bool :=
  plan.axes.any fun entry => entry.2.originalSize ≠ entry.2.paddedSize

section

variable {α : Type} [Zero α]

def narrowRows (loadedWeight : List α) (startIdx shardSize : Nat) : Except PyError (List α) :=
  if startIdx + shardSize ≤ loadedWeight.length then .ok ((loadedWeight.drop startIdx).take shardSize)
  else .error (.runtimeError "start + length exceeds dimension size")

def padOrNarrowWeight (isVirtualTpPaddedEnabled : Bool) (loadedWeight : List α) (startIdx shardSize : Nat) :
    Except PyError (List α) := do
  if !isVirtualTpPaddedEnabled then narrowRows loadedWeight startIdx shardSize
  else
    let available : Int := (loadedWeight.length : Int) - startIdx
    if available ≥ shardSize then narrowRows loadedWeight startIdx shardSize
    else if available > 0 then
      let validWeight ← narrowRows loadedWeight startIdx available.toNat
      return validWeight ++ List.replicate (shardSize - available.toNat) 0
    else return List.replicate shardSize 0

end

/-! ## What a plan promises -/

def AxisName.localAlignment : AxisName → Nat
  | .attentionHeads => attentionHeadLocalAlignment
  | .moeIntermediateSize => moeIntermediateLocalAlignment
  | .denseIntermediateSize | .sharedExpertIntermediateSize => sharedExpertFp8LocalAlignment
  | .kvHeads | .indexHeads | .outputGroups | .vocabSize => 1

structure VirtualAxis.Sized (axis : VirtualAxis) (name : AxisName) : Prop where
  isProduct : axis.paddedSize = axis.localSize * axis.tpSize
  aligned : name.localAlignment ∣ axis.localSize
  /-- The vocabulary is aligned as a whole. -/
  paddingAligned : name = .vocabSize → ∃ paddingSize, axis.paddingSize = some paddingSize ∧
    vocabGlobalAlignment ∣ paddingSize ∧ axis.tpSize ∣ paddingSize ∧ paddingSize ∣ axis.paddedSize

/-- The shards of the ranks are the checkpoint with zeros behind it, for tensors of `unit` rows for each
unit of the axis. -/
def VirtualAxis.LoadsWhole (axis : VirtualAxis) : Prop :=
  ∀ {α : Type} [Zero α] (unit : Nat) (checkpoint : List α), checkpoint.length = axis.originalSize * unit →
    ∃ shards, (List.range axis.tpSize).mapM (fun rank =>
        padOrNarrowWeight true checkpoint (rank * (axis.localSize * unit)) (axis.localSize * unit)) = .ok shards ∧
      shards.flatten = checkpoint ++ List.replicate ((axis.paddedSize - axis.originalSize) * unit) 0

/-- A head is on the rank of its group, among the heads of the group's local index. -/
def BesideGroup (heads groups : VirtualAxis) (perGroup : Nat) : Prop :=
  heads.tpSize = groups.tpSize ∧ ∀ head < heads.originalSize,
    head / perGroup < groups.originalSize ∧ head / heads.localSize < heads.tpSize ∧
      head / heads.localSize = head / perGroup / groups.localSize ∧
      head % heads.localSize / perGroup = head / perGroup % groups.localSize

/-- What a plan promises; the index heads take the place of the KV heads. -/
structure VirtualTpPlan.Holds (plan : VirtualTpPlan) : Prop where
  sized : ∀ name axis, (name, axis) ∈ plan.axes → axis.Sized name
  covers : ∀ name axis, (name, axis) ∈ plan.axes → name ≠ .indexHeads → axis.originalSize ≤ axis.paddedSize
  indexHeads : ∀ axis kvAxis, (.indexHeads, axis) ∈ plan.axes → (.kvHeads, kvAxis) ∈ plan.axes →
    axis.tpSize = kvAxis.tpSize ∧ axis.localSize = kvAxis.localSize ∧ axis.paddedSize = kvAxis.paddedSize
  loads : ∀ name axis, (name, axis) ∈ plan.axes → axis.originalSize ≤ axis.paddedSize → axis.LoadsWhole
  kvHeads : ∀ heads kvAxis, (.attentionHeads, heads) ∈ plan.axes → (.kvHeads, kvAxis) ∈ plan.axes →
    ∃ qHeadsPerKv, kvAxis.qHeadsPerKv = some qHeadsPerKv ∧ BesideGroup heads kvAxis qHeadsPerKv
  outputGroups : ∀ heads groups, (.attentionHeads, heads) ∈ plan.axes → (.outputGroups, groups) ∈ plan.axes →
    ∃ headsPerGroup, groups.headsPerGroup = some headsPerGroup ∧ BesideGroup heads groups headsPerGroup

/-- The operands of the true divisions are exact as doubles. -/
structure VirtualTpModel.ExactSizes (model : VirtualTpModel) (parallel : VirtualTpParallel) : Prop where
  heads : model.numAttentionHeads.getD 0 < 2 ^ 53
  intermediate : model.intermediateSize.getD 0 * max 1 (model.nSharedExperts.getD 1) < 2 ^ 53
  denseIntermediate : model.denseIntermediateSize.getD 0 < 2 ^ 53
  moeIntermediate : model.moeIntermediateSize.getD 0 * max 1 (model.nSharedExperts.getD 1) < 2 ^ 53
  vocab : model.vocabSize.getD 0 < 2 ^ 53
  moeTpSize : parallel.moeTpSize < 2 ^ 53
  vocabPadding : Nat.lcm vocabGlobalAlignment parallel.tensorParallelSize < 2 ^ 53

/-! ## The axes -/

theorem cdiv_le_self (count size : Nat) : cdiv count size ≤ count := by
  rw [cdiv]
  rcases Nat.eq_zero_or_pos size with none | positive
  · rw [none, Nat.div_zero]
    exact Nat.zero_le _
  · rcases Nat.eq_zero_or_pos count with empty | someItem
    · rw [empty, Nat.zero_add, Nat.div_eq_of_lt (by omega)]
    · apply Nat.div_le_of_le_mul
      obtain ⟨sizeRest, rfl⟩ : ∃ rest, size = rest + 1 := ⟨size - 1, by omega⟩
      obtain ⟨countRest, rfl⟩ : ∃ rest, count = rest + 1 := ⟨count - 1, by omega⟩
      have product : (sizeRest + 1) * (countRest + 1) = sizeRest * countRest + sizeRest + countRest + 1 := by ring
      omega

theorem ceilTrueDiv_pos {a b quotient : Nat} (ran : ceilTrueDiv a b = .ok quotient) : 0 < b := by
  rw [ceilTrueDiv, trueDiv] at ran
  split at ran
  next => cases ran
  next notZero => exact Nat.pos_of_ne_zero notZero

theorem ceilTo_eq {size alignment result : Nat} (ran : ceilTo size alignment = .ok result) (small : size < 2 ^ 53)
    (smallAlignment : alignment < 2 ^ 53) : 0 < alignment ∧ result = cdiv size alignment * alignment := by
  obtain ⟨units, isUnits, isResult⟩ := bind_eq_ok.mp ran
  have positive := ceilTrueDiv_pos isUnits
  rw [ceilTrueDiv_eq positive small smallAlignment] at isUnits
  cases isUnits
  cases isResult
  exact ⟨positive, rfl⟩

variable {originalSize tpSize : Nat} {axis : VirtualAxis}

theorem makeVirtualAxis_spec {alignment : Nat}
    (ran : makeVirtualAxis originalSize tpSize alignment = .ok axis) (small : originalSize < 2 ^ 53)
    (smallTp : tpSize < 2 ^ 53) (smallAlignment : alignment < 2 ^ 53) :
    axis.originalSize = originalSize ∧ axis.tpSize = tpSize ∧ 0 < tpSize ∧
      axis.paddedSize = axis.localSize * tpSize ∧ alignment ∣ axis.localSize ∧ originalSize ≤ axis.paddedSize := by
  obtain ⟨shard, isShard, ran⟩ := bind_eq_ok.mp ran
  obtain ⟨aligned, isAligned, isAxis⟩ := bind_eq_ok.mp ran
  have positive := ceilTrueDiv_pos isShard
  rw [ceilTrueDiv_eq positive small smallTp] at isShard
  cases isShard
  obtain ⟨alignmentPositive, rfl⟩ := ceilTo_eq isAligned ((cdiv_le_self _ _).trans_lt small) smallAlignment
  cases isAxis
  refine ⟨rfl, rfl, positive, rfl, ⟨_, Nat.mul_comm _ _⟩, ?_⟩
  calc originalSize ≤ cdiv originalSize tpSize * tpSize := le_cdiv_mul _ positive
    _ ≤ cdiv (cdiv originalSize tpSize) alignment * alignment * tpSize :=
        Nat.mul_le_mul_right _ (le_cdiv_mul _ alignmentPositive)

theorem makeVirtualVocabAxis_spec
    (ran : makeVirtualVocabAxis originalSize tpSize = .ok axis) (small : originalSize < 2 ^ 53)
    (smallPadding : Nat.lcm vocabGlobalAlignment tpSize < 2 ^ 53) :
    axis.Sized .vocabSize ∧ axis.originalSize = originalSize ∧ originalSize ≤ axis.paddedSize := by
  obtain ⟨padded, isPadded, ran⟩ := bind_eq_ok.mp ran
  obtain ⟨_, divides, isAxis⟩ := bind_eq_ok.mp ran
  obtain ⟨positive, rfl⟩ := ceilTo_eq isPadded small smallPadding
  cases isAxis
  refine ⟨⟨?_, one_dvd _, fun _ => ⟨_, rfl, Nat.dvd_lcm_left _ _, Nat.dvd_lcm_right _ _, ⟨_, Nat.mul_comm _ _⟩⟩⟩, rfl,
    le_cdiv_mul _ positive⟩
  exact (Nat.div_mul_cancel ((Nat.dvd_lcm_right _ _).trans ⟨_, Nat.mul_comm _ _⟩)).symm

/-! ## The shards of an axis -/

section

variable {α : Type}

theorem padOrNarrowWeight_eq [Zero α] {checkpoint : List α} {start size zeros : Nat}
    (inPadded : start + size ≤ checkpoint.length + zeros) :
    padOrNarrowWeight true checkpoint start size =
      .ok (((checkpoint ++ List.replicate zeros 0).drop start).take size) := by
  rw [padOrNarrowWeight]
  simp only [Bool.not_true, Bool.false_eq_true, if_false]
  by_cases whole : start + size ≤ checkpoint.length
  · rw [if_pos (by omega), narrowRows, if_pos whole, List.drop_append_of_le_length (by omega),
      List.take_append_of_le_length (by rw [List.length_drop]; omega)]
  · rw [if_neg (by omega)]
    by_cases partly : start < checkpoint.length
    · have isAvailable : ((checkpoint.length : Int) - start).toNat = checkpoint.length - start := by omega
      have isRest : (checkpoint.drop start).length = checkpoint.length - start := List.length_drop
      rw [if_pos (by omega), isAvailable, narrowRows, if_pos (by omega), List.drop_append_of_le_length (by omega),
        List.take_append, isRest, List.take_of_length_le (by omega), List.take_replicate,
        List.take_of_length_le (by omega), Nat.min_eq_left (by omega)]
      rfl
    · have isEmpty : checkpoint.drop start = [] := List.drop_eq_nil_of_le (by omega)
      rw [if_neg (by omega), List.drop_append, isEmpty, List.nil_append, List.drop_replicate, List.take_replicate,
        Nat.min_eq_left (by omega)]
      rfl

theorem loadsWhole (isProduct : axis.paddedSize = axis.localSize * axis.tpSize)
    (covers : axis.originalSize ≤ axis.paddedSize) : axis.LoadsWhole := by
  intro α _ unit checkpoint isCheckpoint
  have isTotal : axis.tpSize * (axis.localSize * unit) = checkpoint.length +
      (axis.paddedSize - axis.originalSize) * unit := by
    rw [isCheckpoint, ← Nat.add_mul, Nat.add_sub_cancel' covers, isProduct]
    ring
  have shards : (List.range axis.tpSize).mapM (fun rank =>
      padOrNarrowWeight true checkpoint (rank * (axis.localSize * unit)) (axis.localSize * unit)) =
      .ok ((List.range axis.tpSize).map fun rank =>
        ((checkpoint ++ List.replicate ((axis.paddedSize - axis.originalSize) * unit) 0).drop
          (rank * (axis.localSize * unit))).take (axis.localSize * unit)) := by
    apply mapM_ok
    intro rank inRange
    apply padOrNarrowWeight_eq
    rw [← isTotal, ← Nat.succ_mul]
    exact Nat.mul_le_mul_right _ (List.mem_range.mp inRange)
  refine ⟨_, shards, ?_⟩
  rw [flatten_shards, isTotal]
  apply List.take_of_length_le
  rw [List.length_append, List.length_replicate]

end

variable {heads : VirtualAxis}

theorem besideGroup {groups : VirtualAxis} {perGroup : Nat} (sameTp : heads.tpSize = groups.tpSize)
    (positive : 0 < perGroup) (isHeads : heads.originalSize = groups.originalSize * perGroup)
    (isLocal : heads.localSize = groups.localSize * perGroup)
    (isProduct : heads.paddedSize = heads.localSize * heads.tpSize) (covers : heads.originalSize ≤ heads.paddedSize) :
    BesideGroup heads groups perGroup := by
  refine ⟨sameTp, fun head isHead => ?_⟩
  have isGroup : head / perGroup < groups.originalSize := by
    rw [Nat.div_lt_iff_lt_mul positive, ← isHeads]
    exact isHead
  have localPositive : 0 < heads.localSize := by
    by_contra none
    rw [isProduct, Nat.eq_zero_of_not_pos none, Nat.zero_mul] at covers
    omega
  refine ⟨isGroup, ?_, ?_, ?_⟩
  · rw [Nat.div_lt_iff_lt_mul localPositive, Nat.mul_comm, ← isProduct]
    exact isHead.trans_le covers
  · rw [isLocal, Nat.mul_comm, Nat.div_div_eq_div_mul]
  · rw [isLocal, Nat.mul_comm, Nat.mod_mul_right_div_self]

/-! ## The plans -/

theorem growLocalSize_spec {localSize : Nat} (aligned : attentionHeadLocalAlignment ∣ localSize) :
    localSize ≤ growLocalSize minimaxM3QkPerKv minimaxM3QkPerKv localSize ∧
      attentionHeadLocalAlignment ∣ growLocalSize minimaxM3QkPerKv minimaxM3QkPerKv localSize := by
  rw [attentionHeadLocalAlignment] at aligned
  by_cases whole : localSize % 16 = 0
  · have stays : growLocalSize minimaxM3QkPerKv minimaxM3QkPerKv localSize = localSize := if_neg (not_not.mpr whole)
    rw [stays]
    exact ⟨le_refl _, aligned⟩
  · have next : (localSize + 8) % 16 = 0 := by omega
    have grows : growLocalSize minimaxM3QkPerKv minimaxM3QkPerKv localSize = localSize + 8 :=
      (if_pos whole).trans (if_neg (not_not.mpr next))
    rw [grows]
    exact ⟨Nat.le_add_right _ _, Nat.dvd_add aligned ⟨1, rfl⟩⟩

theorem requireIntAttr_eq_ok {value : Option Nat} {attr : String} {result : Nat}
    (ran : requireIntAttr value attr = .ok result) : value.getD 0 = result := by
  cases value with
  | none => cases ran
  | some value =>
    cases ran
    rfl

theorem VirtualAxis.sized_of {name : AxisName} (notVocab : name ≠ .vocabSize)
    (isProduct : axis.paddedSize = axis.localSize * axis.tpSize) (aligned : name.localAlignment ∣ axis.localSize) :
    axis.Sized name :=
  ⟨isProduct, aligned, fun isVocab => absurd isVocab notVocab⟩

theorem makeVirtualOutputGroupAxis_spec
    (ran : makeVirtualOutputGroupAxis originalSize heads.originalSize heads.paddedSize tpSize = .ok axis)
    (isTp : heads.tpSize = tpSize) (positive : 0 < tpSize)
    (isProduct : heads.paddedSize = heads.localSize * tpSize) (covers : heads.originalSize ≤ heads.paddedSize) :
    axis.Sized .outputGroups ∧ axis.originalSize ≤ axis.paddedSize ∧
      ∃ headsPerGroup, axis.headsPerGroup = some headsPerGroup ∧ BesideGroup heads axis headsPerGroup := by
  rw [makeVirtualOutputGroupAxis] at ran
  split at ran
  next => cases ran
  next someGroup =>
  split at ran
  next => cases ran
  next divides =>
  dsimp only at ran
  split at ran
  next => cases ran
  next someHead =>
  split at ran
  next => cases ran
  next wholeGroups =>
  split at ran
  next => cases ran
  next wholeShards =>
  cases ran
  have perGroupPositive := Nat.pos_of_ne_zero someHead
  have isHeads : heads.originalSize = originalSize * (heads.originalSize / originalSize) :=
    (Nat.mul_div_cancel' (Nat.dvd_of_mod_eq_zero (not_not.mp divides))).symm
  have isPadded := Nat.div_mul_cancel (Nat.dvd_of_mod_eq_zero (not_not.mp wholeGroups))
  have isShards := Nat.div_mul_cancel (Nat.dvd_of_mod_eq_zero (not_not.mp wholeShards))
  generalize heads.originalSize / originalSize = perGroup at *
  have isLocal : heads.localSize = heads.paddedSize / perGroup / tpSize * perGroup := by
    apply Nat.eq_of_mul_eq_mul_right positive
    rw [← isProduct, Nat.mul_right_comm, isShards, isPadded]
  have coversGroups : originalSize ≤ heads.paddedSize / perGroup := by
    rw [Nat.le_div_iff_mul_le perGroupPositive, ← isHeads]
    exact covers
  refine ⟨VirtualAxis.sized_of (by decide) isShards.symm (one_dvd _), coversGroups, perGroup, rfl, ?_⟩
  exact besideGroup isTp perGroupPositive isHeads isLocal (isTp.symm ▸ isProduct) covers

theorem makeMinimaxM3Axes_spec {heads kvHeads : Nat} {attentionAxis kvAxis : VirtualAxis}
    (isHeads : heads = kvHeads * minimaxM3QkPerKv) (someKv : 0 < kvHeads) (small : heads < 2 ^ 53)
    (smallTp : tpSize < 2 ^ 53)
    (isAttention : makeMinimaxM3AttentionAxis heads kvHeads tpSize = .ok attentionAxis)
    (isKv : makeMinimaxM3KvAxis kvHeads attentionAxis.localSize minimaxM3QkPerKv tpSize = .ok kvAxis) :
    attentionAxis.Sized .attentionHeads ∧ attentionAxis.originalSize ≤ attentionAxis.paddedSize ∧
      kvAxis.Sized .kvHeads ∧ kvAxis.originalSize ≤ kvAxis.paddedSize ∧
      kvAxis.qHeadsPerKv = some minimaxM3QkPerKv ∧ BesideGroup attentionAxis kvAxis minimaxM3QkPerKv := by
  have positive : 0 < minimaxM3QkPerKv := Nat.succ_pos _
  have isPerKv : heads / kvHeads = minimaxM3QkPerKv := by rw [isHeads, Nat.mul_div_cancel_left _ someKv]
  obtain ⟨shard, isShard, isAttention⟩ := bind_eq_ok.mp isAttention
  obtain ⟨aligned, isAligned, isAttention⟩ := bind_eq_ok.mp isAttention
  have tpPositive := ceilTrueDiv_pos isShard
  rw [ceilTrueDiv_eq tpPositive small smallTp] at isShard
  cases isShard
  obtain ⟨alignmentPositive, rfl⟩ := ceilTo_eq isAligned ((cdiv_le_self _ _).trans_lt small) (by decide)
  rw [isPerKv] at isAttention
  have grown := growLocalSize_spec (Dvd.intro_left (cdiv (cdiv heads tpSize) attentionHeadLocalAlignment) rfl)
  have covers : heads ≤
      growLocalSize minimaxM3QkPerKv minimaxM3QkPerKv
        (cdiv (cdiv heads tpSize) attentionHeadLocalAlignment * attentionHeadLocalAlignment) * tpSize := calc
    heads ≤ cdiv heads tpSize * tpSize := le_cdiv_mul _ tpPositive
    _ ≤ cdiv (cdiv heads tpSize) attentionHeadLocalAlignment * attentionHeadLocalAlignment * tpSize :=
        Nat.mul_le_mul_right _ (le_cdiv_mul _ alignmentPositive)
    _ ≤ _ := Nat.mul_le_mul_right _ grown.1
  cases isAttention
  rw [makeMinimaxM3KvAxis] at isKv
  split at isKv
  next => cases isKv
  next wholeGroups =>
  cases isKv
  have isLocal := (Nat.div_mul_cancel (Nat.dvd_of_mod_eq_zero (not_not.mp wholeGroups))).symm
  have coversKv : kvHeads ≤
      growLocalSize minimaxM3QkPerKv minimaxM3QkPerKv
        (cdiv (cdiv heads tpSize) attentionHeadLocalAlignment * attentionHeadLocalAlignment) / minimaxM3QkPerKv *
          tpSize := by
    apply Nat.le_of_mul_le_mul_right _ positive
    rw [Nat.mul_right_comm, ← isLocal, ← isHeads]
    exact covers
  exact ⟨VirtualAxis.sized_of (by decide) rfl grown.2, covers, VirtualAxis.sized_of (by decide) rfl (one_dvd _),
    coversKv, rfl, besideGroup rfl positive isHeads isLocal rfl covers⟩

theorem makeVirtualAxis_sized {name : AxisName} {originalSize tpSize : Nat} {axis : VirtualAxis}
    (ran : makeVirtualAxis originalSize tpSize name.localAlignment = .ok axis) (small : originalSize < 2 ^ 53)
    (smallTp : tpSize < 2 ^ 53) (notVocab : name ≠ .vocabSize) :
    axis.Sized name ∧ axis.originalSize ≤ axis.paddedSize := by
  have smallAlignment : name.localAlignment < 2 ^ 53 := by cases name <;> decide
  obtain ⟨isOriginal, isTp, -, isProduct, aligned, covers⟩ := makeVirtualAxis_spec ran small smallTp smallAlignment
  refine ⟨VirtualAxis.sized_of notVocab ?_ aligned, ?_⟩
  · rw [isTp]
    exact isProduct
  · rw [isOriginal]
    exact covers

variable {plan : VirtualTpPlan}

theorem VirtualTpPlan.holds_of (fits : ∀ entry ∈ plan.axes, entry.2.Sized entry.1 ∧
      (entry.1 ≠ .indexHeads → entry.2.originalSize ≤ entry.2.paddedSize))
    (indexHeads : ∀ axis kvAxis, (.indexHeads, axis) ∈ plan.axes → (.kvHeads, kvAxis) ∈ plan.axes →
      axis.tpSize = kvAxis.tpSize ∧ axis.localSize = kvAxis.localSize ∧ axis.paddedSize = kvAxis.paddedSize)
    (kvHeads : ∀ heads kvAxis, (.attentionHeads, heads) ∈ plan.axes → (.kvHeads, kvAxis) ∈ plan.axes →
      ∃ qHeadsPerKv, kvAxis.qHeadsPerKv = some qHeadsPerKv ∧ BesideGroup heads kvAxis qHeadsPerKv)
    (outputGroups : ∀ heads groups, (.attentionHeads, heads) ∈ plan.axes → (.outputGroups, groups) ∈ plan.axes →
      ∃ headsPerGroup, groups.headsPerGroup = some headsPerGroup ∧ BesideGroup heads groups headsPerGroup) :
    plan.Holds where
  sized _ _ isAxis := (fits _ isAxis).1
  covers _ _ isAxis := (fits _ isAxis).2
  indexHeads := indexHeads
  loads _ _ isAxis covers := loadsWhole (fits _ isAxis).1.isProduct covers
  kvHeads := kvHeads
  outputGroups := outputGroups

variable {parallel : VirtualTpParallel}

theorem minimaxM3PaddedPlan_holds {heads kvHeads indexHeads intermediate dense sharedExperts vocab : Nat}
    (headsSmall : heads < 2 ^ 53) (intermediateSmall : intermediate * sharedExperts < 2 ^ 53) (someExpert : 0 < sharedExperts)
    (denseSmall : dense < 2 ^ 53) (vocabSmall : vocab < 2 ^ 53) (moeTpSmall : parallel.moeTpSize < 2 ^ 53)
    (isThree : parallel.tensorParallelSize = minimaxM3VirtualTpSize)
    (built : minimaxM3PaddedPlan heads kvHeads indexHeads intermediate dense sharedExperts vocab parallel = .ok plan) :
    plan.Holds := by
  rw [minimaxM3PaddedPlan] at built
  split at built
  next => cases built
  next someKv =>
  split at built
  next => cases built
  next divides =>
  dsimp only at built
  split at built
  next => cases built
  next isPerKv =>
  obtain ⟨attentionAxis, isAttention, built⟩ := bind_eq_ok.mp built
  obtain ⟨kvAxis, isKv, built⟩ := bind_eq_ok.mp built
  obtain ⟨moeAxis, isMoe, built⟩ := bind_eq_ok.mp built
  obtain ⟨denseAxis, isDenseAxis, built⟩ := bind_eq_ok.mp built
  obtain ⟨sharedAxis, isShared, built⟩ := bind_eq_ok.mp built
  obtain ⟨vocabAxis, isVocabAxis, isPlan⟩ := bind_eq_ok.mp built
  have smallTp : parallel.tensorParallelSize < 2 ^ 53 := by rw [isThree]; decide
  have smallPadding : Nat.lcm vocabGlobalAlignment parallel.tensorParallelSize < 2 ^ 53 := by rw [isThree]; decide
  have isHeads : heads = kvHeads * minimaxM3QkPerKv := by
    rw [← not_not.mp isPerKv, Nat.mul_div_cancel' (Nat.dvd_of_mod_eq_zero (not_not.mp divides))]
  rw [not_not.mp isPerKv] at isKv
  obtain ⟨headsSized, headsCover, kvSized, kvCover, isGroup, beside⟩ :=
    makeMinimaxM3Axes_spec isHeads (Nat.pos_of_ne_zero someKv) headsSmall smallTp isAttention isKv
  obtain ⟨moeSized, moeCover⟩ := @makeVirtualAxis_sized .moeIntermediateSize _ _ _ isMoe
    ((Nat.le_mul_of_pos_right _ someExpert).trans_lt intermediateSmall) moeTpSmall (by decide)
  obtain ⟨denseSized, denseCover⟩ := @makeVirtualAxis_sized .denseIntermediateSize _ _ _ isDenseAxis denseSmall
    smallTp (by decide)
  obtain ⟨sharedSized, sharedCover⟩ := @makeVirtualAxis_sized .sharedExpertIntermediateSize _ _ _ isShared
    intermediateSmall smallTp (by decide)
  obtain ⟨vocabSized, isVocab, vocabCover⟩ := makeVirtualVocabAxis_spec isVocabAxis vocabSmall smallPadding
  rw [← isVocab] at vocabCover
  have isKvTp : kvAxis.tpSize = parallel.tensorParallelSize := by
    rw [makeMinimaxM3KvAxis] at isKv
    split at isKv
    next => cases isKv
    next => cases isKv; rfl
  cases isPlan
  apply VirtualTpPlan.holds_of
  · simp only [List.forall_mem_cons, List.not_mem_nil, IsEmpty.forall_iff, implies_true, and_true]
    have indexSized : VirtualAxis.Sized ⟨indexHeads, kvAxis.paddedSize, parallel.tensorParallelSize, kvAxis.localSize,
        none, none, none⟩ .indexHeads := by
      apply VirtualAxis.sized_of (by decide) _ (one_dvd _)
      rw [kvSized.isProduct, isKvTp]
    exact ⟨⟨headsSized, fun _ => headsCover⟩, ⟨kvSized, fun _ => kvCover⟩,
      ⟨indexSized, fun notIndex => absurd rfl notIndex⟩, ⟨moeSized, fun _ => moeCover⟩,
      ⟨denseSized, fun _ => denseCover⟩, ⟨sharedSized, fun _ => sharedCover⟩, ⟨vocabSized, fun _ => vocabCover⟩⟩
  · simp [isKvTp]
  · simp [isGroup, beside]
  · simp

theorem VirtualTpModel.sharedExperts_spec (model : VirtualTpModel) :
    0 < model.sharedExperts ∧ model.sharedExperts = max 1 (model.nSharedExperts.getD 1) := by
  rw [sharedExperts]
  split <;> omega

variable {model : VirtualTpModel}

theorem buildMinimaxM3VirtualTpPlan_holds (exact : model.ExactSizes parallel)
    (built : buildMinimaxM3VirtualTpPlan model parallel = .ok plan) (pads : plan.requiresPadding = true) :
    plan.Holds := by
  obtain ⟨heads, isHeads, built⟩ := bind_eq_ok.mp built
  obtain ⟨kvHeads, isKvHeads, built⟩ := bind_eq_ok.mp built
  obtain ⟨intermediate, isIntermediate, built⟩ := bind_eq_ok.mp built
  obtain ⟨dense, isDense, built⟩ := bind_eq_ok.mp built
  obtain ⟨vocab, isVocab, built⟩ := bind_eq_ok.mp built
  have headsSmall := exact.heads
  have intermediateSmall := exact.intermediate
  have denseSmall := exact.denseIntermediate
  have vocabSmall := exact.vocab
  rw [requireIntAttr_eq_ok isHeads] at headsSmall
  rw [requireIntAttr_eq_ok isIntermediate, ← model.sharedExperts_spec.2] at intermediateSmall
  rw [requireIntAttr_eq_ok isDense] at denseSmall
  rw [requireIntAttr_eq_ok isVocab] at vocabSmall
  split at built
  next =>
    cases built
    simp [VirtualTpPlan.requiresPadding, minimaxM3NoopPlan, makeNoopAxis, makeNoopVocabAxis] at pads
  next isThree =>
    exact minimaxM3PaddedPlan_holds headsSmall intermediateSmall model.sharedExperts_spec.1 denseSmall vocabSmall
      exact.moeTpSize (not_not.mp isThree) built

theorem outputGroupAxes_spec {axes : List (AxisName × VirtualAxis)}
    (ran : outputGroupAxes model heads.originalSize heads.paddedSize tpSize = .ok axes)
    (isTp : heads.tpSize = tpSize) (positive : 0 < tpSize)
    (isProduct : heads.paddedSize = heads.localSize * tpSize) (covers : heads.originalSize ≤ heads.paddedSize) :
    ∀ entry ∈ axes, entry.1 = .outputGroups ∧ entry.2.Sized entry.1 ∧
      entry.2.originalSize ≤ entry.2.paddedSize ∧
      ∃ headsPerGroup, entry.2.headsPerGroup = some headsPerGroup ∧ BesideGroup heads entry.2 headsPerGroup := by
  rw [outputGroupAxes] at ran
  split at ran
  next =>
    obtain ⟨groups, -, ran⟩ := bind_eq_ok.mp ran
    obtain ⟨axis, isAxis, ran⟩ := bind_eq_ok.mp ran
    cases ran
    intro entry isEntry
    rw [List.mem_singleton.mp isEntry]
    exact ⟨rfl, makeVirtualOutputGroupAxis_spec isAxis isTp positive isProduct covers⟩
  next =>
    cases ran
    simp

theorem sharedExpertAxes_spec {moeOriginalSize : Nat}
    {axes : List (AxisName × VirtualAxis)} (ran : sharedExpertAxes model moeOriginalSize tpSize = .ok axes)
    (small : moeOriginalSize * max 1 (model.nSharedExperts.getD 1) < 2 ^ 53) (smallTp : tpSize < 2 ^ 53) :
    ∀ entry ∈ axes, entry.1 = .sharedExpertIntermediateSize ∧ entry.2.Sized entry.1 ∧
      entry.2.originalSize ≤ entry.2.paddedSize := by
  rw [sharedExpertAxes] at ran
  split at ran
  next isExperts =>
    obtain ⟨axis, isAxis, ran⟩ := bind_eq_ok.mp ran
    cases ran
    rw [isExperts, Option.getD_some] at small
    intro entry isEntry
    rw [List.mem_singleton.mp isEntry]
    exact ⟨rfl, @makeVirtualAxis_sized .sharedExpertIntermediateSize _ _ _ isAxis
      ((Nat.mul_le_mul_left _ (le_max_right _ _)).trans_lt small) smallTp (by decide)⟩
  next =>
    cases ran
    simp

/-- The plan of a model. -/
theorem buildB12xVirtualTpPlan_holds {model : VirtualTpModel} {plan : VirtualTpPlan}
    (exact : model.ExactSizes parallel) (built : buildB12xVirtualTpPlan model parallel = .ok plan)
    (pads : plan.requiresPadding = true) : plan.Holds := by
  rw [buildB12xVirtualTpPlan] at built
  split at built
  next => exact buildMinimaxM3VirtualTpPlan_holds exact built pads
  next =>
    obtain ⟨heads, isHeads, built⟩ := bind_eq_ok.mp built
    obtain ⟨attentionAxis, isAttention, built⟩ := bind_eq_ok.mp built
    obtain ⟨groupAxes, areGroups, built⟩ := bind_eq_ok.mp built
    obtain ⟨moe, isMoe, built⟩ := bind_eq_ok.mp built
    obtain ⟨moeAxis, isMoeAxis, built⟩ := bind_eq_ok.mp built
    obtain ⟨sharedAxes, areShared, built⟩ := bind_eq_ok.mp built
    obtain ⟨vocab, isVocab, built⟩ := bind_eq_ok.mp built
    obtain ⟨vocabAxis, isVocabAxis, isPlan⟩ := bind_eq_ok.mp built
    have headsSmall := exact.heads
    have moeSmall := exact.moeIntermediate
    have vocabSmall := exact.vocab
    rw [requireIntAttr_eq_ok isHeads] at headsSmall
    rw [requireIntAttr_eq_ok isMoe] at moeSmall
    rw [requireIntAttr_eq_ok isVocab] at vocabSmall
    have tpPositive : 0 < parallel.tensorParallelSize := by
      obtain ⟨shard, isShard, -⟩ := bind_eq_ok.mp isAttention
      exact ceilTrueDiv_pos isShard
    have smallTp : parallel.tensorParallelSize < 2 ^ 53 :=
      (Nat.le_of_dvd (Nat.lcm_pos (by decide) tpPositive) (Nat.dvd_lcm_right _ _)).trans_lt exact.vocabPadding
    obtain ⟨isOriginal, isTp, -, isProduct, -, -⟩ := makeVirtualAxis_spec isAttention headsSmall smallTp (by decide)
    obtain ⟨headsSized, headsCover⟩ := @makeVirtualAxis_sized .attentionHeads _ _ _ isAttention headsSmall smallTp
      (by decide)
    obtain ⟨moeSized, moeCover⟩ := @makeVirtualAxis_sized .moeIntermediateSize _ _ _ isMoeAxis
      ((Nat.le_mul_of_pos_right _ (Nat.one_pos.trans_le (le_max_left _ _))).trans_lt moeSmall) exact.moeTpSize
      (by decide)
    obtain ⟨vocabSized, isVocabSize, vocabCover⟩ := makeVirtualVocabAxis_spec isVocabAxis vocabSmall exact.vocabPadding
    rw [← isVocabSize] at vocabCover
    rw [← isOriginal] at areGroups
    have groups := outputGroupAxes_spec areGroups isTp tpPositive isProduct headsCover
    have shared := sharedExpertAxes_spec areShared moeSmall smallTp
    cases isPlan
    have isOne : ∀ name axis, (name, axis) ∈ [(.attentionHeads, attentionAxis), (.moeIntermediateSize, moeAxis),
        (.vocabSize, vocabAxis)] ++ groupAxes ++ sharedAxes →
        (name = .attentionHeads ∧ axis = attentionAxis) ∨ (name = .moeIntermediateSize ∧ axis = moeAxis) ∨
          (name = .vocabSize ∧ axis = vocabAxis) ∨ (name, axis) ∈ groupAxes ∨ (name, axis) ∈ sharedAxes := by
      intro name axis isAxis
      simpa [or_assoc] using isAxis
    have notKv : ∀ axis, (.kvHeads, axis) ∉ [(.attentionHeads, attentionAxis), (.moeIntermediateSize, moeAxis),
        (.vocabSize, vocabAxis)] ++ groupAxes ++ sharedAxes := by
      intro axis isAxis
      rcases isOne _ _ isAxis with ⟨isName, -⟩ | ⟨isName, -⟩ | ⟨isName, -⟩ | isGroup | isShared
      · cases isName
      · cases isName
      · cases isName
      · cases (groups _ isGroup).1
      · cases (shared _ isShared).1
    have isHeadsAxis : ∀ axis, (.attentionHeads, axis) ∈ [(.attentionHeads, attentionAxis),
        (.moeIntermediateSize, moeAxis), (.vocabSize, vocabAxis)] ++ groupAxes ++ sharedAxes →
        axis = attentionAxis := by
      intro axis isAxis
      rcases isOne _ _ isAxis with ⟨-, isHeads⟩ | ⟨isName, -⟩ | ⟨isName, -⟩ | isGroup | isShared
      · exact isHeads
      · cases isName
      · cases isName
      · cases (groups _ isGroup).1
      · cases (shared _ isShared).1
    apply VirtualTpPlan.holds_of
    · intro entry isEntry
      rcases isOne _ _ isEntry with ⟨isName, isAxis⟩ | ⟨isName, isAxis⟩ | ⟨isName, isAxis⟩ | isGroup | isShared
      · rw [isName, isAxis]
        exact ⟨headsSized, fun _ => headsCover⟩
      · rw [isName, isAxis]
        exact ⟨moeSized, fun _ => moeCover⟩
      · rw [isName, isAxis]
        exact ⟨vocabSized, fun _ => vocabCover⟩
      · exact ⟨(groups _ isGroup).2.1, fun _ => (groups _ isGroup).2.2.1⟩
      · exact ⟨(shared _ isShared).2.1, fun _ => (shared _ isShared).2.2⟩
    · exact fun _ kvAxis _ isKv => absurd isKv (notKv kvAxis)
    · exact fun _ kvAxis _ isKv => absurd isKv (notKv kvAxis)
    · intro heads groupAxis isHeads isGroups
      rw [isHeadsAxis _ isHeads]
      rcases isOne _ _ isGroups with ⟨isName, -⟩ | ⟨isName, -⟩ | ⟨isName, -⟩ | isGroup | isShared
      · cases isName
      · cases isName
      · cases isName
      · exact (groups _ isGroup).2.2.2
      · cases (shared _ isShared).1

private def groupedModel : VirtualTpModel where
  isMinimaxM3 := false
  isDeepseekV4 := true
  numAttentionHeads := some 64
  oGroups := some 8
  moeIntermediateSize := some 2048
  nSharedExperts := some 1
  vocabSize := some 129280

private def groupedPlan : VirtualTpPlan where
  isMinimaxM3 := false
  axes :=
    [(.attentionHeads, ⟨64, 72, 3, 24, none, none, none⟩),
     (.moeIntermediateSize, ⟨2048, 2112, 3, 704, none, none, none⟩),
     (.vocabSize, ⟨129280, 129408, 3, 43136, some 192, none, none⟩),
     (.outputGroups, ⟨8, 9, 3, 3, none, none, some 8⟩),
     (.sharedExpertIntermediateSize, ⟨2048, 2304, 3, 768, none, none, none⟩)]

theorem groupedPlan_holds : buildB12xVirtualTpPlan groupedModel ⟨3, 1, 1⟩ = .ok groupedPlan ∧ groupedPlan.Holds := by
  have built : buildB12xVirtualTpPlan groupedModel ⟨3, 1, 1⟩ = .ok groupedPlan := by decide +kernel
  have exact : groupedModel.ExactSizes ⟨3, 1, 1⟩ := by constructor <;> decide
  exact ⟨built, buildB12xVirtualTpPlan_holds exact built (by decide)⟩

/-- A MiniMax M3 with more index heads than the KV heads of its ranks. -/
private def indexedModel : VirtualTpModel where
  isMinimaxM3 := true
  isDeepseekV4 := false
  numAttentionHeads := some 64
  numKeyValueHeads := some 4
  sparseNumIndexHeads := some 8
  intermediateSize := some 3072
  denseIntermediateSize := some 12288
  nSharedExperts := some 1
  vocabSize := some 200064

private def indexedPlan : VirtualTpPlan where
  isMinimaxM3 := true
  axes :=
    [(.attentionHeads, ⟨64, 96, 3, 32, none, none, none⟩),
     (.kvHeads, ⟨4, 6, 3, 2, none, some 16, none⟩),
     (.indexHeads, ⟨8, 6, 3, 2, none, none, none⟩),
     (.moeIntermediateSize, ⟨3072, 3072, 3, 1024, none, none, none⟩),
     (.denseIntermediateSize, ⟨12288, 12288, 3, 4096, none, none, none⟩),
     (.sharedExpertIntermediateSize, ⟨3072, 3072, 3, 1024, none, none, none⟩),
     (.vocabSize, ⟨200064, 200064, 3, 66688, some 192, none, none⟩)]

/-- A model with an intermediate size that no double holds. -/
private def wideModel : VirtualTpModel where
  isMinimaxM3 := false
  isDeepseekV4 := false
  numAttentionHeads := some 64
  moeIntermediateSize := some (2 ^ 53 + 1)
  vocabSize := some 129280

/-- Its plan on one rank: the quotient is the double below. -/
private def widePlan : VirtualTpPlan where
  isMinimaxM3 := false
  axes :=
    [(.attentionHeads, ⟨64, 64, 1, 64, none, none, none⟩),
     (.moeIntermediateSize, ⟨2 ^ 53 + 1, 2 ^ 53, 1, 2 ^ 53, none, none, none⟩),
     (.vocabSize, ⟨129280, 129280, 1, 129280, some 64, none, none⟩)]

/-- The padded size of the index heads is that of the KV heads, whatever their number is, and the true
divisions of the plan round. -/
theorem plans_lose :
    (buildB12xVirtualTpPlan indexedModel ⟨3, 1, 1⟩ = .ok indexedPlan ∧ indexedPlan.requiresPadding = true ∧
      ∃ axis, (.indexHeads, axis) ∈ indexedPlan.axes ∧ axis.paddedSize < axis.originalSize) ∧
    buildB12xVirtualTpPlan wideModel ⟨1, 1, 1⟩ = .ok widePlan ∧ widePlan.requiresPadding = true ∧
      ∃ axis, (.moeIntermediateSize, axis) ∈ widePlan.axes ∧ axis.paddedSize < axis.originalSize :=
  ⟨⟨by decide +kernel, by decide, ⟨8, 6, 3, 2, none, none, none⟩, by decide, by decide⟩,
    by decide +kernel, by decide, ⟨2 ^ 53 + 1, 2 ^ 53, 1, 2 ^ 53, none, none, none⟩, by decide, by decide⟩

end DeepSpark
