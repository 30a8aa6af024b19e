import DeepSpark.Lib.Argmax
import DeepSpark.Lib.Apportionment
import DeepSpark.Lib.Argsort
import DeepSpark.Lib.PyError

/-!
Where the replicas of the experts go (`distributed/eplb/policy/default.py`).

Owns `balanced_packing`, `replicate_experts`, `rebalance_experts_hierarchical`,
`preserve_intragpu_slots` and `rebalance_experts` for one layer: the rows of the arrays do not
depend on each other. The sizes are natural numbers.
-/

namespace DeepSpark

open Lib

/-- The arithmetic of the loads, whose rounding decides which experts are replicated and where
they go. -/
class LoadArithmetic (W : Type) where
  add : W → W → W
  sum : List W → W
  /-- `load / count`. -/
  perReplica : W → Nat → W

instance : LoadArithmetic ℚ where
  add := (· + ·)
  sum := List.sum
  perReplica load count := load / count

variable {W : Type} [LinearOrder W] [LoadArithmetic W]

/-- `assert value % divisor == 0`. -/
def assertDivides (divisor value : Nat) : Except PyError Unit :=
  if divisor = 0 then .error (.zeroDivisionError "integer modulo by zero") else pyAssert (value % divisor = 0) ""

/-! ## `balanced_packing` -/

/-- The rows of `balanced_packing`: `none` is the weight of a full pack, `np.inf`. -/
structure Packing (W : Type) where
  packIndex : Nat → Int := fun _ => -1
  rankInPack : Nat → Int := fun _ => -1
  packWeights : Nat → WithTop W
  packItems : Nat → Nat := fun _ => 0

def Packing.place (weight : Nat → W) (numPacks groupsPerPack : Nat) (packing : Packing W) (group : Nat) : Packing W :=
  let pack := argminBelow packing.packWeights numPacks
  let items := packing.packItems pack + 1
  { packIndex := Function.update packing.packIndex group pack
    rankInPack := Function.update packing.rankInPack group (packing.packItems pack)
    packWeights := Function.update packing.packWeights pack
      (if items = groupsPerPack then ⊤ else (packing.packWeights pack).map (LoadArithmetic.add · (weight group)))
    packItems := Function.update packing.packItems pack items }

def balancedPacking (argsort : Argsort Wᵒᵈ) (weight : Nat → W) (numGroups numPacks : Nat) : Except PyError (Packing W) := do
  assertDivides numPacks numGroups
  let groupsPerPack := numGroups / numPacks
  let packing : Packing W := { packWeights := fun _ => (LoadArithmetic.sum [] : W) }
  if groupsPerPack = 1 then .ok { packing with packIndex := fun group => group, rankInPack := fun _ => 0 }
  else
    let indices := argsort.order (fun group => OrderDual.toDual (weight group)) numGroups
    .ok (indices.foldl (Packing.place weight numPacks groupsPerPack) packing)

/-! ## `replicate_experts` -/

structure Replication where
  phy2log : List Nat
  logcnt : Nat → Nat

/-- The body of the loop: one more replica of an expert with the largest load per replica. -/
def Replication.addReplica (weight : Nat → W) (numLog : Nat) (replication : Replication) : Replication :=
  let redundant := argmaxBelow (fun log => LoadArithmetic.perReplica (weight log) (replication.logcnt log)) numLog
  { phy2log := replication.phy2log ++ [redundant]
    logcnt := giveOne replication.logcnt redundant }

def replicateExperts (weight : Nat → W) (numLog numPhy : Nat) : Except PyError Replication := do
  pyAssert (numLog ≤ numPhy) ""
  if numLog = 0 ∧ 0 < numPhy then .error (.valueError "attempt to get argmax of an empty sequence")
  else .ok ((Replication.addReplica weight numLog)^[numPhy - numLog] ⟨List.range numLog, fun _ => 1⟩)

/-! ## `rebalance_experts_hierarchical` -/

/-- `inverse`: the entry at `perm[i]` is `i`. -/
def inverse (perm : Nat → Int) (length : Nat) : Nat → Nat := fun value =>
  ((List.range length).find? fun index => perm index = value).getD 0

/-- Steps 2 and 3 for one node: the node-local expert of each of its physical experts. -/
def packNode (argsort : Argsort Wᵒᵈ) (tokensPerMlog : Nat → W) (numMlog numPhy numPacks phyExpertsPerGpu : Nat) :
    Except PyError (Nat → Nat) := do
  let replication ← replicateExperts tokensPerMlog numMlog numPhy
  let phy2mlog := fun phy => replication.phy2log.getD phy 0
  let tokensPerPhy := fun phy =>
    LoadArithmetic.perReplica (tokensPerMlog (phy2mlog phy)) (replication.logcnt (phy2mlog phy))
  let packing ← balancedPacking argsort tokensPerPhy numPhy numPacks
  let phy2pphy := fun phy => packing.packIndex phy * phyExpertsPerGpu + packing.rankInPack phy
  let pphy2phy := inverse phy2pphy numPhy
  .ok fun pphy => phy2mlog (pphy2phy pphy)

def rebalanceExpertsHierarchical (argsort : Argsort Wᵒᵈ) (weight : Nat → W)
    (numLogicalExperts numPhysicalExperts numGroups numNodes numGpus : Nat) : Except PyError (List Nat) := do
  assertDivides numGroups numLogicalExperts
  let groupSize := numLogicalExperts / numGroups
  assertDivides numNodes numGroups
  let groupsPerNode := numGroups / numNodes
  assertDivides numNodes numGpus
  assertDivides numGpus numPhysicalExperts
  let phyExpertsPerGpu := numPhysicalExperts / numGpus
  let tokensPerGroup := fun group =>
    LoadArithmetic.sum ((List.range groupSize).map fun index => weight (group * groupSize + index))
  let groups ← balancedPacking argsort tokensPerGroup numGroups numNodes
  let log2mlog := fun log : Nat =>
    (groups.packIndex (log / groupSize) * groupsPerNode + groups.rankInPack (log / groupSize)) * groupSize +
      (log % groupSize : Nat)
  let mlog2log := inverse log2mlog numLogicalExperts
  let mlogPerNode := numLogicalExperts / numNodes
  let phyPerNode := numPhysicalExperts / numNodes
  let nodes ← (List.range numNodes).mapM fun node =>
    packNode argsort (fun mlog => weight (mlog2log (node * mlogPerNode + mlog))) mlogPerNode phyPerNode
      (numGpus / numNodes) phyExpertsPerGpu
  -- the step of the `np.arange` over the nodes
  if mlogPerNode = 0 then .error (.zeroDivisionError "division by zero")
  else
    .ok ((List.range numPhysicalExperts).map fun pphy =>
      let node := pphy / phyPerNode
      mlog2log (nodes.getD node id (pphy % phyPerNode) + node * mlogPerNode))

/-! ## `preserve_intragpu_slots` -/

/-- The new experts of one rank in their slots, those that have one, and the slots that kept
their expert. -/
structure SlotMatching (E : Type) where
  postLocal : Nat → E
  usedNewIndices : Nat → Bool := fun _ => false
  preservedPositions : Nat → Bool := fun _ => false

section Preserve

variable {E : Type} [DecidableEq E]

def SlotMatching.preserve (slotsPerGpu : Nat) (oldLocal newLocal : Nat → E) (matching : SlotMatching E) (slotIdx : Nat) :
    SlotMatching E :=
  let first := (List.range slotsPerGpu).find? fun index =>
    newLocal index = oldLocal slotIdx && !matching.usedNewIndices index
  match first with
  | some index =>
    { postLocal := Function.update matching.postLocal slotIdx (newLocal index)
      usedNewIndices := Function.update matching.usedNewIndices index true
      preservedPositions := Function.update matching.preservedPositions slotIdx true }
  | none => matching

def maskedFirst (argsort : Argsort Nat) (slotsPerGpu : Nat) (mask : Nat → Bool) : List Nat :=
  argsort.order (fun index => if mask index then index else slotsPerGpu + 1) slotsPerGpu

def SlotMatching.fill (argsort : Argsort Nat) (slotsPerGpu : Nat) (newLocal : Nat → E) (matching : SlotMatching E) : Nat → E :=
  let remainingMask := fun index => !matching.usedNewIndices index
  let fillMask := fun index => !matching.preservedPositions index
  let remainingIndices := maskedFirst argsort slotsPerGpu remainingMask
  let fillIndices := maskedFirst argsort slotsPerGpu fillMask
  let takeCount := min ((List.range slotsPerGpu).countP remainingMask) ((List.range slotsPerGpu).countP fillMask)
  ((remainingIndices.take takeCount).zip (fillIndices.take takeCount)).foldl
    (fun post (src, dst) => Function.update post dst (newLocal src)) matching.postLocal

def preserveRank (argsort : Argsort Nat) (slotsPerGpu : Nat) (oldLocal newLocal : Nat → E) : Nat → E :=
  let matching : SlotMatching E := { postLocal := newLocal }
  ((List.range slotsPerGpu).foldl (SlotMatching.preserve slotsPerGpu oldLocal newLocal) matching).fill argsort
    slotsPerGpu newLocal

def preserveIntragpuSlots (argsort : Argsort Nat) (numRanks numPhyExperts : Nat) (phy2log oldPhy2log : Nat → E) : Nat → E :=
  if numRanks = 0 ∨ numPhyExperts % numRanks ≠ 0 then phy2log
  else
    let slotsPerGpu := numPhyExperts / numRanks
    fun position =>
      let start := position / slotsPerGpu * slotsPerGpu
      preserveRank argsort slotsPerGpu (fun slot => oldPhy2log (start + slot)) (fun slot => phy2log (start + slot))
        (position % slotsPerGpu)

end Preserve

def rebalanceExperts (argsort : Argsort Wᵒᵈ) (argsortSlots : Argsort Nat) (weight : Nat → W)
    (numLogicalExperts numReplicas numGroups numNodes numRanks : Nat) (oldGlobalExpertIndices : Option (List Int)) :
    Except PyError (List Int) := do
  let isHierarchical ← if numNodes = 0 then .error (.zeroDivisionError "integer modulo by zero")
    else .ok (decide (numGroups % numNodes = 0))
  let phy2log ←
    if isHierarchical then
      rebalanceExpertsHierarchical argsort weight numLogicalExperts numReplicas numGroups numNodes numRanks
    else rebalanceExpertsHierarchical argsort weight numLogicalExperts numReplicas 1 1 numRanks
  let phy2log := phy2log.map Int.ofNat
  match oldGlobalExpertIndices with
  | none => .ok phy2log
  | some old =>
    .ok ((List.range numReplicas).map
      (preserveIntragpuSlots argsortSlots numRanks numReplicas (fun position => phy2log.getD position (-1))
        fun position => old.getD position (-1)))

end DeepSpark
