import DeepSpark.Lib.PyDict
import DeepSpark.Lib.PyError

/-!
The CUDA graph manager of a worker.

Owns the execution descriptors, the candidate lists built from the capture
sizes and the query length buckets, the capture of the graphs and the dispatch
of a batch to one of them, with what a dispatched descriptor is.
-/

namespace DeepSpark

open Lib

/-- The members of `CUDAGraphMode` a batch can run in. -/
inductive RuntimeMode where
  | NONE
  | PIECEWISE
  | FULL
deriving DecidableEq, Repr

namespace RuntimeMode

def value : RuntimeMode → Nat
  | NONE => 0
  | PIECEWISE => 1
  | FULL => 2

/-- `CUDAGraphMode(value)`. -/
def ofValue : Nat → Except PyError RuntimeMode
  | 0 => .ok NONE
  | 1 => .ok PIECEWISE
  | 2 => .ok FULL
  | _ => .error (.valueError "not a valid CUDAGraphMode")

@[simp] theorem ofValue_value (mode : RuntimeMode) : ofValue mode.value = .ok mode := by
  cases mode <;> rfl

end RuntimeMode

/-- `CUDAGraphMode`: a runtime mode, or one mode for decode batches and one for
the others. -/
inductive CUDAGraphMode where
  | runtime (mode : RuntimeMode)
  | FULL_DECODE_ONLY
  | FULL_AND_PIECEWISE
deriving DecidableEq, Repr

namespace CUDAGraphMode

def separateRoutine : CUDAGraphMode → Bool
  | runtime _ => false
  | FULL_DECODE_ONLY | FULL_AND_PIECEWISE => true

def decodeMode : CUDAGraphMode → RuntimeMode
  | runtime mode => mode
  | FULL_DECODE_ONLY | FULL_AND_PIECEWISE => .FULL

def mixedMode : CUDAGraphMode → RuntimeMode
  | runtime mode => mode
  | FULL_DECODE_ONLY => .NONE
  | FULL_AND_PIECEWISE => .PIECEWISE

end CUDAGraphMode

structure BatchExecutionDescriptor where
  cgMode : RuntimeMode
  numTokens : Nat
  /-- No count: the graph needs no request padding. -/
  numReqs : Option Nat
  uniformTokenCount : Option Nat
deriving DecidableEq, Repr

def BatchExecutionDescriptor.eager (numTokens numReqs : Nat) : BatchExecutionDescriptor :=
  ⟨.NONE, numTokens, some numReqs, none⟩

def isCompatible (desc : BatchExecutionDescriptor) (numReqs numTokens : Nat)
    (uniformTokenCount : Option Nat) : Bool :=
  (desc.uniformTokenCount = none || desc.uniformTokenCount = uniformTokenCount) &&
    (match desc.numReqs with
      | none => true
      | some padded => decide (numReqs ≤ padded)) &&
    decide (numTokens ≤ desc.numTokens)

variable {uniformTokenCount : Option Nat}

theorem isCompatible_iff {desc : BatchExecutionDescriptor} {numReqs numTokens : Nat} :
    isCompatible desc numReqs numTokens uniformTokenCount = true ↔
      (desc.uniformTokenCount = none ∨ desc.uniformTokenCount = uniformTokenCount) ∧
      (∀ padded, desc.numReqs = some padded → numReqs ≤ padded) ∧ numTokens ≤ desc.numTokens := by
  rw [isCompatible]
  cases desc.numReqs <;> simp [and_assoc]

/-- The token count of every request of the batch, if they all have the same. -/
def getUniformTokenCount (numReqs numTokens maxQueryLen : Nat) : Except PyError (Option Nat) :=
  if numReqs = 0 then
    .error (.zeroDivisionError "integer division or modulo by zero")
  else if maxQueryLen = numTokens / numReqs ∧ numTokens = maxQueryLen * numReqs then
    .ok (some maxQueryLen)
  else
    .ok none

theorem getUniformTokenCount_eq {numReqs numTokens maxQueryLen count : Nat}
    (isUniform : getUniformTokenCount numReqs numTokens maxQueryLen = .ok (some count)) :
    numTokens = count * numReqs := by
  unfold getUniformTokenCount at isUniform
  split at isUniform
  · exact nomatch isUniform
  split at isUniform
  next exact =>
    cases isUniform
    exact exact.2
  next => exact nomatch isUniform

/-! ## The query length buckets -/

/-- `sorted(set(values))`. -/
def sortedSet (values : List Nat) : List Nat := values.dedup.insertionSort (· ≤ ·)

@[simp] theorem mem_sortedSet {values : List Nat} {value : Nat} :
    value ∈ sortedSet values ↔ value ∈ values := by
  rw [sortedSet, List.mem_insertionSort, List.mem_dedup]

/-- The parts of a list in an environment variable that are integers: `int` is
the language's own reading of a part. -/
def listedInts (int : String → Option Int) (raw : String) : List Int :=
  ((raw.map fun character => if character = ';' ∨ character = ' ' then ',' else character).splitOn
    ",").filterMap fun part => if part = "" then none else int part

/-! ## The candidates -/

/-- What `__init__` keeps of the configuration and of the environment. -/
structure CudaGraphConfig where
  maxNumReqs : Nat
  cudagraphMode : CUDAGraphMode
  decodeQueryLen : Nat
  decodeQueryLen_pos : 0 < decodeQueryLen
  cudagraphCaptureSizes : List Nat
  uniformDecodeQueryLens : List Nat
  bucketReqCounts : List Nat

namespace CudaGraphConfig

variable (config : CudaGraphConfig)

def extraDecodeSizesByQueryLen (maxCaptureSize : Nat) : PyDict Nat (List Nat) :=
  (config.uniformDecodeQueryLens.filter (· ≠ config.decodeQueryLen)).foldl
    (fun sizes queryLen => sizes.set queryLen
      ((config.bucketReqCounts.map (queryLen * ·)).filter (· ≤ maxCaptureSize)))
    .empty

def captureSizes : List Nat × PyDict Nat (List Nat) :=
  let sizes := config.cudagraphCaptureSizes.insertionSort (· ≤ ·)
  if 1 < config.uniformDecodeQueryLens.length then
    let extra := config.extraDecodeSizesByQueryLen (sizes.getLast?.getD 0)
    (sortedSet (sizes ++ (extra.entries.map Prod.snd).flatten), extra)
  else
    (sizes, .empty)

/-- The graph of a decode batch: `numTokens` tokens, `queryLen` for each request. -/
def uniformDesc (extra : PyDict Nat (List Nat)) (numTokens queryLen : Nat) :
    Option BatchExecutionDescriptor :=
  if queryLen ≠ config.decodeQueryLen ∧ numTokens ∉ (extra.get? queryLen).getD [] then
    none
  else if queryLen ≤ numTokens ∧ numTokens ≤ config.maxNumReqs * config.decodeQueryLen ∧
      numTokens % queryLen = 0 ∧ numTokens / queryLen ≤ config.maxNumReqs then
    some ⟨config.cudagraphMode.decodeMode, numTokens, some (numTokens / queryLen), some queryLen⟩
  else
    none

def mixedDesc (numTokens : Nat) : BatchExecutionDescriptor :=
  ⟨config.cudagraphMode.mixedMode, numTokens,
    if config.cudagraphMode.mixedMode = .FULL then some (min numTokens config.maxNumReqs) else none,
    none⟩

def descsOf (extra : PyDict Nat (List Nat)) (numTokens : Nat) : List BatchExecutionDescriptor :=
  (if config.cudagraphMode.separateRoutine ∧ config.cudagraphMode.decodeMode ≠ .NONE then
      config.uniformDecodeQueryLens.filterMap (config.uniformDesc extra numTokens)
    else []) ++
  (if config.cudagraphMode.mixedMode ≠ .NONE then [config.mixedDesc numTokens] else [])

end CudaGraphConfig

/-- `descs_by_token_count` and `descs_by_mode`. -/
structure DescTables where
  byTokenCount : PyDict Nat (List BatchExecutionDescriptor)
  byMode : PyDict RuntimeMode (List BatchExecutionDescriptor)

namespace DescTables

def empty : DescTables := ⟨.empty, .empty⟩

def append (tables : DescTables) (desc : BatchExecutionDescriptor) : DescTables where
  byTokenCount := tables.byTokenCount.append desc.numTokens desc
  byMode := tables.byMode.append desc.cgMode desc

end DescTables

structure CudaGraphManager where
  maxNumReqs : Nat
  /-- The keys of `graphs`. -/
  graphs : List BatchExecutionDescriptor
  graphsCaptured : Bool
  candidates : List (List BatchExecutionDescriptor)
  captureDescs : PyDict RuntimeMode (List BatchExecutionDescriptor)

/-- `_candidates`: the descriptors of the smallest captured size that holds `i`
tokens, for every `i` up to the largest. -/
def candidatesOf (byTokenCount : PyDict Nat (List BatchExecutionDescriptor)) :
    List (List BatchExecutionDescriptor) :=
  let sortedPadded := byTokenCount.keys.insertionSort (· ≤ ·)
  (sortedPadded.foldl
    (fun walk cgSize =>
      ((List.range' walk.2 (cgSize + 1 - walk.2)).foldl
        (fun candidates i => candidates.set i ((byTokenCount.get? cgSize).getD [])) walk.1,
        cgSize + 1))
    (List.replicate (sortedPadded.getLast?.getD 0 + 1) [], 0)).1

namespace CudaGraphManager

def init (config : CudaGraphConfig) : CudaGraphManager :=
  let fresh : CudaGraphManager := ⟨config.maxNumReqs, [], false, [], .empty⟩
  if config.cudagraphMode = .runtime .NONE ∨ config.cudagraphCaptureSizes = [] then
    fresh
  else
    let (sizes, extra) := config.captureSizes
    let tables := (sizes.flatMap (config.descsOf extra)).foldl DescTables.append .empty
    if tables.byTokenCount.entries = [] then
      fresh
    else
      { fresh with
        candidates := candidatesOf tables.byTokenCount
        captureDescs := tables.byMode.mapValues fun descs =>
          descs.insertionSort fun left right => right.numTokens ≤ left.numTokens }

/-- One pass of the capture loop; a piecewise graph is kept by its wrapper. -/
def captureDesc (state : CudaGraphManager × List BatchExecutionDescriptor)
    (desc : BatchExecutionDescriptor) :
    Except PyError (CudaGraphManager × List BatchExecutionDescriptor) :=
  if desc.cgMode = .PIECEWISE then
    .ok (state.1, state.2 ++ [desc])
  else do
    pyAssert (desc ∉ state.1.graphs) "Graph already captured for desc"
    return ({ state.1 with graphs := state.1.graphs ++ [desc] }, state.2 ++ [desc])

/-- `capture`, with the keys of the attention states it returns. -/
def capture (manager : CudaGraphManager) :
    Except PyError (CudaGraphManager × List BatchExecutionDescriptor) := do
  let descs := [RuntimeMode.PIECEWISE, .FULL].flatMap fun mode =>
    (manager.captureDescs.get? mode).getD []
  let (captured, attnStates) ← descs.foldlM captureDesc (manager, [])
  return ({ captured with graphsCaptured := true }, attnStates)

def dispatch (manager : CudaGraphManager) (numReqs numTokens : Nat)
    (uniformTokenCount : Option Nat) : BatchExecutionDescriptor :=
  let found :=
    if manager.graphsCaptured ∧ 0 < numTokens ∧ numTokens < manager.candidates.length then
      (manager.candidates.getD numTokens []).find?
        fun desc => isCompatible desc numReqs numTokens uniformTokenCount
    else none
  found.getD (.eager numTokens numReqs)

end CudaGraphManager

/-! ## What a candidate is -/

structure BatchExecutionDescriptor.WellShaped (maxNumReqs : Nat) (desc : BatchExecutionDescriptor) :
    Prop where
  isGraph : desc.cgMode ≠ .NONE
  uniform : ∀ queryLen, desc.uniformTokenCount = some queryLen →
    desc.numTokens % queryLen = 0 ∧ desc.numReqs = some (desc.numTokens / queryLen)
  mixed : desc.uniformTokenCount = none →
    desc.numReqs = none ∨ desc.numReqs = some (min desc.numTokens maxNumReqs)

namespace BatchExecutionDescriptor

variable {maxNumReqs numReqs numTokens : Nat} {desc : BatchExecutionDescriptor}

theorem WellShaped.room (wellShaped : desc.WellShaped maxNumReqs)
    (fewReqs : numReqs ≤ maxNumReqs) (tokenEach : numReqs ≤ numTokens)
    (isUniform : ∀ queryLen, uniformTokenCount = some queryLen →
      0 < queryLen ∧ queryLen * numReqs ≤ numTokens) :
    isCompatible desc numReqs numTokens uniformTokenCount =
      ((desc.uniformTokenCount = none || desc.uniformTokenCount = uniformTokenCount) &&
        decide (numTokens ≤ desc.numTokens)) := by
  rw [Bool.eq_iff_iff, isCompatible_iff]
  simp only [Bool.and_eq_true, Bool.or_eq_true, decide_eq_true_eq]
  constructor
  · rintro ⟨agrees, _, fits⟩
    exact ⟨agrees, fits⟩
  rintro ⟨agrees, fits⟩
  refine ⟨agrees, fun padded isPadded => ?_, fits⟩
  cases count : desc.uniformTokenCount with
  | none =>
    obtain isNone | isMin := wellShaped.mixed count
    · exact nomatch isNone.symm.trans isPadded
    · cases isMin.symm.trans isPadded
      omega
  | some queryLen =>
    have same : uniformTokenCount = some queryLen := by
      simpa [count, eq_comm] using agrees
    obtain ⟨positive, covers⟩ := isUniform queryLen same
    cases (wellShaped.uniform queryLen count).2.symm.trans isPadded
    rw [Nat.le_div_iff_mul_le positive, Nat.mul_comm]
    exact covers.trans fits

end BatchExecutionDescriptor

namespace CudaGraphConfig

variable {config : CudaGraphConfig} {extra : PyDict Nat (List Nat)} {numTokens : Nat}
  {desc : BatchExecutionDescriptor}

theorem uniformDesc_wellShaped {queryLen : Nat} (modeSet : config.cudagraphMode.decodeMode ≠ .NONE)
    (isDesc : config.uniformDesc extra numTokens queryLen = some desc) :
    desc.WellShaped config.maxNumReqs := by
  unfold uniformDesc at isDesc
  split at isDesc
  · cases isDesc
  split at isDesc
  next bounds =>
    cases isDesc
    refine ⟨modeSet, ?_, fun isNone => by cases isNone⟩
    rintro _ ⟨rfl⟩
    exact ⟨bounds.2.2.1, rfl⟩
  next => cases isDesc

theorem mixedDesc_wellShaped (modeSet : config.cudagraphMode.mixedMode ≠ .NONE) :
    (config.mixedDesc numTokens).WellShaped config.maxNumReqs := by
  refine ⟨modeSet, nofun, fun _ => ?_⟩
  unfold mixedDesc
  split
  · exact .inr rfl
  · exact .inl rfl

theorem descsOf_wellShaped (member : desc ∈ config.descsOf extra numTokens) :
    desc.WellShaped config.maxNumReqs := by
  rw [descsOf, List.mem_append] at member
  obtain isUniform | isMixed := member
  · split at isUniform
    next routine =>
      obtain ⟨queryLen, _, isDesc⟩ := List.mem_filterMap.mp isUniform
      exact uniformDesc_wellShaped routine.2 isDesc
    next => exact nomatch isUniform
  · split at isMixed
    next modeSet =>
      rw [List.mem_singleton.mp isMixed]
      exact mixedDesc_wellShaped modeSet
    next => exact nomatch isMixed

end CudaGraphConfig

/-- Every descriptor the tables hold for a token count has the property, and is
among those of its mode. -/
theorem DescTables.append_all {P : BatchExecutionDescriptor → Prop}
    (descs : List BatchExecutionDescriptor) (all : ∀ desc ∈ descs, P desc) :
    ∀ size, ∀ desc ∈ (((descs.foldl append empty).byTokenCount.get? size).getD []),
      P desc ∧ desc ∈ ((descs.foldl append empty).byMode.get? desc.cgMode).getD [] := by
  induction descs using List.reverseRecOn with
  | nil => simp [empty]
  | append_singleton descs last ih =>
    intro size desc member
    rw [List.foldl_append] at member ⊢
    simp only [List.foldl_cons, List.foldl_nil, append, PyDict.mem_getD_append] at member ⊢
    obtain isOld | ⟨_, rfl⟩ := member
    · obtain ⟨holds, inMode⟩ := ih
        (fun desc member => all desc (List.mem_append_left _ member)) size desc isOld
      exact ⟨holds, .inl inMode⟩
    · exact ⟨all desc (List.mem_append_right _ (List.mem_singleton_self _)), .inr ⟨rfl, rfl⟩⟩

theorem mem_candidatesOf {byTokenCount : PyDict Nat (List BatchExecutionDescriptor)}
    {descs : List BatchExecutionDescriptor} {desc : BatchExecutionDescriptor}
    (isCandidates : descs ∈ candidatesOf byTokenCount) (member : desc ∈ descs) :
    ∃ size, desc ∈ (byTokenCount.get? size).getD [] := by
  let IsEntry (descs : List BatchExecutionDescriptor) : Prop :=
    descs = [] ∨ ∃ size, descs = (byTokenCount.get? size).getD []
  have isEntry : ∀ descs ∈ candidatesOf byTokenCount, IsEntry descs := by
    refine foldl_preserves
      (P := fun walk : List (List BatchExecutionDescriptor) × Nat => ∀ descs ∈ walk.1, IsEntry descs)
      ?_ fun descs member => .inl (List.eq_of_mem_replicate member)
    intro walk cgSize entries
    refine foldl_preserves
      (P := fun candidates : List (List BatchExecutionDescriptor) => ∀ descs ∈ candidates, IsEntry descs)
      ?_ entries
    intro candidates i entries descs member
    obtain isOld | rfl := List.mem_or_eq_of_mem_set member
    · exact entries descs isOld
    · exact .inr ⟨cgSize, rfl⟩
  obtain rfl | ⟨size, rfl⟩ := isEntry descs isCandidates
  · exact nomatch member
  · exact ⟨size, member⟩

namespace CudaGraphManager

variable {config : CudaGraphConfig} {manager : CudaGraphManager}
  {attnStates descs : List BatchExecutionDescriptor} {desc : BatchExecutionDescriptor}

theorem init_candidates (isCandidates : descs ∈ (init config).candidates) (member : desc ∈ descs) :
    desc.WellShaped config.maxNumReqs ∧
      desc ∈ ((init config).captureDescs.get? desc.cgMode).getD [] := by
  unfold init at isCandidates ⊢
  split at isCandidates
  · exact nomatch isCandidates
  next isSet =>
    dsimp only at isCandidates
    rw [if_neg isSet]
    dsimp only
    have all {sizes : List Nat} {extra : PyDict Nat (List Nat)} :
        ∀ desc ∈ sizes.flatMap (config.descsOf extra), desc.WellShaped config.maxNumReqs := by
      intro desc member
      obtain ⟨_, _, inSize⟩ := List.mem_flatMap.mp member
      exact CudaGraphConfig.descsOf_wellShaped inSize
    split at isCandidates
    · exact nomatch isCandidates
    next nonempty =>
      rw [if_neg nonempty]
      obtain ⟨size, inSize⟩ := mem_candidatesOf isCandidates member
      obtain ⟨wellShaped, inMode⟩ := DescTables.append_all _ all size desc inSize
      refine ⟨wellShaped, ?_⟩
      rw [PyDict.get?_mapValues]
      revert inMode
      cases DescTables.byMode _ |>.get? desc.cgMode <;> simp

/-- What the manager has after the capture: its candidates are graphs that exist. -/
structure Captured (config : CudaGraphConfig) (manager : CudaGraphManager)
    (attnStates : List BatchExecutionDescriptor) : Prop where
  wellShaped : ∀ descs ∈ manager.candidates, ∀ desc ∈ descs, desc.WellShaped config.maxNumReqs
  captured : ∀ descs ∈ manager.candidates, ∀ desc ∈ descs, desc ∈ attnStates ∧
    (desc.cgMode = .FULL → desc ∈ manager.graphs)

private theorem captureDesc_all {descs : List BatchExecutionDescriptor}
    {state next : CudaGraphManager × List BatchExecutionDescriptor}
    (ran : descs.foldlM captureDesc state = .ok next) :
    next.1.candidates = state.1.candidates ∧
      (∀ desc ∈ state.2, desc ∈ next.2) ∧ (∀ desc ∈ state.1.graphs, desc ∈ next.1.graphs) ∧
      ∀ desc ∈ descs, desc ∈ next.2 ∧ (desc.cgMode = .FULL → desc ∈ next.1.graphs) := by
  induction descs generalizing state with
  | nil =>
    cases ran
    simp
  | cons head rest ih =>
    obtain ⟨middle, ranHead, ranRest⟩ := bind_eq_ok.mp ran
    obtain ⟨candidates, states, graphs, all⟩ := ih ranRest
    have step : middle.1.candidates = state.1.candidates ∧ (∀ desc ∈ state.2, desc ∈ middle.2) ∧
        (∀ desc ∈ state.1.graphs, desc ∈ middle.1.graphs) ∧ head ∈ middle.2 ∧
        (head.cgMode = .FULL → head ∈ middle.1.graphs) := by
      unfold captureDesc at ranHead
      split at ranHead
      next isPiecewise =>
        cases ranHead
        refine ⟨rfl, fun _ member => List.mem_append_left _ member, fun _ member => member,
          List.mem_append_right _ (List.mem_singleton_self _), fun isFull => ?_⟩
        exact nomatch isPiecewise.symm.trans isFull
      next =>
        obtain ⟨_, _, isNext⟩ := bind_eq_ok.mp ranHead
        cases isNext
        exact ⟨rfl, fun _ member => List.mem_append_left _ member,
          fun _ member => List.mem_append_left _ member,
          List.mem_append_right _ (List.mem_singleton_self _),
          fun _ => List.mem_append_right _ (List.mem_singleton_self _)⟩
    obtain ⟨keepsCandidates, keepsStates, keepsGraphs, inStates, inGraphs⟩ := step
    refine ⟨candidates.trans keepsCandidates, fun desc member => states desc (keepsStates desc member),
      fun desc member => graphs desc (keepsGraphs desc member), fun desc member => ?_⟩
    obtain rfl | inRest := List.mem_cons.mp member
    · exact ⟨states desc inStates, fun isFull => graphs desc (inGraphs isFull)⟩
    · exact all desc inRest

theorem capture_captured (ran : (init config).capture = .ok (manager, attnStates)) :
    manager.Captured config attnStates := by
  obtain ⟨⟨last, states⟩, ranAll, isManager⟩ := bind_eq_ok.mp ran
  cases isManager
  obtain ⟨candidates, _, _, all⟩ := captureDesc_all ranAll
  have isCandidate {descs : List BatchExecutionDescriptor} {desc : BatchExecutionDescriptor}
      (isCandidates : descs ∈ last.candidates) (member : desc ∈ descs) :=
    init_candidates (candidates ▸ isCandidates) member
  constructor
  · intro descs isCandidates desc member
    exact (isCandidate isCandidates member).1
  · intro descs isCandidates desc member
    obtain ⟨wellShaped, inMode⟩ := isCandidate isCandidates member
    apply all desc
    rw [List.mem_flatMap]
    refine ⟨desc.cgMode, ?_, inMode⟩
    cases isMode : desc.cgMode with
    | NONE => exact absurd isMode wellShaped.isGraph
    | PIECEWISE | FULL => simp

/-- The manager at run time: before the capture, or after it. -/
inductive Ready (config : CudaGraphConfig) :
    CudaGraphManager → List BatchExecutionDescriptor → Prop
  | fresh : Ready config (init config) []
  | captured {manager : CudaGraphManager} {attnStates : List BatchExecutionDescriptor} :
      (init config).capture = .ok (manager, attnStates) → Ready config manager attnStates

theorem init_graphsCaptured : (init config).graphsCaptured = false := by
  unfold init
  split <;> dsimp only
  split <;> rfl

theorem getD_mem_candidates {numTokens : Nat} (inRange : numTokens < manager.candidates.length) :
    manager.candidates.getD numTokens [] ∈ manager.candidates := by
  rw [List.getD_eq_getElem?_getD, List.getElem?_eq_getElem inRange]
  exact List.getElem_mem _

/-- A dispatched batch runs in a captured graph that is compatible with it, or in none. -/
theorem Ready.dispatch (ready : Ready config manager attnStates) (numReqs numTokens : Nat)
    (uniformTokenCount : Option Nat) :
    manager.dispatch numReqs numTokens uniformTokenCount = .eager numTokens numReqs ∨
      ∃ desc, manager.dispatch numReqs numTokens uniformTokenCount = desc ∧
        desc.WellShaped config.maxNumReqs ∧ desc ∈ attnStates ∧
        (desc.cgMode = .FULL → desc ∈ manager.graphs) ∧
        isCompatible desc numReqs numTokens uniformTokenCount = true := by
  cases ready with
  | fresh =>
    left
    simp [CudaGraphManager.dispatch, init_graphsCaptured]
  | captured ran =>
    have captured := capture_captured ran
    unfold CudaGraphManager.dispatch
    split
    next inRange =>
      cases found : (manager.candidates.getD numTokens []).find?
          fun desc => isCompatible desc numReqs numTokens uniformTokenCount with
      | none => exact .inl rfl
      | some desc =>
        right
        have member := List.mem_of_find?_eq_some found
        have isCandidates := getD_mem_candidates inRange.2.2
        obtain ⟨inStates, inGraphs⟩ := captured.captured _ isCandidates desc member
        have compatible := List.find?_some found
        exact ⟨desc, rfl, captured.wellShaped _ isCandidates desc member, inStates, inGraphs,
          compatible⟩
    next => exact .inl rfl

/-- The graph a batch is given does not depend on how many requests it has, as
long as they fit into it. -/
theorem Ready.dispatch_numReqs (ready : Ready config manager attnStates) {numReqs others numTokens : Nat}
    (fits : numReqs ≤ config.maxNumReqs)
    (othersFit : others ≤ config.maxNumReqs) (tokenEach : numReqs ≤ numTokens)
    (othersTokenEach : others ≤ numTokens)
    (isUniform : ∀ queryLen, uniformTokenCount = some queryLen →
      0 < queryLen ∧ queryLen * numReqs ≤ numTokens ∧ queryLen * others ≤ numTokens)
    (isGraph : (manager.dispatch numReqs numTokens uniformTokenCount).cgMode ≠ .NONE) :
    manager.dispatch others numTokens uniformTokenCount =
      manager.dispatch numReqs numTokens uniformTokenCount := by
  unfold CudaGraphManager.dispatch at isGraph ⊢
  split at isGraph
  next inRange =>
    rw [if_pos inRange, if_pos inRange]
    cases ready with
    | fresh => exact absurd inRange.1 (by simp [init_graphsCaptured])
    | captured ran =>
      have isCandidates := getD_mem_candidates inRange.2.2
      have same : (manager.candidates.getD numTokens []).find?
            (fun desc => isCompatible desc others numTokens uniformTokenCount) =
          (manager.candidates.getD numTokens []).find?
            (fun desc => isCompatible desc numReqs numTokens uniformTokenCount) := by
        apply List.find?_congr
        intro desc member
        have wellShaped := (capture_captured ran).wellShaped _ isCandidates desc member
        rw [wellShaped.room othersFit othersTokenEach fun queryLen same =>
            ⟨(isUniform queryLen same).1, (isUniform queryLen same).2.2⟩,
          wellShaped.room fits tokenEach fun queryLen same =>
            ⟨(isUniform queryLen same).1, (isUniform queryLen same).2.1⟩]
      rw [same]
      cases found : (manager.candidates.getD numTokens []).find?
          fun desc => isCompatible desc numReqs numTokens uniformTokenCount with
      | none => rw [found] at isGraph; exact absurd rfl isGraph
      | some desc => rfl
  next => exact absurd rfl isGraph

end CudaGraphManager

end DeepSpark
