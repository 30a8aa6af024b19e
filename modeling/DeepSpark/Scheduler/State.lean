import DeepSpark.BlockPool.Pool
import DeepSpark.Lib.PyDict
import DeepSpark.Request.Hasher
import DeepSpark.Scheduler.Queue

/-!
The state of `Scheduler` and `AsyncScheduler` of `v1/core/sched`, and the parts
of the engine they call.

Owns the configuration, the scheduler's attributes, the interface of the KV cache
manager, the encoder cache and the connectors, and the operations on one request
or one queue that the larger functions share. The collaborators are a parameter
with a state of their own; a request is addressed by its id, and `request` keeps
the record of an id after it has left `requests`.
-/

namespace DeepSpark

open Lib

inductive PauseState where
  | unpaused
  | pausedNew
  | pausedAll
deriving DecidableEq, Repr

/-- What the constructor reads from the configuration. `asyncScheduling` tells
`AsyncScheduler` from `Scheduler`; `blockHasher` is the one every request was
built with. -/
structure SchedulerConfig where
  policy : SchedulingPolicy
  maxNumRunningReqs : Nat
  maxNumScheduledTokens : Nat
  maxModelLen : Nat
  numSampledTokensPerStep : Nat
  numSpecTokens : Nat
  numLookaheadTokens : Nat
  longPrefillTokenThreshold : Nat
  enableChunkedPrefill : Bool
  schedulerReserveFullIsl : Bool
  maxLoras : Option Nat
  maxNumEncoderInputTokens : Nat
  isEncoderDecoder : Bool
  disableChunkedMmInput : Bool
  requiresEagleCacheDrop : Bool
  useEagle : Bool
  hasMambaLayers : Bool
  needMambaBlockAlignedSplit : Bool
  blockSize : Nat
  hasConnector : Bool
  hasEcConnector : Bool
  asyncScheduling : Bool
  ppSize : Nat
  useV2ModelRunner : Bool
  useDsparkConfidenceSchedule : Bool
  blockHasher : Option BlockHasher

/-- The arguments of `KVCacheManager.allocate_slots` after the request. -/
structure AllocateArgs where
  numNewTokens : Int
  numNewComputedTokens : Nat := 0
  newComputedBlocks : List (List BlockId) := []
  numLookaheadTokens : Nat := 0
  numExternalComputedTokens : Nat := 0
  delayCacheBlocks : Bool := false
  numEncoderTokens : Nat := 0
  fullSequenceMustFit : Bool := false
  reservedBlocks : Int := 0
  hasScheduledReqs : Bool := true
deriving DecidableEq, Repr

/-- What the lookup of locally cached blocks returns, with the coordinator's
hint of an uncached common prefix. -/
structure ComputedBlocks where
  blocks : List (List BlockId)
  numNewLocalComputedTokens : Nat
  numUncachedCommonPrefixTokens : Int
deriving DecidableEq, Repr

/-- The KV cache manager, the encoder cache manager, the connectors and the
grammars, over one state. `acceptTokens` and `validateTokens` leave a request
without a grammar alone. -/
structure Collaborators (K : Type) where
  newStepStarts : K → K
  getComputedBlocks : K → Request → Except PyError (ComputedBlocks × K)
  allocateSlots : K → Request → AllocateArgs → Except PyError (Bool × K)
  free : K → Request → Except PyError K
  cacheBlocks : K → Request → Int → Except PyError K
  resetPrefixCache : K → Except PyError (Bool × K)
  getNumEncoderEmbeds : Request → Nat → Nat
  getEmbedsIndicesInRange : MultiModalFeatureSpec → Int → Int → Int × Int
  checkAndUpdateCache : K → Request → Nat → Bool × K
  canAllocateEncoder : K → Request → Nat → Int → Nat → Bool × K
  hasCacheItem : K → String → Bool
  allocateEncoderInputs : K → Request → List Nat → K
  freeEncoder : K → Request → K
  freeEncoderInputs : K → Request → K
  getNumNewMatchedTokens : K → Request → Nat → Option Nat × Bool × K
  ensureCacheAvailable : K → Request → Int → Bool
  updateStateAfterAlloc : K → Request → Nat → K
  remainingBlocks : K → Request → Int
  connectorFinished : K → Request → Except PyError (Bool × K)
  hasGrammar : K → Request → Bool
  acceptTokens : K → Request → List TokenId → Except PyError (Bool × K)
  validateTokens : K → Request → List TokenId → List TokenId

/-- The attributes of a scheduler. Sets of request ids are lists. -/
structure Scheduler (K : Type) where
  request : ReqId → Request
  requests : List ReqId := []
  waiting : List ReqId := []
  skippedWaiting : List ReqId := []
  running : List ReqId := []
  finishedReqIds : List ReqId := []
  numWaitingForStreamingInput : Int := 0
  finishedRecvingKvReqIds : List ReqId := []
  failedRecvingKvReqIds : List ReqId := []
  inflightPrefills : List ReqId := []
  prevStepScheduledReqIds : List ReqId := []
  currentStep : Nat := 0
  pauseState : PauseState := .unpaused
  kv : K

namespace Scheduler

variable {K : Type} (env : Collaborators K) (config : SchedulerConfig) (self : Scheduler K)

def modifyRequest (id : ReqId) (change : Request → Request) : Scheduler K :=
  { self with request := Function.update self.request id (change (self.request id)) }

/-- `self.requests.get(req_id)`. -/
def getRequest (id : ReqId) : Option Request :=
  if id ∈ self.requests then some (self.request id) else none

def requestLt (left right : ReqId) : Bool := (self.request left).lt (self.request right)

def addWaiting (id : ReqId) : Scheduler K :=
  { self with waiting := RequestQueue.addRequest config.policy self.requestLt self.waiting id }

def addSkippedWaiting (id : ReqId) : Scheduler K :=
  { self with
    skippedWaiting :=
      RequestQueue.addRequest config.policy self.requestLt self.skippedWaiting id }

def prependWaiting (id : ReqId) : Scheduler K :=
  { self with waiting := RequestQueue.prependRequest config.policy self.requestLt self.waiting id }

def isBlockedWaitingStatus : RequestStatus → Bool
  | .waitingForStructuredOutputGrammar | .waitingForRemoteKvs | .waitingForStreamingReq => true
  | _ => false

def enqueueWaitingRequest (id : ReqId) : Scheduler K :=
  if isBlockedWaitingStatus (self.request id).status then self.addSkippedWaiting config id
  else self.addWaiting config id

/-- The record `_preempt_request` leaves behind. -/
def preempted (request : Request) : Request :=
  { request with
    status := .preempted
    numComputedTokens := 0
    specTokenIds := []
    numPreemptions := request.numPreemptions + 1 }

/-- `_preempt_request`; the request was taken out of the running queue before. -/
def preemptRequest (id : ReqId) : Except PyError (Scheduler K) := do
  let request := self.request id
  pyAssert (request.status = .running) "Only running requests can be preempted"
  let kv ← env.free self.kv request
  let self := { self with
    kv := env.freeEncoder kv request
    inflightPrefills := self.inflightPrefills.filter (· ≠ id) }
  .ok ((self.modifyRequest id preempted).prependWaiting config id)

def mambaBlockAlignedSplit (request : Request) (numNewTokens : Int)
    (numNewLocalComputedTokens numExternalComputedTokens : Int := 0)
    (numUncachedCommonPrefixTokens : Int := 0) : Int :=
  let numComputedTokens :=
    request.numComputedTokens + numNewLocalComputedTokens + numExternalComputedTokens
  if numComputedTokens < max (request.numPromptTokens : Int) ((request.numTokens : Int) - 1) then
    let blockSize : Int := config.blockSize
    let lastCachePosition : Int := request.numTokens - (request.numTokens : Int) % blockSize
    let lastCachePosition :=
      if config.requiresEagleCacheDrop then max (lastCachePosition - blockSize) 0
      else lastCachePosition
    let numComputedTokensAfterSched := numComputedTokens + numNewTokens
    let numNewTokens :=
      if numComputedTokensAfterSched < lastCachePosition then
        numNewTokens / blockSize * blockSize
      else if numComputedTokens < lastCachePosition ∧
          lastCachePosition < numComputedTokensAfterSched then
        lastCachePosition - numComputedTokens
      else numNewTokens
    if numUncachedCommonPrefixTokens ≥ blockSize ∧
        numNewTokens > numUncachedCommonPrefixTokens then
      numUncachedCommonPrefixTokens / blockSize * blockSize
    else numNewTokens
  else numNewTokens

end Scheduler

end DeepSpark
