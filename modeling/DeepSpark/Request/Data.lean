import DeepSpark.Lib.Bytes

/-!
The request record of `v1/request.py` and the value types it is built from.

Owns the fields that modelled functions read or write, the status enumeration
in the source's order, and the derived lengths. Counters the source lets run
below zero are integers. Tensors, events and statistics are not part of the
record; a prompt embedding appears only as the digest of each of its slices.
-/

namespace DeepSpark

open Lib

/-- A token id; drafts that are not known yet are scheduled as `-1`. -/
abbrev TokenId := Int

/-- `Request.request_id`. Ids are never reused within a run. -/
abbrev ReqId := Nat

abbrev BlockHash := Bytes

/-- `RequestStatus`, in the order that makes everything after `preempted` a
finished status. -/
inductive RequestStatus where
  | waiting
  | waitingForStructuredOutputGrammar
  | waitingForRemoteKvs
  | waitingForStreamingReq
  | running
  | preempted
  | finishedStopped
  | finishedLengthCapped
  | finishedAborted
  | finishedIgnored
  | finishedError
  | finishedRepetition
deriving DecidableEq, Repr

def RequestStatus.isFinished : RequestStatus → Bool
  | .finishedStopped | .finishedLengthCapped | .finishedAborted | .finishedIgnored
  | .finishedError | .finishedRepetition => true
  | _ => false

structure RepetitionDetectionParams where
  maxPatternSize : Int
  minPatternSize : Int
  minCount : Int
deriving DecidableEq, Repr

structure SamplingParams where
  maxTokens : Nat
  minTokens : Nat := 0
  eosTokenId : Option TokenId := none
  stopTokenIds : List TokenId := []
  repetitionDetection : Option RepetitionDetectionParams := none
deriving DecidableEq, Repr

structure LoRARequest where
  loraName : String
  loraIntId : Nat
deriving DecidableEq, Repr

/-- One multi-modal item: its identifier and the placeholder range it fills. -/
structure MultiModalFeatureSpec where
  identifier : String
  offset : Nat
  length : Nat
deriving DecidableEq, Repr

/-- `StreamingUpdate`: what a later chunk of a streaming session carries. -/
structure StreamingUpdate where
  mmFeatures : List MultiModalFeatureSpec
  promptTokenIds : List TokenId
  maxTokens : Nat
  arrivalTime : Int
  samplingParams : SamplingParams
deriving DecidableEq, Repr

/-- `Request`. `promptEmbeds` gives, for a token range, the digest of that
slice of the prompt embedding. -/
structure Request where
  requestId : ReqId
  priority : Int := 0
  arrivalTime : Int := 0
  samplingParams : SamplingParams
  isPooling : Bool := false
  loraRequest : Option LoRARequest := none
  cacheSalt : Option String := none
  mmFeatures : List MultiModalFeatureSpec := []
  promptEmbeds : Option (Nat → Nat → Bytes) := none
  useStructuredOutput : Bool := false
  skipReadingPrefixCache : Bool := false
  resumable : Bool := false
  status : RequestStatus := .waiting
  maxTokens : Nat
  promptTokenIds : List TokenId
  numPromptTokens : Nat
  outputTokenIds : List TokenId := []
  allTokenIds : List TokenId
  numOutputPlaceholders : Int := 0
  asyncTokensToDiscard : Int := 0
  nextDecodeEligibleStep : Nat := 0
  specTokenIds : List TokenId := []
  numComputedTokens : Int := 0
  isPrefillChunk : Bool := false
  numPreemptions : Nat := 0
  blockHashes : List BlockHash := []
  streamingQueue : Option (List (Option StreamingUpdate)) := none

namespace Request

variable (request : Request)

def numTokens : Nat := request.allTokenIds.length

def numTokensWithSpec : Nat := request.allTokenIds.length + request.specTokenIds.length

def numOutputTokens : Nat := request.outputTokenIds.length

def isFinished : Bool := request.status.isFinished

def hasEncoderInputs : Bool := !request.mmFeatures.isEmpty

/-- A request without LoRA, salt, multi-modal items or embeddings. -/
structure TextOnly : Prop where
  noLora : request.loraRequest = none
  noSalt : request.cacheSalt = none
  noMultiModal : request.mmFeatures = []
  noEmbeds : request.promptEmbeds = none

end Request

end DeepSpark
