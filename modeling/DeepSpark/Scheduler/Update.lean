import DeepSpark.Scheduler.Schedule

/-!
Everything else that changes a scheduler: `update_from_output` of both classes,
`update_draft_token_ids`, `add_request`, `finish_requests` and
`reset_prefix_cache`.

Owns the stop test of `v1/core/sched/utils.py`, the rejection arithmetic, the
handling of stopped requests and streaming sessions, and the draft placeholders
of the confidence schedule. KV loads that fail on the worker are left out.
-/

namespace DeepSpark

open Lib

structure ModelRunnerOutput where
  sampledTokenIds : ReqId → List TokenId
  hasPoolerOutput : ReqId → Bool := fun _ => false
  draftTokenCounts : List (ReqId × Int) := []
  finishedRecving : List ReqId := []
  finishedSending : List ReqId := []

/-! ## Stopping -/

def hasRepeatingPattern (tokenIds : List TokenId) (patternLen repetitionMinCount : Nat) : Bool :=
  let fromEnd := tokenIds.reverse
  (List.range patternLen).all fun offset =>
    (List.range (repetitionMinCount - 1)).all fun repetition =>
      fromEnd[patternLen * (repetition + 1) + offset]? == fromEnd[offset]?

/-- `check_sequence_repetition`; patterns too long for the tokens come last. -/
def checkSequenceRepetition (tokenIds : List TokenId) (params : RepetitionDetectionParams) : Bool :=
  let minPatternSize := if params.minPatternSize ≤ 0 then 1 else params.minPatternSize
  if params.maxPatternSize ≤ 0 ∨ params.minCount < 2 ∨ minPatternSize > params.maxPatternSize then
    false
  else
    ((List.range (params.maxPatternSize.toNat + 1)).drop minPatternSize.toNat).any fun patternLen =>
      patternLen * params.minCount.toNat ≤ tokenIds.length &&
        hasRepeatingPattern tokenIds patternLen params.minCount.toNat

def stopStatus (request : Request) (maxModelLen : Nat) : Option RequestStatus :=
  let params := request.samplingParams
  let lastTokenId := request.outputTokenIds.getLast?
  if request.numOutputTokens < params.minTokens then none
  else if lastTokenId.isSome && lastTokenId == params.eosTokenId then some .finishedStopped
  else if params.stopTokenIds.any fun stopTokenId => lastTokenId == some stopTokenId then
    some .finishedStopped
  else if request.numTokens ≥ maxModelLen ∨ request.numOutputTokens ≥ request.maxTokens then
    some .finishedLengthCapped
  else
    match params.repetitionDetection with
    | some detection =>
      if checkSequenceRepetition request.outputTokenIds detection then some .finishedRepetition
      else none
    | none => none

def checkStop (request : Request) (maxModelLen : Nat) : Except PyError (Bool × Request) := do
  pyAssert (!request.isPooling) ""
  match stopStatus request maxModelLen with
  | some status => .ok (true, { request with status })
  | none => .ok (false, request)

/-- `Scheduler._update_request_with_output`: append tokens until one stops the
request; the tokens appended, and whether it stopped. -/
def appendTokens (config : SchedulerConfig) :
    Request → List TokenId → Except PyError (List TokenId × Bool × Request)
  | request, [] => .ok ([], false, request)
  | request, tokenId :: rest => do
      let request ← request.appendOutputTokenIds config.blockHasher [tokenId]
      let (stopped, request) ← checkStop request config.maxModelLen
      if stopped then .ok ([tokenId], true, request)
      else do
        let (appended, stopped, request) ← appendTokens config request rest
        .ok (tokenId :: appended, stopped, request)

def StreamingUpdate.fromRequest (request : Request) : Option StreamingUpdate :=
  if request.resumable then
    some { mmFeatures := request.mmFeatures
           promptTokenIds := request.promptTokenIds
           maxTokens := request.maxTokens
           arrivalTime := request.arrivalTime
           samplingParams := request.samplingParams }
  else none

namespace Scheduler

variable {K : Type} (env : Collaborators K) (config : SchedulerConfig) (self : Scheduler K)

def freeBlocks (id : ReqId) : Except PyError (Scheduler K) := do
  pyAssert (self.request id).isFinished ""
  let kv ← env.free self.kv (self.request id)
  .ok { self with kv := kv, requests := self.requests.erase id }

def freeRequest (id : ReqId) (delayFreeBlocks : Bool := false) : Except PyError (Scheduler K) := do
  let request := self.request id
  pyAssert request.isFinished ""
  let (connectorDelay, kv) ←
    (if config.hasConnector then env.connectorFinished self.kv request else .ok (false, self.kv))
  let self := { self with
    kv := env.freeEncoder kv request
    inflightPrefills := self.inflightPrefills.filter (· ≠ id)
    finishedReqIds := self.finishedReqIds.insert id }
  if delayFreeBlocks || connectorDelay then .ok self
  else self.freeBlocks env id

def updateSession (id : ReqId) (update : StreamingUpdate) : Except PyError (Scheduler K) := do
  let session := self.request id
  let updated ← session.updateRequestAsSession config.blockHasher update
  let self := self.modifyRequest id fun _ => updated
  .ok { self with
    numWaitingForStreamingInput :=
      if session.status = .waitingForStreamingReq then self.numWaitingForStreamingInput - 1
      else self.numWaitingForStreamingInput }

def handleStoppedRequest (id : ReqId) : Except PyError (Bool × Scheduler K) :=
  let request := self.request id
  if !request.resumable then .ok (true, self)
  else
    match request.streamingQueue with
    | some (none :: rest) =>
      .ok (true, self.modifyRequest id fun request =>
        { request with streamingQueue := some rest })
    | some (some update :: rest) => do
        let self := self.modifyRequest id fun request =>
          { request with streamingQueue := some rest }
        let self ← self.updateSession config id update
        .ok (false, self.enqueueWaitingRequest config id)
    | _ =>
      let self := self.modifyRequest id fun request =>
        { request with status := .waitingForStreamingReq }
      let self :=
        { self with numWaitingForStreamingInput := self.numWaitingForStreamingInput + 1 }
      .ok (false, self.enqueueWaitingRequest config id)

/-! ## update_from_output -/

/-- The rejection arithmetic: drafts that were not accepted are taken back. -/
def rejectDrafts (scheduledSpecTokenIds generatedTokenIds : List TokenId) (request : Request) :
    Request :=
  if !scheduledSpecTokenIds.isEmpty &&
      (!generatedTokenIds.isEmpty || config.numSampledTokensPerStep == 0) then
    let numDraftTokens : Int := scheduledSpecTokenIds.length
    let numAccepted : Int := max (generatedTokenIds.length - config.numSampledTokensPerStep) 0
    let numRejected := numDraftTokens - numAccepted
    { request with
      numComputedTokens :=
        if request.numComputedTokens > 0 then request.numComputedTokens - numRejected
        else request.numComputedTokens
      numOutputPlaceholders :=
        if request.numOutputPlaceholders > 0 then request.numOutputPlaceholders - numRejected
        else request.numOutputPlaceholders }
  else request

/-- `_update_request_with_output` of the scheduler's class: the tokens appended,
and whether the request stopped. -/
def updateRequestWithOutput (id : ReqId) (newTokenIds : List TokenId) :
    Except PyError (List TokenId × Bool × Scheduler K) :=
  let request := self.request id
  if config.asyncScheduling then
    if request.asyncTokensToDiscard > 0 then
      .ok ([], false, self.modifyRequest id fun request =>
        { request with asyncTokensToDiscard := request.asyncTokensToDiscard - 1 })
    else do
      let (appended, stopped, updated) ← appendTokens config request newTokenIds
      let updated := { updated with
        numOutputPlaceholders := updated.numOutputPlaceholders - appended.length }
      pyAssert (updated.numOutputPlaceholders ≥ 0) ""
      let self := self.modifyRequest id fun _ => updated
      if request.status = .running then do
        let kv ← env.cacheBlocks self.kv updated
          (updated.numComputedTokens - updated.numOutputPlaceholders)
        .ok (appended, stopped, { self with kv := kv })
      else .ok (appended, stopped, self)
  else do
    let (appended, stopped, updated) ← appendTokens config request newTokenIds
    .ok (appended, stopped, self.modifyRequest id fun _ => updated)

/-- The tokens of one request, checked for a stop by a token, by the pooler or
by the grammar. -/
def applyOutput (output : ModelRunnerOutput) (id : ReqId) :
    Except PyError (Bool × Scheduler K) := do
  let generatedTokenIds := output.sampledTokenIds id
  let (appended, stopped, self) ←
    (if !generatedTokenIds.isEmpty then
      self.updateRequestWithOutput env config id generatedTokenIds
    else if (self.request id).isPooling && output.hasPoolerOutput id then
      .ok ([], true, self.modifyRequest id fun request => { request with status := .finishedStopped })
    else .ok ([], false, self))
  if appended.isEmpty then .ok (stopped, self)
  else do
    let (accepted, kv) ← env.acceptTokens self.kv (self.request id) appended
    let self := { self with kv := kv }
    if accepted then .ok (stopped, self)
    else
      .ok (true, self.modifyRequest id fun request =>
        { request with status := .finishedError, resumable := false })

/-- The scheduler and the requests that stopped in the loop of
`update_from_output`. -/
structure UpdateState (K : Type) where
  self : Scheduler K
  stoppedRunningReqs : List ReqId := []
  stoppedPreemptedReqs : List ReqId := []

/-- What follows a stop: the request continues as a session or is freed. -/
def UpdateState.stop (state : UpdateState K) (id : ReqId) (statusBeforeStop : RequestStatus) :
    Except PyError (UpdateState K) := do
  let (finished, self) ← state.self.handleStoppedRequest config id
  let self ← (if finished then self.freeRequest env config id else .ok self)
  if statusBeforeStop = .running then
    .ok { state with self, stoppedRunningReqs := state.stoppedRunningReqs ++ [id] }
  else .ok { state with self, stoppedPreemptedReqs := state.stoppedPreemptedReqs ++ [id] }

/-- The rejection arithmetic and the encoder inputs that are no longer needed,
before the tokens of one request are read. -/
def beforeOutput (schedulerOutput : SchedulerOutput) (output : ModelRunnerOutput) (id : ReqId) :
    Scheduler K :=
  let scheduledSpecTokenIds := (schedulerOutput.scheduledSpecDecodeTokens.get? id).getD []
  let self := self.modifyRequest id
    (rejectDrafts config scheduledSpecTokenIds (output.sampledTokenIds id))
  if (self.request id).hasEncoderInputs then
    { self with kv := env.freeEncoderInputs self.kv (self.request id) }
  else self

def UpdateState.updateRequest (schedulerOutput : SchedulerOutput) (output : ModelRunnerOutput)
    (state : UpdateState K) (entry : ReqId × Int) : Except PyError (UpdateState K) := do
  let (id, numTokensScheduled) := entry
  pyAssert (numTokensScheduled > 0) ""
  match state.self.getRequest id with
  | none => .ok state
  | some request =>
    if request.isFinished then .ok state
    else do
      let self := state.self.beforeOutput env config schedulerOutput output id
      let (stopped, self) ← self.applyOutput env config output id
      let state := { state with self }
      if stopped then state.stop env config id request.status
      else .ok state

/-- `remove_all`: one item is removed once, several are filtered out. -/
def removeAll (ids items : List ReqId) : List ReqId :=
  match items with
  | [] => ids
  | [item] => ids.erase item
  | _ => ids.filter fun id => id ∉ items

def finishRecving (id : ReqId) : Except PyError (Scheduler K) := do
  pyAssert (id ∈ self.requests) ""
  if (self.request id).status = .waitingForRemoteKvs then
    .ok { self with finishedRecvingKvReqIds := self.finishedRecvingKvReqIds.insert id }
  else self.freeBlocks env id

def finishSending (id : ReqId) : Except PyError (Scheduler K) := do
  pyAssert (id ∈ self.requests) ""
  self.freeBlocks env id

def updateFromOutput (schedulerOutput : SchedulerOutput) (output : ModelRunnerOutput) :
    Except PyError (Scheduler K) := do
  let state ← schedulerOutput.numScheduledTokens.entries.foldlM
    (UpdateState.updateRequest env config schedulerOutput output) { self }
  let self := { state.self with
    running := removeAll state.self.running state.stoppedRunningReqs
    waiting :=
      if state.stoppedPreemptedReqs.isEmpty then state.self.waiting
      else RequestQueue.removeRequests config.policy state.self.requestLt state.self.waiting
        state.stoppedPreemptedReqs }
  let self ← output.finishedRecving.foldlM (finishRecving env) self
  output.finishedSending.foldlM (finishSending env) self

def plantDraftPlaceholders (entry : ReqId × Int) : Scheduler K :=
  match self.getRequest entry.1 with
  | none => self
  | some request =>
    if request.isFinished || request.isPrefillChunk then self
    else
      self.modifyRequest entry.1 fun request =>
        { request with
          specTokenIds :=
            List.replicate (max 0 (min entry.2 config.numSpecTokens)).toNat (-1) }

def updateFromOutputOf (schedulerOutput : SchedulerOutput) (output : ModelRunnerOutput) :
    Except PyError (Scheduler K) := do
  let self ← self.updateFromOutput env config schedulerOutput output
  if config.asyncScheduling && config.useDsparkConfidenceSchedule then
    .ok (output.draftTokenCounts.foldl (plantDraftPlaceholders config) self)
  else .ok self

def updateDraftTokenIds (entry : ReqId × List TokenId) : Scheduler K :=
  match self.getRequest entry.1 with
  | none => self
  | some request =>
    if request.isFinished then self
    else
      self.modifyRequest entry.1 fun request =>
        { request with
          specTokenIds :=
            if request.isPrefillChunk then []
            else env.validateTokens self.kv request entry.2 }

/-! ## Requests from outside -/

def finishRequest (finishedStatus : RequestStatus) (id : ReqId) : Except PyError (Scheduler K) :=
  let isLoading := (self.request id).status = .waitingForRemoteKvs
  let delayFreeBlocks := isLoading ∧ id ∉ self.finishedRecvingKvReqIds
  let self :=
    if isLoading then
      { self with
        finishedRecvingKvReqIds := self.finishedRecvingKvReqIds.filter (· ≠ id)
        failedRecvingKvReqIds := self.failedRecvingKvReqIds.filter (· ≠ id) }
    else self
  let self := self.modifyRequest id fun request => { request with status := finishedStatus }
  self.freeRequest env config id delayFreeBlocks

/-- `finish_requests`; `none` stands for every request. -/
def finishRequests (requestIds : Option (List ReqId)) (finishedStatus : RequestStatus) :
    Except PyError (Scheduler K) := do
  pyAssert finishedStatus.isFinished ""
  let ids := (requestIds.getD self.requests).dedup
  let valid := ids.filter fun id => id ∈ self.requests ∧ !(self.request id).isFinished
  let runningToRemove := valid.filter fun id => (self.request id).status = .running
  let waitingToRemove := valid.filter fun id => (self.request id).status ≠ .running
  let streaming := waitingToRemove.filter fun id =>
    (self.request id).status = .waitingForStreamingReq
  let self := { self with
    numWaitingForStreamingInput := self.numWaitingForStreamingInput - streaming.length
    running := removeAll self.running runningToRemove
    waiting :=
      if waitingToRemove.isEmpty then self.waiting
      else RequestQueue.removeRequests config.policy self.requestLt self.waiting waitingToRemove
    skippedWaiting :=
      if waitingToRemove.isEmpty then self.skippedWaiting
      else RequestQueue.removeRequests config.policy self.requestLt self.skippedWaiting
        waitingToRemove }
  valid.foldlM (fun self id => self.finishRequest env config finishedStatus id) self

def addRequest (request : Request) : Except PyError (Scheduler K) :=
  let id := request.requestId
  match self.getRequest id with
  | some existing =>
    let update := StreamingUpdate.fromRequest request
    if existing.status ≠ .waitingForStreamingReq then
      match existing.streamingQueue with
      | none => .error (.assertionError "duplicate request id")
      | some queue =>
        .ok (self.modifyRequest id fun request =>
          { request with streamingQueue := some (queue ++ [update]) })
    else
      match update with
      | some update => self.updateSession config id update
      | none => self.finishRequests env config (some [id]) .finishedAborted
  | none =>
    let request :=
      if request.resumable then { request with streamingQueue := some [] } else request
    let self := (self.modifyRequest id fun _ => request).enqueueWaitingRequest config id
    .ok { self with requests := self.requests ++ [id] }

/-- The loop of `reset_prefix_cache`: every running request is preempted, last
one first, and its outputs in flight are marked stale. -/
def preemptAll : Nat → Scheduler K → Except PyError (Scheduler K)
  | 0, self => .ok self
  | fuel + 1, self =>
    match self.running.getLast? with
    | none => .ok self
    | some id => do
        let self ← { self with running := self.running.dropLast }.preemptRequest env config id
        preemptAll fuel (self.modifyRequest id fun request =>
          { request with
            asyncTokensToDiscard := request.numOutputPlaceholders
            numOutputPlaceholders := 0 })

def resetPrefixCache (resetRunningRequests : Bool) : Except PyError (Bool × Scheduler K) := do
  let self ←
    (if resetRunningRequests then do
      let self ← preemptAll env config self.running.length self
      .ok { self with prevStepScheduledReqIds := [] }
    else .ok self)
  let (resetSuccessful, kv) ← env.resetPrefixCache self.kv
  if resetRunningRequests && !resetSuccessful then
    .error (.runtimeError "Failed to reset KV cache even when all the running requests are preempted")
  else .ok (resetSuccessful, { self with kv := kv })

end Scheduler

end DeepSpark
