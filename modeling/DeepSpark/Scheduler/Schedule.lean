import DeepSpark.Scheduler.Encoder

/-!
`Scheduler.schedule` and both versions of `_update_after_schedule`.

Owns the running loop with its preemptions, the waiting loop with its skips and
admissions, and the bookkeeping after a step. The `while` loops take a fuel that
their own queues bound: a round of the running loop moves the index or shortens
`running`, a round of the waiting loop takes a request out of a waiting queue.
-/

namespace DeepSpark

open Lib

structure SchedulerOutput where
  scheduledNewReqs : List ReqId
  scheduledResumedReqs : List ReqId
  scheduledRunningReqs : List ReqId
  numScheduledTokens : PyDict ReqId Int
  scheduledSpecDecodeTokens : PyDict ReqId (List TokenId)
  scheduledEncoderInputs : PyDict ReqId (List Nat)
  preemptedReqIds : List ReqId
  finishedReqIds : List ReqId

structure ScheduleState (K : Type) where
  self : Scheduler K
  scheduledNewReqs : List ReqId := []
  scheduledResumedReqs : List ReqId := []
  scheduledRunningReqs : List ReqId := []
  preemptedReqs : List ReqId := []
  numScheduledTokens : PyDict ReqId Int := .empty
  scheduledSpecDecodeTokens : PyDict ReqId (List TokenId) := .empty
  scheduledEncoderInputs : PyDict ReqId (List Nat) := .empty
  tokenBudget : Int
  encoderComputeBudget : Int
  scheduledLoras : List Nat := []
  stepSkippedWaiting : List ReqId := []
  reqIndex : Nat := 0

inductive LoopFlow (K : Type) where
  | next (state : ScheduleState K)
  | stop (state : ScheduleState K)

def LoopFlow.state {K : Type} : LoopFlow K → ScheduleState K
  | .next state => state
  | .stop state => state

structure Admission where
  newComputedBlocks : List (List BlockId)
  numNewLocalComputedTokens : Nat
  numExternalComputedTokens : Nat
  numUncachedCommonPrefixTokens : Int
  numComputedTokens : Int
  loadKvAsync : Bool
  numNewTokens : Int := 0
  encoderInputsToSchedule : List Nat := []
  externalLoadEncoderInput : List Nat := []
  encoderComputeBudget : Int

/-- A waiting request is put aside, ends the loop, or is taken further. -/
inductive WaitingPlan where
  | skip
  | stop
  | proceed (admission : Admission)

namespace ScheduleState

variable {K : Type} (env : Collaborators K) (config : SchedulerConfig) (state : ScheduleState K)

def withKv (kv : K) : ScheduleState K := { state with self := { state.self with kv := kv } }

/-! ## The running loop -/

/-- The first test of the running loop: the steps in flight already reach
`max_tokens`, even if every draft is rejected. -/
def reachesMaxTokens (request : Request) : Bool :=
  request.numOutputPlaceholders > 0 &&
    request.numComputedTokens + 2 - request.numOutputPlaceholders ≥
      request.numPromptTokens + request.maxTokens

/-- `num_new_tokens` of a running request before the encoder is asked. -/
def runningTokens (request : Request) : Int :=
  let numNewTokens : Int :=
    request.numTokensWithSpec + request.numOutputPlaceholders - request.numComputedTokens
  let threshold : Int := config.longPrefillTokenThreshold
  let numNewTokens := if 0 < threshold ∧ threshold < numNewTokens then threshold else numNewTokens
  let numNewTokens := min numNewTokens state.tokenBudget
  min numNewTokens
    (config.maxModelLen - request.numComputedTokens - config.numSampledTokensPerStep)

def encoderPlan (request : Request) (numComputedTokens numNewTokens : Int) :
    Except PyError (EncoderPlan × K) :=
  if request.hasEncoderInputs then
    Scheduler.tryScheduleEncoderInputs env config state.self.kv request numComputedTokens
      numNewTokens state.encoderComputeBudget (if config.requiresEagleCacheDrop then 1 else 0)
  else .ok (⟨[], numNewTokens, state.encoderComputeBudget, []⟩, state.self.kv)

def planRunning (request : Request) : Except PyError (EncoderPlan × K) := do
  let (plan, kv) ← state.encoderPlan env config request request.numComputedTokens
    (state.runningTokens config request)
  if config.needMambaBlockAlignedSplit then
    .ok ({ plan with
      numNewTokens := Scheduler.mambaBlockAlignedSplit config request plan.numNewTokens }, kv)
  else .ok (plan, kv)

/-- `max(self.running, key=lambda r: (r.priority, r.arrival_time))`: the first of
the largest. -/
def lowestPriority (self : Scheduler K) : List ReqId → Option ReqId
  | [] => none
  | id :: rest =>
    match lowestPriority self rest with
    | none => some id
    | some other =>
      let key (id : ReqId) := ((self.request id).priority, (self.request id).arrivalTime)
      if (key id).1 < (key other).1 ∨ (key id).1 = (key other).1 ∧ (key id).2 < (key other).2
      then some other
      else some id

def unschedule (id : ReqId) : ScheduleState K :=
  let restored := ((state.scheduledEncoderInputs.get? id).getD []).map
    (env.getNumEncoderEmbeds (state.self.request id))
  { state with
    scheduledRunningReqs := state.scheduledRunningReqs.erase id
    tokenBudget := state.tokenBudget + (state.numScheduledTokens.get? id).getD 0
    numScheduledTokens := state.numScheduledTokens.erase id
    scheduledSpecDecodeTokens := state.scheduledSpecDecodeTokens.erase id
    scheduledEncoderInputs := state.scheduledEncoderInputs.erase id
    encoderComputeBudget := state.encoderComputeBudget + (restored.sum : Nat)
    reqIndex := state.reqIndex - 1 }

def withRunning (running : List ReqId) : ScheduleState K :=
  { state with self := { state.self with running := running } }

/-- The request to preempt, taken out of `running`. -/
def takeVictim : Except PyError (ReqId × ScheduleState K) :=
  match config.policy with
  | .priority =>
    match lowestPriority state.self state.self.running with
    | none => .error (.valueError "max() iterable argument is empty")
    | some victim =>
      let state := state.withRunning (state.self.running.erase victim)
      if victim ∈ state.scheduledRunningReqs then .ok (victim, state.unschedule env victim)
      else .ok (victim, state)
  | .fcfs =>
    match state.self.running.getLast? with
    | none => .error (.indexError "pop from empty list")
    | some victim => .ok (victim, state.withRunning state.self.running.dropLast)

/-- The inner `while` loop: allocate slots, preempting until it succeeds or the
request itself is preempted. -/
def allocateRunning : Nat → ScheduleState K → ReqId → Int → Except PyError (Bool × ScheduleState K)
  | 0, _, _, _ => .error (.runtimeError "no request left to preempt")
  | fuel + 1, state, id, numNewTokens => do
      let (allocated, kv) ← env.allocateSlots state.self.kv (state.self.request id)
        { numNewTokens, numLookaheadTokens := config.numLookaheadTokens }
      let state := state.withKv kv
      if allocated then .ok (true, state)
      else do
        let (victim, state) ← state.takeVictim env config
        let self ← state.self.preemptRequest env config victim
        let state := { state with self, preemptedReqs := state.preemptedReqs ++ [victim] }
        if victim = id then .ok (false, state)
        else allocateRunning fuel state id numNewTokens

def scheduledSpecTokens (request : Request) (numNewTokens : Int) : List TokenId :=
  request.specTokenIds.take
    (numNewTokens + request.numComputedTokens - request.numTokens -
      request.numOutputPlaceholders).toNat

def scheduleRunning (id : ReqId) (plan : EncoderPlan) : ScheduleState K :=
  let request := state.self.request id
  let specTokens := scheduledSpecTokens request plan.numNewTokens
  let kv := env.allocateEncoderInputs state.self.kv request
    (plan.encoderInputsToSchedule ++ plan.externalLoadEncoderInput)
  { state with
    self := { state.self with kv := kv }.modifyRequest id fun request =>
      { request with specTokenIds := [] }
    scheduledRunningReqs := state.scheduledRunningReqs ++ [id]
    numScheduledTokens := state.numScheduledTokens.set id plan.numNewTokens
    tokenBudget := state.tokenBudget - plan.numNewTokens
    scheduledSpecDecodeTokens :=
      if specTokens.isEmpty then state.scheduledSpecDecodeTokens
      else state.scheduledSpecDecodeTokens.set id specTokens
    scheduledEncoderInputs :=
      if plan.encoderInputsToSchedule.isEmpty then state.scheduledEncoderInputs
      else state.scheduledEncoderInputs.set id plan.encoderInputsToSchedule
    encoderComputeBudget :=
      if plan.encoderInputsToSchedule.isEmpty then state.encoderComputeBudget
      else plan.encoderComputeBudget
    reqIndex := state.reqIndex + 1 }

def runningBody (id : ReqId) : Except PyError (LoopFlow K) :=
  let request := state.self.request id
  let skipped (state : ScheduleState K) : LoopFlow K :=
    .next { state with reqIndex := state.reqIndex + 1 }
  if reachesMaxTokens request then .ok (skipped state)
  else if state.self.currentStep < request.nextDecodeEligibleStep then .ok (skipped state)
  else do
    let (plan, kv) ← state.planRunning env config request
    let state := state.withKv kv
    if plan.numNewTokens = 0 then .ok (skipped state)
    else do
      let (allocated, state) ← allocateRunning env config (state.self.running.length + 1) state id
        plan.numNewTokens
      if allocated then .ok (.next (state.scheduleRunning env id plan))
      else .ok (.stop state)

def runningLoop : Nat → ScheduleState K → Except PyError (ScheduleState K)
  | 0, _ => .error (.runtimeError "the running loop did not end")
  | fuel + 1, state =>
    if state.tokenBudget > 0 then
      match state.self.running[state.reqIndex]? with
      | none => .ok state
      | some id => do
          match ← state.runningBody env config id with
          | .next state => runningLoop fuel state
          | .stop state => .ok state
    else .ok state

/-! ## The waiting loop -/

/-- `_select_waiting_queue_for_scheduling`: whether the skipped queue is taken. -/
def selectsSkipped : Bool :=
  match config.policy, state.self.waiting, state.self.skippedWaiting with
  | .fcfs, _, skipped => !skipped.isEmpty
  | .priority, waiting :: _, skipped :: _ => !(state.self.requestLt waiting skipped)
  | .priority, waiting, _ => waiting.isEmpty

def waitingQueue (fromSkipped : Bool) : List ReqId :=
  if fromSkipped then state.self.skippedWaiting else state.self.waiting

/-- `request_queue.pop_request()`. -/
def popWaiting (fromSkipped : Bool) : Except PyError (ScheduleState K) := do
  let (_, rest) ← RequestQueue.popRequest config.policy state.self.requestLt
    (state.waitingQueue fromSkipped)
  .ok { state with
    self :=
      if fromSkipped then { state.self with skippedWaiting := rest }
      else { state.self with waiting := rest } }

/-- `step_skipped_waiting.prepend_request(request)`. -/
def prependSkipped (id : ReqId) : ScheduleState K :=
  { state with
    stepSkippedWaiting := RequestQueue.prependRequest config.policy state.self.requestLt
      state.stepSkippedWaiting id }

def skipWaiting (fromSkipped : Bool) (id : ReqId) : Except PyError (ScheduleState K) := do
  let state ← state.popWaiting config fromSkipped
  .ok (state.prependSkipped config id)

def updateWaitingForRemoteKv (self : Scheduler K) (id : ReqId) : Except PyError (Scheduler K) := do
  let request := self.request id
  let self ←
    (if id ∈ self.failedRecvingKvReqIds then do
      let kv ←
        (if request.numComputedTokens ≠ 0 then
          env.cacheBlocks self.kv request request.numComputedTokens
        else env.free self.kv request)
      .ok { self with
        kv := kv
        failedRecvingKvReqIds := self.failedRecvingKvReqIds.filter (· ≠ id) }
    else do
      let kv ← env.cacheBlocks self.kv request request.numComputedTokens
      .ok ({ self with kv := kv }.modifyRequest id fun request =>
        if request.numComputedTokens = request.numTokens then
          { request with numComputedTokens := request.numTokens - 1 }
        else request))
  .ok { self with finishedRecvingKvReqIds := self.finishedRecvingKvReqIds.filter (· ≠ id) }

def tryPromoteBlockedWaitingRequest (self : Scheduler K) (id : ReqId) :
    Except PyError (Bool × Scheduler K) :=
  let request := self.request id
  match request.status with
  | .waitingForRemoteKvs =>
    if id ∉ self.finishedRecvingKvReqIds then .ok (false, self)
    else do
      let self ← updateWaitingForRemoteKv env self id
      .ok (true, self.modifyRequest id fun request =>
        { request with
          status := if request.numPreemptions ≠ 0 then .preempted else .waiting })
  | .waitingForStructuredOutputGrammar =>
    if env.hasGrammar self.kv request then
      .ok (true, self.modifyRequest id fun request => { request with status := .waiting })
    else .ok (false, self)
  | .waitingForStreamingReq => do
      pyAssert ((request.streamingQueue.getD []).isEmpty) ""
      .ok (false, self)
  | _ => .error (.assertionError "Unexpected blocked waiting status in promotion")

def promote (id : ReqId) : Except PyError (Bool × ScheduleState K) :=
  if Scheduler.isBlockedWaitingStatus (state.self.request id).status then do
    let (promoted, self) ← tryPromoteBlockedWaitingRequest env state.self id
    .ok (promoted, { state with self })
  else .ok (true, state)

/-- Whether the request's adapter would exceed `max_loras`. -/
def exceedsMaxLoras (request : Request) : Bool :=
  match config.maxLoras, request.loraRequest with
  | some maxLoras, some lora =>
    state.scheduledLoras.length == maxLoras && !state.scheduledLoras.contains lora.loraIntId
  | _, _ => false

/-- The computed tokens of a waiting request: from the prefix cache and the
connector, or from an earlier load. -/
def lookupComputed (request : Request) : Except PyError (WaitingPlan × K) :=
  let kv := state.self.kv
  if request.numComputedTokens = 0 then do
    let (computed, kv) ← env.getComputedBlocks kv request
    let localTokens := computed.numNewLocalComputedTokens
    let (matched, loadKvAsync, kv) :=
      if config.hasConnector then env.getNumNewMatchedTokens kv request localTokens
      else (some 0, false, kv)
    match matched with
    | none => .ok (.skip, kv)
    | some external => do
        let numComputedTokens := localTokens + external
        pyAssert (numComputedTokens ≤ request.numTokens) ""
        if config.hasEcConnector && request.hasEncoderInputs &&
            !env.ensureCacheAvailable kv request numComputedTokens then .ok (.skip, kv)
        else
          .ok (.proceed {
            newComputedBlocks := computed.blocks
            numNewLocalComputedTokens := localTokens
            numExternalComputedTokens := external
            numUncachedCommonPrefixTokens :=
              if config.hasMambaLayers then computed.numUncachedCommonPrefixTokens else 0
            numComputedTokens
            loadKvAsync
            encoderComputeBudget := state.encoderComputeBudget }, kv)
  else
    .ok (.proceed {
      newComputedBlocks := []
      numNewLocalComputedTokens := 0
      numExternalComputedTokens := 0
      numUncachedCommonPrefixTokens := 0
      numComputedTokens := request.numComputedTokens
      loadKvAsync := false
      encoderComputeBudget := state.encoderComputeBudget }, kv)

def planWaiting (request : Request) (admission : Admission) : Except PyError (WaitingPlan × K) :=
  if admission.loadKvAsync then do
    pyAssert (admission.numExternalComputedTokens > 0) ""
    .ok (.proceed { admission with numNewTokens := 0 }, state.self.kv)
  else
    let numNewTokens : Int := request.numTokens - admission.numComputedTokens
    let threshold : Int := config.longPrefillTokenThreshold
    let numNewTokens :=
      if 0 < threshold ∧ threshold < numNewTokens then threshold else numNewTokens
    if !config.enableChunkedPrefill && numNewTokens > state.tokenBudget then
      .ok (.stop, state.self.kv)
    else do
      let numNewTokens := min numNewTokens state.tokenBudget
      pyAssert (numNewTokens > 0) ""
      let (plan, kv) ← state.encoderPlan env config request admission.numComputedTokens numNewTokens
      if request.hasEncoderInputs && plan.numNewTokens == 0 then .ok (.stop, kv)
      else
        let numNewTokens :=
          if config.needMambaBlockAlignedSplit then
            Scheduler.mambaBlockAlignedSplit config request plan.numNewTokens
              admission.numNewLocalComputedTokens admission.numExternalComputedTokens
              admission.numUncachedCommonPrefixTokens
          else plan.numNewTokens
        if config.needMambaBlockAlignedSplit && numNewTokens == 0 then .ok (.stop, kv)
        else
          .ok (.proceed { admission with
            numNewTokens
            encoderInputsToSchedule := plan.encoderInputsToSchedule
            externalLoadEncoderInput := plan.externalLoadEncoderInput
            encoderComputeBudget := plan.encoderComputeBudget }, kv)

/-- The arguments `allocate_slots` is called with for a waiting request. -/
def admissionArgs (request : Request) (admission : Admission) : AllocateArgs where
  numNewTokens := admission.numNewTokens
  numNewComputedTokens := admission.numNewLocalComputedTokens
  newComputedBlocks := admission.newComputedBlocks
  numLookaheadTokens :=
    if admission.loadKvAsync && config.useEagle then 0 else config.numLookaheadTokens
  numExternalComputedTokens := admission.numExternalComputedTokens
  delayCacheBlocks := admission.loadKvAsync
  numEncoderTokens :=
    if config.isEncoderDecoder && request.hasEncoderInputs then
      (admission.encoderInputsToSchedule.map (env.getNumEncoderEmbeds request)).sum
    else 0
  fullSequenceMustFit := config.schedulerReserveFullIsl
  reservedBlocks :=
    if admission.loadKvAsync then
      (state.self.inflightPrefills.map fun id =>
        env.remainingBlocks state.self.kv (state.self.request id)).sum
    else 0
  hasScheduledReqs := !state.self.running.isEmpty

def startRemoteLoad (id : ReqId) (admission : Admission) : ScheduleState K :=
  let self := state.self.modifyRequest id fun request =>
    { request with status := .waitingForRemoteKvs }
  let state := { state with self }.prependSkipped config id
  { state with
    self := { state.self.modifyRequest id fun request =>
        { request with numComputedTokens := admission.numComputedTokens } with
      inflightPrefills := state.self.inflightPrefills.insert id } }

def startRunning (id : ReqId) (admission : Admission) : Except PyError (ScheduleState K) := do
  let request := state.self.request id
  let (newReqs, resumedReqs) ←
    (match request.status with
    | .waiting => .ok (state.scheduledNewReqs ++ [id], state.scheduledResumedReqs)
    | .preempted => .ok (state.scheduledNewReqs, state.scheduledResumedReqs ++ [id])
    | _ => .error (.runtimeError "Invalid request status"))
  let stillPrefilling := admission.numComputedTokens + admission.numNewTokens < request.numTokens
  let kv := env.allocateEncoderInputs state.self.kv request
    (admission.encoderInputsToSchedule ++ admission.externalLoadEncoderInput)
  .ok { state with
    self := { state.self with
      kv := kv
      running := state.self.running ++ [id]
      inflightPrefills :=
        if stillPrefilling then state.self.inflightPrefills.insert id
        else state.self.inflightPrefills }.modifyRequest id fun request =>
      { request with status := .running, numComputedTokens := admission.numComputedTokens }
    scheduledNewReqs := newReqs
    scheduledResumedReqs := resumedReqs
    scheduledLoras :=
      match config.maxLoras, request.loraRequest with
      | some _, some lora => state.scheduledLoras.insert lora.loraIntId
      | _, _ => state.scheduledLoras
    numScheduledTokens := state.numScheduledTokens.set id admission.numNewTokens
    tokenBudget := state.tokenBudget - admission.numNewTokens
    scheduledEncoderInputs :=
      if admission.encoderInputsToSchedule.isEmpty then state.scheduledEncoderInputs
      else state.scheduledEncoderInputs.set id admission.encoderInputsToSchedule
    encoderComputeBudget :=
      if admission.encoderInputsToSchedule.isEmpty then state.encoderComputeBudget
      else admission.encoderComputeBudget }

def admitWaiting (fromSkipped : Bool) (id : ReqId) (admission : Admission) :
    Except PyError (LoopFlow K) := do
  let request := state.self.request id
  let (allocated, kv) ← env.allocateSlots state.self.kv request
    (state.admissionArgs env config request admission)
  let state := state.withKv kv
  if !allocated then
    .ok (.stop (if request.hasEncoderInputs then state.withKv (env.freeEncoder kv request)
      else state))
  else do
    let state :=
      if config.hasConnector then
        state.withKv (env.updateStateAfterAlloc kv request admission.numExternalComputedTokens)
      else state
    let state ← state.popWaiting config fromSkipped
    if admission.loadKvAsync then .ok (.next (state.startRemoteLoad config id admission))
    else do
      let state ← state.startRunning env config id admission
      .ok (.next state)

def waitingBody : Except PyError (LoopFlow K) := do
  let fromSkipped := state.selectsSkipped config
  let id ← RequestQueue.peekRequest (state.waitingQueue fromSkipped)
  let (promoted, state) ← state.promote env id
  if !promoted then do
    let state ← state.skipWaiting config fromSkipped id
    .ok (.next state)
  else if state.exceedsMaxLoras config (state.self.request id) then do
    let state ← state.skipWaiting config fromSkipped id
    .ok (.next state)
  else do
    let request := state.self.request id
    let (looked, kv) ← state.lookupComputed env config request
    let state := state.withKv kv
    match looked with
    | .skip => do
        let state ← state.skipWaiting config fromSkipped id
        .ok (.next state)
    | .stop => .ok (.stop state)
    | .proceed admission => do
        let (plan, kv) ← state.planWaiting env config request admission
        let state := state.withKv kv
        match plan with
        | .skip | .stop => .ok (.stop state)
        | .proceed admission => state.admitWaiting env config fromSkipped id admission

def waitingLoop : Nat → ScheduleState K → Except PyError (ScheduleState K)
  | 0, _ => .error (.runtimeError "the waiting loop did not end")
  | fuel + 1, state =>
    if (state.self.waiting.isEmpty && state.self.skippedWaiting.isEmpty) ||
        state.tokenBudget ≤ 0 || state.self.running.length == config.maxNumRunningReqs then
      .ok state
    else do
      match ← state.waitingBody env config with
      | .next state => waitingLoop fuel state
      | .stop state => .ok state

/-- `self.skipped_waiting.prepend_requests(step_skipped_waiting)`. -/
def requeueSkipped : ScheduleState K :=
  { state with
    self := { state.self with
      skippedWaiting := RequestQueue.prependRequests config.policy state.self.requestLt
        state.self.skippedWaiting state.stepSkippedWaiting }
    stepSkippedWaiting := [] }

def lorasOf (ids : List ReqId) : List Nat :=
  (ids.filterMap fun id => (state.self.request id).loraRequest.map (·.loraIntId)).filter
    (0 < ·) |>.dedup

def recordLoras : Except PyError (ScheduleState K) :=
  match config.maxLoras with
  | none => .ok state
  | some maxLoras => do
      let scheduledLoras := state.lorasOf state.scheduledRunningReqs
      pyAssert (scheduledLoras.length ≤ maxLoras) ""
      .ok { state with scheduledLoras }

end ScheduleState

namespace Scheduler

variable {K : Type} (env : Collaborators K) (config : SchedulerConfig) (self : Scheduler K)

def beginSchedule : ScheduleState K where
  self := { self with currentStep := self.currentStep + 1, kv := env.newStepStarts self.kv }
  tokenBudget := if self.pauseState = .pausedAll then 0 else config.maxNumScheduledTokens
  encoderComputeBudget := config.maxNumEncoderInputTokens

def scheduleLoops : Except PyError (ScheduleState K) := do
  let state := self.beginSchedule env config
  let state ← ScheduleState.runningLoop env config (2 * state.self.running.length + 1) state
  let state ← state.recordLoras config
  if state.preemptedReqs.isEmpty && state.self.pauseState = .unpaused then do
    let state ← ScheduleState.waitingLoop env config
      (state.self.waiting.length + state.self.skippedWaiting.length + 1) state
    .ok (state.requeueSkipped config)
  else .ok state

def checkScheduled (state : ScheduleState K) : Except PyError Unit := do
  let total := (state.numScheduledTokens.entries.map Prod.snd).sum
  pyAssert (total ≤ config.maxNumScheduledTokens) ""
  pyAssert (state.tokenBudget ≥ 0) ""
  pyAssert (state.self.running.length ≤ config.maxNumRunningReqs) ""
  pyAssert (state.scheduledNewReqs.length + state.scheduledResumedReqs.length +
    state.scheduledRunningReqs.length ≤ state.self.running.length) ""
  pyAssert (config.useV2ModelRunner || state.scheduledResumedReqs.all fun id =>
    id ∉ state.self.prevStepScheduledReqIds) ""

def advance (numScheduledToken : Int) (request : Request) : Request :=
  let numComputedTokens := request.numComputedTokens + numScheduledToken
  { request with
    numComputedTokens
    isPrefillChunk := numComputedTokens < request.numTokens + request.numOutputPlaceholders }

/-- The loop of `AsyncScheduler._update_after_schedule` for one request. -/
def addPlaceholders (numSpecTokens : Nat) (request : Request) : Request :=
  if request.isPrefillChunk then request
  else
    { request with
      numOutputPlaceholders :=
        request.numOutputPlaceholders + (config.numSampledTokensPerStep + numSpecTokens : Nat)
      specTokenIds := List.replicate config.numSpecTokens (-1)
      nextDecodeEligibleStep :=
        if config.useV2ModelRunner then self.currentStep + config.ppSize
        else request.nextDecodeEligibleStep }

/-- The record of a scheduled request after `_update_after_schedule`. -/
def afterSchedule (output : SchedulerOutput) (id : ReqId) (numScheduledToken : Int)
    (request : Request) : Request :=
  let request := advance numScheduledToken request
  if config.asyncScheduling then
    self.addPlaceholders config ((output.scheduledSpecDecodeTokens.get? id).getD []).length request
  else request

def updateAfterSchedule (output : SchedulerOutput) : Scheduler K :=
  let updated := output.numScheduledTokens.entries.foldl (fun updated entry =>
    updated.modifyRequest entry.1 (self.afterSchedule config output entry.1 entry.2)) self
  { updated with
    inflightPrefills := updated.inflightPrefills.filter fun id =>
      id ∉ output.numScheduledTokens.keys ∨ (updated.request id).isPrefillChunk
    finishedReqIds := [] }

def makeOutput (state : ScheduleState K) : SchedulerOutput where
  scheduledNewReqs := state.scheduledNewReqs
  scheduledResumedReqs := state.scheduledResumedReqs
  scheduledRunningReqs := state.scheduledRunningReqs
  numScheduledTokens := state.numScheduledTokens
  scheduledSpecDecodeTokens := state.scheduledSpecDecodeTokens
  scheduledEncoderInputs := state.scheduledEncoderInputs
  preemptedReqIds := state.preemptedReqs
  finishedReqIds := state.self.finishedReqIds

def schedule : Except PyError (SchedulerOutput × Scheduler K) := do
  let state ← self.scheduleLoops env config
  checkScheduled config state
  let output := makeOutput state
  let self := { state.self with prevStepScheduledReqIds := output.numScheduledTokens.keys }
  .ok (output, self.updateAfterSchedule config output)

end Scheduler

end DeepSpark
