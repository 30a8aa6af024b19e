import DeepSpark.Scheduler.System

/-!
What the parts of `update_from_output` do to one request.

Owns one specification per function: appending tokens with the stop test, the
handling of a stop, and freeing. The other requests and the queues are framed.
-/

namespace DeepSpark

open Lib Function

variable {K : Type} {env : Collaborators K} {config : SchedulerConfig}

/-! ## Appending tokens -/

theorem stopStatus_isFinished {request : Request} {maxModelLen : Nat} {status : RequestStatus}
    (stops : stopStatus request maxModelLen = some status) : status.isFinished = true := by
  unfold stopStatus at stops
  dsimp only at stops
  split_ifs at stops
  · cases stops
    rfl
  · cases stops
    rfl
  · cases stops
    rfl
  · split at stops
    · split_ifs at stops
      cases stops
      rfl
    · cases stops

/-- The stop test changes the status of a request that stops, and nothing else. -/
theorem checkStop_spec {request checked : Request} {maxModelLen : Nat} {stopped : Bool}
    (ran : checkStop request maxModelLen = .ok (stopped, checked)) :
    ∃ status, checked = { request with status := status } ∧
      (stopped = true → status.isFinished = true) ∧ (stopped = false → status = request.status) := by
  obtain ⟨_, -, ran⟩ := bind_eq_ok.mp ran
  split at ran
  next status stops =>
    cases ran
    exact ⟨status, rfl, fun _ => stopStatus_isFinished stops, nofun⟩
  next =>
    cases ran
    exact ⟨request.status, rfl, nofun, fun _ => rfl⟩

structure Appended (request updated : Request) (newTokenIds appended : List TokenId)
    (stopped : Bool) : Prop where
  record : ∃ blockHashes status, updated = { request with
    outputTokenIds := request.outputTokenIds ++ appended
    allTokenIds := request.allTokenIds ++ appended
    blockHashes := blockHashes
    status := status }
  isPrefix : appended <+: newTokenIds
  nonempty : newTokenIds ≠ [] → appended ≠ []
  continued : stopped = false → updated.status = request.status ∧ appended = newTokenIds
  finished : stopped = true → updated.status.isFinished = true

theorem appendTokens_spec {request updated : Request} {newTokenIds appended : List TokenId}
    {stopped : Bool} (ran : appendTokens config request newTokenIds = .ok (appended, stopped, updated)) :
    Appended request updated newTokenIds appended stopped := by
  induction newTokenIds generalizing request appended with
  | nil =>
    cases ran
    refine ⟨⟨updated.blockHashes, updated.status, ?_⟩, List.nil_prefix, fun nonempty => nonempty,
      fun _ => ⟨rfl, rfl⟩, nofun⟩
    rw [List.append_nil, List.append_nil]
  | cons tokenId rest ih =>
    obtain ⟨grown, append, ran⟩ := bind_eq_ok.mp ran
    obtain ⟨⟨stoppedHere, checked⟩, check, ran⟩ := bind_eq_ok.mp ran
    obtain ⟨grownHashes, rfl⟩ := Request.updateBlockHashes_frame append
    obtain ⟨status, rfl, whenStopped, whenNot⟩ := checkStop_spec check
    cases stoppedHere with
    | true =>
      cases ran
      exact ⟨⟨grownHashes, status, rfl⟩, ⟨rest, rfl⟩, fun _ => List.cons_ne_nil _ _, nofun,
        fun _ => whenStopped rfl⟩
    | false =>
      obtain ⟨⟨appendedRest, stoppedRest, updatedRest⟩, ranRest, ran⟩ := bind_eq_ok.mp ran
      cases ran
      have spec := ih ranRest
      obtain ⟨blockHashes, finalStatus, isUpdated⟩ := spec.record
      refine ⟨⟨blockHashes, finalStatus, ?_⟩, ?_, fun _ => List.cons_ne_nil _ _, ?_,
        spec.finished⟩
      · rw [isUpdated]
        simp only [List.append_assoc, List.singleton_append]
      · exact List.cons_prefix_cons.mpr ⟨rfl, spec.isPrefix⟩
      · intro isFalse
        obtain ⟨sameStatus, all⟩ := spec.continued isFalse
        exact ⟨sameStatus.trans (whenNot rfl), by rw [all]⟩

namespace Scheduler

variable {self next : Scheduler K} {id : ReqId}

/-- An operation on one request that leaves the queues and `requests` alone. -/
structure SameQueues (scheduler next : Scheduler K) (id : ReqId) : Prop where
  requests : next.requests = scheduler.requests
  running : next.running = scheduler.running
  waiting : next.waiting = scheduler.waiting
  skippedWaiting : next.skippedWaiting = scheduler.skippedWaiting
  others : ∀ other, other ≠ id → next.request other = scheduler.request other

theorem SameQueues.refl (self : Scheduler K) (id : ReqId) : SameQueues self self id :=
  ⟨rfl, rfl, rfl, rfl, fun _ _ => rfl⟩

theorem SameQueues.trans {mid : Scheduler K} (first : SameQueues self mid id)
    (second : SameQueues mid next id) : SameQueues self next id :=
  ⟨second.requests.trans first.requests, second.running.trans first.running,
    second.waiting.trans first.waiting, second.skippedWaiting.trans first.skippedWaiting,
    fun other differ => (second.others other differ).trans (first.others other differ)⟩

theorem modifyRequest_sameQueues (self : Scheduler K) (id : ReqId) (change : Request → Request) :
    SameQueues self (self.modifyRequest id change) id :=
  ⟨rfl, rfl, rfl, rfl, fun _ differ => modifyRequest_of_ne _ _ differ⟩

variable {stopped : Bool}

theorem updateRequestWithOutput_spec {newTokenIds appended : List TokenId}
    (ran : self.updateRequestWithOutput env config id newTokenIds = .ok (appended, stopped, next)) :
    SameQueues self next id ∧
    ((config.asyncScheduling = true ∧ 0 < (self.request id).asyncTokensToDiscard ∧ appended = [] ∧
        stopped = false ∧ next.kv = self.kv ∧ next.request id = { self.request id with
          asyncTokensToDiscard := (self.request id).asyncTokensToDiscard - 1 }) ∨
      (∃ updated, Appended (self.request id) updated newTokenIds appended stopped ∧
        (config.asyncScheduling = true → (self.request id).asyncTokensToDiscard ≤ 0 ∧
          next.request id = { updated with
            numOutputPlaceholders := updated.numOutputPlaceholders - appended.length } ∧
          0 ≤ updated.numOutputPlaceholders - appended.length) ∧
        (config.asyncScheduling = false → next.request id = updated ∧ next.kv = self.kv))) := by
  unfold updateRequestWithOutput at ran
  dsimp only at ran
  split at ran
  next isAsync =>
    split at ran
    next discards =>
      cases ran
      exact ⟨modifyRequest_sameQueues .., .inl ⟨isAsync, discards, rfl, rfl, rfl,
        modifyRequest_self ..⟩⟩
    next keeps =>
      obtain ⟨⟨appendedTokens, stoppedHere, updated⟩, append, ran⟩ := bind_eq_ok.mp ran
      obtain ⟨_, checked, ran⟩ := bind_eq_ok.mp ran
      have nonnegative : 0 ≤ updated.numOutputPlaceholders - appendedTokens.length := by
        simpa using pyAssert_eq_ok.mp checked
      have spec := appendTokens_spec append
      have notSync : config.asyncScheduling = false → False := by
        rw [isAsync]
        exact nofun
      split at ran
      next =>
        obtain ⟨kv, -, ran⟩ := bind_eq_ok.mp ran
        cases ran
        refine ⟨⟨rfl, rfl, rfl, rfl, fun _ differ => update_of_ne differ ..⟩,
          .inr ⟨updated, spec, fun _ => ⟨by omega, ?_, nonnegative⟩,
            fun isSync => (notSync isSync).elim⟩⟩
        exact update_self ..
      next =>
        cases ran
        exact ⟨modifyRequest_sameQueues .., .inr ⟨updated, spec, fun _ =>
          ⟨by omega, modifyRequest_self .., nonnegative⟩, fun isSync => (notSync isSync).elim⟩⟩
  next isSync =>
    obtain ⟨⟨appendedTokens, stoppedHere, updated⟩, append, ran⟩ := bind_eq_ok.mp ran
    cases ran
    exact ⟨modifyRequest_sameQueues .., .inr ⟨updated, appendTokens_spec append,
      fun isAsync => absurd isAsync isSync, fun _ => ⟨modifyRequest_self .., rfl⟩⟩⟩

/-- What the output of one request leads to, and whether it stops the request. -/
inductive Applied (env : Collaborators K) (config : SchedulerConfig) (output : ModelRunnerOutput)
    (id : ReqId) (self next : Scheduler K) : Bool → Prop where
  | silent (empty : output.sampledTokenIds id = [])
      (unpooled : ((self.request id).isPooling && output.hasPoolerOutput id) = false)
      (same : next = self) : Applied env config output id self next false
  | pooled (empty : output.sampledTokenIds id = []) (isPooling : (self.request id).isPooling = true)
      (isNext : next = self.modifyRequest id fun request =>
        { request with status := .finishedStopped }) :
      Applied env config output id self next true
  | sampled {appended : List TokenId} {stopped : Bool} {mid : Scheduler K} (kv : K)
      (nonempty : output.sampledTokenIds id ≠ [])
      (ran : self.updateRequestWithOutput env config id (output.sampledTokenIds id) =
        .ok (appended, stopped, mid))
      (isNext : next = { mid with kv := kv }) : Applied env config output id self next stopped
  | rejected {appended : List TokenId} {stopped : Bool} {mid : Scheduler K} (kv : K)
      (nonempty : output.sampledTokenIds id ≠ [])
      (ran : self.updateRequestWithOutput env config id (output.sampledTokenIds id) =
        .ok (appended, stopped, mid))
      (isAppended : appended ≠ [])
      (isNext : next = { mid with kv := kv }.modifyRequest id fun request =>
        { request with status := .finishedError, resumable := false }) :
      Applied env config output id self next true

theorem applyOutput_applied {output : ModelRunnerOutput}
    (ran : self.applyOutput env config output id = .ok (stopped, next)) :
    Applied env config output id self next stopped := by
  obtain ⟨⟨appended, early, mid⟩, first, ran⟩ := bind_eq_ok.mp ran
  dsimp only at ran
  split at first
  next isSampled =>
    have nonempty : output.sampledTokenIds id ≠ [] := by
      simpa using isSampled
    split at ran
    next =>
      cases ran
      exact .sampled _ nonempty first rfl
    next isAppended =>
      obtain ⟨⟨accepted, kv⟩, -, ran⟩ := bind_eq_ok.mp ran
      split at ran
      next =>
        cases ran
        exact .sampled kv nonempty first rfl
      next =>
        cases ran
        exact .rejected kv nonempty first (by simpa using isAppended) rfl
  next isSilent =>
    have empty : output.sampledTokenIds id = [] := by
      simpa using isSilent
    split at first
    next isPooled =>
      cases first
      cases ran
      exact .pooled empty (by simpa using (Bool.and_eq_true_iff.mp isPooled).1) rfl
    next isUnpooled =>
      cases first
      cases ran
      exact .silent empty (by simpa using isUnpooled) rfl

theorem Applied.sameQueues {output : ModelRunnerOutput}
    (applied : Applied env config output id self next stopped) : SameQueues self next id := by
  cases applied with
  | silent _ _ same =>
    rw [same]
    exact SameQueues.refl self id
  | pooled _ _ isNext =>
    rw [isNext]
    exact modifyRequest_sameQueues ..
  | sampled kv _ ran isNext =>
    have same := (updateRequestWithOutput_spec ran).1
    rw [isNext]
    exact ⟨same.requests, same.running, same.waiting, same.skippedWaiting, same.others⟩
  | rejected kv _ ran _ isNext =>
    have same := (updateRequestWithOutput_spec ran).1
    rw [isNext]
    exact ⟨same.requests, same.running, same.waiting, same.skippedWaiting, fun other differ =>
      (modifyRequest_of_ne _ _ differ).trans (same.others other differ)⟩

theorem Applied.status {output : ModelRunnerOutput}
    (applied : Applied env config output id self next stopped) :
    (stopped = true → (next.request id).status.isFinished = true) ∧
      (stopped = false → (next.request id).status = (self.request id).status) := by
  cases applied with
  | silent _ _ same =>
    rw [same]
    exact ⟨nofun, fun _ => rfl⟩
  | pooled _ _ isNext =>
    rw [isNext, modifyRequest_self]
    exact ⟨fun _ => rfl, nofun⟩
  | @sampled appended _ mid kv _ ran isNext =>
    rw [isNext]
    show (stopped = true → (mid.request id).status.isFinished = true) ∧
      (stopped = false → (mid.request id).status = (self.request id).status)
    rcases (updateRequestWithOutput_spec ran).2 with
      ⟨_, _, _, isFalse, _, record⟩ | ⟨updated, spec, whenAsync, whenSync⟩
    · rw [record, isFalse]
      exact ⟨nofun, fun _ => rfl⟩
    · have sameStatus : (mid.request id).status = updated.status := by
        cases isAsync : config.asyncScheduling with
        | true => rw [(whenAsync isAsync).2.1]
        | false => rw [(whenSync isAsync).1]
      rw [sameStatus]
      exact ⟨spec.finished, fun isFalse => (spec.continued isFalse).1⟩
  | rejected kv _ ran _ isNext =>
    rw [isNext, modifyRequest_self]
    exact ⟨fun _ => rfl, nofun⟩

/-! ## Stopping -/

def continuesWithUpdate (request : Request) : Bool :=
  match request.resumable, request.streamingQueue with
  | true, some (some _ :: _) => true
  | _, _ => false

/-- What `_handle_stopped_request` does. -/
inductive Handled (config : SchedulerConfig) (id : ReqId) (self next : Scheduler K) : Bool → Prop where
  | finished (same : SameQueues self next id) (noUpdate : continuesWithUpdate (self.request id) = false)
      (status : (next.request id).status = (self.request id).status) (kv : next.kv = self.kv) :
      Handled config id self next true
  | resumed (requests : next.requests = self.requests) (running : next.running = self.running)
      (waiting : next.waiting.Perm (id :: self.waiting))
      (skippedWaiting : next.skippedWaiting = self.skippedWaiting)
      (others : ∀ other, other ≠ id → next.request other = self.request other)
      (hasUpdate : continuesWithUpdate (self.request id) = true)
      (status : (next.request id).status = .waiting) (kv : next.kv = self.kv) :
      Handled config id self next false
  | waits (requests : next.requests = self.requests) (running : next.running = self.running)
      (waiting : next.waiting = self.waiting)
      (skippedWaiting : next.skippedWaiting.Perm (id :: self.skippedWaiting))
      (others : ∀ other, other ≠ id → next.request other = self.request other)
      (noUpdate : continuesWithUpdate (self.request id) = false)
      (status : (next.request id).status = .waitingForStreamingReq) (kv : next.kv = self.kv) :
      Handled config id self next false

theorem updateSession_spec {update : StreamingUpdate}
    (ran : self.updateSession config id update = .ok next) :
    SameQueues self next id ∧ (next.request id).status = .waiting ∧ next.kv = self.kv := by
  obtain ⟨updated, session, ran⟩ := bind_eq_ok.mp ran
  cases ran
  obtain ⟨hashed, -, isUpdated⟩ := bind_eq_ok.mp session
  cases isUpdated
  refine ⟨⟨rfl, rfl, rfl, rfl, fun _ differ => update_of_ne differ ..⟩, ?_, rfl⟩
  show (Function.update self.request id _ id).status = _
  rw [update_self]

theorem handleStoppedRequest_handled {finished : Bool}
    (ran : self.handleStoppedRequest config id = .ok (finished, next)) :
    Handled config id self next finished := by
  unfold handleStoppedRequest at ran
  dsimp only at ran
  split at ran
  next notResumable =>
    cases ran
    have isFalse : (self.request id).resumable = false := by simpa using notResumable
    exact .finished (SameQueues.refl _ _) (by rw [continuesWithUpdate, isFalse]) rfl rfl
  next isResumable =>
    split at ran
    next rest isQueue =>
      cases ran
      refine .finished (modifyRequest_sameQueues ..) ?_ ?_ rfl
      · rw [continuesWithUpdate, isQueue]
        cases (self.request id).resumable <;> rfl
      · rw [modifyRequest_self]
    next update rest isQueue =>
      obtain ⟨updated, session, ran⟩ := bind_eq_ok.mp ran
      cases ran
      obtain ⟨same, status, kv⟩ := updateSession_spec session
      have first := modifyRequest_sameQueues self id fun request =>
        { request with streamingQueue := some rest }
      have both := first.trans same
      have isWaiting : updated.enqueueWaitingRequest config id = updated.addWaiting config id := by
        rw [enqueueWaitingRequest, status]
        rfl
      rw [isWaiting]
      refine .resumed both.requests both.running ?_ both.skippedWaiting both.others ?_ status kv
      · rw [← both.waiting]
        exact RequestQueue.addRequest_perm ..
      · have resumable : (self.request id).resumable = true := by simpa using isResumable
        rw [continuesWithUpdate, isQueue, resumable]
    next notSentinel notUpdate =>
      cases ran
      have noUpdate : continuesWithUpdate (self.request id) = false := by
        unfold continuesWithUpdate
        split
        next update rest _ isQueue => exact absurd isQueue (notUpdate update rest)
        next => rfl
      have isBlocked : ∀ scheduler : Scheduler K,
          (scheduler.request id).status = .waitingForStreamingReq →
          scheduler.enqueueWaitingRequest config id = scheduler.addSkippedWaiting config id := by
        intro scheduler status
        rw [enqueueWaitingRequest, status]
        rfl
      have status : ((self.modifyRequest id fun request =>
          { request with status := .waitingForStreamingReq }).request id).status =
            .waitingForStreamingReq := by
        rw [modifyRequest_self]
      rw [isBlocked]
      · refine .waits rfl rfl rfl (RequestQueue.addRequest_perm ..) ?_ noUpdate status rfl
        exact fun other differ => update_of_ne differ ..
      · exact status

/-- Freeing a finished request removes it from `requests`, now or when the
connector is done. -/
theorem freeRequest_spec {delay : Bool} (ran : self.freeRequest env config id delay = .ok next) :
    (next.requests = self.requests ∨ next.requests = self.requests.erase id) ∧
      next.request = self.request ∧ next.running = self.running ∧ next.waiting = self.waiting ∧
      next.skippedWaiting = self.skippedWaiting ∧ (self.request id).isFinished = true := by
  obtain ⟨_, checked, ran⟩ := bind_eq_ok.mp ran
  obtain ⟨⟨connectorDelay, kv⟩, -, ran⟩ := bind_eq_ok.mp ran
  have finished := pyAssert_eq_ok.mp checked
  dsimp only at ran
  split at ran
  next =>
    cases ran
    exact ⟨.inl rfl, rfl, rfl, rfl, rfl, finished⟩
  next =>
    obtain ⟨_, -, ran⟩ := bind_eq_ok.mp ran
    obtain ⟨freed, -, ran⟩ := bind_eq_ok.mp ran
    cases ran
    exact ⟨.inr rfl, rfl, rfl, rfl, rfl, finished⟩

/-! ## One entry of a step -/

theorem beforeOutput_sameQueues (self : Scheduler K) (scheduled : SchedulerOutput)
    (output : ModelRunnerOutput) (id : ReqId) :
    SameQueues self (self.beforeOutput env config scheduled output id) id := by
  unfold beforeOutput
  dsimp only
  split
  · exact ⟨rfl, rfl, rfl, rfl, fun _ differ => update_of_ne differ ..⟩
  · exact modifyRequest_sameQueues ..

theorem beforeOutput_request (self : Scheduler K) (scheduled : SchedulerOutput)
    (output : ModelRunnerOutput) (id : ReqId) :
    (self.beforeOutput env config scheduled output id).request id =
      rejectDrafts config ((scheduled.scheduledSpecDecodeTokens.get? id).getD [])
        (output.sampledTokenIds id) (self.request id) := by
  unfold beforeOutput
  dsimp only
  split
  · exact update_self ..
  · exact modifyRequest_self ..

theorem rejectDrafts_frame (scheduledSpecTokenIds generatedTokenIds : List TokenId)
    (request : Request) : ∃ numComputedTokens numOutputPlaceholders,
    rejectDrafts config scheduledSpecTokenIds generatedTokenIds request =
      { request with
        numComputedTokens := numComputedTokens
        numOutputPlaceholders := numOutputPlaceholders } := by
  unfold rejectDrafts
  split
  · exact ⟨_, _, rfl⟩
  · exact ⟨_, _, rfl⟩

namespace UpdateState

variable {scheduled : SchedulerOutput} {output : ModelRunnerOutput} {state next : UpdateState K}

/-- What one entry of a step leads to: nothing for a request that is gone, its
tokens, or a stop. -/
inductive Entered (env : Collaborators K) (config : SchedulerConfig) (scheduled : SchedulerOutput)
    (output : ModelRunnerOutput) (state : UpdateState K) (id : ReqId) : UpdateState K → Prop where
  | gone (notLive : ∀ request, state.self.getRequest id = some request → request.isFinished = true) :
      Entered env config scheduled output state id state
  | continued {self : Scheduler K} (isMember : id ∈ state.self.requests)
      (unfinished : (state.self.request id).isFinished = false)
      (applied : (state.self.beforeOutput env config scheduled output id).applyOutput env config
        output id = .ok (false, self)) :
      Entered env config scheduled output state id { state with self }
  | stopped {self handled final : Scheduler K} {finished : Bool}
      (isMember : id ∈ state.self.requests)
      (unfinished : (state.self.request id).isFinished = false)
      (applied : (state.self.beforeOutput env config scheduled output id).applyOutput env config
        output id = .ok (true, self))
      (handle : self.handleStoppedRequest config id = .ok (finished, handled))
      (freed : (if finished then handled.freeRequest env config id else .ok handled) = .ok final) :
      Entered env config scheduled output state id
        (if (state.self.request id).status = .running then
          { state with self := final, stoppedRunningReqs := state.stoppedRunningReqs ++ [id] }
        else
          { state with self := final, stoppedPreemptedReqs := state.stoppedPreemptedReqs ++ [id] })

theorem updateRequest_entered {entry : ReqId × Int}
    (ran : updateRequest env config scheduled output state entry = .ok next) :
    0 < entry.2 ∧ Entered env config scheduled output state entry.1 next := by
  obtain ⟨_, checked, ran⟩ := bind_eq_ok.mp ran
  refine ⟨by simpa using pyAssert_eq_ok.mp checked, ?_⟩
  have known : ∀ request, state.self.getRequest entry.1 = some request →
      entry.1 ∈ state.self.requests ∧ request = state.self.request entry.1 := by
    intro request read
    unfold getRequest at read
    split at read
    next isMember =>
      cases read
      exact ⟨isMember, rfl⟩
    next => cases read
  split at ran
  next isNone =>
    cases ran
    exact .gone fun request read => by rw [isNone] at read; cases read
  next request read =>
    obtain ⟨isMember, rfl⟩ := known request read
    split at ran
    next isFinished =>
      cases ran
      exact .gone fun request read => by rw [(known request read).2]; exact isFinished
    next notFinished =>
      have unfinished : (state.self.request entry.1).isFinished = false := by
        simpa using notFinished
      obtain ⟨⟨stopped, self⟩, applied, ran⟩ := bind_eq_ok.mp ran
      cases stopped with
      | false =>
        cases ran
        exact .continued isMember unfinished applied
      | true =>
        obtain ⟨⟨finished, handled⟩, handle, ran⟩ := bind_eq_ok.mp ran
        obtain ⟨final, freed, ran⟩ := bind_eq_ok.mp ran
        have entered : Entered env config scheduled output state entry.1 _ :=
          .stopped isMember unfinished applied handle freed
        split at ran
        next isRunning =>
          cases ran
          rw [if_pos isRunning] at entered
          exact entered
        next notRunning =>
          cases ran
          rw [if_neg notRunning] at entered
          exact entered

end UpdateState

end Scheduler

end DeepSpark
