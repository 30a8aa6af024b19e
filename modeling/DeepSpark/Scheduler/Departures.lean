import DeepSpark.Scheduler.Outputs

/-!
Who leaves `running`, and who is told of it.

Owns what each operation of the scheduler keeps of `running` and of `finished_req_ids`:
outside `schedule` a request leaves `running` by finishing, which is reported with the
next step, by stopping as a session that goes on, or by a forced reset. In `schedule` it
leaves by a preemption, which the step itself reports.
-/

namespace DeepSpark

open Lib Function

variable {K : Type} {env : Collaborators K} {config : SchedulerConfig} {fuel : Nat}

namespace Scheduler

variable {self next : Scheduler K} {id : ReqId}

/-! ## Operations that leave `running` as it is -/

/-- Nobody leaves or enters `running`, no report is lost, and no request becomes resumable. -/
structure Steady (scheduler next : Scheduler K) : Prop where
  running : next.running = scheduler.running
  finished : ∀ id ∈ scheduler.finishedReqIds, id ∈ next.finishedReqIds
  resumable : ∀ id, (next.request id).resumable = true → (scheduler.request id).resumable = true

theorem Steady.refl (self : Scheduler K) : Steady self self :=
  ⟨rfl, fun _ => id, fun _ => id⟩

theorem Steady.trans {mid : Scheduler K} (first : Steady self mid) (second : Steady mid next) :
    Steady self next :=
  ⟨second.running.trans first.running, fun id told => second.finished id (first.finished id told),
    fun id resumable => first.resumable id (second.resumable id resumable)⟩

theorem modifyRequest_steady (self : Scheduler K) (id : ReqId) {change : Request → Request}
    (keeps : (change (self.request id)).resumable = true → (self.request id).resumable = true) :
    Steady self (self.modifyRequest id change) := by
  refine ⟨rfl, fun _ told => told, ?_⟩
  intro other
  by_cases same : other = id
  · rw [same, modifyRequest_self]
    exact keeps
  · rw [modifyRequest_of_ne _ _ same]
    exact fun resumable => resumable

theorem enqueueWaitingRequest_steady (config : SchedulerConfig) (self : Scheduler K) (id : ReqId) :
    Steady self (self.enqueueWaitingRequest config id) := by
  unfold enqueueWaitingRequest
  split
  · exact ⟨rfl, fun _ told => told, fun _ resumable => resumable⟩
  · exact ⟨rfl, fun _ told => told, fun _ resumable => resumable⟩

theorem freeBlocks_steady (ran : self.freeBlocks env id = .ok next) : Steady self next := by
  obtain ⟨_, -, ran⟩ := bind_eq_ok.mp ran
  obtain ⟨kv, -, ran⟩ := bind_eq_ok.mp ran
  cases ran
  exact ⟨rfl, fun _ told => told, fun _ resumable => resumable⟩

theorem freeRequest_steady {delay : Bool} (ran : self.freeRequest env config id delay = .ok next) :
    Steady self next ∧ id ∈ next.finishedReqIds := by
  obtain ⟨_, -, ran⟩ := bind_eq_ok.mp ran
  obtain ⟨⟨connectorDelay, kv⟩, -, ran⟩ := bind_eq_ok.mp ran
  have marked : Steady self { self with
      kv := env.freeEncoder kv (self.request id)
      inflightPrefills := self.inflightPrefills.filter (· ≠ id)
      finishedReqIds := self.finishedReqIds.insert id } :=
    ⟨rfl, fun _ told => List.mem_insert_of_mem told, fun _ resumable => resumable⟩
  have reported : id ∈ self.finishedReqIds.insert id := List.mem_insert_self
  dsimp only at ran
  split at ran
  next =>
    cases ran
    exact ⟨marked, reported⟩
  next =>
    have freed := freeBlocks_steady ran
    exact ⟨marked.trans freed, freed.finished id reported⟩

theorem updateSession_steady {update : StreamingUpdate} (ran : self.updateSession config id update = .ok next) :
    Steady self next := by
  obtain ⟨updated, session, ran⟩ := bind_eq_ok.mp ran
  cases ran
  obtain ⟨hashed, hashing, isUpdated⟩ := bind_eq_ok.mp session
  cases isUpdated
  obtain ⟨blockHashes, rfl⟩ := Request.updateBlockHashes_frame hashing
  refine ⟨rfl, fun _ told => told, ?_⟩
  intro other
  by_cases same : other = id
  · rw [same]
    show (Function.update self.request id _ id).resumable = true → _
    rw [update_self]
    exact fun resumable => resumable
  · show (Function.update self.request id _ other).resumable = true → _
    rw [update_of_ne same]
    exact fun resumable => resumable

theorem handleStoppedRequest_steady {finished : Bool}
    (ran : self.handleStoppedRequest config id = .ok (finished, next)) :
    Steady self next ∧ (finished = false → (self.request id).resumable = true) := by
  unfold handleStoppedRequest at ran
  dsimp only at ran
  split at ran
  next =>
    cases ran
    exact ⟨Steady.refl self, nofun⟩
  next isResumable =>
    have resumable : (self.request id).resumable = true := by simpa using isResumable
    refine ⟨?_, fun _ => resumable⟩
    split at ran
    next =>
      cases ran
      exact modifyRequest_steady self id fun resumable => resumable
    next update rest _ =>
      obtain ⟨updated, session, ran⟩ := bind_eq_ok.mp ran
      cases ran
      exact ((modifyRequest_steady self id fun resumable => resumable).trans
        (updateSession_steady session)).trans (enqueueWaitingRequest_steady config updated id)
    next =>
      cases ran
      have waits : Steady self (self.modifyRequest id fun request =>
          { request with status := .waitingForStreamingReq }) :=
        modifyRequest_steady self id fun resumable => resumable
      have enqueued := enqueueWaitingRequest_steady config { (self.modifyRequest id fun request =>
          { request with status := .waitingForStreamingReq }) with
        numWaitingForStreamingInput := self.numWaitingForStreamingInput + 1 } id
      exact ⟨enqueued.running, enqueued.finished, fun other resumes =>
        waits.resumable other (enqueued.resumable other resumes)⟩

theorem updateRequestWithOutput_steady {newTokenIds appended : List TokenId} {stopped : Bool}
    (ran : self.updateRequestWithOutput env config id newTokenIds = .ok (appended, stopped, next)) :
    Steady self next := by
  have keeps : ∀ {updated : Request} {tokens : List TokenId} {stops : Bool},
      appendTokens config (self.request id) newTokenIds = .ok (tokens, stops, updated) →
      updated.resumable = (self.request id).resumable := by
    intro updated tokens stops append
    obtain ⟨_, _, isUpdated⟩ := (appendTokens_spec append).record
    rw [isUpdated]
  unfold updateRequestWithOutput at ran
  dsimp only at ran
  split at ran
  next =>
    split at ran
    next =>
      cases ran
      exact modifyRequest_steady self id fun resumable => resumable
    next =>
      obtain ⟨⟨appendedTokens, stoppedHere, updated⟩, append, ran⟩ := bind_eq_ok.mp ran
      obtain ⟨_, -, ran⟩ := bind_eq_ok.mp ran
      have modified : Steady self (self.modifyRequest id fun _ => { updated with
          numOutputPlaceholders := updated.numOutputPlaceholders - appendedTokens.length }) :=
        modifyRequest_steady self id fun resumable => keeps append ▸ resumable
      split at ran
      next =>
        obtain ⟨kv, -, ran⟩ := bind_eq_ok.mp ran
        cases ran
        exact modified.trans ⟨rfl, fun _ told => told, fun _ resumable => resumable⟩
      next =>
        cases ran
        exact modified
  next =>
    obtain ⟨⟨appendedTokens, stoppedHere, updated⟩, append, ran⟩ := bind_eq_ok.mp ran
    cases ran
    exact modifyRequest_steady self id fun resumable => keeps append ▸ resumable

variable {output : ModelRunnerOutput}

theorem applyOutput_steady {stopped : Bool}
    (ran : self.applyOutput env config output id = .ok (stopped, next)) : Steady self next := by
  cases applyOutput_applied ran with
  | silent _ _ same => exact same ▸ Steady.refl self
  | pooled _ _ isNext => exact isNext ▸ modifyRequest_steady self id fun resumable => resumable
  | sampled kv _ updated isNext =>
    rw [isNext]
    exact (updateRequestWithOutput_steady updated).trans
      ⟨rfl, fun _ told => told, fun _ resumable => resumable⟩
  | rejected kv _ updated _ isNext =>
    rw [isNext]
    refine ((updateRequestWithOutput_steady updated).trans ?_).trans
      (modifyRequest_steady _ id fun isTrue => absurd isTrue Bool.false_ne_true)
    exact ⟨rfl, fun _ told => told, fun _ resumable => resumable⟩

theorem beforeOutput_steady (self : Scheduler K) (scheduled : SchedulerOutput) (output : ModelRunnerOutput)
    (id : ReqId) : Steady self (self.beforeOutput env config scheduled output id) := by
  have modified : Steady self (self.modifyRequest id (rejectDrafts config
      ((scheduled.scheduledSpecDecodeTokens.get? id).getD []) (output.sampledTokenIds id))) := by
    apply modifyRequest_steady
    obtain ⟨_, _, isRejected⟩ := @rejectDrafts_frame config
      ((scheduled.scheduledSpecDecodeTokens.get? id).getD []) (output.sampledTokenIds id) (self.request id)
    rw [isRejected]
    exact fun resumable => resumable
  unfold beforeOutput
  dsimp only
  split
  · exact modified.trans ⟨rfl, fun _ told => told, fun _ resumable => resumable⟩
  · exact modified

/-! ## Operations that take requests out of `running` -/

/-- A request that leaves `running` is reported or parked, and no report is lost. -/
structure Departs (parks : ReqId → Prop) (scheduler next : Scheduler K) : Prop where
  running : ∀ id ∈ scheduler.running, id ∈ next.running ∨ id ∈ next.finishedReqIds ∨ parks id
  finished : ∀ id ∈ scheduler.finishedReqIds, id ∈ next.finishedReqIds

theorem Steady.departs {parks : ReqId → Prop} (steady : Steady self next) : Departs parks self next :=
  ⟨fun _ isRunning => Or.inl (steady.running ▸ isRunning), steady.finished⟩

theorem removeAll_kept {ids items : List ReqId} (isMember : id ∈ ids) (other : id ∉ items) :
    id ∈ removeAll ids items := by
  unfold removeAll
  split
  next => exact isMember
  next item =>
    rw [List.mem_singleton] at other
    exact (List.mem_erase_of_ne other).mpr isMember
  next => exact List.mem_filter.mpr ⟨isMember, decide_eq_true other⟩

/-- What the loop of `update_from_output` keeps: a stopped running request is a session or
is reported. -/
structure Stops (start : Scheduler K) (state : UpdateState K) : Prop where
  steady : Steady start state.self
  stopped : ∀ id ∈ state.stoppedRunningReqs,
    id ∈ state.self.finishedReqIds ∨ (start.request id).resumable = true

theorem Stops.entered {start : Scheduler K} {scheduled : SchedulerOutput}
    {state after : UpdateState K} (stops : Stops start state)
    (entered : UpdateState.Entered env config scheduled output state id after) : Stops start after := by
  have before := @beforeOutput_steady _ env config state.self scheduled output id
  cases entered with
  | gone => exact stops
  | continued _ _ ran =>
    have steady := before.trans (applyOutput_steady ran)
    refine ⟨stops.steady.trans steady, ?_⟩
    intro other isStopped
    exact (stops.stopped other isStopped).imp_left (steady.finished other)
  | @stopped self handled final finished _ _ ran handle freed =>
    have applied := before.trans (applyOutput_steady ran)
    obtain ⟨handledSteady, whenGoesOn⟩ := handleStoppedRequest_steady handle
    have finalSteady : Steady state.self final ∧
        (id ∈ final.finishedReqIds ∨ (start.request id).resumable = true) := by
      split at freed
      next =>
        obtain ⟨freedSteady, reported⟩ := freeRequest_steady freed
        exact ⟨(applied.trans handledSteady).trans freedSteady, Or.inl reported⟩
      next goesOn =>
        cases freed
        have resumable := whenGoesOn (by simpa using goesOn)
        exact ⟨applied.trans handledSteady,
          Or.inr (stops.steady.resumable id (applied.resumable id resumable))⟩
    obtain ⟨steady, isStopped⟩ := finalSteady
    have kept : ∀ other ∈ state.stoppedRunningReqs,
        other ∈ final.finishedReqIds ∨ (start.request other).resumable = true :=
      fun other wasStopped => (stops.stopped other wasStopped).imp_left (steady.finished other)
    split
    · refine ⟨stops.steady.trans steady, ?_⟩
      intro other member
      rcases List.mem_append.mp member with wasStopped | isId
      · exact kept other wasStopped
      · rw [List.mem_singleton.mp isId]
        exact isStopped
    · exact ⟨stops.steady.trans steady, kept⟩

theorem finishRecving_steady (ran : self.finishRecving env id = .ok next) : Steady self next := by
  obtain ⟨_, -, ran⟩ := bind_eq_ok.mp ran
  split at ran
  next =>
    cases ran
    exact ⟨rfl, fun _ told => told, fun _ resumable => resumable⟩
  next => exact freeBlocks_steady ran

theorem finishSending_steady (ran : self.finishSending env id = .ok next) : Steady self next := by
  obtain ⟨_, -, ran⟩ := bind_eq_ok.mp ran
  exact freeBlocks_steady ran

theorem foldlM_steady {α : Type} {body : Scheduler K → α → Except PyError (Scheduler K)}
    (steady : ∀ before item after, body before item = .ok after → Steady before after) {items : List α}
    (ran : items.foldlM body self = .ok next) : Steady self next :=
  foldlM_preserves (P := Steady self) (fun before item after soFar ran => soFar.trans (steady before item after ran))
    (Steady.refl self) ran

theorem foldl_steady {α : Type} {body : Scheduler K → α → Scheduler K}
    (steady : ∀ before item, Steady before (body before item)) (items : List α) (self : Scheduler K) :
    Steady self (items.foldl body self) :=
  foldl_preserves (P := Steady self) (fun before item soFar => soFar.trans (steady before item)) (Steady.refl self)

theorem plantDraftPlaceholders_steady (self : Scheduler K) (entry : ReqId × Int) :
    Steady self (self.plantDraftPlaceholders config entry) := by
  unfold plantDraftPlaceholders
  split
  next => exact Steady.refl self
  next =>
    split
    next => exact Steady.refl self
    next => exact modifyRequest_steady self entry.1 fun resumable => resumable

theorem updateDraftTokenIds_steady (self : Scheduler K) (entry : ReqId × List TokenId) :
    Steady self (self.updateDraftTokenIds env entry) := by
  unfold updateDraftTokenIds
  split
  next => exact Steady.refl self
  next =>
    split
    next => exact Steady.refl self
    next => exact modifyRequest_steady self entry.1 fun resumable => resumable

/-- The outputs of a step take a request out of `running` by finishing it or as a session. -/
theorem updateFromOutputOf_departs {scheduled : SchedulerOutput}
    (ran : self.updateFromOutputOf env config scheduled output = .ok next) :
    Departs (fun id => (self.request id).resumable = true) self next := by
  obtain ⟨updated, update, ran⟩ := bind_eq_ok.mp ran
  obtain ⟨state, loop, update⟩ := bind_eq_ok.mp update
  obtain ⟨received, recving, sending⟩ := bind_eq_ok.mp update
  have stops : Stops self state := by
    refine foldlM_preserves (P := Stops self) ?_ ⟨Steady.refl self, fun _ member => absurd member List.not_mem_nil⟩ loop
    intro before entry after soFar ran
    exact soFar.entered (UpdateState.updateRequest_entered ran).2
  have transferred := (foldlM_steady (fun _ _ _ => finishRecving_steady) recving).trans
    (foldlM_steady (fun _ _ _ => finishSending_steady) sending)
  have planted : Steady updated next := by
    split at ran
    next =>
      cases ran
      exact foldl_steady plantDraftPlaceholders_steady _ _
    next =>
      cases ran
      exact Steady.refl _
  have steady := transferred.trans planted
  refine ⟨fun id isRunning => ?_, fun id told => steady.finished id (stops.steady.finished id told)⟩
  by_cases isStopped : id ∈ state.stoppedRunningReqs
  · exact Or.inr ((stops.stopped id isStopped).imp_left (steady.finished id))
  · left
    rw [steady.running]
    exact removeAll_kept (stops.steady.running ▸ isRunning) isStopped

theorem finishRequest_steady {finishedStatus : RequestStatus}
    (ran : self.finishRequest env config finishedStatus id = .ok next) :
    Steady self next ∧ id ∈ next.finishedReqIds := by
  obtain ⟨freed, reported⟩ := freeRequest_steady ran
  refine ⟨Steady.trans (Steady.trans ?_ (modifyRequest_steady _ id fun resumable => resumable)) freed, reported⟩
  split
  · exact ⟨rfl, fun _ told => told, fun _ resumable => resumable⟩
  · exact Steady.refl self

theorem finishRequests_departs {requestIds : Option (List ReqId)} {finishedStatus : RequestStatus}
    (ran : self.finishRequests env config requestIds finishedStatus = .ok next) :
    Departs (fun _ => False) self next := by
  obtain ⟨_, -, ran⟩ := bind_eq_ok.mp ran
  have freed : ∀ {ids : List ReqId} {scheduler last : Scheduler K},
      ids.foldlM (fun self id => self.finishRequest env config finishedStatus id) scheduler = .ok last →
      Steady scheduler last ∧ ∀ id ∈ ids, id ∈ last.finishedReqIds := by
    intro ids
    induction ids with
    | nil =>
      intro scheduler last ran
      cases ran
      exact ⟨Steady.refl _, fun _ => nofun⟩
    | cons head rest ih =>
      intro scheduler last ran
      obtain ⟨mid, ranHead, ranRest⟩ := bind_eq_ok.mp ran
      obtain ⟨headSteady, headReported⟩ := finishRequest_steady ranHead
      obtain ⟨restSteady, restReported⟩ := ih ranRest
      refine ⟨headSteady.trans restSteady, ?_⟩
      intro id member
      rcases List.mem_cons.mp member with rfl | inRest
      · exact restSteady.finished id headReported
      · exact restReported id inRest
  obtain ⟨steady, reported⟩ := freed ran
  refine ⟨fun id isRunning => ?_, steady.finished⟩
  by_cases isRemoved : id ∈ (((requestIds.getD self.requests).dedup.filter fun id =>
      id ∈ self.requests ∧ !(self.request id).isFinished).filter fun id => (self.request id).status = .running)
  · exact Or.inr (Or.inl (reported id (List.mem_of_mem_filter isRemoved)))
  · left
    rw [steady.running]
    exact removeAll_kept isRunning isRemoved

theorem addRequest_departs {request : Request} (ran : self.addRequest env config request = .ok next) :
    Departs (fun _ => False) self next := by
  unfold addRequest at ran
  dsimp only at ran
  split at ran
  next =>
    split at ran
    next =>
      split at ran
      next => cases ran
      next =>
        cases ran
        exact (modifyRequest_steady self _ fun resumable => resumable).departs
    next =>
      split at ran
      next => exact (updateSession_steady ran).departs
      next => exact finishRequests_departs ran
  next =>
    cases ran
    have enqueued := enqueueWaitingRequest_steady config (self.modifyRequest request.requestId fun _ =>
      if request.resumable then { request with streamingQueue := some [] } else request) request.requestId
    refine ⟨fun id isRunning => Or.inl ?_, enqueued.finished⟩
    rw [enqueued.running]
    exact isRunning

theorem preemptAll_finished (ran : preemptAll env config fuel self = .ok next) :
    next.finishedReqIds = self.finishedReqIds := by
  induction fuel generalizing self with
  | zero =>
    cases ran
    rfl
  | succ fuel ih =>
    rw [preemptAll] at ran
    split at ran
    next =>
      cases ran
      rfl
    next =>
      obtain ⟨preempted, preempt, ran⟩ := bind_eq_ok.mp ran
      obtain ⟨_, -, preempt⟩ := bind_eq_ok.mp preempt
      obtain ⟨kv, -, preempt⟩ := bind_eq_ok.mp preempt
      cases preempt
      have same := ih ran
      exact same

theorem resetPrefixCache_departs {resetRunningRequests reset : Bool}
    (ran : self.resetPrefixCache env config resetRunningRequests = .ok (reset, next)) :
    Departs (fun _ => resetRunningRequests = true) self next := by
  obtain ⟨mid, isMid, ran⟩ := bind_eq_ok.mp ran
  obtain ⟨⟨resetSuccessful, kv⟩, -, ran⟩ := bind_eq_ok.mp ran
  have isNext : next = { mid with kv := kv } := by
    dsimp only at ran
    split at ran
    next => cases ran
    next =>
      cases ran
      rfl
  rw [isNext]
  cases resetRunningRequests with
  | true =>
    obtain ⟨preempted, preempt, isMid⟩ := bind_eq_ok.mp isMid
    cases isMid
    refine ⟨fun _ _ => Or.inr (Or.inr rfl), fun id told => ?_⟩
    rw [preemptAll_finished preempt]
    exact told
  | false =>
    cases isMid
    exact ⟨fun _ => Or.inl, fun _ told => told⟩

end Scheduler

variable {mid : ScheduleState K} {flow : LoopFlow K} {fromSkipped : Bool}

namespace ScheduleState

variable {state next : ScheduleState K} {id : ReqId}

/-! ## The running loop of `schedule` -/

def admitted (state : ScheduleState K) : List ReqId := state.scheduledNewReqs ++ state.scheduledResumedReqs

/-- A request that leaves `running` is reported as preempted, and nobody is admitted. -/
structure Preempts (state next : ScheduleState K) : Prop where
  running : ∀ id ∈ state.self.running, id ∈ next.self.running ∨ id ∈ next.preemptedReqs
  preempted : ∀ id ∈ state.preemptedReqs, id ∈ next.preemptedReqs
  admitted : next.admitted = state.admitted
  finished : next.self.finishedReqIds = state.self.finishedReqIds

theorem Preempts.of_same (running : next.self.running = state.self.running)
    (preempted : next.preemptedReqs = state.preemptedReqs) (admitted : next.admitted = state.admitted)
    (finished : next.self.finishedReqIds = state.self.finishedReqIds) : Preempts state next :=
  ⟨fun _ isRunning => Or.inl (running ▸ isRunning), fun _ told => preempted ▸ told, admitted, finished⟩

theorem Preempts.refl (state : ScheduleState K) : Preempts state state := .of_same rfl rfl rfl rfl

theorem withKv_preempts (state : ScheduleState K) (kv : K) : Preempts state (state.withKv kv) :=
  .of_same rfl rfl rfl rfl

theorem Preempts.trans (first : Preempts state mid) (second : Preempts mid next) :
    Preempts state next := by
  refine ⟨fun id isRunning => ?_, fun id told => second.preempted id (first.preempted id told),
    second.admitted.trans first.admitted, second.finished.trans first.finished⟩
  rcases first.running id isRunning with stays | told
  · exact second.running id stays
  · exact Or.inr (second.preempted id told)

theorem preempt_preempts {taken : ScheduleState K} {victim : ReqId} {self : Scheduler K}
    (took : state.takeVictim env config = .ok (victim, taken))
    (ran : taken.self.preemptRequest env config victim = .ok self) :
    Preempts state { taken with self, preemptedReqs := taken.preemptedReqs ++ [victim] } := by
  obtain ⟨running, perm, takenSelf, isTaken⟩ := takeVictim_eq took
  have same : taken.preemptedReqs = state.preemptedReqs ∧ taken.admitted = state.admitted := by
    rcases isTaken with rfl | ⟨-, rfl⟩
    · exact ⟨rfl, rfl⟩
    · exact ⟨rfl, rfl⟩
  have sameFinished : self.finishedReqIds = taken.self.finishedReqIds := by
    obtain ⟨_, -, ran⟩ := bind_eq_ok.mp ran
    obtain ⟨kv, -, ran⟩ := bind_eq_ok.mp ran
    cases ran
    rfl
  refine ⟨?_, ?_, same.2, ?_⟩
  · intro other isRunning
    rcases List.mem_cons.mp (perm.mem_iff.mp isRunning) with rfl | stays
    · exact Or.inr (List.mem_append_right _ (List.mem_singleton_self _))
    · left
      rw [(Scheduler.preemptRequest_spec ran).running, takenSelf]
      exact stays
  · intro other told
    exact List.mem_append_left _ (same.1 ▸ told)
  · show self.finishedReqIds = _
    rw [sameFinished, takenSelf]

theorem allocateRunning_preempts {allocated : Bool} {numNewTokens : Int}
    (ran : allocateRunning env config fuel state id numNewTokens = .ok (allocated, next)) :
    Preempts state next := by
  induction fuel generalizing state with
  | zero => cases ran
  | succ fuel ih =>
    obtain ⟨⟨answer, kv⟩, -, ran⟩ := bind_eq_ok.mp ran
    have asked := withKv_preempts state kv
    cases answer with
    | true =>
      cases ran
      exact asked
    | false =>
      obtain ⟨⟨victim, taken⟩, took, ran⟩ := bind_eq_ok.mp ran
      obtain ⟨self, preempted, ran⟩ := bind_eq_ok.mp ran
      have first := asked.trans (preempt_preempts took preempted)
      split at ran
      next =>
        cases ran
        exact first
      next => exact first.trans (ih ran)

theorem runningBody_preempts (ran : state.runningBody env config id = .ok flow) :
    Preempts state flow.state := by
  rcases runningBody_cases ran with ⟨kv, rfl, -⟩ | ⟨plan, planKv, allocated, reached, -, allocation, rfl⟩
  · exact .of_same rfl rfl rfl rfl
  · have reaches := (withKv_preempts state planKv).trans (allocateRunning_preempts allocation)
    cases allocated with
    | false => exact reaches
    | true => exact reaches.trans (.of_same rfl rfl rfl rfl)

theorem runningLoop_preempts (ran : runningLoop env config fuel state = .ok next) :
    Preempts state next := by
  induction fuel generalizing state with
  | zero => cases ran
  | succ fuel ih =>
    rw [runningLoop] at ran
    split at ran
    next =>
      split at ran
      next =>
        cases ran
        exact .refl _
      next =>
        obtain ⟨flow, body, ran⟩ := bind_eq_ok.mp ran
        have first := runningBody_preempts body
        cases flow with
        | next reached => exact first.trans (ih ran)
        | stop reached =>
          cases ran
          exact first
    next =>
      cases ran
      exact .refl _

/-! ## The waiting loop of `schedule` -/

/-- Nobody leaves or enters `running`, and nobody is reported. -/
structure NobodyAdmitted (state next : ScheduleState K) : Prop where
  running : next.self.running = state.self.running
  admitted : next.admitted = state.admitted
  preempted : next.preemptedReqs = state.preemptedReqs
  finished : next.self.finishedReqIds = state.self.finishedReqIds

theorem NobodyAdmitted.refl (state : ScheduleState K) : NobodyAdmitted state state := ⟨rfl, rfl, rfl, rfl⟩

theorem NobodyAdmitted.trans (first : NobodyAdmitted state mid)
    (second : NobodyAdmitted mid next) : NobodyAdmitted state next :=
  ⟨second.running.trans first.running, second.admitted.trans first.admitted,
    second.preempted.trans first.preempted, second.finished.trans first.finished⟩

/-- One request enters `running` and is reported. -/
structure OneAdmitted (state next : ScheduleState K) (id : ReqId) : Prop where
  running : next.self.running = state.self.running ++ [id]
  admitted : ∀ other, other ∈ next.admitted ↔ other = id ∨ other ∈ state.admitted
  preempted : next.preemptedReqs = state.preemptedReqs
  finished : next.self.finishedReqIds = state.self.finishedReqIds

theorem OneAdmitted.after (first : NobodyAdmitted state mid) (second : OneAdmitted mid next id) :
    OneAdmitted state next id :=
  ⟨first.running ▸ second.running, fun other => first.admitted ▸ second.admitted other,
    second.preempted.trans first.preempted, second.finished.trans first.finished⟩

theorem withKv_nobody (state : ScheduleState K) (kv : K) : NobodyAdmitted state (state.withKv kv) :=
  ⟨rfl, rfl, rfl, rfl⟩

theorem popWaiting_nobody (ran : state.popWaiting config fromSkipped = .ok next) :
    NobodyAdmitted state next := by
  obtain ⟨⟨popped, rest⟩, -, ran⟩ := bind_eq_ok.mp ran
  cases ran
  cases fromSkipped with
  | false => exact ⟨rfl, rfl, rfl, rfl⟩
  | true => exact ⟨rfl, rfl, rfl, rfl⟩

theorem skipWaiting_nobody (ran : state.skipWaiting config fromSkipped id = .ok next) :
    NobodyAdmitted state next := by
  obtain ⟨popped, pop, rfl⟩ := skipWaiting_eq ran
  exact (popWaiting_nobody pop).trans ⟨rfl, rfl, rfl, rfl⟩

theorem promote_nobody {promoted : Bool} (ran : state.promote env id = .ok (promoted, next)) :
    NobodyAdmitted state next := by
  unfold promote at ran
  split at ran
  next =>
    obtain ⟨⟨answer, self⟩, tried, ran⟩ := bind_eq_ok.mp ran
    cases ran
    obtain ⟨-, _, _, _, _, _, -, rfl⟩ := tryPromote_eq tried
    exact ⟨rfl, rfl, rfl, rfl⟩
  next =>
    cases ran
    exact .refl state

theorem startRunning_one {admission : Admission} (ran : state.startRunning env config id admission = .ok next) :
    OneAdmitted state next id := by
  obtain ⟨⟨newReqs, resumedReqs⟩, checked, ran⟩ := bind_eq_ok.mp ran
  cases ran
  refine ⟨rfl, fun other => ?_, rfl, rfl⟩
  show other ∈ newReqs ++ resumedReqs ↔ other = id ∨ other ∈ state.scheduledNewReqs ++ state.scheduledResumedReqs
  split at checked
  next =>
    cases checked
    simp only [List.mem_append, List.mem_singleton]
    tauto
  next =>
    cases checked
    simp only [List.mem_append, List.mem_singleton]
    tauto
  next => cases checked

theorem waitingBody_admits (ran : state.waitingBody env config = .ok flow) :
    NobodyAdmitted state flow.state ∨ ∃ id, OneAdmitted state flow.state id := by
  obtain ⟨id, promoted, mid, -, promotion, outcome⟩ := waitingBody_cases ran
  have isPromoted := promote_nobody promotion
  rcases outcome with ⟨looked, _, isMid, skip, rfl⟩ | ⟨kv, -, rfl⟩ |
    ⟨kv, found, plan, planKv, -, -, rfl | ⟨admission, -, -, -, ran⟩⟩
  · have isLooked : NobodyAdmitted mid looked := by
      rcases isMid with rfl | ⟨kv, -, rfl⟩
      · exact .refl _
      · exact withKv_nobody mid kv
    exact .inl ((isPromoted.trans isLooked).trans (skipWaiting_nobody skip))
  · exact .inl (isPromoted.trans (withKv_nobody mid kv))
  · exact .inl (isPromoted.trans (withKv_nobody mid planKv))
  · have isPlanned := isPromoted.trans (withKv_nobody mid planKv)
    obtain ⟨_, _, -, ⟨-, rfl⟩ | ⟨-, popped, pop, ⟨-, rfl⟩ | ⟨-, started, start, rfl⟩⟩⟩ := admitWaiting_cases ran
    · exact .inl (isPlanned.trans (withKv_nobody ..))
    · exact .inl ((isPlanned.trans (withKv_nobody ..)).trans ((popWaiting_nobody pop).trans ⟨rfl, rfl, rfl, rfl⟩))
    · exact .inr ⟨id, OneAdmitted.after ((isPlanned.trans (withKv_nobody ..)).trans (popWaiting_nobody pop))
        (startRunning_one start)⟩

end ScheduleState

end DeepSpark
