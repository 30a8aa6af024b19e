import DeepSpark.Scheduler.Answers
import DeepSpark.Scheduler.Membership

/-!
Runs without streaming sessions.

Owns the event predicate of such runs, with request ids that are not in use, and
what holds in all of them: no request is queued twice, `running` holds exactly the
queued requests with status `RUNNING`, and no request is a session. Also owns
runs with an observer, whose notes the claims about earlier steps speak of.
-/

namespace DeepSpark

open Lib Function

variable {K : Type} {env : Collaborators K} {config : SchedulerConfig}

namespace Scheduler

variable {self next : Scheduler K} {id : ReqId}

/-- Requests leave queues, and a request whose status changes is finished and not
running any more. -/
theorem QueuedOnce.shrink (queues : self.QueuedOnce [])
    (running : ∀ id, next.running.count id ≤ self.running.count id)
    (waiting : ∀ id, next.waitingCount [] id ≤ self.waitingCount [] id)
    (status : ∀ id, (next.request id).status = (self.request id).status ∨
      (next.request id).status.isFinished = true ∧ next.running.count id = 0) :
    next.QueuedOnce [] := by
  refine ⟨fun id => ?_, fun id member => ?_, fun id isWaiting => ?_⟩
  · have once := queues.once id
    have lessRunning := running id
    have lessWaiting := waiting id
    omega
  · have positive := List.count_pos_iff.mpr member
    rcases status id with same | ⟨-, gone⟩
    · rw [same]
      exact queues.running id (List.count_pos_iff.mp (positive.trans_le (running id)))
    · omega
  · rcases status id with same | ⟨finished, -⟩
    · rw [same]
      exact queues.waiting id (isWaiting.trans_le (waiting id))
    · intro isRunning
      rw [isRunning] at finished
      cases finished

/-! ## update_from_output -/

namespace UpdateState

variable {scheduled : SchedulerOutput} {output : ModelRunnerOutput} {start : Scheduler K}
  {state next : UpdateState K}

/-- The loop of `update_from_output` over requests without sessions: it moves no
request, and notes the running requests that it finishes. -/
structure Plain (start : Scheduler K) (state : UpdateState K) : Prop where
  running : state.self.running = start.running
  waiting : state.self.waiting = start.waiting
  skippedWaiting : state.self.skippedWaiting = start.skippedWaiting
  requests : ∀ id ∈ state.self.requests, id ∈ start.requests
  resumable : ∀ id ∈ state.self.requests, (state.self.request id).resumable = false
  status : ∀ id, (state.self.request id).status = (start.request id).status ∨
    (state.self.request id).status.isFinished = true ∧
      ((start.request id).status = .running → id ∈ state.stoppedRunningReqs)

theorem rejectDrafts_resumable (drafts sampled : List TokenId) (request : Request) :
    (rejectDrafts config drafts sampled request).resumable = request.resumable := by
  obtain ⟨_, _, isRejected⟩ := @rejectDrafts_frame config drafts sampled request
  rw [isRejected]

end UpdateState

end Scheduler

variable {before : Request}

theorem Appended.resumable {updated : Request} {sampled appended : List TokenId}
    {stopped : Bool} (spec : Appended before updated sampled appended stopped) :
    updated.resumable = before.resumable := by
  obtain ⟨_, _, isUpdated⟩ := spec.record
  rw [isUpdated]

section

variable {output : ModelRunnerOutput} {id : ReqId} {after : Request} {stopped : Bool}
  (answered : Answered config output id before stopped after)

include answered

theorem Answered.resumable (plain : before.resumable = false) : after.resumable = false := by
  cases answered with
  | silent => exact plain
  | pooled => exact plain
  | discarded => exact plain
  | appended _ spec => exact spec.resumable.trans plain
  | refused => rfl

theorem Answered.status :
    (stopped = true → after.status.isFinished = true) ∧
      (stopped = false → after.status = before.status) := by
  cases answered with
  | silent => exact ⟨nofun, fun _ => rfl⟩
  | pooled => exact ⟨fun _ => rfl, nofun⟩
  | discarded => exact ⟨nofun, fun _ => rfl⟩
  | appended _ spec => exact ⟨spec.finished, fun goesOn => (spec.continued goesOn).1⟩
  | refused => exact ⟨fun _ => rfl, nofun⟩

end

variable {finishedStatus : RequestStatus}

namespace Scheduler

variable {self next : Scheduler K} {id : ReqId}

theorem rejectDrafts_status (drafts sampled : List TokenId) (request : Request) :
    (rejectDrafts config drafts sampled request).status = request.status := by
  obtain ⟨_, _, isRejected⟩ := @rejectDrafts_frame config drafts sampled request
  rw [isRejected]

namespace UpdateState

variable {scheduled : SchedulerOutput} {output : ModelRunnerOutput} {start : Scheduler K}
  {state next : UpdateState K}

theorem Plain.entered (plain : Plain start state)
    (entered : Entered env config scheduled output state id next) : Plain start next := by
  have requests := fun other => @Entered.requests_subset _ _ _ _ _ _ _ _ entered other
  rcases entered.answered with ⟨same, -⟩ | ⟨isMember, unfinished, stopped, answer, answered, stands⟩
  · rw [same]
    exact plain
  · have isPlain : answer.resumable = false :=
      answered.resumable ((rejectDrafts_resumable ..).trans (plain.resumable id isMember))
    have record := stands (.inr isPlain)
    have others := fun other differ => @Entered.others _ _ _ _ _ _ _ _ entered other differ
    have resumable : ∀ other ∈ next.self.requests, (next.self.request other).resumable = false := by
      intro other otherMember
      by_cases same : other = id
      · rw [same, record]
        exact isPlain
      · rw [(others other same).1]
        exact plain.resumable other (requests other otherMember)
    have wasSame : (state.self.request id).status = (start.request id).status := by
      refine (plain.status id).resolve_right fun finished => ?_
      rw [Request.isFinished, finished.1] at unfinished
      cases unfinished
    have status : ∀ other, (other ≠ id → next.self.request other = state.self.request other) :=
      fun other differ => (others other differ).1
    cases entered with
    | gone notLive =>
      exact plain
    | @continued self _ _ applied =>
      have outcome := applyOutput_applied applied
      have same := (beforeOutput_sameQueues state.self scheduled output id).trans outcome.sameQueues
      have kept : (self.request id).status = (state.self.request id).status := by
        rw [outcome.status.2 rfl, beforeOutput_request, rejectDrafts_status]
      refine ⟨same.running.trans plain.running, same.waiting.trans plain.waiting,
        same.skippedWaiting.trans plain.skippedWaiting,
        fun other otherMember => plain.requests other (requests other otherMember), resumable,
        fun other => ?_⟩
      by_cases isId : other = id
      · rw [isId]
        exact .inl (kept.trans wasSame)
      · show (self.request other).status = _ ∨ _
        rw [show self.request other = state.self.request other from status other isId]
        exact plain.status other
    | @stopped self handled final finished _ _ applied handle freed =>
      have outcome := applyOutput_applied applied
      have same := (beforeOutput_sameQueues state.self scheduled output id).trans outcome.sameQueues
      have answeredSelf := outcome.answered
      rw [beforeOutput_request] at answeredSelf
      have selfPlain : (self.request id).resumable = false :=
        answeredSelf.resumable ((rejectDrafts_resumable ..).trans (plain.resumable id isMember))
      obtain ⟨isFinished, rfl⟩ := handleStoppedRequest_plain handle selfPlain
      rw [isFinished, if_pos rfl] at freed
      obtain ⟨-, request, running, waiting, skipped, -⟩ := freeRequest_spec freed
      have stoppedStatus : (final.request id).status.isFinished = true := by
        rw [request]
        exact answeredSelf.status.1 rfl
      have queues : final.running = start.running ∧ final.waiting = start.waiting ∧
          final.skippedWaiting = start.skippedWaiting :=
        ⟨running.trans (same.running.trans plain.running),
          waiting.trans (same.waiting.trans plain.waiting),
          skipped.trans (same.skippedWaiting.trans plain.skippedWaiting)⟩
      have members : ∀ other ∈ final.requests, other ∈ start.requests := by
        intro other otherMember
        apply plain.requests other (requests other _)
        split <;> exact otherMember
      have plainRecords : ∀ other ∈ final.requests, (final.request other).resumable = false := by
        intro other otherMember
        have found := resumable other (by split <;> exact otherMember)
        split at found <;> exact found
      have unchanged : ∀ other, other ≠ id → final.request other = state.self.request other := by
        intro other differ
        have found := status other differ
        split at found <;> exact found
      split
      next isRunning =>
        refine ⟨queues.1, queues.2.1, queues.2.2, members, plainRecords, fun other => ?_⟩
        by_cases isId : other = id
        · rw [isId]
          exact .inr ⟨stoppedStatus, fun _ => List.mem_append_right _ (List.mem_singleton_self _)⟩
        · show (final.request other).status = _ ∨ _
          rw [unchanged other isId]
          exact (plain.status other).imp_right fun stopped =>
            ⟨stopped.1, fun wasRunning => List.mem_append_left _ (stopped.2 wasRunning)⟩
      next notRunning =>
        refine ⟨queues.1, queues.2.1, queues.2.2, members, plainRecords, fun other => ?_⟩
        by_cases isId : other = id
        · rw [isId]
          exact .inr ⟨stoppedStatus, fun wasRunning => absurd (wasSame.trans wasRunning) notRunning⟩
        · show (final.request other).status = _ ∨ _
          rw [unchanged other isId]
          exact plain.status other

theorem Plain.loop {entries : List (ReqId × Int)} (plain : Plain start state)
    (ran : entries.foldlM (updateRequest env config scheduled output) state = .ok next) :
    Plain start next :=
  foldlM_preserves (fun _ _ _ before ran => before.entered (updateRequest_entered ran).2) plain ran

end UpdateState

structure Plain (scheduler : Scheduler K) : Prop where
  queues : scheduler.QueuedOnce []
  resumable : ∀ id ∈ scheduler.requests, (scheduler.request id).resumable = false

theorem Plain.of_same (plain : self.Plain) (requests : ∀ id ∈ next.requests, id ∈ self.requests)
    (running : next.running = self.running) (waiting : next.waiting = self.waiting)
    (skipped : next.skippedWaiting = self.skippedWaiting)
    (status : ∀ id, (next.request id).status = (self.request id).status)
    (resumable : ∀ id, (next.request id).resumable = (self.request id).resumable) : next.Plain := by
  refine ⟨plain.queues.of_counts (fun id => by rw [running]) (fun id => ?_) fun id _ => ?_,
    fun id isMember => ?_⟩
  · rw [waitingCount, waitingCount, waiting, skipped]
  · rw [status]
  · rw [resumable]
    exact plain.resumable id (requests id isMember)

/-- What `update_from_output` does to the queues: requests leave them, running
ones only once they are finished. -/
theorem updateFromOutput_shrinks {scheduled : SchedulerOutput} {output : ModelRunnerOutput}
    (plain : self.Plain) (ran : self.updateFromOutput env config scheduled output = .ok next) :
    (∀ other, next.running.count other ≤ self.running.count other) ∧
      (∀ other, next.waitingCount [] other ≤ self.waitingCount [] other) ∧
      (∀ other, (next.request other).status = (self.request other).status ∨
        (next.request other).status.isFinished = true ∧ next.running.count other = 0) ∧
      ∀ other ∈ next.requests, (next.request other).resumable = false := by
  obtain ⟨state, loop, ran⟩ := bind_eq_ok.mp ran
  obtain ⟨received, recving, sending⟩ := bind_eq_ok.mp ran
  have started : UpdateState.Plain self { self } :=
    ⟨rfl, rfl, rfl, fun _ isMember => isMember, plain.resumable, fun _ => .inl rfl⟩
  have looped := started.loop loop
  have transferred := transfers_transferred recving sending
  have running : ∀ other, next.running.count other =
      if other ∈ state.stoppedRunningReqs then 0 else self.running.count other := by
    intro other
    rw [transferred.running, ← count_filter_notMem, ← removeAll_perm plain.queues.nodup]
    rw [looped.running]
  have record : ∀ other, next.request other = state.self.request other :=
    fun other => congrFun transferred.request other
  refine ⟨fun other => ?_, fun other => ?_, fun other => ?_, fun other isMember => ?_⟩
  · rw [running]
    split <;> omega
  · have fewer : next.waiting.count other ≤ self.waiting.count other := by
      rw [transferred.waiting]
      rw [removeRequests_count, looped.waiting]
      split <;> omega
    have sameSkipped : next.skippedWaiting = self.skippedWaiting :=
      transferred.skippedWaiting.trans looped.skippedWaiting
    rw [waitingCount, waitingCount, sameSkipped]
    omega
  · rw [record, running]
    refine (looped.status other).imp_right fun stopped => ⟨stopped.1, ?_⟩
    split
    next => rfl
    next notNoted =>
      apply List.count_eq_zero_of_not_mem
      exact fun member => notNoted (stopped.2 (plain.queues.running other member))
  · rw [record]
    exact looped.resumable other (transferred.requests other isMember)

theorem updateFromOutput_plain {scheduled : SchedulerOutput} {output : ModelRunnerOutput}
    (plain : self.Plain) (ran : self.updateFromOutput env config scheduled output = .ok next) :
    next.Plain := by
  obtain ⟨running, waiting, status, resumable⟩ := updateFromOutput_shrinks plain ran
  exact ⟨plain.queues.shrink running waiting status, resumable⟩

theorem updateFromOutputOf_shrinks {scheduled : SchedulerOutput} {output : ModelRunnerOutput}
    (plain : self.Plain) (ran : self.updateFromOutputOf env config scheduled output = .ok next)
    (id : ReqId) :
    next.running.count id ≤ self.running.count id ∧
      next.waitingCount [] id ≤ self.waitingCount [] id := by
  obtain ⟨updated, update, ran⟩ := bind_eq_ok.mp ran
  obtain ⟨fewerRunning, fewerWaiting, -⟩ := updateFromOutput_shrinks plain update
  split at ran
  next =>
    cases ran
    obtain ⟨-, -, running, waiting, skipped, -⟩ :=
      plantAll_planted config output.draftTokenCounts updated 0
    rw [running, waitingCount, waiting, skipped]
    exact ⟨fewerRunning id, fewerWaiting id⟩
  next =>
    cases ran
    exact ⟨fewerRunning id, fewerWaiting id⟩

theorem updateFromOutputOf_plain {scheduled : SchedulerOutput} {output : ModelRunnerOutput}
    (plain : self.Plain) (ran : self.updateFromOutputOf env config scheduled output = .ok next) :
    next.Plain := by
  obtain ⟨updated, update, ran⟩ := bind_eq_ok.mp ran
  have updatedPlain := updateFromOutput_plain plain update
  split at ran
  next =>
    cases ran
    have planted := plantAll_planted config output.draftTokenCounts updated
    obtain ⟨-, requests, running, waiting, skipped, -⟩ := planted 0
    refine updatedPlain.of_same (by rw [requests]; exact fun _ isMember => isMember) running waiting
      skipped (fun other => ?_) fun other => ?_
    · rcases (planted other).1 with same | ⟨-, -, _, -, isPlanted⟩
      · rw [same]
      · rw [isPlanted]
        rfl
    · rcases (planted other).1 with same | ⟨-, -, _, -, isPlanted⟩
      · rw [same]
      · rw [isPlanted]
        rfl
  next =>
    cases ran
    exact updatedPlain

/-! ## The other calls -/

/-- What `finish_requests` does to a request. -/
structure FinishedFromOutside (scheduler next : Scheduler K) (finishedStatus : RequestStatus)
    (id : ReqId) : Prop where
  request : next.request id = scheduler.request id ∨
    finishedStatus.isFinished = true ∧ id ∈ scheduler.requests ∧
      (scheduler.request id).isFinished = false ∧
      next.request id = { scheduler.request id with status := finishedStatus }
  requests : id ∈ next.requests → id ∈ scheduler.requests
  running : next.running.count id ≤ scheduler.running.count id
  waiting : next.waitingCount [] id ≤ scheduler.waitingCount [] id

theorem finishLoop_spec {ids : List ReqId} (ran : ids.foldlM (fun scheduler id =>
      scheduler.finishRequest env config finishedStatus id) self = .ok next) :
    next.running = self.running ∧ next.waiting = self.waiting ∧
      next.skippedWaiting = self.skippedWaiting ∧ (∀ id ∈ next.requests, id ∈ self.requests) ∧
      (∀ id, next.request id =
        if id ∈ ids then { self.request id with status := finishedStatus } else self.request id) := by
  induction ids generalizing self with
  | nil =>
    cases ran
    exact ⟨rfl, rfl, rfl, fun _ isMember => isMember, fun _ => rfl⟩
  | cons first rest ih =>
    obtain ⟨mid, ranFirst, ranRest⟩ := bind_eq_ok.mp ran
    obtain ⟨requests, request, running, waiting, skipped⟩ := finishRequest_spec ranFirst
    obtain ⟨restRunning, restWaiting, restSkipped, restRequests, restRequest⟩ :=
      ih ranRest
    refine ⟨restRunning.trans running, restWaiting.trans waiting, restSkipped.trans skipped,
      fun id isMember => ?_, fun id => ?_⟩
    · have isMember := restRequests id isMember
      rcases requests with same | same
      · rwa [same] at isMember
      · rw [same] at isMember
        exact List.mem_of_mem_erase isMember
    · rw [restRequest, request]
      by_cases same : id = first
      · rw [same, update_self, if_pos List.mem_cons_self]
        split <;> rfl
      · rw [update_of_ne same]
        simp only [List.mem_cons, same, false_or]

theorem finishRequests_spec {requestIds : Option (List ReqId)} (queues : self.QueuedOnce [])
    (ran : self.finishRequests env config requestIds finishedStatus = .ok next) :
    next.QueuedOnce [] ∧ ∀ id, FinishedFromOutside self next finishedStatus id := by
  obtain ⟨_, checked, ran⟩ := bind_eq_ok.mp ran
  have finished := pyAssert_eq_ok.mp checked
  set valid := (requestIds.getD self.requests).dedup.filter fun id =>
    id ∈ self.requests ∧ !(self.request id).isFinished with isValid
  set runningToRemove := valid.filter fun id => (self.request id).status = .running
    with isRunningToRemove
  set waitingToRemove := valid.filter fun id => (self.request id).status ≠ .running
  have mem_valid : ∀ id, id ∈ valid → id ∈ self.requests ∧ (self.request id).isFinished = false := by
    intro id member
    have parts := (List.mem_filter.mp member).2
    simpa using parts
  obtain ⟨running, waiting, skipped, requests, request⟩ := finishLoop_spec ran
  have runningCount : ∀ id, next.running.count id =
      if id ∈ runningToRemove then 0 else self.running.count id := by
    intro id
    rw [running, removeAll_perm queues.nodup]
    exact count_filter_notMem ..
  have waitingCounts : ∀ id, next.waitingCount [] id ≤ self.waitingCount [] id := by
    intro id
    rw [waitingCount, waitingCount, waiting, skipped]
    rw [removeRequests_count, removeRequests_count]
    split <;> omega
  have fewer : ∀ id, next.running.count id ≤ self.running.count id := by
    intro id
    rw [runningCount]
    split <;> omega
  refine ⟨queues.shrink fewer waitingCounts fun id => ?_, fun id =>
    ⟨?_, requests id, fewer id, waitingCounts id⟩⟩
  · rw [request, runningCount]
    by_cases member : id ∈ valid
    · rw [if_pos member]
      refine .inr ⟨finished, ?_⟩
      split
      next => rfl
      next notRemoved =>
        apply List.count_eq_zero_of_not_mem
        intro isRunning
        apply notRemoved
        rw [isRunningToRemove, List.mem_filter, decide_eq_true_iff]
        exact ⟨member, queues.running id isRunning⟩
    · rw [if_neg member]
      exact .inl rfl
  · rw [request]
    by_cases member : id ∈ valid
    · rw [if_pos member]
      exact .inr ⟨finished, (mem_valid id member).1, (mem_valid id member).2, rfl⟩
    · rw [if_neg member]
      exact .inl rfl

theorem enqueueWaitingRequest_spec (config : SchedulerConfig) (self : Scheduler K) (id : ReqId) :
    (self.enqueueWaitingRequest config id).request = self.request ∧
      (self.enqueueWaitingRequest config id).requests = self.requests ∧
      (self.enqueueWaitingRequest config id).running = self.running ∧
      ∀ other, (self.enqueueWaitingRequest config id).waitingCount [] other =
        self.waitingCount [] other + [id].count other := by
  unfold enqueueWaitingRequest
  split
  next =>
    refine ⟨rfl, rfl, rfl, fun other => ?_⟩
    rw [waitingCount, waitingCount]
    show self.waiting.count other + (RequestQueue.addRequest config.policy _ _ _).count other + _ = _
    rw [(RequestQueue.addRequest_perm ..).count_eq, count_cons_add]
    omega
  next =>
    refine ⟨rfl, rfl, rfl, fun other => ?_⟩
    rw [waitingCount, waitingCount]
    show (RequestQueue.addRequest config.policy _ _ _).count other +
      self.skippedWaiting.count other + _ = _
    rw [(RequestQueue.addRequest_perm ..).count_eq, count_cons_add]
    omega

theorem addRequest_fresh {request : Request} (isUnknown : request.requestId ∉ self.requests)
    (plain : request.resumable = false) (ran : self.addRequest env config request = .ok next) :
    next.request = update self.request request.requestId request ∧
      next.requests = self.requests ++ [request.requestId] ∧ next.running = self.running ∧
      ∀ id, next.waitingCount [] id = self.waitingCount [] id + [request.requestId].count id := by
  unfold addRequest at ran
  dsimp only at ran
  rw [getRequest, if_neg isUnknown, if_neg (by simp [plain])] at ran
  cases ran
  obtain ⟨records, requests, running, waiting⟩ := enqueueWaitingRequest_spec config
    (self.modifyRequest request.requestId fun _ => request) request.requestId
  exact ⟨records, congrArg (· ++ [request.requestId]) requests, running, waiting⟩

theorem addRequest_plain {request : Request} (plain : self.Plain)
    (isUnknown : request.requestId ∉ self.requests) (notRunning : request.requestId ∉ self.running)
    (notWaiting : self.waitingCount [] request.requestId = 0) (isNew : request.IsNew)
    (notResumable : request.resumable = false)
    (ran : self.addRequest env config request = .ok next) : next.Plain := by
  obtain ⟨records, requests, running, waiting⟩ := addRequest_fresh isUnknown notResumable ran
  have status : request.status ≠ .running := by
    rcases isNew.status with status | status
    · rw [status]
      exact nofun
    · rw [status]
      exact nofun
  refine ⟨⟨fun id => ?_, fun id member => ?_, fun id isWaiting => ?_⟩, fun id isMember => ?_⟩
  · have once := plain.queues.once id
    rw [running, waiting]
    by_cases same : id = request.requestId
    · subst same
      rw [List.count_eq_zero_of_not_mem notRunning, notWaiting, List.count_singleton_self]
    · rw [List.count_singleton, beq_false_of_ne (Ne.symm same)]
      exact once
  · rw [running] at member
    have differ : id ≠ request.requestId := by
      rintro rfl
      exact notRunning member
    rw [records, update_of_ne differ]
    exact plain.queues.running id member
  · rw [records]
    by_cases same : id = request.requestId
    · rw [same, update_self]
      exact status
    · rw [update_of_ne same]
      rw [waiting, List.count_singleton, beq_false_of_ne (Ne.symm same)] at isWaiting
      exact plain.queues.waiting id isWaiting
  · rw [records]
    by_cases same : id = request.requestId
    · rw [same, update_self]
      exact notResumable
    · rw [update_of_ne same]
      rw [requests, List.mem_append, List.mem_singleton] at isMember
      exact plain.resumable id (isMember.resolve_right same)

theorem finishRequests_plain {requestIds : Option (List ReqId)} (plain : self.Plain)
    (ran : self.finishRequests env config requestIds finishedStatus = .ok next) : next.Plain := by
  obtain ⟨queues, finishedFromOutside⟩ := finishRequests_spec plain.queues ran
  refine ⟨queues, fun id isMember => ?_⟩
  have wasMember := (finishedFromOutside id).requests isMember
  rcases (finishedFromOutside id).request with same | ⟨-, -, -, finished⟩
  · rw [same]
    exact plain.resumable id wasMember
  · rw [finished]
    exact plain.resumable id wasMember

theorem updateDraftTokenIds_spec (env : Collaborators K) (self : Scheduler K)
    (entry : ReqId × List TokenId) (id : ReqId) :
    ((self.updateDraftTokenIds env entry).request id = self.request id ∨
        id = entry.1 ∧ id ∈ self.requests ∧ (self.request id).isFinished = false ∧ ∃ drafts,
          ((self.request id).isPrefillChunk = true → drafts = []) ∧
          (self.updateDraftTokenIds env entry).request id =
            { self.request id with specTokenIds := drafts }) ∧
      (self.updateDraftTokenIds env entry).requests = self.requests ∧
      (self.updateDraftTokenIds env entry).running = self.running ∧
      (self.updateDraftTokenIds env entry).waiting = self.waiting ∧
      (self.updateDraftTokenIds env entry).skippedWaiting = self.skippedWaiting := by
  unfold updateDraftTokenIds getRequest
  by_cases isMember : entry.1 ∈ self.requests
  · rw [if_pos isMember]
    dsimp only
    split
    next => exact ⟨.inl rfl, rfl, rfl, rfl, rfl⟩
    next isOpen =>
      refine ⟨?_, rfl, rfl, rfl, rfl⟩
      by_cases same : id = entry.1
      · subst same
        right
        refine ⟨rfl, isMember, by simpa using isOpen, _, fun isChunk => ?_, modifyRequest_self ..⟩
        exact if_pos isChunk
      · exact .inl (modifyRequest_of_ne _ _ same)
  · rw [if_neg isMember]
    exact ⟨.inl rfl, rfl, rfl, rfl, rfl⟩

theorem updateAllDrafts_spec (env : Collaborators K) (drafts : List (ReqId × List TokenId))
    (self : Scheduler K) (id : ReqId) :
    let next := drafts.foldl (fun self entry => self.updateDraftTokenIds env entry) self
    next.requests = self.requests ∧ next.running = self.running ∧
      next.waitingCount [] id = self.waitingCount [] id ∧
      (next.request id = self.request id ∨
        id ∈ drafts.map Prod.fst ∧ id ∈ self.requests ∧ (self.request id).isFinished = false ∧
          ∃ specTokenIds, ((self.request id).isPrefillChunk = true → specTokenIds = []) ∧
            next.request id = { self.request id with specTokenIds := specTokenIds }) := by
  induction drafts generalizing self with
  | nil => exact ⟨rfl, rfl, rfl, .inl rfl⟩
  | cons entry rest ih =>
    obtain ⟨first, requests, running, waiting, skipped⟩ :=
      updateDraftTokenIds_spec env self entry id
    obtain ⟨restRequests, restRunning, restWaiting, later⟩ :=
      ih (self.updateDraftTokenIds env entry)
    refine ⟨restRequests.trans requests, restRunning.trans running, ?_, ?_⟩
    · refine restWaiting.trans ?_
      rw [waitingCount, waitingCount, waiting, skipped]
    rw [List.map_cons, List.mem_cons]
    rcases first with same | ⟨isEntry, isMember, unfinished, specTokenIds, whenChunk, changed⟩
    · rw [same, requests] at later
      exact later.imp_right fun drafted => ⟨.inr drafted.1, drafted.2⟩
    · right
      refine ⟨.inl isEntry, isMember, unfinished, ?_⟩
      rw [List.foldl_cons]
      rcases later with same | ⟨-, -, -, laterTokenIds, laterChunk, laterChanged⟩
      · exact ⟨specTokenIds, whenChunk, same.trans changed⟩
      · rw [changed] at laterChunk laterChanged
        exact ⟨laterTokenIds, laterChunk, laterChanged⟩

theorem updateDraftTokenIds_plain (plain : self.Plain) (entry : ReqId × List TokenId) :
    (self.updateDraftTokenIds env entry).Plain := by
  have spec := updateDraftTokenIds_spec env self entry
  obtain ⟨-, requests, running, waiting, skipped⟩ := spec 0
  refine plain.of_same (by rw [requests]; exact fun _ isMember => isMember) running waiting skipped
    (fun id => ?_) fun id => ?_
  · rcases (spec id).1 with same | ⟨-, -, -, _, -, changed⟩
    · rw [same]
    · rw [changed]
  · rcases (spec id).1 with same | ⟨-, -, -, _, -, changed⟩
    · rw [same]
    · rw [changed]

/-- What `_update_after_schedule` never changes. -/
theorem afterSchedule_frame (self : Scheduler K) (output : SchedulerOutput) (id : ReqId)
    (tokens : Int) (request : Request) :
    ∃ numComputedTokens isPrefillChunk numOutputPlaceholders specTokenIds nextDecodeEligibleStep,
      self.afterSchedule config output id tokens request = { request with
        numComputedTokens := numComputedTokens
        isPrefillChunk := isPrefillChunk
        numOutputPlaceholders := numOutputPlaceholders
        specTokenIds := specTokenIds
        nextDecodeEligibleStep := nextDecodeEligibleStep } := by
  unfold afterSchedule
  dsimp only
  split
  · unfold addPlaceholders
    split
    · exact ⟨_, _, _, _, _, rfl⟩
    · exact ⟨_, _, _, _, _, rfl⟩
  · exact ⟨_, _, _, _, _, rfl⟩

end Scheduler

/-- What the loops of `schedule` never change. -/
theorem Visit.frame {after : Request} {tokens : Option Int} {drafts : List TokenId}
    (visit : Visit before after tokens drafts) :
    ∃ status numComputedTokens specTokenIds numPreemptions, after = { before with
      status := status
      numComputedTokens := numComputedTokens
      specTokenIds := specTokenIds
      numPreemptions := numPreemptions } := by
  cases visit with
  | untouched => exact ⟨_, _, _, _, rfl⟩
  | moved => exact ⟨_, _, _, _, rfl⟩
  | preempted => exact ⟨_, _, _, _, rfl⟩
  | ran => exact ⟨_, _, _, _, rfl⟩
  | started => exact ⟨_, _, _, _, rfl⟩

namespace Scheduler

variable {self next : Scheduler K} {id : ReqId}

theorem schedule_plain {output : SchedulerOutput} (plain : self.Plain)
    (ran : self.schedule env config = .ok (output, next)) : next.Plain := by
  obtain ⟨queues, requests, -, scheduler, visits⟩ := schedule_visits plain.queues ran
  refine ⟨queues, fun id isMember => ?_⟩
  rw [requests] at isMember
  obtain ⟨record, visit, -, request⟩ := visits id
  obtain ⟨_, _, _, _, isRecord⟩ := visit.frame
  have kept : (self.request id).resumable = record.resumable := by rw [isRecord]
  rw [request]
  cases output.numScheduledTokens.get? id with
  | none => exact kept.symm.trans (plain.resumable id isMember)
  | some tokens =>
    obtain ⟨_, _, _, _, _, isAfter⟩ :=
      @afterSchedule_frame _ config scheduler output id tokens record
    show (scheduler.afterSchedule config output id tokens record).resumable = false
    rw [isAfter]
    exact kept.symm.trans (plain.resumable id isMember)

/-! ## reset_prefix_cache -/

def resetRecord (request : Request) : Request :=
  { preempted request with
    asyncTokensToDiscard := request.numOutputPlaceholders
    numOutputPlaceholders := 0 }

theorem preemptAll_spec {fuel : Nat} (queues : self.QueuedOnce [])
    (enough : self.running.length ≤ fuel) (ran : preemptAll env config fuel self = .ok next) :
    next.QueuedOnce [] ∧ next.requests = self.requests ∧ next.running = [] ∧
      (∀ id, next.waitingCount [] id = self.running.count id + self.waitingCount [] id) ∧
      ∀ id, next.request id =
        if id ∈ self.running then resetRecord (self.request id) else self.request id := by
  induction fuel generalizing self with
  | zero =>
    cases ran
    have isEmpty := List.length_eq_zero_iff.mp (Nat.le_zero.mp enough)
    exact ⟨queues, rfl, isEmpty, fun id => by rw [isEmpty, List.count_nil, Nat.zero_add],
      fun id => by rw [isEmpty, if_neg List.not_mem_nil]⟩
  | succ fuel ih =>
    rw [preemptAll] at ran
    split at ran
    next isNone =>
      cases ran
      have isEmpty := List.getLast?_eq_none_iff.mp isNone
      exact ⟨queues, rfl, isEmpty, fun id => by rw [isEmpty, List.count_nil, Nat.zero_add],
        fun id => by rw [isEmpty, if_neg List.not_mem_nil]⟩
    next victim read =>
      obtain ⟨mid, preemption, ran⟩ := bind_eq_ok.mp ran
      obtain ⟨front, isFront⟩ := List.getLast?_eq_some_iff.mp read
      have perm : self.running.Perm (victim :: front) := by
        rw [isFront]
        exact List.perm_append_singleton _ _
      rw [isFront, List.dropLast_concat] at preemption
      have spec := preemptRequest_spec preemption
      have midQueues := QueuedOnce.preempt spec queues perm
      have nodup := List.nodup_cons.mp (perm.nodup_iff.mp queues.nodup)
      set marked := mid.modifyRequest victim fun request =>
        { request with
          asyncTokensToDiscard := request.numOutputPlaceholders
          numOutputPlaceholders := 0 } with isMarked
      have others : ∀ id, id ≠ victim → marked.request id = self.request id := by
        intro id differ
        rw [isMarked, modifyRequest_of_ne _ _ differ, spec.request, update_of_ne differ]
      have atVictim : marked.request victim = resetRecord (self.request victim) := by
        rw [isMarked, modifyRequest_self, spec.request, update_self]
        rfl
      have markedQueues : marked.QueuedOnce [] := by
        refine midQueues.of_counts (fun _ => by rfl) (fun _ => by rfl) fun id _ => ?_
        rw [isMarked]
        by_cases same : id = victim
        · rw [same, modifyRequest_self]
        · rw [modifyRequest_of_ne _ _ same]
      have markedRunning : marked.running = front := by
        rw [isMarked]
        exact spec.running
      obtain ⟨lastQueues, requests, running, waiting, record⟩ := ih markedQueues
        (by rw [markedRunning]; rw [isFront, List.length_append] at enough; exact Nat.le_of_succ_le_succ enough)
        ran
      refine ⟨lastQueues, requests.trans ?_, running, fun id => ?_, fun id => ?_⟩
      · rw [isMarked]
        exact spec.requests
      · obtain ⟨runningCount, waitingCounted⟩ :=
          @QueuedOnce.preempted_counts _ _ _ _ [] _ _ spec perm id
        have markedCount : marked.waitingCount [] id = mid.waitingCount [] id := by
          rw [isMarked]
          rfl
        have midRunning : mid.running = front := spec.running
        rw [waiting, markedRunning, markedCount, ← midRunning]
        omega
      · rw [record, markedRunning, isFront]
        by_cases same : id = victim
        · rw [same, if_neg nodup.1, atVictim, if_pos (by simp)]
        · rw [others id same]
          simp only [List.mem_append, List.mem_singleton, same, or_false]

theorem resetPrefixCache_spec {resetRunningRequests successful : Bool} (queues : self.QueuedOnce [])
    (ran : self.resetPrefixCache env config resetRunningRequests = .ok (successful, next)) :
    next.QueuedOnce [] ∧ next.requests = self.requests ∧
      next.running = (if resetRunningRequests = true then [] else self.running) ∧
      (∀ id, next.running.count id + next.waitingCount [] id =
        self.running.count id + self.waitingCount [] id) ∧
      ∀ id, next.request id =
        if resetRunningRequests = true ∧ id ∈ self.running then resetRecord (self.request id)
        else self.request id := by
  obtain ⟨mid, preempting, ran⟩ := bind_eq_ok.mp ran
  obtain ⟨⟨answer, kv⟩, -, ran⟩ := bind_eq_ok.mp ran
  have same : next.request = mid.request ∧ next.requests = mid.requests ∧
      (mid.QueuedOnce [] → next.QueuedOnce []) ∧ next.running = mid.running ∧
      ∀ id, next.waitingCount [] id = mid.waitingCount [] id := by
    dsimp only at ran
    split at ran
    next => cases ran
    next =>
      cases ran
      exact ⟨rfl, rfl, fun queues => queues.of_counts (fun _ => rfl) (fun _ => rfl) fun _ _ => .rfl,
        rfl, fun _ => rfl⟩
  cases resetRunningRequests with
  | true =>
    obtain ⟨preempted, all, preempting⟩ := bind_eq_ok.mp preempting
    cases preempting
    obtain ⟨lastQueues, requests, running, waiting, record⟩ := preemptAll_spec queues le_rfl all
    refine ⟨same.2.2.1 (lastQueues.of_counts (fun _ => rfl) (fun _ => rfl) fun _ _ => .rfl),
      same.2.1.trans requests, ?_, fun id => ?_, fun id => ?_⟩
    · rw [same.2.2.2.1, if_pos rfl]
      exact running
    · rw [same.2.2.2.1, same.2.2.2.2]
      show preempted.running.count id + preempted.waitingCount [] id = _
      rw [running, waiting, List.count_nil, Nat.zero_add]
    · rw [same.1]
      simpa using record id
  | false =>
    cases preempting
    refine ⟨same.2.2.1 queues, same.2.1, same.2.2.2.1, fun id => ?_, fun id => ?_⟩
    · rw [same.2.2.2.1, same.2.2.2.2]
    · rw [same.1]
      simp

theorem resetPrefixCache_plain {resetRunningRequests successful : Bool} (plain : self.Plain)
    (ran : self.resetPrefixCache env config resetRunningRequests = .ok (successful, next)) :
    next.Plain := by
  obtain ⟨queues, requests, -, -, record⟩ := resetPrefixCache_spec plain.queues ran
  refine ⟨queues, fun id isMember => ?_⟩
  rw [requests] at isMember
  rw [record]
  split
  · exact plain.resumable id isMember
  · exact plain.resumable id isMember

end Scheduler

/-! ## Runs -/

namespace System

structure IsFresh (system : System K) (id : ReqId) : Prop where
  requests : id ∉ system.scheduler.requests
  running : id ∉ system.scheduler.running
  waiting : system.scheduler.waitingCount [] id = 0
  inFlight : ∀ scheduled ∈ system.inFlight, id ∉ scheduled.numScheduledTokens.keys

/-- Requests are new, of ids that are not in use, and not streaming sessions. -/
def PlainEvent (system : System K) : Event → Prop
  | .add request => request.IsNew ∧ request.resumable = false ∧ system.IsFresh request.requestId
  | _ => True

theorem step_plain {system next : System K} {event : Event} (isPlain : system.PlainEvent event)
    (plain : system.scheduler.Plain) (ran : system.step env config event = .ok next) :
    next.scheduler.Plain := by
  cases event with
  | add request =>
    obtain ⟨scheduler, added, ran⟩ := bind_eq_ok.mp ran
    cases ran
    obtain ⟨isNew, notResumable, isFresh⟩ := isPlain
    exact Scheduler.addRequest_plain plain isFresh.requests isFresh.running isFresh.waiting isNew
      notResumable added
  | schedule =>
    obtain ⟨⟨output, scheduler⟩, scheduled, ran⟩ := bind_eq_ok.mp ran
    cases ran
    exact Scheduler.schedule_plain plain scheduled
  | output index output =>
    rw [step] at ran
    split at ran
    next => cases ran
    next =>
      obtain ⟨scheduler, updated, ran⟩ := bind_eq_ok.mp ran
      cases ran
      exact Scheduler.updateFromOutputOf_plain plain updated
  | drafts draftTokenIds =>
    cases ran
    exact foldl_preserves (P := Scheduler.Plain)
      (fun _ entry before => Scheduler.updateDraftTokenIds_plain before entry) plain
  | finish requestIds finishedStatus =>
    obtain ⟨scheduler, finished, ran⟩ := bind_eq_ok.mp ran
    cases ran
    exact Scheduler.finishRequests_plain plain finished
  | reset resetRunningRequests =>
    obtain ⟨⟨successful, scheduler⟩, reset, ran⟩ := bind_eq_ok.mp ran
    cases ran
    exact Scheduler.resetPrefixCache_plain plain reset

theorem IsInitial.plain {system : System K} (isInitial : system.IsInitial) :
    system.scheduler.Plain := by
  have noWaiting : ∀ id, system.scheduler.waitingCount [] id = 0 := by
    intro id
    rw [Scheduler.waitingCount, isInitial.waiting, isInitial.skippedWaiting]
    rfl
  refine ⟨⟨fun id => ?_, ?_, fun id isWaiting => ?_⟩, ?_⟩
  · rw [isInitial.running, noWaiting]
    exact Nat.zero_le 1
  · rw [isInitial.running]
    exact fun _ member => absurd member List.not_mem_nil
  · rw [noWaiting] at isWaiting
    exact absurd isWaiting (Nat.lt_irrefl 0)
  · rw [isInitial.requests]
    exact fun _ member => absurd member List.not_mem_nil

/-- The systems of the runs whose events `allowed` admits, each with the note an
observer has kept of the run so far. -/
inductive Observed {N : Type} (env : Collaborators K) (config : SchedulerConfig) (blank : N)
    (observe : N → System K → Event → System K → N)
    (allowed : System K → N → Event → Prop) : System K → N → Prop
  | initial {system : System K} (isInitial : system.IsInitial) :
      Observed env config blank observe allowed system blank
  | step {system next : System K} {note : N} (event : Event)
      (before : Observed env config blank observe allowed system note)
      (isAllowed : allowed system note event) (ran : system.step env config event = .ok next) :
      Observed env config blank observe allowed next (observe note system event next)

theorem Observed.mono {N : Type} {blank : N} {observe : N → System K → Event → System K → N}
    {allowed weaker : System K → N → Event → Prop} {system : System K} {note : N}
    (observed : Observed env config blank observe allowed system note)
    (implied : ∀ system note event, allowed system note event → weaker system note event) :
    Observed env config blank observe weaker system note := by
  induction observed with
  | initial isInitial => exact .initial isInitial
  | step event _ isAllowed ran ih =>
    exact ih.step event (implied _ _ event isAllowed) ran

end System

end DeepSpark
