import DeepSpark.Scheduler.Outputs
import DeepSpark.Scheduler.Visits

/-!
No request is lost, duplicated or resurrected.

Owns the counting invariant of the three queues, its preservation by every round
of `schedule` and by every other operation, and the runs in which it holds: those
in which no output stops a request that is not running while the request sits in
a queue the stop does not clear.
-/

namespace DeepSpark

open Lib Function Scheduler RequestQueue List

variable {K : Type} {env : Collaborators K} {config : SchedulerConfig}

namespace Scheduler

/-- In `self.requests` and not finished. -/
def isLive (self : Scheduler K) (id : ReqId) : Bool :=
  decide (id ∈ self.requests) && !(self.request id).isFinished

def isLiveRunning (self : Scheduler K) (id : ReqId) : Bool :=
  self.isLive id && decide ((self.request id).status = .running)

/-- How often a request is queued; `aside` holds the requests a loop put aside. -/
def occurrences (self : Scheduler K) (aside : List ReqId) (id : ReqId) : Nat :=
  self.running.count id + self.waiting.count id + self.skippedWaiting.count id + aside.count id

/-- A live request is queued once and any other request not at all, and `running`
holds the live requests with status `RUNNING`. -/
structure Placed (scheduler : Scheduler K) (aside : List ReqId) (id : ReqId) : Prop where
  once : scheduler.occurrences aside id = (scheduler.isLive id).toNat
  running : scheduler.running.count id = (scheduler.isLiveRunning id).toNat

structure Queues (scheduler : Scheduler K) (aside : List ReqId) : Prop where
  requestsNodup : scheduler.requests.Nodup
  placed : ∀ id, scheduler.Placed aside id

variable {self next : Scheduler K} {aside nextAside : List ReqId} {id : ReqId}

theorem isLive_congr (requests : id ∈ next.requests ↔ id ∈ self.requests)
    (status : (next.request id).status = (self.request id).status) :
    next.isLive id = self.isLive id := by
  simp only [isLive, Request.isFinished, requests, status]

theorem isLiveRunning_congr (requests : id ∈ next.requests ↔ id ∈ self.requests)
    (status : (next.request id).status = (self.request id).status) :
    next.isLiveRunning id = self.isLiveRunning id := by
  rw [isLiveRunning, isLiveRunning, isLive_congr requests status, status]

theorem isLive_of_status (isMember : id ∈ self.requests)
    (unfinished : (self.request id).status.isFinished = false) : self.isLive id = true := by
  simp [isLive, isMember, Request.isFinished, unfinished]

theorem isLiveRunning_of_status (isMember : id ∈ self.requests)
    (status : (self.request id).status = .running) : self.isLiveRunning id = true := by
  have live := isLive_of_status isMember (by rw [status]; rfl)
  simp [isLiveRunning, live, status]

theorem isLiveRunning_of_ne (status : (self.request id).status ≠ .running) :
    self.isLiveRunning id = false := by
  simp [isLiveRunning, status]

theorem mem_requests_of_isLive (live : self.isLive id = true) : id ∈ self.requests := by
  simp only [isLive, Bool.and_eq_true, decide_eq_true_eq] at live
  exact live.1

theorem unfinished_of_isLive (live : self.isLive id = true) :
    (self.request id).status.isFinished = false := by
  simp only [isLive, Request.isFinished, Bool.and_eq_true, Bool.not_eq_true'] at live
  exact live.2

namespace Placed

theorem congr (placed : self.Placed aside id)
    (running : next.running.count id = self.running.count id)
    (total : next.occurrences nextAside id = self.occurrences aside id)
    (requests : id ∈ next.requests ↔ id ∈ self.requests)
    (status : (next.request id).status = (self.request id).status) : next.Placed nextAside id := by
  refine ⟨?_, ?_⟩
  · rw [total, isLive_congr requests status]
    exact placed.once
  · rw [running, isLiveRunning_congr requests status]
    exact placed.running

theorem of_waiting (placed : self.Placed aside id)
    (isWaiting : 0 < self.waiting.count id + self.skippedWaiting.count id + aside.count id) :
    self.isLive id = true ∧ (self.request id).status ≠ .running ∧ self.running.count id = 0 ∧
      self.waiting.count id + self.skippedWaiting.count id + aside.count id = 1 := by
  have once := placed.once
  unfold occurrences at once
  have live : self.isLive id = true := by
    cases isLive : self.isLive id with
    | true => rfl
    | false =>
      rw [isLive, Bool.toNat_false] at once
      omega
  rw [live, Bool.toNat_true] at once
  have notRunning : self.running.count id = 0 := by omega
  refine ⟨live, fun status => ?_, notRunning, by omega⟩
  have running := placed.running
  rw [isLiveRunning_of_status (mem_requests_of_isLive live) status, Bool.toNat_true] at running
  omega

theorem of_running (placed : self.Placed aside id) (isRunning : 0 < self.running.count id) :
    self.isLive id = true ∧ (self.request id).status = .running ∧ self.running.count id = 1 ∧
      self.waiting.count id + self.skippedWaiting.count id + aside.count id = 0 := by
  have once := placed.once
  have running := placed.running
  unfold occurrences at once
  have liveRunning : self.isLiveRunning id = true := by
    cases liveRunning : self.isLiveRunning id with
    | true => rfl
    | false =>
      rw [liveRunning, Bool.toNat_false] at running
      omega
  have parts := liveRunning
  simp only [isLiveRunning, Bool.and_eq_true, decide_eq_true_eq] at parts
  rw [liveRunning, Bool.toNat_true] at running
  rw [parts.1, Bool.toNat_true] at once
  exact ⟨parts.1, parts.2, running, by omega⟩

theorem of_finished (finished : (self.request id).status.isFinished = true)
    (running : self.running.count id = 0) (total : self.occurrences aside id = 0) :
    self.Placed aside id := by
  have notLive : self.isLive id = false := by
    simp [isLive, Request.isFinished, finished]
  refine ⟨?_, ?_⟩
  · rw [total, notLive, Bool.toNat_false]
  · rw [running, isLiveRunning, notLive]
    rfl

/-- A live request in one waiting queue, with any status but `RUNNING`. -/
theorem waiting_of_status (isMember : id ∈ self.requests)
    (unfinished : (self.request id).status.isFinished = false)
    (status : (self.request id).status ≠ .running) (running : self.running.count id = 0)
    (once : self.waiting.count id + self.skippedWaiting.count id + aside.count id = 1) :
    self.Placed aside id := by
  refine ⟨?_, ?_⟩
  · rw [isLive_of_status isMember unfinished, Bool.toNat_true, occurrences]
    omega
  · rw [isLiveRunning_of_ne status, running, Bool.toNat_false]

end Placed

namespace Queues

theorem of_one (queues : self.Queues aside) (id : ReqId) (requests : next.requests = self.requests)
    (others : ∀ other, other ≠ id → (next.request other).status = (self.request other).status)
    (running : ∀ other, other ≠ id → next.running.count other = self.running.count other)
    (total : ∀ other, other ≠ id →
      next.occurrences nextAside other = self.occurrences aside other)
    (atId : next.Placed nextAside id) : next.Queues nextAside := by
  refine ⟨by rw [requests]; exact queues.requestsNodup, fun other => ?_⟩
  by_cases same : other = id
  · rw [same]
    exact atId
  · exact (queues.placed other).congr (running other same) (total other same) (by rw [requests])
      (others other same)

theorem of_same (queues : self.Queues aside) (requests : next.requests = self.requests)
    (status : ∀ id, (next.request id).status = (self.request id).status)
    (running : next.running = self.running) (waiting : next.waiting = self.waiting)
    (skipped : next.skippedWaiting = self.skippedWaiting) : next.Queues aside := by
  refine ⟨by rw [requests]; exact queues.requestsNodup, fun id => ?_⟩
  apply (queues.placed id).congr (by rw [running]) _ (by rw [requests]) (status id)
  rw [occurrences, occurrences, running, waiting, skipped]

end Queues

theorem modifyRequest_status {change : Request → Request}
    (keeps : ∀ request, (change request).status = request.status) (id other : ReqId) :
    ((self.modifyRequest id change).request other).status = (self.request other).status := by
  by_cases same : other = id
  · rw [same, modifyRequest_self, keeps]
  · rw [modifyRequest_of_ne _ _ same]

theorem Queues.modify (queues : self.Queues aside) (id : ReqId) {change : Request → Request}
    (status : ∀ request, (change request).status = request.status) :
    (self.modifyRequest id change).Queues aside :=
  queues.of_same (by rfl) (modifyRequest_status status id) (by rfl) (by rfl) (by rfl)

/-- A request taken out of `running` and preempted is waiting. -/
theorem Preempted.queues {victim : ReqId} {running : List ReqId}
    (spec : Preempted env { self with running := running } next victim) (queues : self.Queues aside)
    (perm : self.running.Perm (victim :: running)) : next.Queues aside := by
  have victimCount : self.running.count victim = running.count victim + 1 := by
    rw [perm.count_eq, count_cons_self]
  obtain ⟨live, -, once, notWaiting⟩ := (queues.placed victim).of_running (by omega)
  apply queues.of_one victim spec.requests
  · intro other differ
    rw [spec.request, update_of_ne differ]
  · intro other differ
    rw [spec.running, perm.count_eq, count_cons_of_ne (Ne.symm differ)]
  · intro other differ
    rw [occurrences, occurrences, spec.running, spec.waiting.count_eq, spec.skippedWaiting,
      perm.count_eq, count_cons_of_ne (Ne.symm differ), count_cons_of_ne (Ne.symm differ)]
  · apply Placed.waiting_of_status
    · rw [spec.requests]
      exact mem_requests_of_isLive live
    · rw [spec.request, update_self]
      rfl
    · rw [spec.request, update_self]
      exact nofun
    · rw [spec.running]
      show running.count victim = 0
      omega
    · rw [spec.waiting.count_eq, count_cons_self, spec.skippedWaiting]
      show self.waiting.count victim + 1 + self.skippedWaiting.count victim + _ = 1
      omega

end Scheduler

/-! ## Rounds of `schedule` -/

namespace ScheduleState

open Scheduler

variable {state next : ScheduleState K}

/-- The invariant during `schedule`. -/
def Queued (state : ScheduleState K) : Prop := state.self.Queues state.stepSkippedWaiting

theorem preempt_queued {taken : ScheduleState K} {victim : ReqId} {self : Scheduler K}
    (queued : state.Queued) (took : state.takeVictim env config = .ok (victim, taken))
    (ran : taken.self.preemptRequest env config victim = .ok self) :
    self.Queues taken.stepSkippedWaiting := by
  obtain ⟨running, perm, takenSelf, isTaken⟩ := takeVictim_eq took
  have sameAside : taken.stepSkippedWaiting = state.stepSkippedWaiting := by
    rcases isTaken with rfl | ⟨-, rfl⟩ <;> rfl
  have spec := preemptRequest_spec ran
  rw [takenSelf] at spec
  rw [sameAside]
  exact spec.queues queued perm

theorem Popped.placed {id : ReqId} (popped : Popped state next id) (queued : state.Queued) :
    state.self.isLive id = true ∧ (state.self.request id).status ≠ .running ∧
      next.self.running.count id = 0 ∧
      next.self.waiting.count id + next.self.skippedWaiting.count id +
        state.stepSkippedWaiting.count id = 0 := by
  have counted := popped.counts id
  rw [count_singleton_self] at counted
  obtain ⟨live, status, notRunning, once⟩ := (queued.placed id).of_waiting (by omega)
  rw [popped.running]
  exact ⟨live, status, notRunning, by omega⟩

theorem Popped.counts_of_ne {id other : ReqId} (popped : Popped state next id) (differ : other ≠ id) :
    next.self.waiting.count other + next.self.skippedWaiting.count other =
      state.self.waiting.count other + state.self.skippedWaiting.count other := by
  have counted := popped.counts other
  rw [count_singleton, beq_false_of_ne (Ne.symm differ)] at counted
  simpa using counted.symm

theorem skip_queued {fromSkipped : Bool} {id : ReqId} (queued : state.Queued)
    (peeked : peekRequest (state.waitingQueue fromSkipped) = .ok id)
    (ran : state.skipWaiting config fromSkipped id = .ok next) : next.Queued := by
  obtain ⟨popped, pop, rfl⟩ := skipWaiting_eq ran
  have spec := popWaiting_spec pop peeked
  have aside : ∀ other, (popped.prependSkipped config id).stepSkippedWaiting.count other =
      [id].count other + state.stepSkippedWaiting.count other := by
    intro other
    show (prependRequest config.policy _ _ _).count other = _
    rw [(prependRequest_perm config.policy _ _ _).count_eq, ← singleton_append,
      count_append, spec.rest]
  refine ⟨?_, fun other => ?_⟩
  · show popped.self.requests.Nodup
    rw [spec.requests]
    exact queued.requestsNodup
  · apply (queued.placed other).congr
    · show popped.self.running.count other = _
      rw [spec.running]
    · have counted := spec.counts other
      rw [occurrences, occurrences, aside]
      show popped.self.running.count other + popped.self.waiting.count other +
        popped.self.skippedWaiting.count other + _ = _
      rw [spec.running]
      omega
    · show other ∈ popped.self.requests ↔ _
      rw [spec.requests]
    · show (popped.self.request other).status = _
      rw [spec.request]

theorem load_queued {id : ReqId} {admission : Admission} {popped : ScheduleState K}
    (queued : state.Queued) (spec : Popped state popped id) :
    (popped.startRemoteLoad config id admission).Queued := by
  obtain ⟨live, -, notRunning, free⟩ := spec.placed queued
  have aside : ∀ other, (popped.startRemoteLoad config id admission).stepSkippedWaiting.count other =
      (id :: state.stepSkippedWaiting).count other := by
    intro other
    show (prependRequest config.policy _ _ _).count other = _
    rw [(prependRequest_perm config.policy _ _ _).count_eq, spec.rest]
  have request : (popped.startRemoteLoad config id admission).self.request =
      update state.self.request id { state.self.request id with
        status := .waitingForRemoteKvs
        numComputedTokens := admission.numComputedTokens } := by
    rw [startRemoteLoad_request, spec.request]
  apply queued.of_one id
  · exact spec.requests
  · intro other differ
    rw [request, update_of_ne differ]
  · intro other _
    show popped.self.running.count other = _
    rw [spec.running]
  · intro other differ
    have counted := spec.counts_of_ne differ
    rw [occurrences, occurrences, aside, count_cons_of_ne (Ne.symm differ)]
    show popped.self.running.count other + popped.self.waiting.count other +
      popped.self.skippedWaiting.count other + _ = _
    rw [spec.running]
    omega
  · apply Placed.waiting_of_status
    · show id ∈ popped.self.requests
      rw [spec.requests]
      exact mem_requests_of_isLive live
    · rw [request, update_self]
      rfl
    · rw [request, update_self]
      exact fun isRunning => nomatch isRunning
    · exact notRunning
    · rw [aside, count_cons_self]
      show popped.self.waiting.count id + popped.self.skippedWaiting.count id + _ = 1
      omega

theorem admit_queued {id : ReqId} {admission : Admission} {popped : ScheduleState K}
    (queued : state.Queued) (spec : Popped state popped id)
    (ran : popped.startRunning env config id admission = .ok next) : next.Queued := by
  obtain ⟨live, -, notRunning, free⟩ := spec.placed queued
  have started := startRunning_spec ran
  have sameAside : popped.stepSkippedWaiting = state.stepSkippedWaiting := by rw [spec.rest]
  apply queued.of_one id
  · rw [started.requests, spec.requests]
  · intro other differ
    rw [started.request, update_of_ne differ, spec.request]
  · intro other differ
    rw [started.running, count_append, count_singleton, beq_false_of_ne (Ne.symm differ),
      spec.running]
    rfl
  · intro other differ
    have counted := spec.counts_of_ne differ
    rw [occurrences, occurrences, started.running, count_append, count_singleton,
      beq_false_of_ne (Ne.symm differ), spec.running, started.waiting, started.skippedWaiting,
      started.stepSkippedWaiting, sameAside]
    simp only [Bool.false_eq_true, if_false]
    omega
  · have isMember : id ∈ next.self.requests := by
      rw [started.requests, spec.requests]
      exact mem_requests_of_isLive live
    have status : (next.self.request id).status = .running := by
      rw [started.request, update_self]
    refine ⟨?_, ?_⟩
    · rw [isLive_of_status isMember (by rw [status]; rfl), Bool.toNat_true, occurrences,
        started.running, count_append, count_singleton_self, started.waiting,
        started.skippedWaiting, started.stepSkippedWaiting, sameAside]
      omega
    · rw [isLiveRunning_of_status isMember status, Bool.toNat_true, started.running,
        count_append, count_singleton_self]
      omega

theorem requeue_queued (queued : state.Queued) : (state.requeueSkipped config).Queued := by
  have perm := prependRequests_perm config.policy state.self.requestLt
    state.self.skippedWaiting state.stepSkippedWaiting
  refine ⟨queued.requestsNodup, fun id => ?_⟩
  refine (queued.placed id).congr (by rfl) ?_ (by rfl) (by rfl)
  show state.self.running.count id + state.self.waiting.count id +
    (prependRequests config.policy _ _ _).count id + 0 = _
  rw [perm.count_eq, count_append, occurrences]
  omega

theorem promote_queued {fromSkipped promoted : Bool} {id : ReqId} {self : Scheduler K}
    (queued : state.Queued)
    (peeked : peekRequest (state.waitingQueue fromSkipped) = .ok id)
    (ran : tryPromoteBlockedWaitingRequest env state.self id = .ok (promoted, self)) :
    self.Queues state.stepSkippedWaiting := by
  obtain ⟨-, _, _, _, status, _, isStatus, rfl⟩ := tryPromote_eq ran
  have isWaiting : 0 < state.self.waiting.count id + state.self.skippedWaiting.count id := by
    unfold peekRequest at peeked
    split at peeked
    next => cases peeked
    next isQueue =>
      cases peeked
      have member : id ∈ state.waitingQueue fromSkipped := by
        rw [isQueue]
        exact mem_cons_self
      have positive := count_pos_iff.mpr member
      cases fromSkipped with
      | true => exact Nat.add_pos_right _ positive
      | false => exact Nat.add_pos_left positive _
  obtain ⟨live, notRunning, noRunning, once⟩ := (queued.placed id).of_waiting (by omega)
  have unfinished := unfinished_of_isLive live
  apply queued.of_one id
  · rfl
  · intro other differ
    exact congrArg Request.status (update_of_ne differ ..)
  · exact fun _ _ => rfl
  · exact fun _ _ => rfl
  · apply Placed.waiting_of_status
    · show id ∈ state.self.requests
      exact mem_requests_of_isLive live
    · show (update state.self.request id _ id).status.isFinished = false
      rw [update_self]
      rcases isStatus with rfl | rfl | rfl
      · exact unfinished
      · rfl
      · rfl
    · show (update state.self.request id _ id).status ≠ .running
      rw [update_self]
      rcases isStatus with rfl | rfl | rfl
      · exact notRunning
      · exact nofun
      · exact nofun
    · exact noRunning
    · exact once

theorem withKv_queued {kv : K} (queued : state.Queued) : (state.withKv kv).Queued :=
  queued.of_same (by rfl) (fun _ => by rfl) (by rfl) (by rfl) (by rfl)

theorem Round.queued (round : Round env config state next) (queued : state.Queued) :
    next.Queued := by
  cases round with
  | running round =>
    cases round with
    | reindex => exact queued
    | plan => exact withKv_queued queued
    | refuse => exact withKv_queued queued
    | @preempt taken victim self took _ _ ran =>
      have preempted : self.Queues taken.stepSkippedWaiting := preempt_queued queued took ran
      exact preempted
    | @run _ id =>
      refine queued.of_same (by rfl) (fun other => ?_) (by rfl) (by rfl) (by rfl)
      show (update state.self.request id _ other).status = _
      by_cases same : other = id
      · rw [same, update_self]
        rfl
      · rw [update_of_ne same]
    | loras ran =>
      obtain ⟨_, rfl⟩ := recordLoras_eq ran
      exact queued
  | waiting round =>
    cases round with
    | @promote _ _ _ self peeked ran =>
      have promoted : self.Queues state.stepSkippedWaiting := promote_queued queued peeked ran
      exact promoted
    | skip peeked ran => exact skip_queued queued peeked ran
    | lookup => exact withKv_queued queued
    | planWaiting => exact withKv_queued queued
    | refuseWaiting => exact withKv_queued queued
    | load peeked _ isLooked _ _ _ pop =>
      subst isLooked
      have spec := popWaiting_spec pop peeked
      exact load_queued (withKv_queued (withKv_queued queued)) spec
    | start peeked _ isLooked _ _ _ pop ran =>
      subst isLooked
      have spec := popWaiting_spec pop peeked
      exact admit_queued (withKv_queued (withKv_queued queued)) spec ran
    | requeue => exact requeue_queued queued

theorem Rounds.queued (rounds : Rounds env config state next) (queued : state.Queued) :
    next.Queued := by
  induction rounds with
  | refl => exact queued
  | tail _ round ih => exact Round.queued round ih

end ScheduleState

variable {finishedStatus : RequestStatus}

namespace Scheduler

variable {self next : Scheduler K} {id : ReqId}

theorem Queues.runningNodup (queues : self.Queues []) : self.running.Nodup := by
  rw [nodup_iff_count_le_one]
  intro id
  rw [(queues.placed id).running]
  cases self.isLiveRunning id <;> decide

theorem schedule_queues {output : SchedulerOutput} (queues : self.Queues [])
    (ran : self.schedule env config = .ok (output, next)) : next.Queues [] := by
  obtain ⟨state, loops, -, -, rfl⟩ := schedule_eq ran
  obtain ⟨rounds, aside⟩ := scheduleLoops_rounds queues.runningNodup loops
  have started : (self.beginSchedule env config).Queued :=
    queues.of_same (by rfl) (fun _ => by rfl) (by rfl) (by rfl) (by rfl)
  have queued : state.self.Queues [] := by
    have reached := ScheduleState.Rounds.queued rounds started
    unfold ScheduleState.Queued at reached
    rwa [aside] at reached
  obtain ⟨requests, running, waiting, skipped, -⟩ := @updateAfterSchedule_frame _ config
    { state.self with prevStepScheduledReqIds := output.numScheduledTokens.keys } output
  refine queued.of_same requests (fun id => ?_) running waiting skipped
  rw [updateAfterSchedule_request]
  cases output.numScheduledTokens.get? id with
  | none => rfl
  | some numScheduledToken => exact afterSchedule_status ..

/-! ## Outputs -/

theorem count_filter_notMem (ids removed : List ReqId) (id : ReqId) :
    (ids.filter fun other => other ∉ removed).count id =
      if id ∈ removed then 0 else ids.count id := by
  split
  next isRemoved =>
    rw [count_eq_zero]
    intro member
    have kept := (mem_filter.mp member).2
    rw [decide_eq_true_iff] at kept
    exact kept isRemoved
  next isKept => exact count_filter (by simpa using isKept)

/-- The scheduler once the requests that stopped so far have left their queues. -/
def UpdateState.settled (state : UpdateState K) : Scheduler K :=
  { state.self with
    running := state.self.running.filter fun id => id ∉ state.stoppedRunningReqs
    waiting := state.self.waiting.filter fun id => id ∉ state.stoppedPreemptedReqs }

/-- A request that stops without running leaves `waiting` only, so it has to be
there, or in the skipped queue if it comes back to `waiting` as a session. -/
def SafeStop (self : Scheduler K) (id : ReqId) (statusBeforeStop : RequestStatus) : Prop :=
  statusBeforeStop ≠ .running →
    if continuesWithUpdate (self.request id) then id ∈ self.skippedWaiting else id ∈ self.waiting

def SafeEntry (env : Collaborators K) (config : SchedulerConfig) (scheduled : SchedulerOutput)
    (output : ModelRunnerOutput) (state : UpdateState K) (entry : ReqId × Int) : Prop :=
  ∀ request, state.self.getRequest entry.1 = some request → request.isFinished = false →
    ∀ self : Scheduler K,
      (state.self.beforeOutput env config scheduled output entry.1).applyOutput env config output
        entry.1 = .ok (true, self) → SafeStop self entry.1 request.status

/-- Every stop in the loop of `update_from_output` is safe. -/
def SafeEntries (env : Collaborators K) (config : SchedulerConfig) (scheduled : SchedulerOutput)
    (output : ModelRunnerOutput) : UpdateState K → List (ReqId × Int) → Prop
  | _, [] => True
  | state, entry :: rest =>
    SafeEntry env config scheduled output state entry ∧
      ∀ next, UpdateState.updateRequest env config scheduled output state entry = .ok next →
        SafeEntries env config scheduled output next rest

namespace UpdateState

variable {scheduled : SchedulerOutput} {output : ModelRunnerOutput} {state next : UpdateState K}

theorem settled_running_count (state : UpdateState K) (id : ReqId) :
    state.settled.running.count id =
      if id ∈ state.stoppedRunningReqs then 0 else state.self.running.count id :=
  count_filter_notMem ..

theorem settled_waiting_count (state : UpdateState K) (id : ReqId) :
    state.settled.waiting.count id =
      if id ∈ state.stoppedPreemptedReqs then 0 else state.self.waiting.count id :=
  count_filter_notMem ..

/-- The invariant of the loop: the queues are sound once the stopped requests
have left them. -/
structure Settles (state : UpdateState K) : Prop where
  queues : state.settled.Queues []
  runningNodup : state.self.running.Nodup

theorem Settles.placed_of_fresh (settles : state.Settles) (fresh : id ∉ state.stoppedRunningReqs)
    (freshPreempted : id ∉ state.stoppedPreemptedReqs) (isMember : id ∈ state.self.requests)
    (unfinished : (state.self.request id).isFinished = false) :
    state.self.running.count id + state.self.waiting.count id +
        state.self.skippedWaiting.count id = 1 ∧
      state.self.running.count id = if (state.self.request id).status = .running then 1 else 0 := by
  have placed := settles.queues.placed id
  have live : state.settled.isLive id = true := isLive_of_status isMember unfinished
  have once := placed.once
  have running := placed.running
  have sameSkipped : state.settled.skippedWaiting = state.self.skippedWaiting := rfl
  rw [occurrences, settled_running_count, settled_waiting_count, if_neg fresh,
    if_neg freshPreempted, live, sameSkipped] at once
  rw [settled_running_count, if_neg fresh, isLiveRunning, live] at running
  refine ⟨by simpa using once, ?_⟩
  rw [running]
  show (true && decide ((state.self.request id).status = .running)).toNat = _
  by_cases isRunning : (state.self.request id).status = .running <;> simp [isRunning]

theorem Settles.stop {self : Scheduler K} {running preempted : List ReqId} (settles : state.Settles)
    (requests : ∀ other, other ≠ id → (other ∈ self.requests ↔ other ∈ state.self.requests))
    (requestsNodup : self.requests.Nodup) (sameRunning : self.running = state.self.running)
    (waiting : ∀ other, other ≠ id → self.waiting.count other = state.self.waiting.count other)
    (skipped : ∀ other, other ≠ id →
      self.skippedWaiting.count other = state.self.skippedWaiting.count other)
    (others : ∀ other, other ≠ id → self.request other = state.self.request other)
    (inRunning : ∀ other, other ≠ id → (other ∈ running ↔ other ∈ state.stoppedRunningReqs))
    (inPreempted : ∀ other, other ≠ id → (other ∈ preempted ↔ other ∈ state.stoppedPreemptedReqs))
    (atId : (settled ⟨self, running, preempted⟩).Placed [] id) :
    Settles ⟨self, running, preempted⟩ := by
  refine ⟨⟨requestsNodup, fun other => ?_⟩, by rw [sameRunning]; exact settles.runningNodup⟩
  by_cases same : other = id
  · rw [same]
    exact atId
  · refine (settles.queues.placed other).congr ?_ ?_ (requests other same) ?_
    · rw [settled_running_count, settled_running_count]
      simp only [inRunning other same, sameRunning]
    · rw [occurrences, occurrences, settled_running_count, settled_running_count,
        settled_waiting_count, settled_waiting_count]
      show _ + _ + self.skippedWaiting.count other + _ = _ + _ + state.self.skippedWaiting.count other + _
      simp only [inRunning other same, inPreempted other same, sameRunning, waiting other same,
        skipped other same]
    · show (self.request other).status = (state.self.request other).status
      rw [others other same]

theorem Settles.continue {self : Scheduler K} (settles : state.Settles)
    (same : SameQueues state.self self id)
    (status : (self.request id).status = (state.self.request id).status) :
    Settles { state with self } := by
  refine ⟨settles.queues.of_same same.requests (fun other => ?_) ?_ ?_ same.skippedWaiting, ?_⟩
  · by_cases isId : other = id
    · rw [isId]
      exact status
    · exact congrArg Request.status (same.others other isId)
  · exact congrArg (List.filter fun id => id ∉ state.stoppedRunningReqs) same.running
  · exact congrArg (List.filter fun id => id ∉ state.stoppedPreemptedReqs) same.waiting
  · rw [show ({ state with self } : UpdateState K).self.running = self.running from rfl, same.running]
    exact settles.runningNodup

/-- The entry of a request that stops, with its two effects on the loop's state
taken apart. -/
theorem Settles.stopped {self handled final : Scheduler K} {finished : Bool}
    {running preempted : List ReqId} (settles : state.Settles)
    (same : SameQueues state.self self id)
    (isFinished : (self.request id).status.isFinished = true)
    (isMember : id ∈ state.self.requests)
    (handle : Handled config id self handled finished)
    (freed : (if finished then handled.freeRequest env config id else .ok handled) = .ok final)
    (inRunning : ∀ other, other ≠ id → (other ∈ running ↔ other ∈ state.stoppedRunningReqs))
    (inPreempted : ∀ other, other ≠ id → (other ∈ preempted ↔ other ∈ state.stoppedPreemptedReqs))
    (leftRunning : (if id ∈ running then 0 else state.self.running.count id) = 0)
    (whenFinished : continuesWithUpdate (self.request id) = false →
      (if id ∈ preempted then 0 else state.self.waiting.count id) = 0 ∧
        state.self.skippedWaiting.count id = 0)
    (whenResumed : continuesWithUpdate (self.request id) = true →
      (if id ∈ preempted then 0 else state.self.waiting.count id + 1) +
        state.self.skippedWaiting.count id = 1) :
    Settles ⟨final, running, preempted⟩ := by
  have nodup : state.self.requests.Nodup := settles.queues.requestsNodup
  have totals : ∀ scheduler : Scheduler K,
      (settled ⟨scheduler, running, preempted⟩).occurrences [] id =
        (if id ∈ running then 0 else scheduler.running.count id) +
          (if id ∈ preempted then 0 else scheduler.waiting.count id) +
          scheduler.skippedWaiting.count id := by
    intro scheduler
    rw [occurrences, settled_running_count, settled_waiting_count]
    rfl
  -- with an update, or to wait for one, the request goes back to one of the queues
  have requeued : handled.requests = self.requests → handled.running = self.running →
      (∀ other, other ≠ id → handled.request other = self.request other) →
      ∀ {status}, (handled.request id).status = status → status.isFinished = false → status ≠ .running →
      (∀ other, other ≠ id → handled.waiting.count other = state.self.waiting.count other) →
      (∀ other, other ≠ id → handled.skippedWaiting.count other = state.self.skippedWaiting.count other) →
      (if id ∈ preempted then 0 else handled.waiting.count id) + handled.skippedWaiting.count id = 1 →
      Settles ⟨handled, running, preempted⟩ := by
    rintro requests runningEq others _ rfl alive notRunning waiting skipped once
    apply settles.stop
    · intro other _
      rw [requests, same.requests]
    · rw [requests, same.requests]
      exact nodup
    · exact runningEq.trans same.running
    · exact waiting
    · exact skipped
    · exact fun other differ => (others other differ).trans (same.others other differ)
    · exact inRunning
    · exact inPreempted
    · apply Placed.waiting_of_status
      · show id ∈ handled.requests
        rw [requests, same.requests]
        exact isMember
      · exact alive
      · exact notRunning
      · rw [settled_running_count]
        rw [runningEq, same.running]
        exact leftRunning
      · rw [settled_waiting_count]
        exact once
  cases handle with
  | finished sameHandled noUpdate status _ =>
    obtain ⟨requests, request, runningEq, waitingEq, skippedEq, -⟩ := freeRequest_spec freed
    have both := same.trans sameHandled
    rw [both.requests] at requests
    have sameRunning : final.running = state.self.running := runningEq.trans both.running
    have sameWaiting : final.waiting = state.self.waiting := waitingEq.trans both.waiting
    have sameSkipped : final.skippedWaiting = state.self.skippedWaiting :=
      skippedEq.trans both.skippedWaiting
    obtain ⟨noWaiting, noSkipped⟩ := whenFinished noUpdate
    apply settles.stop
    · intro other differ
      rcases requests with requests | requests <;> rw [requests]
      exact mem_erase_of_ne differ
    · rcases requests with requests | requests <;> rw [requests]
      · exact nodup
      · exact nodup.erase id
    · exact sameRunning
    · exact fun other _ => by rw [sameWaiting]
    · exact fun other _ => by rw [sameSkipped]
    · exact fun other differ => by rw [request]; exact both.others other differ
    · exact inRunning
    · exact inPreempted
    · apply Placed.of_finished
      · show (final.request id).status.isFinished = true
        rw [request, status]
        exact isFinished
      · rw [settled_running_count]
        rw [sameRunning]
        exact leftRunning
      · rw [totals, sameRunning, sameWaiting, sameSkipped]
        omega
  | resumed requests runningEq waitingPerm skippedEq others hasUpdate status _ =>
    cases freed
    have waitingCount : ∀ other, handled.waiting.count other =
        (id :: state.self.waiting).count other := by
      intro other
      rw [waitingPerm.count_eq, same.waiting]
    have resumed := whenResumed hasUpdate
    refine requeued requests runningEq others status rfl nofun (fun other differ => ?_)
      (fun other _ => by rw [skippedEq, same.skippedWaiting]) ?_
    · rw [waitingCount, count_cons_of_ne (Ne.symm differ)]
    · rw [waitingCount, count_cons_self, skippedEq, same.skippedWaiting]
      exact resumed
  | waits requests runningEq waitingEq skippedPerm others noUpdate status _ =>
    cases freed
    have skippedCount : ∀ other, handled.skippedWaiting.count other =
        (id :: state.self.skippedWaiting).count other := by
      intro other
      rw [skippedPerm.count_eq, same.skippedWaiting]
    obtain ⟨noWaiting, noSkipped⟩ := whenFinished noUpdate
    refine requeued requests runningEq others status rfl nofun
      (fun other _ => by rw [waitingEq, same.waiting]) (fun other differ => ?_) ?_
    · rw [skippedCount, count_cons_of_ne (Ne.symm differ)]
    · rw [waitingEq, same.waiting, skippedCount, count_cons_self, noWaiting, noSkipped]

theorem Settles.entered (settles : state.Settles) (fresh : id ∉ state.stoppedRunningReqs)
    (freshPreempted : id ∉ state.stoppedPreemptedReqs) {numTokens : Int}
    (safe : SafeEntry env config scheduled output state (id, numTokens))
    (entered : Entered env config scheduled output state id next) : next.Settles := by
  cases entered with
  | gone => exact settles
  | @continued self _ _ applied =>
    have outcome := applyOutput_applied applied
    have same := (beforeOutput_sameQueues state.self scheduled output id).trans outcome.sameQueues
    refine settles.continue same ?_
    obtain ⟨computed, placeholders, rejected⟩ := @rejectDrafts_frame config
      ((scheduled.scheduledSpecDecodeTokens.get? id).getD []) (output.sampledTokenIds id)
      (state.self.request id)
    rw [outcome.status.2 rfl, beforeOutput_request, rejected]
  | @stopped self handled final finished isMember unfinished applied handle freed =>
    have outcome := applyOutput_applied applied
    have same := (beforeOutput_sameQueues state.self scheduled output id).trans outcome.sameQueues
    have isFinished := outcome.status.1 rfl
    have handledSpec := handleStoppedRequest_handled handle
    obtain ⟨once, running⟩ := settles.placed_of_fresh fresh freshPreempted isMember unfinished
    have known : state.self.getRequest id = some (state.self.request id) := by
      rw [getRequest, if_pos isMember]
    split
    next isRunning =>
      rw [if_pos isRunning] at running
      refine settles.stopped same isFinished isMember handledSpec freed ?_ (fun _ _ => Iff.rfl)
        ?_ ?_ ?_
      · intro other differ
        simp [differ]
      · simp
      · intro _
        rw [if_neg freshPreempted]
        omega
      · intro _
        rw [if_neg freshPreempted]
        omega
    next notRunning =>
      rw [if_neg notRunning] at running
      have position := safe _ known unfinished self applied notRunning
      dsimp only at position
      refine settles.stopped same isFinished isMember handledSpec freed (fun _ _ => Iff.rfl) ?_
        ?_ ?_ ?_
      · intro other differ
        simp [differ]
      · rw [if_neg fresh]
        exact running
      · intro noUpdate
        rw [noUpdate, if_neg (by decide), same.waiting] at position
        have isWaiting := count_pos_iff.mpr position
        rw [if_pos (by simp)]
        omega
      · intro hasUpdate
        rw [hasUpdate, if_pos rfl, same.skippedWaiting] at position
        have isSkipped := count_pos_iff.mpr position
        rw [if_pos (by simp)]
        omega

theorem Entered.stoppedReqs (entered : Entered env config scheduled output state id next) :
    (∀ other, other ∈ next.stoppedRunningReqs → other = id ∨ other ∈ state.stoppedRunningReqs) ∧
      (∀ other, other ∈ next.stoppedPreemptedReqs →
        other = id ∨ other ∈ state.stoppedPreemptedReqs) := by
  cases entered with
  | gone => exact ⟨fun _ => .inr, fun _ => .inr⟩
  | continued => exact ⟨fun _ => .inr, fun _ => .inr⟩
  | stopped =>
    split
    · refine ⟨fun other member => ?_, fun _ => .inr⟩
      rcases mem_append.mp member with old | isNew
      · exact .inr old
      · exact .inl (mem_singleton.mp isNew)
    · refine ⟨fun _ => .inr, fun other member => ?_⟩
      rcases mem_append.mp member with old | isNew
      · exact .inr old
      · exact .inl (mem_singleton.mp isNew)

theorem Settles.loop {entries : List (ReqId × Int)} {final : UpdateState K}
    (settles : state.Settles) (nodup : (entries.map Prod.fst).Nodup)
    (fresh : ∀ entry ∈ entries, entry.1 ∉ state.stoppedRunningReqs ∧
      entry.1 ∉ state.stoppedPreemptedReqs)
    (safe : SafeEntries env config scheduled output state entries)
    (ran : entries.foldlM (updateRequest env config scheduled output) state = .ok final) :
    final.Settles := by
  induction entries generalizing state with
  | nil =>
    cases ran
    exact settles
  | cons entry rest ih =>
    obtain ⟨next, ranEntry, ranRest⟩ := bind_eq_ok.mp ran
    rw [map_cons, nodup_cons] at nodup
    have entered := (updateRequest_entered ranEntry).2
    have isFresh := fresh entry mem_cons_self
    have settlesNext := settles.entered isFresh.1 isFresh.2 safe.1 entered
    refine ih settlesNext nodup.2 ?_ (safe.2 next ranEntry) ranRest
    intro other member
    have differ : other.1 ≠ entry.1 := by
      intro same
      exact nodup.1 (mem_map.mpr ⟨other, member, same⟩)
    obtain ⟨fromRunning, fromPreempted⟩ := entered.stoppedReqs
    have old := fresh other (mem_cons_of_mem _ member)
    refine ⟨fun isStopped => ?_, fun isStopped => ?_⟩
    · exact (fromRunning _ isStopped).elim differ old.1
    · exact (fromPreempted _ isStopped).elim differ old.2

end UpdateState

theorem removeAll_perm {ids : List ReqId} (nodup : ids.Nodup) (items : List ReqId) :
    removeAll ids items = ids.filter fun id => id ∉ items := by
  unfold removeAll
  split
  next => simp
  next item =>
    rw [nodup.erase_eq_filter]
    apply filter_congr
    intro id _
    by_cases same : id = item <;> simp [same]
  next => rfl

theorem removeRequests_count (lt : ReqId → ReqId → Bool) (queue items : List ReqId) (id : ReqId) :
    (if items.isEmpty then queue
      else removeRequests config.policy lt queue items).count id =
        if id ∈ items then 0 else queue.count id := by
  split
  next isEmpty => rw [isEmpty_iff.mp isEmpty, if_neg not_mem_nil]
  next =>
    rw [(removeRequests_perm ..).count_eq]
    exact count_filter_notMem ..

theorem freeBlocks_queues (queues : self.Queues []) (ran : self.freeBlocks env id = .ok next) :
    next.Queues [] := by
  obtain ⟨_, checked, ran⟩ := bind_eq_ok.mp ran
  obtain ⟨kv, -, ran⟩ := bind_eq_ok.mp ran
  cases ran
  have finished := pyAssert_eq_ok.mp checked
  refine ⟨queues.requestsNodup.erase id, fun other => ?_⟩
  have placed := queues.placed other
  by_cases same : other = id
  · subst same
    have notLive : self.isLive other = false := by
      simp [isLive, finished]
    have once := placed.once
    rw [notLive, Bool.toNat_false] at once
    refine Placed.of_finished finished ?_ once
    show self.running.count other = 0
    unfold occurrences at once
    omega
  · exact placed.congr (by rfl) (by rfl) (mem_erase_of_ne same) (by rfl)

theorem finishRecving_queues (queues : self.Queues []) (ran : self.finishRecving env id = .ok next) :
    next.Queues [] := by
  obtain ⟨_, -, ran⟩ := bind_eq_ok.mp ran
  split at ran
  next =>
    cases ran
    exact queues.of_same (by rfl) (fun _ => by rfl) (by rfl) (by rfl) (by rfl)
  next => exact freeBlocks_queues queues ran

theorem finishSending_queues (queues : self.Queues []) (ran : self.finishSending env id = .ok next) :
    next.Queues [] := by
  obtain ⟨_, -, ran⟩ := bind_eq_ok.mp ran
  exact freeBlocks_queues queues ran

theorem updateFromOutput_queues {scheduled : SchedulerOutput} {output : ModelRunnerOutput}
    (queues : self.Queues [])
    (safe : SafeEntries env config scheduled output { self } scheduled.numScheduledTokens.entries)
    (ran : self.updateFromOutput env config scheduled output = .ok next) : next.Queues [] := by
  obtain ⟨state, loop, ran⟩ := bind_eq_ok.mp ran
  obtain ⟨received, recving, sending⟩ := bind_eq_ok.mp ran
  have started : UpdateState.Settles (K := K) { self } := by
    refine ⟨queues.of_same (by rfl) (fun _ => by rfl) ?_ ?_ (by rfl), queues.runningNodup⟩
    · simp [UpdateState.settled]
    · simp [UpdateState.settled]
  have settles := started.loop scheduled.numScheduledTokens.nodup (fun _ _ => ⟨by simp, by simp⟩)
    safe loop
  have removed : Queues { state.self with
      running := removeAll state.self.running state.stoppedRunningReqs
      waiting :=
        if state.stoppedPreemptedReqs.isEmpty then state.self.waiting
        else removeRequests config.policy state.self.requestLt state.self.waiting
          state.stoppedPreemptedReqs } [] := by
    have sameRunning := removeAll_perm settles.runningNodup state.stoppedRunningReqs
    have sameWaiting : ∀ other, (if state.stoppedPreemptedReqs.isEmpty then state.self.waiting
        else removeRequests config.policy state.self.requestLt state.self.waiting
          state.stoppedPreemptedReqs).count other = state.settled.waiting.count other := by
      intro other
      rw [UpdateState.settled_waiting_count, removeRequests_count]
    refine ⟨settles.queues.requestsNodup, fun other => ?_⟩
    refine (settles.queues.placed other).congr ?_ ?_ (by rfl) (by rfl)
    · rw [sameRunning]
      rfl
    · rw [occurrences, occurrences, sameWaiting, sameRunning]
      rfl
  have afterRecving := foldlM_preserves (fun _ _ _ => finishRecving_queues) removed recving
  exact foldlM_preserves (fun _ _ _ => finishSending_queues) afterRecving sending

theorem foldl_queues {α : Type} {body : Scheduler K → α → Scheduler K}
    (keeps : ∀ (scheduler : Scheduler K) (item : α), body scheduler item = scheduler ∨
      ∃ id change, body scheduler item = scheduler.modifyRequest id change ∧
        ∀ request, (change request).status = request.status)
    (items : List α) (queues : self.Queues []) : (items.foldl body self).Queues [] := by
  induction items generalizing self with
  | nil => exact queues
  | cons item rest ih =>
    rw [foldl_cons]
    apply ih
    rcases keeps self item with same | ⟨id, change, isBody, status⟩
    · rw [same]
      exact queues
    · rw [isBody]
      exact queues.modify id status

theorem plantDraftPlaceholders_queues (counts : List (ReqId × Int)) (queues : self.Queues []) :
    (counts.foldl (plantDraftPlaceholders config) self).Queues [] := by
  apply foldl_queues _ counts queues
  intro scheduler entry
  unfold plantDraftPlaceholders
  split
  · exact .inl rfl
  · split
    · exact .inl rfl
    · exact .inr ⟨_, _, rfl, fun _ => rfl⟩

theorem updateDraftTokenIds_queues (drafts : List (ReqId × List TokenId)) (queues : self.Queues []) :
    (drafts.foldl (fun scheduler entry => scheduler.updateDraftTokenIds env entry) self).Queues [] := by
  apply foldl_queues _ drafts queues
  intro scheduler entry
  unfold updateDraftTokenIds
  split
  · exact .inl rfl
  · split
    · exact .inl rfl
    · exact .inr ⟨_, _, rfl, fun _ => rfl⟩

theorem updateFromOutputOf_queues {scheduled : SchedulerOutput} {output : ModelRunnerOutput}
    (queues : self.Queues [])
    (safe : SafeEntries env config scheduled output { self } scheduled.numScheduledTokens.entries)
    (ran : self.updateFromOutputOf env config scheduled output = .ok next) : next.Queues [] := by
  obtain ⟨updated, update, ran⟩ := bind_eq_ok.mp ran
  have updatedQueues := updateFromOutput_queues queues safe update
  split at ran
  next =>
    cases ran
    exact plantDraftPlaceholders_queues _ updatedQueues
  next =>
    cases ran
    exact updatedQueues

/-! ## Calls from outside -/

theorem finishRequest_spec (ran : self.finishRequest env config finishedStatus id = .ok next) :
    (next.requests = self.requests ∨ next.requests = self.requests.erase id) ∧
      next.request = update self.request id
        { self.request id with status := finishedStatus } ∧
      next.running = self.running ∧ next.waiting = self.waiting ∧
      next.skippedWaiting = self.skippedWaiting := by
  unfold finishRequest at ran
  obtain ⟨requests, request, running, waiting, skipped, -⟩ := freeRequest_spec ran
  split at requests
  next =>
    rw [if_pos ‹_›] at request running waiting skipped
    exact ⟨requests, request, running, waiting, skipped⟩
  next =>
    rw [if_neg ‹_›] at request running waiting skipped
    exact ⟨requests, request, running, waiting, skipped⟩

/-- The second pass of `finish_requests`: every request is placed but the pending
ones, which are in no queue. -/
structure Finishing (scheduler : Scheduler K) (pending : List ReqId) : Prop where
  requestsNodup : scheduler.requests.Nodup
  placed : ∀ id, id ∉ pending → scheduler.Placed [] id
  absent : ∀ id, id ∈ pending → scheduler.running.count id = 0 ∧ scheduler.occurrences [] id = 0

theorem Finishing.loop (finished : finishedStatus.isFinished = true)
    {pending : List ReqId} (nodup : pending.Nodup) (finishing : self.Finishing pending)
    (ran : pending.foldlM (fun scheduler id =>
      scheduler.finishRequest env config finishedStatus id) self = .ok next) : next.Queues [] := by
  induction pending generalizing self with
  | nil =>
    cases ran
    exact ⟨finishing.requestsNodup, fun id => finishing.placed id not_mem_nil⟩
  | cons id rest ih =>
    obtain ⟨mid, ranFirst, ranRest⟩ := bind_eq_ok.mp ran
    obtain ⟨requests, request, running, waiting, skipped⟩ := finishRequest_spec ranFirst
    rw [nodup_cons] at nodup
    have total : ∀ other, mid.occurrences [] other = self.occurrences [] other := by
      intro other
      rw [occurrences, occurrences, running, waiting, skipped]
    refine ih nodup.2 ⟨?_, ?_, ?_⟩ ranRest
    · rcases requests with requests | requests <;> rw [requests]
      · exact finishing.requestsNodup
      · exact finishing.requestsNodup.erase id
    · intro other notPending
      by_cases same : other = id
      · subst same
        obtain ⟨noRunning, absent⟩ := finishing.absent other mem_cons_self
        apply Placed.of_finished
        · rw [request, update_self]
          exact finished
        · rw [running]
          exact noRunning
        · rw [total]
          exact absent
      · refine (finishing.placed other (by simp [same, notPending])).congr (by rw [running])
          (total other) ?_ ?_
        · rcases requests with requests | requests <;> rw [requests]
          exact mem_erase_of_ne same
        · rw [request, update_of_ne same]
    · intro other isPending
      obtain ⟨noRunning, absent⟩ := finishing.absent other (mem_cons_of_mem _ isPending)
      rw [running, total]
      exact ⟨noRunning, absent⟩

theorem finishRequests_queues {requestIds : Option (List ReqId)} (queues : self.Queues [])
    (ran : self.finishRequests env config requestIds finishedStatus = .ok next) :
    next.Queues [] := by
  obtain ⟨_, checked, ran⟩ := bind_eq_ok.mp ran
  have finished := pyAssert_eq_ok.mp checked
  set valid := (requestIds.getD self.requests).dedup.filter fun id =>
    id ∈ self.requests ∧ !(self.request id).isFinished with isValid
  set runningToRemove := valid.filter fun id => (self.request id).status = .running
    with isRunningToRemove
  set waitingToRemove := valid.filter fun id => (self.request id).status ≠ .running
    with isWaitingToRemove
  have mem_valid : ∀ id, id ∈ valid → id ∈ self.requests ∧ self.isLive id = true := by
    intro id member
    have parts := (mem_filter.mp member).2
    simp only [Bool.not_eq_true', decide_eq_true_eq] at parts
    exact ⟨parts.1, isLive_of_status parts.1 parts.2⟩
  have mem_running : ∀ id, id ∈ runningToRemove ↔ id ∈ valid ∧ (self.request id).status = .running := by
    intro id
    rw [isRunningToRemove, mem_filter, decide_eq_true_iff]
  have mem_waiting : ∀ id, id ∈ waitingToRemove ↔ id ∈ valid ∧ (self.request id).status ≠ .running := by
    intro id
    rw [isWaitingToRemove, mem_filter, decide_eq_true_iff]
  have runningCount : ∀ id, (removeAll self.running runningToRemove).count id =
      if id ∈ runningToRemove then 0 else self.running.count id := by
    intro id
    rw [removeAll_perm queues.runningNodup]
    exact count_filter_notMem ..
  have validNodup : valid.Nodup := (nodup_dedup _).filter _
  refine Finishing.loop finished validNodup ?_ ran
  refine ⟨queues.requestsNodup, ?_, ?_⟩
  · intro id notValid
    have keptRunning : id ∉ runningToRemove := fun member => notValid ((mem_running id).mp member).1
    have keptWaiting : id ∉ waitingToRemove := fun member => notValid ((mem_waiting id).mp member).1
    refine (queues.placed id).congr ?_ ?_ (by rfl) (by rfl)
    · rw [runningCount, if_neg keptRunning]
    · rw [occurrences, occurrences, runningCount, removeRequests_count, removeRequests_count,
        if_neg keptRunning, if_neg keptWaiting, if_neg keptWaiting]
  · intro id member
    obtain ⟨isMember, live⟩ := mem_valid id member
    have once := (queues.placed id).once
    have running := (queues.placed id).running
    rw [live, Bool.toNat_true, occurrences] at once
    have totals : ∀ runningLeft waitingLeft skippedLeft : Nat,
        (removeAll self.running runningToRemove).count id = runningLeft →
        (if waitingToRemove.isEmpty then self.waiting else removeRequests config.policy
          self.requestLt self.waiting waitingToRemove).count id = waitingLeft →
        (if waitingToRemove.isEmpty then self.skippedWaiting else removeRequests
          config.policy self.requestLt self.skippedWaiting waitingToRemove).count id = skippedLeft →
        runningLeft = 0 ∧ runningLeft + waitingLeft + skippedLeft + 0 = 0 := by
      intro runningLeft waitingLeft skippedLeft isRunning isWaiting isSkipped
      rw [runningCount] at isRunning
      rw [removeRequests_count] at isWaiting isSkipped
      by_cases status : (self.request id).status = .running
      · have inRunning : id ∈ runningToRemove := (mem_running id).mpr ⟨member, status⟩
        have notWaiting : id ∉ waitingToRemove := fun inWaiting =>
          ((mem_waiting id).mp inWaiting).2 status
        rw [isLiveRunning_of_status isMember status, Bool.toNat_true] at running
        rw [if_pos inRunning] at isRunning
        rw [if_neg notWaiting] at isWaiting isSkipped
        omega
      · have inWaiting : id ∈ waitingToRemove := (mem_waiting id).mpr ⟨member, status⟩
        have notRunning : id ∉ runningToRemove := fun inRunning =>
          status ((mem_running id).mp inRunning).2
        rw [isLiveRunning_of_ne status, Bool.toNat_false] at running
        rw [if_neg notRunning] at isRunning
        rw [if_pos inWaiting] at isWaiting isSkipped
        omega
    exact totals _ _ _ rfl rfl rfl

theorem enqueue_queues {request : Request} (queues : self.Queues []) (notMember : id ∉ self.requests)
    (unfinished : request.status.isFinished = false) (notRunning : request.status ≠ .running)
    (enqueued : Scheduler K)
    (isEnqueued : enqueued = (self.modifyRequest id fun _ => request).enqueueWaitingRequest config id) :
    Queues { enqueued with requests := enqueued.requests ++ [id] } [] := by
  have notLive : self.isLive id = false := by
    simp [isLive, notMember]
  have once := (queues.placed id).once
  rw [notLive, Bool.toNat_false, occurrences] at once
  have frame : enqueued.requests = self.requests ∧ enqueued.running = self.running ∧
      enqueued.request = update self.request id request ∧
      ∀ other, enqueued.waiting.count other + enqueued.skippedWaiting.count other =
        self.waiting.count other + self.skippedWaiting.count other + [id].count other := by
    rw [isEnqueued]
    unfold enqueueWaitingRequest
    split
    · refine ⟨rfl, rfl, rfl, fun other => ?_⟩
      show self.waiting.count other + (RequestQueue.addRequest ..).count other = _
      rw [(addRequest_perm ..).count_eq, ← singleton_append, count_append]
      show _ + (_ + self.skippedWaiting.count other) = _
      omega
    · refine ⟨rfl, rfl, rfl, fun other => ?_⟩
      show (RequestQueue.addRequest ..).count other + self.skippedWaiting.count other = _
      rw [(addRequest_perm ..).count_eq, ← singleton_append, count_append]
      show _ + self.waiting.count other + _ = _
      omega
  obtain ⟨requests, running, record, counts⟩ := frame
  refine ⟨?_, fun other => ?_⟩
  · show (enqueued.requests ++ [id]).Nodup
    rw [requests]
    exact nodup_append.mpr ⟨queues.requestsNodup, nodup_singleton id, by
      intro left inLeft right inRight same
      rw [mem_singleton] at inRight
      exact notMember (inRight ▸ same ▸ inLeft)⟩
  · have counted := counts other
    by_cases same : other = id
    · subst same
      rw [count_singleton_self] at counted
      apply Placed.waiting_of_status
      · exact mem_append_right _ mem_cons_self
      · show (enqueued.request other).status.isFinished = false
        rw [record, update_self]
        exact unfinished
      · show (enqueued.request other).status ≠ .running
        rw [record, update_self]
        exact notRunning
      · show enqueued.running.count other = 0
        rw [running]
        omega
      · show enqueued.waiting.count other + enqueued.skippedWaiting.count other + 0 = 1
        omega
    · rw [count_singleton, beq_false_of_ne (Ne.symm same)] at counted
      refine (queues.placed other).congr ?_ ?_ ?_ ?_
      · show enqueued.running.count other = _
        rw [running]
      · show enqueued.running.count other + enqueued.waiting.count other +
          enqueued.skippedWaiting.count other + 0 = _
        rw [running, occurrences]
        simp only [Bool.false_eq_true, if_false] at counted
        show _ = _ + 0
        omega
      · show other ∈ enqueued.requests ++ [id] ↔ _
        rw [requests, mem_append, mem_singleton]
        exact ⟨fun member => member.resolve_right same, .inl⟩
      · show (enqueued.request other).status = _
        rw [record, update_of_ne same]

theorem addRequest_queues {request : Request} (isNew : request.IsNew) (queues : self.Queues [])
    (ran : self.addRequest env config request = .ok next) : next.Queues [] := by
  unfold addRequest at ran
  dsimp only at ran
  split at ran
  next existing read =>
    have isMember : request.requestId ∈ self.requests := by
      by_contra notMember
      rw [getRequest, if_neg notMember] at read
      cases read
    rw [getRequest, if_pos isMember, Option.some.injEq] at read
    split at ran
    next =>
      split at ran
      next => cases ran
      next =>
        cases ran
        exact queues.modify _ fun _ => rfl
    next isStreaming =>
      have streaming : (self.request request.requestId).status = .waitingForStreamingReq := by
        rw [read]
        exact not_not.mp isStreaming
      split at ran
      next update _ =>
        obtain ⟨same, status, -⟩ := updateSession_spec ran
        have live : self.isLive request.requestId = true :=
          isLive_of_status isMember (by rw [streaming]; rfl)
        have once := (queues.placed request.requestId).once
        have running := (queues.placed request.requestId).running
        rw [live, Bool.toNat_true, occurrences] at once
        rw [isLiveRunning_of_ne (by rw [streaming]; exact nofun), Bool.toNat_false] at running
        apply queues.of_one request.requestId same.requests
        · exact fun other differ => congrArg Request.status (same.others other differ)
        · exact fun other _ => by rw [same.running]
        · exact fun other _ => by
            rw [occurrences, occurrences, same.running, same.waiting, same.skippedWaiting]
        · apply Placed.waiting_of_status
          · rw [same.requests]
            exact isMember
          · rw [status]
            rfl
          · rw [status]
            exact nofun
          · rw [same.running]
            exact running
          · rw [same.waiting, same.skippedWaiting]
            omega
      next => exact finishRequests_queues queues ran
  next read =>
    have notMember : request.requestId ∉ self.requests := by
      intro isMember
      rw [getRequest, if_pos isMember] at read
      cases read
    cases ran
    refine enqueue_queues queues notMember ?_ ?_ _ rfl
    · split <;> rcases isNew.status with status | status <;> simp only [status] <;> rfl
    · split <;> rcases isNew.status with status | status <;> simp only [status] <;> exact nofun

theorem preemptAll_queues {fuel : Nat} (queues : self.Queues [])
    (ran : preemptAll env config fuel self = .ok next) : next.Queues [] := by
  induction fuel generalizing self with
  | zero =>
    cases ran
    exact queues
  | succ fuel ih =>
    rw [preemptAll] at ran
    split at ran
    next =>
      cases ran
      exact queues
    next victim read =>
      obtain ⟨mid, preempted, ranRest⟩ := bind_eq_ok.mp ran
      obtain ⟨front, isFront⟩ := getLast?_eq_some_iff.mp read
      have perm : self.running.Perm (victim :: self.running.dropLast) := by
        rw [isFront, dropLast_concat]
        exact perm_append_singleton _ _
      have midQueues := (preemptRequest_spec preempted).queues queues perm
      apply ih _ ranRest
      exact midQueues.modify _ fun _ => rfl

theorem resetPrefixCache_queues {resetRunningRequests reset : Bool} (queues : self.Queues [])
    (ran : self.resetPrefixCache env config resetRunningRequests = .ok (reset, next)) :
    next.Queues [] := by
  obtain ⟨mid, preempted, ran⟩ := bind_eq_ok.mp ran
  obtain ⟨⟨successful, kv⟩, -, ran⟩ := bind_eq_ok.mp ran
  have midQueues : mid.Queues [] := by
    split at preempted
    next =>
      obtain ⟨all, ranAll, preempted⟩ := bind_eq_ok.mp preempted
      cases preempted
      exact (preemptAll_queues queues ranAll).of_same (by rfl) (fun _ => by rfl) (by rfl) (by rfl)
        (by rfl)
    next =>
      cases preempted
      exact queues
  dsimp only at ran
  split at ran
  next => cases ran
  next =>
    cases ran
    exact midQueues.of_same (by rfl) (fun _ => by rfl) (by rfl) (by rfl) (by rfl)

end Scheduler

variable {system : System K}

/-! ## Runs -/

namespace System

/-- New requests are as their constructor leaves them, and every stop of a
request that is not running is safe. -/
def SafeStops (env : Collaborators K) (config : SchedulerConfig) (system : System K) : Event → Prop
  | .add request => request.IsNew
  | .output index output => ∀ scheduled, system.inFlight[index]? = some scheduled →
      SafeEntries env config scheduled output { self := system.scheduler }
        scheduled.numScheduledTokens.entries
  | _ => True

theorem step_queues {next : System K} {event : Event} (safe : system.SafeStops env config event)
    (queues : system.scheduler.Queues []) (ran : system.step env config event = .ok next) :
    next.scheduler.Queues [] := by
  cases event with
  | add request =>
    obtain ⟨scheduler, added, ran⟩ := bind_eq_ok.mp ran
    cases ran
    exact addRequest_queues safe queues added
  | schedule =>
    obtain ⟨⟨output, scheduler⟩, scheduled, ran⟩ := bind_eq_ok.mp ran
    cases ran
    exact schedule_queues queues scheduled
  | output index output =>
    rw [step] at ran
    split at ran
    next => cases ran
    next scheduled read =>
      obtain ⟨scheduler, updated, ran⟩ := bind_eq_ok.mp ran
      cases ran
      exact updateFromOutputOf_queues queues (safe scheduled read) updated
  | drafts draftTokenIds =>
    cases ran
    exact updateDraftTokenIds_queues draftTokenIds queues
  | finish requestIds finishedStatus =>
    obtain ⟨scheduler, finished, ran⟩ := bind_eq_ok.mp ran
    cases ran
    exact finishRequests_queues queues finished
  | reset resetRunningRequests =>
    obtain ⟨⟨successful, scheduler⟩, reset, ran⟩ := bind_eq_ok.mp ran
    cases ran
    exact resetPrefixCache_queues queues reset

theorem IsInitial.queues (isInitial : system.IsInitial) :
    system.scheduler.Queues [] := by
  refine ⟨by rw [isInitial.requests]; exact nodup_nil, fun id => ?_⟩
  have notLive : system.scheduler.isLive id = false := by
    simp [isLive, isInitial.requests]
  refine ⟨?_, ?_⟩
  · rw [occurrences, isInitial.running, isInitial.waiting, isInitial.skippedWaiting,
      notLive]
    rfl
  · rw [isInitial.running, isLiveRunning, notLive]
    rfl

theorem reachable_queues (reachable : Reachable env config (SafeStops env config) system) :
    system.scheduler.Queues [] :=
  Reachable.induct (P := fun system => system.scheduler.Queues []) (fun _ => IsInitial.queues)
    (fun _ _ _ safe ran queues => step_queues safe queues ran) reachable

/-- In every run whose stops are safe: an unfinished request is in exactly one of
the three queues, once, and in `running` exactly if its status says so; no queue
holds a finished request or one that is not in `self.requests`. -/
theorem reachable_membership {system : System K}
    (reachable : Reachable env config (SafeStops env config) system) :
    (∀ id ∈ system.scheduler.requests, (system.scheduler.request id).isFinished = false →
      (system.scheduler.running ++ system.scheduler.waiting ++
          system.scheduler.skippedWaiting).count id = 1 ∧
        ((system.scheduler.request id).status = .running ↔ id ∈ system.scheduler.running)) ∧
    ∀ id ∈ system.scheduler.running ++ system.scheduler.waiting ++ system.scheduler.skippedWaiting,
      id ∈ system.scheduler.requests ∧ (system.scheduler.request id).isFinished = false := by
  have queues := reachable_queues reachable
  have total (id : ReqId) : (system.scheduler.running ++ system.scheduler.waiting ++
      system.scheduler.skippedWaiting).count id = (system.scheduler.isLive id).toNat := by
    have once := (queues.placed id).once
    rw [occurrences, count_nil, Nat.add_zero] at once
    rw [count_append, count_append]
    exact once
  constructor
  · intro id isMember unfinished
    have live := isLive_of_status isMember unfinished
    refine ⟨by rw [total id, live]; rfl, fun status => ?_, fun isRunning => ?_⟩
    · have running := (queues.placed id).running
      rw [isLiveRunning_of_status isMember status, Bool.toNat_true] at running
      exact count_pos_iff.mp (by omega)
    · exact ((queues.placed id).of_running (count_pos_iff.mpr isRunning)).2.1
  · intro id isQueued
    have positive := count_pos_iff.mpr isQueued
    rw [total id] at positive
    have live : system.scheduler.isLive id = true := by
      cases isLive : system.scheduler.isLive id with
      | true => rfl
      | false =>
        rw [isLive, Bool.toNat_false] at positive
        omega
    exact ⟨mem_requests_of_isLive live, unfinished_of_isLive live⟩

/-- A request is preempted while its step is in flight, and the output of the step ends it in `waiting`. -/
def preemptedEvents : List Event :=
  [.add (promptOf 0 [1]), .schedule, .schedule, .add (promptOf 1 [1]), .output 0 (sampledOutput [9])]

theorem reachable_membership_afterPreemption :
    ∃ system, (System.withSlots 1).run slotPool asyncConfig preemptedEvents = .ok system ∧
      system.scheduler.waiting = [1] ∧
      (system.scheduler.running ++ system.scheduler.waiting ++
          system.scheduler.skippedWaiting).count 1 = 1 := by
  refine ⟨_, rfl, by decide, ?_⟩
  refine ((reachable_membership (@reachable_of_run _ slotPool asyncConfig
    (SafeStops slotPool asyncConfig) _ _ (withSlots_isInitial 1) preemptedEvents ?_ rfl)).1 1
    (by decide) (by decide)).1
  intro index event before read ran
  match index, read with
  | 0, read =>
    cases read
    exact promptOf_isNew 0 [1]
  | 1, read =>
    cases read
    exact trivial
  | 2, read =>
    cases read
    exact trivial
  | 3, read =>
    cases read
    exact promptOf_isNew 1 [1]
  | 4, read =>
    cases read
    cases ran
    intro scheduled inFlight
    cases inFlight
    refine ⟨fun request isRequest _ stopped applied _ => ?_, fun _ _ => trivial⟩
    cases applied
    decide

/-- A session is preempted while its step is in flight and gets another turn
before the output that ends the first one. -/
def lostSessionEvents : List Event :=
  [.add { promptOf 0 [1] with resumable := true }, .schedule, .schedule,
    .add { promptOf 0 [2] with resumable := true }, .output 0 (sampledOutput [9])]

/-- The session was put back into `waiting` and then removed from it as a stopped
preempted request. -/
theorem lostSession : ∃ system,
    (System.withSlots 1).run slotPool asyncConfig lostSessionEvents = .ok system ∧
      0 ∈ system.scheduler.requests ∧ (system.scheduler.request 0).isFinished = false ∧
      system.scheduler.running ++ system.scheduler.waiting ++ system.scheduler.skippedWaiting = [] :=
  ⟨_, rfl, by decide, by decide, by decide⟩

end System

end DeepSpark
