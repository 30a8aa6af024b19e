import DeepSpark.Scheduler.System

/-!
What one call of `schedule` does to one request.

Owns `Visit`, the list of everything that can happen to a request between the
beginning of `schedule` and `_update_after_schedule`, and `schedule_visits`, which
derives it from the rounds of the two loops. An invariant of one request over
`schedule` is then a case analysis of `Visit`.
-/

namespace DeepSpark

open Lib Function Scheduler

variable {K : Type} {env : Collaborators K} {config : SchedulerConfig}

/-! ## Token bounds of a plan -/

namespace Scheduler

theorem mambaBlockAlignedSplit_le (config : SchedulerConfig) (request : Request) (numNewTokens : Int)
    (numLocal numExternal numUncached : Int) :
    mambaBlockAlignedSplit config request numNewTokens numLocal numExternal numUncached ≤
        numNewTokens ∨
      mambaBlockAlignedSplit config request numNewTokens numLocal numExternal numUncached = 0 := by
  have rounded : ∀ tokens : Int, tokens / (config.blockSize : Int) * config.blockSize ≤ tokens ∨
      tokens / (config.blockSize : Int) * config.blockSize = 0 := by
    intro tokens
    by_cases isZero : (config.blockSize : Int) = 0
    · exact .inr (by rw [isZero, mul_zero])
    · exact .inl (Int.ediv_mul_le _ isZero)
  unfold mambaBlockAlignedSplit
  dsimp only
  have first := rounded numNewTokens
  have second := rounded numUncached
  split
  next =>
    split
    next => split <;> split <;> omega
    next => split <;> (try split) <;> omega
  next => exact .inl le_rfl

theorem mambaBlockAlignedSplit_zero (request : Request) (numLocal numExternal numUncached : Int) :
    mambaBlockAlignedSplit config request 0 numLocal numExternal numUncached = 0 := by
  unfold mambaBlockAlignedSplit
  dsimp only
  rw [Int.zero_ediv, zero_mul]
  split
  next =>
    split
    next => split <;> split <;> omega
    next => split <;> (try split) <;> omega
  next => rfl

end Scheduler

variable {kv : K}

namespace ScheduleState

variable {state : ScheduleState K} {request : Request}

/-- The encoder gives a request no more tokens than were asked for, or it is a
multi-modal request that gets none. -/
theorem encoderPlan_le {numComputedTokens numNewTokens : Int} {plan : EncoderPlan}
    (ran : state.encoderPlan env config request numComputedTokens numNewTokens = .ok (plan, kv)) :
    plan.numNewTokens ≤ numNewTokens ∨
      request.hasEncoderInputs = true ∧ plan.numNewTokens = 0 := by
  unfold encoderPlan at ran
  split at ran
  next hasInputs =>
    exact (tryScheduleEncoderInputs_numNewTokens ran).imp_right fun none => ⟨hasInputs, none⟩
  next =>
    cases ran
    exact .inl le_rfl

theorem planRunning_le {plan : EncoderPlan}
    (ran : state.planRunning env config request = .ok (plan, kv)) :
    plan.numNewTokens ≤
        request.numTokensWithSpec + request.numOutputPlaceholders - request.numComputedTokens ∨
      plan.numNewTokens = 0 := by
  have asked : state.runningTokens config request ≤
      request.numTokensWithSpec + request.numOutputPlaceholders - request.numComputedTokens := by
    unfold runningTokens
    dsimp only
    split <;> omega
  obtain ⟨⟨encoder, encoderKv⟩, encoded, ran⟩ := bind_eq_ok.mp ran
  dsimp only at ran
  rcases encoderPlan_le encoded with bound | ⟨-, none⟩
  · split at ran
    next =>
      cases ran
      have cut := mambaBlockAlignedSplit_le config request
        encoder.numNewTokens 0 0 0
      exact cut.imp_left fun cut => (cut.trans bound).trans asked
    next =>
      cases ran
      exact .inl (bound.trans asked)
  · right
    split at ran
    next =>
      cases ran
      rw [none]
      exact mambaBlockAlignedSplit_zero ..
    next =>
      cases ran
      exact none

theorem planWaiting_le {found admission : Admission}
    (ran : state.planWaiting env config request found = .ok (.proceed admission, kv))
    (isLocal : admission.loadKvAsync = false) :
    admission.numComputedTokens + admission.numNewTokens ≤ request.numTokens := by
  unfold planWaiting at ran
  dsimp only at ran
  split at ran
  next isAsync =>
    obtain ⟨_, -, ran⟩ := bind_eq_ok.mp ran
    cases ran
    rw [isLocal] at isAsync
    exact absurd isAsync nofun
  next =>
    generalize isTokens : (if 0 < (config.longPrefillTokenThreshold : Int) ∧
      (config.longPrefillTokenThreshold : Int) < request.numTokens - found.numComputedTokens then
      (config.longPrefillTokenThreshold : Int) else request.numTokens - found.numComputedTokens) =
      tokens at ran
    have asked : tokens ≤ request.numTokens - found.numComputedTokens := by
      rw [← isTokens]
      split <;> omega
    split at ran
    next => cases ran
    next =>
      obtain ⟨_, -, ran⟩ := bind_eq_ok.mp ran
      obtain ⟨⟨encoder, encoderKv⟩, encoded, ran⟩ := bind_eq_ok.mp ran
      have bound : encoder.numNewTokens ≤ min tokens state.tokenBudget ∨
          request.hasEncoderInputs = true ∧ encoder.numNewTokens = 0 := encoderPlan_le encoded
      split at ran
      next => cases ran
      next enough =>
        have given : encoder.numNewTokens ≤ tokens :=
          (bound.resolve_right fun none => enough (by simp [none])).trans (min_le_left _ _)
        have cut := mambaBlockAlignedSplit_le config request
          encoder.numNewTokens found.numNewLocalComputedTokens found.numExternalComputedTokens
          found.numUncachedCommonPrefixTokens
        generalize mambaBlockAlignedSplit config request encoder.numNewTokens
          found.numNewLocalComputedTokens found.numExternalComputedTokens
          found.numUncachedCommonPrefixTokens = aligned at ran cut
        split at ran
        next needs =>
          split at ran
          next => cases ran
          next nonzero =>
            cases ran
            have cut := cut.resolve_right fun isZero => nonzero (by simp [needs, isZero])
            show found.numComputedTokens + aligned ≤ (request.numTokens : Int)
            omega
        next =>
          split at ran
          next => cases ran
          next =>
            cases ran
            show found.numComputedTokens + encoder.numNewTokens ≤ (request.numTokens : Int)
            omega

end ScheduleState

/-! ## Visits -/

/-- What the loops of one `schedule` do to a request: its record afterwards, its
tokens and its drafts. -/
inductive Visit (before : Request) : Request → Option Int → List TokenId → Prop
  | untouched : Visit before before none []
  | moved (status : RequestStatus) (numComputedTokens : Int) (wasWaiting : before.status ≠ .running)
      (isWaiting : status ≠ .running) :
      Visit before
        { before with status := status, numComputedTokens := numComputedTokens } none []
  | preempted (wasRunning : before.status = .running) :
      Visit before (preempted before) none []
  | ran (numNewTokens : Int) (wasRunning : before.status = .running) (nonzero : numNewTokens ≠ 0)
      (bound : numNewTokens ≤
        before.numTokensWithSpec + before.numOutputPlaceholders - before.numComputedTokens) :
      Visit before { before with specTokenIds := [] } (some numNewTokens)
        (ScheduleState.scheduledSpecTokens before numNewTokens)
  | started (numNewTokens numComputedTokens : Int) (wasWaiting : before.status ≠ .running)
      (bound : numComputedTokens + numNewTokens ≤ before.numTokens) :
      Visit before
        { before with status := .running, numComputedTokens := numComputedTokens }
        (some numNewTokens) []

namespace Visit

variable {before after : Request} {tokens : Option Int} {drafts : List TokenId}

theorem of_notRunning (visit : Visit before after tokens drafts)
    (notRunning : after.status ≠ .running) : tokens = none ∧ drafts = [] := by
  cases visit with
  | untouched => exact ⟨rfl, rfl⟩
  | moved => exact ⟨rfl, rfl⟩
  | preempted => exact ⟨rfl, rfl⟩
  | ran _ wasRunning => exact absurd wasRunning notRunning
  | started => exact absurd rfl notRunning

theorem of_unscheduled (visit : Visit before after none drafts)
    (isRunning : after.status = .running) : after = before ∧ drafts = [] := by
  cases visit with
  | untouched => exact ⟨rfl, rfl⟩
  | moved _ _ _ isWaiting => exact absurd isRunning isWaiting
  | preempted => cases isRunning

theorem of_waiting (visit : Visit before after tokens drafts) (notRunning : after.status ≠ .running)
    (unpreempted : before.status = .running → after.status = .running) :
    before.status ≠ .running ∧ ∃ status numComputedTokens, after =
      { before with status := status, numComputedTokens := numComputedTokens } := by
  have wasWaiting : before.status ≠ .running := fun isRunning => notRunning (unpreempted isRunning)
  refine ⟨wasWaiting, ?_⟩
  cases visit with
  | untouched => exact ⟨_, _, rfl⟩
  | moved => exact ⟨_, _, rfl⟩
  | preempted wasRunning => exact absurd wasRunning wasWaiting
  | ran _ wasRunning => exact absurd wasRunning wasWaiting
  | started => exact absurd rfl notRunning

end Visit

namespace Scheduler

variable {self next : Scheduler K} {aside nextAside : List ReqId}

theorem count_cons_add (item other : ReqId) (items : List ReqId) :
    (item :: items).count other = [item].count other + items.count other := by
  rw [← List.singleton_append, List.count_append]

/-- How often a request is in a waiting queue; `aside` holds the requests a loop
put aside. -/
def waitingCount (self : Scheduler K) (aside : List ReqId) (id : ReqId) : Nat :=
  self.waiting.count id + self.skippedWaiting.count id + aside.count id

/-- No request is queued twice, and `running` holds exactly the queued requests
with status `RUNNING`. -/
structure QueuedOnce (scheduler : Scheduler K) (aside : List ReqId) : Prop where
  once : ∀ id, scheduler.running.count id + scheduler.waitingCount aside id ≤ 1
  running : ∀ id ∈ scheduler.running, (scheduler.request id).status = .running
  waiting : ∀ id, 0 < scheduler.waitingCount aside id → (scheduler.request id).status ≠ .running

namespace QueuedOnce

theorem nodup (queues : self.QueuedOnce aside) : self.running.Nodup := by
  rw [List.nodup_iff_count_le_one]
  intro id
  have once := queues.once id
  omega

theorem of_counts (queues : self.QueuedOnce aside)
    (running : ∀ id, next.running.count id = self.running.count id)
    (waiting : ∀ id, next.waitingCount nextAside id = self.waitingCount aside id)
    (status : ∀ id, 0 < self.running.count id + self.waitingCount aside id →
      ((next.request id).status = .running ↔ (self.request id).status = .running)) :
    next.QueuedOnce nextAside := by
  refine ⟨fun id => ?_, fun id member => ?_, fun id isWaiting => ?_⟩
  · rw [running, waiting]
    exact queues.once id
  · have positive := List.count_pos_iff.mpr member
    rw [running] at positive
    exact (status id (by omega)).mpr (queues.running id (List.count_pos_iff.mp positive))
  · rw [waiting] at isWaiting
    rw [ne_eq, status id (by omega)]
    exact queues.waiting id isWaiting

/-- A preempted request moves from `running` to `waiting`. -/
theorem preempted_counts {victim : ReqId} {running : List ReqId}
    (spec : Preempted env { self with running := running } next victim)
    (perm : self.running.Perm (victim :: running)) (id : ReqId) :
    next.running.count id + [victim].count id = self.running.count id ∧
      next.waitingCount aside id = self.waitingCount aside id + [victim].count id := by
  have waiting := (spec.waiting.count_eq id).trans (count_cons_add ..)
  rw [spec.running, perm.count_eq, waitingCount, waiting, spec.skippedWaiting, waitingCount,
    count_cons_add victim id running]
  dsimp only
  omega

/-- A running request goes back to `waiting`. -/
theorem preempt {victim : ReqId} {running : List ReqId}
    (spec : Preempted env { self with running := running } next victim)
    (queues : self.QueuedOnce aside) (perm : self.running.Perm (victim :: running)) :
    next.QueuedOnce aside := by
  have counts := fun id => @preempted_counts _ _ _ _ aside _ _ spec perm id
  have others : ∀ id, id ≠ victim → (next.request id) = self.request id ∧ [victim].count id = 0 := by
    intro id differ
    rw [spec.request, update_of_ne differ, List.count_singleton,
      beq_false_of_ne (Ne.symm differ)]
    exact ⟨rfl, rfl⟩
  have isPreempted : (next.request victim).status = .preempted := by
    rw [spec.request, update_self]
    rfl
  refine ⟨fun id => ?_, fun id member => ?_, fun id isWaiting => ?_⟩
  · have once := queues.once id
    have count := counts id
    omega
  · have positive := List.count_pos_iff.mpr member
    have count := (counts id).1
    have differ : id ≠ victim := by
      rintro rfl
      rw [List.count_singleton_self] at count
      have once := queues.once id
      omega
    rw [(others id differ).1]
    exact queues.running id (List.count_pos_iff.mp (by omega))
  · by_cases same : id = victim
    · rw [same, isPreempted]
      exact nofun
    · rw [(others id same).1]
      have count := (counts id).2
      rw [(others id same).2] at count
      exact queues.waiting id (by omega)

theorem start {id : ReqId} (queues : self.QueuedOnce aside)
    (counts : ∀ other, self.waitingCount aside other =
      next.waitingCount nextAside other + [id].count other)
    (running : next.running = self.running ++ [id])
    (others : ∀ other, other ≠ id → next.request other = self.request other)
    (status : (next.request id).status = .running) : next.QueuedOnce nextAside := by
  have runningCount : ∀ other, next.running.count other =
      self.running.count other + [id].count other := by
    intro other
    rw [running, List.count_append]
  refine ⟨fun other => ?_, fun other member => ?_, fun other isWaiting => ?_⟩
  · have once := queues.once other
    have waiting := counts other
    rw [runningCount]
    omega
  · by_cases same : other = id
    · rw [same]
      exact status
    · rw [running, List.mem_append, List.mem_singleton] at member
      rw [others other same]
      exact queues.running other (member.resolve_right same)
  · have once := queues.once other
    have waiting := counts other
    have differ : other ≠ id := by
      rintro rfl
      rw [List.count_singleton_self] at waiting
      omega
    rw [others other differ]
    exact queues.waiting other (by omega)

end QueuedOnce

end Scheduler

variable {id : ReqId}

namespace ScheduleState

open Scheduler (QueuedOnce)

variable {start : Scheduler K} {state next : ScheduleState K}

def VisitOf (start : Scheduler K) (state : ScheduleState K) (id : ReqId) : Prop :=
  Visit (start.request id) (state.self.request id) (state.numScheduledTokens.get? id)
    ((state.scheduledSpecDecodeTokens.get? id).getD [])

def LeftAlone (start : Scheduler K) (state : ScheduleState K) (id : ReqId) : Prop :=
  start.running.count id + start.waitingCount [] id = 0 →
    state.self.request id = start.request id ∧
      state.self.running.count id + state.self.waitingCount state.stepSkippedWaiting id = 0

structure Visited (start : Scheduler K) (state : ScheduleState K) : Prop where
  queues : state.self.QueuedOnce state.stepSkippedWaiting
  scheduled : ∀ id tokens, state.numScheduledTokens.get? id = some tokens → id ∈ state.self.running
  visit : ∀ id, VisitOf start state id
  leftAlone : ∀ id, LeftAlone start state id

theorem LeftAlone.of_total {other : ReqId} (leftAlone : LeftAlone start state other)
    (isQueued : 0 < state.self.running.count id +
      state.self.waitingCount state.stepSkippedWaiting id)
    (others : other ≠ id → next.self.request other = state.self.request other)
    (total : next.self.running.count other + next.self.waitingCount next.stepSkippedWaiting other =
      state.self.running.count other + state.self.waitingCount state.stepSkippedWaiting other) :
    LeftAlone start next other := by
  intro unqueued
  obtain ⟨same, none⟩ := leftAlone unqueued
  have differ : other ≠ id := by
    rintro rfl
    omega
  exact ⟨(others differ).trans same, total.trans none⟩

/-- An operation on the collaborators, on a local variable or on the order of the
queues. -/
theorem Visited.of_same (visited : Visited start state)
    (request : next.self.request = state.self.request)
    (running : next.self.running = state.self.running)
    (waiting : ∀ id, next.self.waitingCount next.stepSkippedWaiting id =
      state.self.waitingCount state.stepSkippedWaiting id)
    (tokens : next.numScheduledTokens = state.numScheduledTokens)
    (drafts : next.scheduledSpecDecodeTokens = state.scheduledSpecDecodeTokens) :
    Visited start next := by
  refine ⟨visited.queues.of_counts (fun id => by rw [running]) waiting (fun id _ => by rw [request]),
    fun id value read => ?_, fun id => ?_, fun id unqueued => ?_⟩
  · rw [running]
    rw [tokens] at read
    exact visited.scheduled id value read
  · unfold VisitOf
    rw [request, tokens, drafts]
    exact visited.visit id
  · rw [request, running, waiting]
    exact visited.leftAlone id unqueued

/-! ## The running loop -/

theorem scheduledDrafts_get? {drafts : PyDict ReqId (List TokenId)}
    {tokens : List TokenId} (unscheduled : drafts.get? id = none) (other : ReqId) :
    ((if tokens.isEmpty then drafts else drafts.set id tokens).get? other).getD [] =
      if other = id then tokens else (drafts.get? other).getD [] := by
  by_cases same : other = id
  · rw [same, if_pos rfl]
    split
    next isEmpty =>
      rw [unscheduled, List.isEmpty_iff.mp isEmpty]
      rfl
    next => rw [PyDict.get?_set_self, Option.getD_some]
  · rw [if_neg same]
    split
    next => rfl
    next => rw [PyDict.get?_set_of_ne _ _ same]

theorem Visited.run {id : ReqId} {plan : EncoderPlan} {kv : K} (visited : Visited start state)
    (isRunning : id ∈ state.self.running)
    (unscheduled : state.numScheduledTokens.get? id = none ∧
      state.scheduledSpecDecodeTokens.get? id = none)
    (nonzero : plan.numNewTokens ≠ 0)
    (bound : plan.numNewTokens ≤ (state.self.request id).numTokensWithSpec +
      (state.self.request id).numOutputPlaceholders - (state.self.request id).numComputedTokens) :
    Visited start ((state.withKv kv).scheduleRunning env id plan) := by
  have wasRunning := visited.queues.running id isRunning
  have visit := visited.visit id
  unfold VisitOf at visit
  rw [unscheduled.1] at visit
  obtain ⟨same, -⟩ := visit.of_unscheduled wasRunning
  have others : ∀ other, other ≠ id →
      ((state.withKv kv).scheduleRunning env id plan).self.request other = state.self.request other :=
    fun other differ => update_of_ne differ ..
  have atId : ((state.withKv kv).scheduleRunning env id plan).self.request id =
      { state.self.request id with specTokenIds := [] } := update_self ..
  have isQueued := List.count_pos_iff.mpr isRunning
  refine ⟨visited.queues.of_counts (fun _ => by rfl) (fun _ => by rfl) fun other _ => ?_,
    fun other value read => ?_, fun other => ?_,
    fun other => (visited.leftAlone other).of_total (Nat.add_pos_left isQueued _) (others other) rfl⟩
  · by_cases isId : other = id
    · rw [isId, atId]
    · rw [others other isId]
  · by_cases isId : other = id
    · rw [isId]
      exact isRunning
    · have read' : (state.numScheduledTokens.set id plan.numNewTokens).get? other = some value := read
      rw [PyDict.get?_set_of_ne _ _ isId] at read'
      exact visited.scheduled other value read'
  · unfold VisitOf
    show Visit _ _ ((state.numScheduledTokens.set id plan.numNewTokens).get? other)
      (PyDict.get? (if (scheduledSpecTokens (state.self.request id) plan.numNewTokens).isEmpty then
        state.scheduledSpecDecodeTokens else state.scheduledSpecDecodeTokens.set id
          (scheduledSpecTokens (state.self.request id) plan.numNewTokens)) other |>.getD [])
    rw [scheduledDrafts_get? unscheduled.2]
    by_cases isId : other = id
    · rw [isId, atId, PyDict.get?_set_self, if_pos rfl, same]
      rw [same] at wasRunning bound
      exact .ran _ wasRunning nonzero bound
    · rw [others other isId, PyDict.get?_set_of_ne _ _ isId, if_neg isId]
      exact visited.visit other

/-- In the running loop a request is running if it was and has not been
preempted. -/
structure RunningPhase (start : Scheduler K) (state : ScheduleState K) : Prop where
  visited : Visited start state
  stays : ∀ id, (state.self.request id).status = .running → (start.request id).status = .running
  leaves : ∀ id, (start.request id).status = .running →
    (state.self.request id).status = .running ∨ id ∈ state.preemptedReqs

theorem takeVictim_others {taken : ScheduleState K} {victim : ReqId}
    (took : state.takeVictim env config = .ok (victim, taken)) :
    taken.self.request = state.self.request ∧ taken.preemptedReqs = state.preemptedReqs ∧
      ∀ other, other ≠ victim →
        taken.numScheduledTokens.get? other = state.numScheduledTokens.get? other ∧
        taken.scheduledSpecDecodeTokens.get? other =
          state.scheduledSpecDecodeTokens.get? other := by
  obtain ⟨running, -, -, rfl | ⟨-, rfl⟩⟩ := takeVictim_eq took
  · exact ⟨rfl, rfl, fun _ _ => ⟨rfl, rfl⟩⟩
  · exact ⟨rfl, rfl, fun _ differ =>
      ⟨PyDict.get?_erase_of_ne _ differ, PyDict.get?_erase_of_ne _ differ⟩⟩

theorem RunningPhase.preempt {taken : ScheduleState K} {victim : ReqId} {self : Scheduler K}
    (phase : RunningPhase start state) (took : state.takeVictim env config = .ok (victim, taken))
    (unscheduled : taken.numScheduledTokens.get? victim = none ∧
      taken.scheduledSpecDecodeTokens.get? victim = none)
    (ran : taken.self.preemptRequest env config victim = .ok self) :
    RunningPhase start
      { taken with self := self, preemptedReqs := taken.preemptedReqs ++ [victim] } := by
  obtain ⟨running, perm, takenSelf, isTaken⟩ := takeVictim_eq took
  obtain ⟨sameRequest, samePreempted, others⟩ := takeVictim_others took
  have sameAside : taken.stepSkippedWaiting = state.stepSkippedWaiting := by
    rcases isTaken with rfl | ⟨-, rfl⟩ <;> rfl
  have spec := preemptRequest_spec ran
  have isRunning : self.running = running := by rw [spec.running, takenSelf]
  have record : ∀ other, other ≠ victim → self.request other = state.self.request other := by
    intro other differ
    rw [spec.request, update_of_ne differ, sameRequest]
  have atVictim : self.request victim = preempted (state.self.request victim) := by
    rw [spec.request, update_self, sameRequest]
  have wasRunning : (state.self.request victim).status = .running := by
    rw [← sameRequest]
    exact spec.wasRunning
  have isQueued : 0 < state.self.running.count victim := by
    rw [perm.count_eq, List.count_cons_self]
    exact Nat.succ_pos _
  have total : ∀ other, self.running.count other + self.waitingCount taken.stepSkippedWaiting other =
      state.self.running.count other +
        state.self.waitingCount state.stepSkippedWaiting other := by
    intro other
    have waiting := (spec.waiting.count_eq other).trans (count_cons_add ..)
    rw [isRunning, perm.count_eq, count_cons_add, sameAside, Scheduler.waitingCount,
      Scheduler.waitingCount, waiting, spec.skippedWaiting, takenSelf]
    dsimp only
    omega
  refine ⟨⟨?_, fun other value read => ?_, fun other => ?_, fun other =>
    (phase.visited.leftAlone other).of_total (Nat.add_pos_left isQueued _) (record other)
      (total other)⟩, fun other status => ?_, fun other status => ?_⟩
  · show self.QueuedOnce taken.stepSkippedWaiting
    rw [sameAside]
    rw [takenSelf] at spec
    exact QueuedOnce.preempt spec phase.visited.queues perm
  · have differ : other ≠ victim := by
      rintro rfl
      rw [unscheduled.1] at read
      cases read
    rw [(others other differ).1] at read
    have member := perm.subset (phase.visited.scheduled other value read)
    rw [isRunning]
    exact (List.mem_cons.mp member).resolve_left differ
  · unfold VisitOf
    by_cases same : other = victim
    · rw [same, atVictim, unscheduled.1, unscheduled.2, Option.getD_none]
      have visit := phase.visited.visit victim
      have beforeRunning := phase.stays victim wasRunning
      unfold VisitOf at visit
      generalize state.self.request victim = record at visit wasRunning
      generalize state.numScheduledTokens.get? victim = tokens at visit
      generalize (state.scheduledSpecDecodeTokens.get? victim).getD [] = drafts at visit
      cases visit with
      | untouched => exact .preempted beforeRunning
      | moved _ _ wasWaiting => exact absurd beforeRunning wasWaiting
      | preempted => cases wasRunning
      | ran => exact .preempted beforeRunning
      | started _ _ wasWaiting => exact absurd beforeRunning wasWaiting
    · rw [record other same, (others other same).1, (others other same).2]
      exact phase.visited.visit other
  · by_cases same : other = victim
    · rw [same, atVictim] at status
      cases status
    · rw [record other same] at status
      exact phase.stays other status
  · by_cases same : other = victim
    · exact .inr (by rw [same]; exact List.mem_append_right _ (List.mem_singleton_self _))
    · rw [record other same, samePreempted]
      exact (phase.leaves other status).imp_right (List.mem_append_left _)

theorem RunningPhase.of_same (phase : RunningPhase start state)
    (self : next.self = { state.self with kv := next.self.kv })
    (aside : next.stepSkippedWaiting = state.stepSkippedWaiting)
    (tokens : next.numScheduledTokens = state.numScheduledTokens)
    (drafts : next.scheduledSpecDecodeTokens = state.scheduledSpecDecodeTokens)
    (preempted : next.preemptedReqs = state.preemptedReqs) : RunningPhase start next := by
  have request : next.self.request = state.self.request := by rw [self]
  have waiting : ∀ id, next.self.waitingCount next.stepSkippedWaiting id =
      state.self.waitingCount state.stepSkippedWaiting id := by
    intro id
    rw [aside, self]
    rfl
  refine ⟨phase.visited.of_same request (by rw [self]) waiting tokens drafts, fun id => ?_,
    fun id => ?_⟩
  · rw [request]
    exact phase.stays id
  · rw [request, preempted]
    exact phase.leaves id

theorem RunningRound.phase (round : RunningRound env config state next)
    (phase : RunningPhase start state) : RunningPhase start next := by
  cases round with
  | reindex => exact phase.of_same rfl rfl rfl rfl rfl
  | plan => exact phase.of_same rfl rfl rfl rfl rfl
  | refuse => exact phase.of_same rfl rfl rfl rfl rfl
  | preempt took unscheduled _ ran => exact phase.preempt took unscheduled ran
  | @run _ id plan kv _ isRunning unscheduled _ isPlan nonzero =>
    have bound := (planRunning_le isPlan).resolve_right nonzero
    have status : ∀ other, (((state.withKv kv).scheduleRunning env id plan).self.request
        other).status = (state.self.request other).status := by
      intro other
      show (update state.self.request id _ other).status = _
      by_cases same : other = id
      · rw [same, update_self]
        rfl
      · rw [update_of_ne same]
    refine ⟨phase.visited.run isRunning unscheduled nonzero bound, fun other => ?_, fun other => ?_⟩
    · rw [status other]
      exact phase.stays other
    · rw [status other]
      exact phase.leaves other
  | loras ran =>
    obtain ⟨_, rfl⟩ := recordLoras_eq ran
    exact phase.of_same rfl rfl rfl rfl rfl

/-! ## The waiting loop -/

structure WaitingPhase (start : Scheduler K) (state : ScheduleState K) : Prop where
  visited : Visited start state
  stays : ∀ id, (start.request id).status = .running → (state.self.request id).status = .running

theorem WaitingPhase.of_same (phase : WaitingPhase start state)
    (request : next.self.request = state.self.request)
    (running : next.self.running = state.self.running)
    (waiting : ∀ id, next.self.waitingCount next.stepSkippedWaiting id =
      state.self.waitingCount state.stepSkippedWaiting id)
    (tokens : next.numScheduledTokens = state.numScheduledTokens)
    (drafts : next.scheduledSpecDecodeTokens = state.scheduledSpecDecodeTokens) :
    WaitingPhase start next := by
  refine ⟨phase.visited.of_same request running waiting tokens drafts, fun id => ?_⟩
  rw [request]
  exact phase.stays id

theorem WaitingPhase.withKv (phase : WaitingPhase start state) (kv : K) :
    WaitingPhase start (state.withKv kv) :=
  phase.of_same rfl rfl (fun _ => rfl) rfl rfl

theorem WaitingPhase.move {status : RequestStatus} {numComputedTokens : Int}
    (phase : WaitingPhase start state)
    (isQueued : 0 < state.self.waitingCount state.stepSkippedWaiting id)
    (isWaiting : status ≠ .running)
    (request : next.self.request = update state.self.request id
      { state.self.request id with status := status, numComputedTokens := numComputedTokens })
    (running : next.self.running = state.self.running)
    (waiting : ∀ id, next.self.waitingCount next.stepSkippedWaiting id =
      state.self.waitingCount state.stepSkippedWaiting id)
    (tokens : next.numScheduledTokens = state.numScheduledTokens)
    (drafts : next.scheduledSpecDecodeTokens = state.scheduledSpecDecodeTokens) :
    WaitingPhase start next := by
  have notRunning := phase.visited.queues.waiting id isQueued
  have visit := phase.visited.visit id
  obtain ⟨noTokens, noDrafts⟩ := visit.of_notRunning notRunning
  obtain ⟨wasWaiting, _, _, record⟩ := visit.of_waiting notRunning (phase.stays id)
  have others : ∀ other, other ≠ id → next.self.request other = state.self.request other := by
    intro other differ
    rw [request, update_of_ne differ]
  refine ⟨⟨phase.visited.queues.of_counts (fun _ => by rw [running]) waiting fun other _ => ?_,
    fun other value read => ?_, fun other => ?_, fun other =>
    (phase.visited.leftAlone other).of_total (Nat.add_pos_right _ isQueued) (others other)
      (by rw [running, waiting])⟩, fun other isRunning => ?_⟩
  · by_cases same : other = id
    · rw [same, request, update_self]
      exact ⟨fun isRunning => absurd isRunning isWaiting, fun isRunning => absurd isRunning notRunning⟩
    · rw [others other same]
  · rw [tokens] at read
    rw [running]
    exact phase.visited.scheduled other value read
  · unfold VisitOf
    rw [tokens, drafts]
    by_cases same : other = id
    · rw [same, request, update_self, noTokens, noDrafts, record]
      exact .moved _ _ wasWaiting isWaiting
    · rw [others other same]
      exact phase.visited.visit other
  · have differ : other ≠ id := fun same => wasWaiting (same ▸ isRunning)
    rw [others other differ]
    exact phase.stays other isRunning

theorem Popped.waitingCount (popped : Popped state next id) (other : ReqId) :
    state.self.waitingCount state.stepSkippedWaiting other =
      next.self.waitingCount next.stepSkippedWaiting other + [id].count other := by
  have counted := popped.counts other
  have sameAside : next.stepSkippedWaiting = state.stepSkippedWaiting := by rw [popped.rest]
  rw [Scheduler.waitingCount, Scheduler.waitingCount, sameAside]
  omega

theorem Popped.aside_waitingCount {last : ScheduleState K}
    (popped : Popped state next id) (waiting : last.self.waiting = next.self.waiting)
    (skipped : last.self.skippedWaiting = next.self.skippedWaiting)
    (aside : last.stepSkippedWaiting.Perm (id :: next.stepSkippedWaiting)) (other : ReqId) :
    last.self.waitingCount last.stepSkippedWaiting other =
      state.self.waitingCount state.stepSkippedWaiting other := by
  rw [popped.waitingCount, Scheduler.waitingCount, Scheduler.waitingCount, waiting, skipped,
    aside.count_eq, count_cons_add]
  omega

theorem WaitingPhase.run {id : ReqId} {admission : Admission} {popped : ScheduleState K}
    (phase : WaitingPhase start state) (pop : Popped state popped id)
    (spec : Started env popped next id admission)
    (bound : admission.numComputedTokens + admission.numNewTokens ≤
      (state.self.request id).numTokens) : WaitingPhase start next := by
  have sameTokens : popped.numScheduledTokens = state.numScheduledTokens := by rw [pop.rest]
  have sameDrafts : popped.scheduledSpecDecodeTokens = state.scheduledSpecDecodeTokens := by
    rw [pop.rest]
  have request := spec.request
  rw [pop.request] at request
  have notRunning : (state.self.request id).status ≠ .running := by
    rw [← pop.request]
    rcases spec.status with status | status
    · rw [status]
      exact nofun
    · rw [status]
      exact nofun
  have visit := phase.visited.visit id
  obtain ⟨noTokens, noDrafts⟩ := visit.of_notRunning notRunning
  obtain ⟨wasWaiting, _, _, record⟩ := visit.of_waiting notRunning (phase.stays id)
  have others : ∀ other, other ≠ id → next.self.request other = state.self.request other := by
    intro other differ
    rw [request, update_of_ne differ]
  have running : next.self.running = state.self.running ++ [id] := by
    rw [spec.running, pop.running]
  have counts : ∀ other, state.self.waitingCount state.stepSkippedWaiting other =
      next.self.waitingCount next.stepSkippedWaiting other + [id].count other := by
    intro other
    rw [pop.waitingCount, Scheduler.waitingCount, Scheduler.waitingCount, spec.waiting,
      spec.skippedWaiting, spec.stepSkippedWaiting]
  have isQueued : 0 < state.self.waitingCount state.stepSkippedWaiting id := by
    rw [counts, List.count_singleton_self]
    exact Nat.succ_pos _
  refine ⟨⟨phase.visited.queues.start counts running others ?_, fun other value read => ?_,
    fun other => ?_, fun other => (phase.visited.leftAlone other).of_total
      (Nat.add_pos_right _ isQueued) (others other) ?_⟩, fun other isRunning => ?_⟩
  · rw [request, update_self]
  · rw [running]
    by_cases same : other = id
    · rw [same]
      exact List.mem_append_right _ (List.mem_singleton_self _)
    · rw [spec.numScheduledTokens, PyDict.get?_set_of_ne _ _ same, sameTokens] at read
      exact List.mem_append_left _ (phase.visited.scheduled other value read)
  · unfold VisitOf
    rw [spec.numScheduledTokens, spec.scheduledSpecDecodeTokens, sameTokens, sameDrafts]
    by_cases same : other = id
    · rw [record] at bound
      rw [same, request, update_self, PyDict.get?_set_self, noDrafts, record]
      exact .started _ _ wasWaiting bound
    · rw [others other same, PyDict.get?_set_of_ne _ _ same]
      exact phase.visited.visit other
  · rw [counts other, running, List.count_append]
    omega
  · have differ : other ≠ id := fun same => wasWaiting (same ▸ isRunning)
    rw [others other differ]
    exact phase.stays other isRunning

theorem WaitingRound.phase (round : WaitingRound env config state next)
    (phase : WaitingPhase start state) : WaitingPhase start next := by
  cases round with
  | @promote fromSkipped _ id _ peeked ran =>
    obtain ⟨notRunning, _, _, _, status, numComputedTokens, isStatus, rfl⟩ := tryPromote_eq ran
    have isWaiting : status ≠ .running := by
      rcases isStatus with rfl | rfl | rfl
      · exact notRunning
      · exact nofun
      · exact nofun
    have isQueued : 0 < state.self.waitingCount state.stepSkippedWaiting id := by
      have positive := List.count_pos_iff.mpr (RequestQueue.peekRequest_mem peeked)
      unfold waitingQueue at positive
      rw [Scheduler.waitingCount]
      split at positive <;> omega
    exact phase.move isQueued isWaiting rfl rfl (fun _ => rfl) rfl rfl
  | skip peeked ran =>
    obtain ⟨popped, pop, rfl⟩ := skipWaiting_eq ran
    have spec := popWaiting_spec pop peeked
    refine phase.of_same ?_ ?_
      (spec.aside_waitingCount rfl rfl (RequestQueue.prependRequest_perm ..)) ?_ ?_
    · show popped.self.request = _
      rw [spec.self]
    · show popped.self.running = _
      rw [spec.self]
    · show popped.numScheduledTokens = _
      rw [spec.rest]
    · show popped.scheduledSpecDecodeTokens = _
      rw [spec.rest]
  | lookup => exact phase.of_same rfl rfl (fun _ => rfl) rfl rfl
  | planWaiting => exact phase.of_same rfl rfl (fun _ => rfl) rfl rfl
  | refuseWaiting => exact phase.of_same rfl rfl (fun _ => rfl) rfl rfl
  | @load _ popped _ id _ _ _ admission peeked _ isLooked _ _ _ _ pop =>
    subst isLooked
    have spec := popWaiting_spec pop peeked
    have isWaiting : 0 < state.self.waitingCount state.stepSkippedWaiting id := by
      have counted := spec.waitingCount id
      rw [List.count_singleton_self] at counted
      exact counted ▸ Nat.succ_pos _
    have request := @startRemoteLoad_request _ config popped id admission
    rw [show popped.self.request = state.self.request from spec.request] at request
    refine phase.move isWaiting
      (show RequestStatus.waitingForRemoteKvs ≠ .running from nofun) request ?_ ?_ ?_ ?_
    · show popped.self.running = _
      rw [spec.self]
      rfl
    · exact spec.aside_waitingCount rfl rfl (RequestQueue.prependRequest_perm ..)
    · show popped.numScheduledTokens = _
      rw [spec.rest]
      rfl
    · show popped.scheduledSpecDecodeTokens = _
      rw [spec.rest]
      rfl
  | start peeked _ isLooked planned isLocal _ pop ran =>
    subst isLooked
    have spec := popWaiting_spec pop peeked
    exact ((phase.withKv _).withKv _).run spec (startRunning_spec ran)
      (planWaiting_le planned isLocal)
  | requeue =>
    refine phase.of_same rfl rfl (fun id => ?_) rfl rfl
    show state.self.waiting.count id +
      (RequestQueue.prependRequests config.policy _ _ _).count id + 0 = _
    rw [(RequestQueue.prependRequests_perm ..).count_eq, List.count_append,
      Scheduler.waitingCount]
    omega

/-! ## Whole phases -/

theorem RunningRounds.phase (rounds : RunningRounds env config state next)
    (phase : RunningPhase start state) : RunningPhase start next := by
  induction rounds with
  | refl => exact phase
  | tail _ round ih => exact RunningRound.phase round ih

theorem WaitingRounds.phase (rounds : WaitingRounds env config state next)
    (phase : WaitingPhase start state) : WaitingPhase start next := by
  induction rounds with
  | refl => exact phase
  | tail _ round ih => exact WaitingRound.phase round ih

/-- If nobody was preempted, the waiting loop starts with every running request
still running. -/
theorem RunningPhase.waiting (phase : RunningPhase start state) (nobody : state.preemptedReqs = []) :
    WaitingPhase start state :=
  ⟨phase.visited, fun id isRunning => (phase.leaves id isRunning).resolve_right (by simp [nobody])⟩

theorem Round.requests (round : Round env config state next) :
    next.self.requests = state.self.requests := by
  cases round with
  | running round =>
    cases round with
    | reindex => rfl
    | plan => rfl
    | refuse => rfl
    | preempt took _ _ ran =>
      obtain ⟨running, -, takenSelf, -⟩ := takeVictim_eq took
      rw [(preemptRequest_spec ran).requests, takenSelf]
    | run => rfl
    | loras ran =>
      obtain ⟨_, rfl⟩ := recordLoras_eq ran
      rfl
  | waiting round =>
    cases round with
    | promote _ ran =>
      obtain ⟨-, _, _, _, _, _, -, rfl⟩ := tryPromote_eq ran
      rfl
    | skip peeked ran =>
      obtain ⟨popped, pop, rfl⟩ := skipWaiting_eq ran
      show popped.self.requests = _
      rw [(popWaiting_spec pop peeked).self]
    | lookup => rfl
    | planWaiting => rfl
    | refuseWaiting => rfl
    | @load _ popped _ _ _ _ _ _ peeked _ isLooked _ _ _ _ pop =>
      subst isLooked
      show popped.self.requests = _
      rw [(popWaiting_spec pop peeked).self]
      rfl
    | start peeked _ isLooked _ _ _ pop ran =>
      subst isLooked
      rw [(startRunning_spec ran).requests, (popWaiting_spec pop peeked).self]
      rfl
    | requeue => rfl

theorem Rounds.requests (rounds : Rounds env config state next) :
    next.self.requests = state.self.requests := by
  induction rounds with
  | refl => rfl
  | tail _ round ih => exact (Round.requests round).trans ih

end ScheduleState

namespace Scheduler

variable {self next : Scheduler K}

theorem afterSchedule_status (self : Scheduler K) (output : SchedulerOutput) (id : ReqId)
    (numScheduledToken : Int) (request : Request) :
    (self.afterSchedule config output id numScheduledToken request).status = request.status := by
  unfold afterSchedule
  dsimp only
  split
  · unfold addPlaceholders
    split <;> rfl
  · rfl

theorem scheduleLoops_visited {state : ScheduleState K} (queues : self.QueuedOnce [])
    (ran : self.scheduleLoops env config = .ok state) :
    ScheduleState.Visited self state ∧ state.self.requests = self.requests ∧
      state.stepSkippedWaiting = [] := by
  obtain ⟨rounds, aside⟩ := scheduleLoops_rounds queues.nodup ran
  refine ⟨?_, ScheduleState.Rounds.requests rounds, aside⟩
  have started : ScheduleState.RunningPhase self (self.beginSchedule env config) :=
    ⟨⟨⟨queues.once, queues.running, queues.waiting⟩, nofun, fun _ => .untouched,
      fun _ unqueued => ⟨rfl, unqueued⟩⟩, fun _ => id, fun _ => .inl⟩
  obtain ⟨mid, running, rfl | ⟨nobody, last, waiting, rfl⟩⟩ := scheduleLoops_phases queues.nodup ran
  · exact (ScheduleState.RunningRounds.phase running started).visited
  · have phase := (ScheduleState.RunningRounds.phase running started).waiting nobody
    have waitingRounds : WaitingRounds env config mid (last.requeueSkipped config) :=
      waiting.tail (.requeue last)
    exact (ScheduleState.WaitingRounds.phase waitingRounds phase).visited

theorem schedule_visits {output : SchedulerOutput} (queues : self.QueuedOnce [])
    (ran : self.schedule env config = .ok (output, next)) :
    next.QueuedOnce [] ∧ next.requests = self.requests ∧
      (∀ id tokens, output.numScheduledTokens.get? id = some tokens → id ∈ next.running) ∧
      ∃ scheduler : Scheduler K, ∀ id, ∃ record,
        Visit (self.request id) record (output.numScheduledTokens.get? id)
          ((output.scheduledSpecDecodeTokens.get? id).getD []) ∧
        (self.running.count id + self.waitingCount [] id = 0 →
          record = self.request id ∧ next.running.count id + next.waitingCount [] id = 0) ∧
        next.request id = (output.numScheduledTokens.get? id).elim record fun tokens =>
          scheduler.afterSchedule config output id tokens record := by
  obtain ⟨state, loops, -, rfl, rfl⟩ := schedule_eq ran
  obtain ⟨visited, requests, aside⟩ := scheduleLoops_visited queues loops
  have request := fun id => @updateAfterSchedule_request _ config { state.self with
    prevStepScheduledReqIds := (makeOutput state).numScheduledTokens.keys } (makeOutput state) id
  obtain ⟨sameRequests, running, waiting, skipped, -⟩ :=
    @updateAfterSchedule_frame _ config { state.self with
      prevStepScheduledReqIds := (makeOutput state).numScheduledTokens.keys } (makeOutput state)
  refine ⟨?_, sameRequests.trans requests, fun id tokens read => ?_, _, fun id =>
    ⟨state.self.request id, visited.visit id, fun unqueued => ?_, request id⟩⟩
  · have stateQueues := visited.queues
    rw [aside] at stateQueues
    refine stateQueues.of_counts (fun id => by rw [running]) (fun id => ?_) fun id _ => ?_
    · rw [waitingCount, waitingCount, waiting, skipped]
    · rw [request id]
      cases (makeOutput state).numScheduledTokens.get? id with
      | none => rfl
      | some tokens =>
        show ((afterSchedule ..).status = _ ↔ _)
        rw [afterSchedule_status]
  · rw [running]
    exact visited.scheduled id tokens read
  · obtain ⟨same, nowhere⟩ := visited.leftAlone id unqueued
    rw [aside] at nowhere
    refine ⟨same, ?_⟩
    rw [running, waitingCount, waiting, skipped]
    exact nowhere

end Scheduler

end DeepSpark
