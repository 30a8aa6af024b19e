import DeepSpark.Scheduler.Update

/-!
What a round of the loops of `schedule` can do.

Owns `Round`, the list of everything one round does to the local state, and
`scheduleLoops_rounds`: `schedule` only ever makes such rounds. An invariant of
`schedule` is then a case analysis of `Round`.
-/

namespace DeepSpark

open Lib Function RequestQueue List

variable {K : Type} {env : Collaborators K} {config : SchedulerConfig}

section Erase

variable {α : Type} [DecidableEq α] {items : List α} {item other : α} {index : Nat}

theorem erase_of_mem_take (isBefore : item ∈ items.take index) :
    (items.erase item).take (index - 1) = (items.take index).erase item ∧
      (items.erase item).drop (index - 1) = items.drop index := by
  have erased : items.erase item = (items.take index).erase item ++ items.drop index := by
    conv_lhs => rw [← take_append_drop index items]
    exact erase_append_left _ isBefore
  rcases Nat.le_total index items.length with inside | beyond
  · have length : ((items.take index).erase item).length = index - 1 := by
      rw [length_erase_of_mem isBefore, length_take_of_le inside]
    exact ⟨erased ▸ take_left' length, erased ▸ drop_left' length⟩
  · rw [take_of_length_le beyond] at isBefore ⊢
    rw [drop_eq_nil_of_le beyond]
    have shorter := (length_erase_of_mem isBefore).trans_le (Nat.sub_le_sub_right beyond 1)
    exact ⟨take_of_length_le shorter, drop_eq_nil_of_le shorter⟩

theorem mem_take_erase (isBefore : other ∈ items.take index) (differ : other ≠ item) :
    other ∈ (items.erase item).take index := by
  by_cases isRemoved : item ∈ items.take index
  · have kept : other ∈ (items.take index).erase item := (mem_erase_of_ne differ).mpr isBefore
    rw [← (erase_of_mem_take isRemoved).1] at kept
    exact take_subset_take_left _ (Nat.sub_le _ _) kept
  · nth_rewrite 1 [← take_append_drop index items]
    rw [erase_append_right _ isRemoved]
    rw [take_append, take_take, Nat.min_self]
    exact mem_append_left _ isBefore

end Erase

variable {id : ReqId}

/-! ## Operations on one request -/

namespace Scheduler

variable {self next : Scheduler K}

@[simp] theorem modifyRequest_self (self : Scheduler K) (id : ReqId) (change : Request → Request) :
    (self.modifyRequest id change).request id = change (self.request id) :=
  update_self ..

theorem modifyRequest_of_ne (self : Scheduler K) {other : ReqId} (change : Request → Request)
    (differ : other ≠ id) : (self.modifyRequest id change).request other = self.request other :=
  update_of_ne differ ..

/-- What a preemption does: the request gives up its blocks and goes back to
`waiting`. -/
structure Preempted (env : Collaborators K) (scheduler next : Scheduler K) (id : ReqId) : Prop where
  wasRunning : (scheduler.request id).status = .running
  freed : ∃ kv, env.free scheduler.kv (scheduler.request id) = .ok kv ∧
    next.kv = env.freeEncoder kv (scheduler.request id)
  request : next.request =
    Function.update scheduler.request id (preempted (scheduler.request id))
  requests : next.requests = scheduler.requests
  running : next.running = scheduler.running
  waiting : next.waiting.Perm (id :: scheduler.waiting)
  skippedWaiting : next.skippedWaiting = scheduler.skippedWaiting
  currentStep : next.currentStep = scheduler.currentStep

theorem preemptRequest_spec (ran : self.preemptRequest env config id = .ok next) :
    Preempted env self next id := by
  obtain ⟨_, checked, ran⟩ := bind_eq_ok.mp ran
  obtain ⟨kv, freed, ran⟩ := bind_eq_ok.mp ran
  cases ran
  exact {
    wasRunning := by simpa using pyAssert_eq_ok.mp checked
    freed := ⟨kv, freed, rfl⟩
    request := rfl
    requests := rfl
    running := rfl
    waiting := prependRequest_perm ..
    skippedWaiting := rfl
    currentStep := rfl }

end Scheduler

variable {victim : ReqId} {fromSkipped : Bool}

namespace ScheduleState

variable {state next : ScheduleState K}

/-- What `max` compares the running requests by. -/
def victimKey (request : Request) : ℤ ×ₗ ℤ := toLex (request.priority, request.arrivalTime)

theorem lowestPriority_eq_none {self : Scheduler K} {ids : List ReqId} (nobody : lowestPriority self ids = none) :
    ids = [] := by
  cases ids with
  | nil => rfl
  | cons id rest =>
    rw [lowestPriority] at nobody
    split at nobody
    next => cases nobody
    next =>
      dsimp only at nobody
      split at nobody <;> cases nobody

/-- The victim is one of the requests with the largest key. -/
theorem lowestPriority_spec {self : Scheduler K} {ids : List ReqId} (found : lowestPriority self ids = some victim) :
    victim ∈ ids ∧ ∀ other ∈ ids, victimKey (self.request other) ≤ victimKey (self.request victim) := by
  induction ids generalizing victim with
  | nil => cases found
  | cons id rest ih =>
    rw [lowestPriority] at found
    split at found
    next nobody =>
      cases found
      have noRest := lowestPriority_eq_none nobody
      subst noRest
      exact ⟨mem_cons_self, fun other isOther => (mem_singleton.mp isOther) ▸ le_rfl⟩
    next other read =>
      obtain ⟨isMember, largest⟩ := ih read
      dsimp only at found
      split at found
      next isLess =>
        cases found
        have less : victimKey (self.request id) < victimKey (self.request victim) :=
          Prod.Lex.toLex_lt_toLex.mpr isLess
        exact ⟨mem_cons_of_mem _ isMember, forall_mem_cons.mpr ⟨less.le, largest⟩⟩
      next notLess =>
        cases found
        have above : victimKey (self.request other) ≤ victimKey (self.request id) :=
          not_lt.mp fun less => notLess (Prod.Lex.toLex_lt_toLex.mp less)
        refine ⟨mem_cons_self, forall_mem_cons.mpr ⟨le_rfl, fun candidate isCandidate => ?_⟩⟩
        exact (largest candidate isCandidate).trans above

theorem takeVictim_lowest (isPriority : config.policy = .priority)
    (ran : state.takeVictim env config = .ok (victim, next)) :
    lowestPriority state.self state.self.running = some victim := by
  rw [takeVictim, isPriority] at ran
  dsimp only at ran
  split at ran
  next => cases ran
  next read =>
    split at ran <;> cases ran <;> exact read

/-- The victim is the request of lowest priority, unscheduled if it was scheduled
in this step, or the last running request. -/
theorem takeVictim_cases (ran : state.takeVictim env config = .ok (victim, next)) :
    (config.policy = .priority ∧ victim ∈ state.self.running ∧
        next = if victim ∈ state.scheduledRunningReqs
          then (state.withRunning (state.self.running.erase victim)).unschedule env victim
          else state.withRunning (state.self.running.erase victim)) ∨
      (config.policy = .fcfs ∧ ∃ front, state.self.running = front ++ [victim] ∧
        next = state.withRunning front) := by
  unfold takeVictim at ran
  split at ran
  next isPriority =>
    left
    split at ran
    next => cases ran
    next found read =>
      have isRunning := (lowestPriority_spec read).1
      dsimp only at ran
      split at ran
      next scheduled =>
        cases ran
        exact ⟨isPriority, isRunning, (if_pos scheduled).symm⟩
      next unscheduled =>
        cases ran
        exact ⟨isPriority, isRunning, (if_neg unscheduled).symm⟩
  next isFcfs =>
    right
    split at ran
    next => cases ran
    next found read =>
      cases ran
      obtain ⟨front, isFront⟩ := getLast?_eq_some_iff.mp read
      exact ⟨isFcfs, front, isFront, by rw [isFront, dropLast_concat]⟩

/-- The victim leaves `running` once, and a victim already scheduled in this
step is unscheduled. -/
theorem takeVictim_eq (ran : state.takeVictim env config = .ok (victim, next)) :
    ∃ running : List ReqId, state.self.running.Perm (victim :: running) ∧
      next.self = { state.self with running := running } ∧
      (next = state.withRunning running ∨
        victim ∈ state.scheduledRunningReqs ∧
          next = (state.withRunning running).unschedule env victim) := by
  rcases takeVictim_cases ran with ⟨-, isRunning, isNext⟩ | ⟨-, front, isFront, isNext⟩
  · have perm := perm_cons_erase isRunning
    split at isNext
    next scheduled => exact ⟨_, perm, by rw [isNext]; rfl, .inr ⟨scheduled, isNext⟩⟩
    next => exact ⟨_, perm, by rw [isNext]; rfl, .inl isNext⟩
  · refine ⟨front, ?_, by rw [isNext]; rfl, .inl isNext⟩
    rw [isFront]
    exact perm_append_singleton _ _

/-- What the running loop keeps: the requests from the index on are not scheduled
yet, and only scheduled requests have tokens. -/
structure Ahead (state : ScheduleState K) : Prop where
  running : state.self.running.Nodup
  ahead : ∀ id ∈ state.self.running.drop state.reqIndex, id ∉ state.scheduledRunningReqs
  scheduled : state.scheduledRunningReqs.Nodup
  tokens : ∀ id, id ∉ state.scheduledRunningReqs →
    state.numScheduledTokens.get? id = none ∧ state.scheduledSpecDecodeTokens.get? id = none

/-- The request at hand is at the index, or before it once a victim before it has
left `running`. -/
structure AtHand (config : SchedulerConfig) (state : ScheduleState K) (id : ReqId) : Prop where
  behind : id ∈ state.self.running.take (state.reqIndex + 1)
  fcfs : config.policy = .fcfs → state.self.running[state.reqIndex]? = some id
  unscheduled : id ∉ state.scheduledRunningReqs

theorem Ahead.withKv (ahead : state.Ahead) (kv : K) : (state.withKv kv).Ahead :=
  ⟨ahead.running, ahead.ahead, ahead.scheduled, ahead.tokens⟩

theorem AtHand.withKv (atHand : AtHand config state id) (kv : K) :
    AtHand config (state.withKv kv) id :=
  ⟨atHand.behind, atHand.fcfs, atHand.unscheduled⟩

theorem Ahead.isBehind (ahead : state.Ahead) (isRunning : id ∈ state.self.running)
    (scheduled : id ∈ state.scheduledRunningReqs) :
    id ∈ state.self.running.take state.reqIndex := by
  rw [← take_append_drop state.reqIndex state.self.running, mem_append] at isRunning
  exact isRunning.resolve_right fun isAhead => ahead.ahead _ isAhead scheduled

theorem Ahead.unschedule (ahead : state.Ahead)
    (isRunning : victim ∈ state.self.running) (scheduled : victim ∈ state.scheduledRunningReqs) :
    ((state.withRunning (state.self.running.erase victim)).unschedule env victim).Ahead := by
  refine ⟨ahead.running.erase _, fun id isAhead => ?_, ahead.scheduled.erase _, fun id gone => ?_⟩
  · have isAhead' : id ∈ (state.self.running.erase victim).drop (state.reqIndex - 1) := isAhead
    rw [(erase_of_mem_take (ahead.isBehind isRunning scheduled)).2] at isAhead'
    exact fun kept => ahead.ahead id isAhead' (mem_of_mem_erase kept)
  · by_cases same : id = victim
    · rw [same]
      exact ⟨PyDict.get?_erase_self .., PyDict.get?_erase_self ..⟩
    · have unscheduled := ahead.tokens id fun kept =>
        gone ((mem_erase_of_ne same).mpr kept)
      exact ⟨(PyDict.get?_erase_of_ne _ same).trans unscheduled.1,
        (PyDict.get?_erase_of_ne _ same).trans unscheduled.2⟩

theorem Ahead.withRunning {running : List ReqId} (ahead : state.Ahead)
    (isSublist : running.Sublist state.self.running) : (state.withRunning running).Ahead :=
  ⟨ahead.running.sublist isSublist,
    fun id isAhead => ahead.ahead id ((isSublist.drop _).subset isAhead), ahead.scheduled,
    ahead.tokens⟩

/-- A victim leaves the loop's invariant as it was, is not scheduled any more, and
leaves the request at hand where it was unless it is that request. -/
theorem Ahead.takeVictim (ahead : state.Ahead) (atHand : AtHand config state id)
    (ran : state.takeVictim env config = .ok (victim, next)) :
    next.Ahead ∧ victim ∉ next.scheduledRunningReqs ∧
      (victim ≠ id → AtHand config next id) := by
  rcases takeVictim_cases ran with ⟨isPriority, isRunning, isNext⟩ | ⟨isFcfs, front, isFront, isNext⟩
  · have notFcfs : config.policy ≠ .fcfs := by
      rw [isPriority]
      exact nofun
    split at isNext
    next scheduled =>
      rw [isNext]
      have isBehind := ahead.isBehind isRunning scheduled
      have positive : 0 < state.reqIndex := by
        have nonempty := length_pos_of_mem isBehind
        rw [length_take] at nonempty
        omega
      refine ⟨ahead.unschedule isRunning scheduled, ahead.scheduled.not_mem_erase, fun differ => ?_⟩
      refine ⟨?_, fun isFcfs => absurd isFcfs notFcfs,
        fun kept => atHand.unscheduled (mem_of_mem_erase kept)⟩
      show id ∈ (state.self.running.erase victim).take (state.reqIndex - 1 + 1)
      have isBefore : victim ∈ state.self.running.take (state.reqIndex + 1) :=
        take_subset_take_left _ (Nat.le_succ _) isBehind
      have moved := (erase_of_mem_take isBefore).1
      rw [Nat.add_sub_cancel] at moved
      rw [Nat.sub_add_cancel positive, moved]
      exact (mem_erase_of_ne (Ne.symm differ)).mpr atHand.behind
    next unscheduled =>
      rw [isNext]
      refine ⟨ahead.withRunning erase_sublist, unscheduled, fun differ => ?_⟩
      exact ⟨mem_take_erase atHand.behind (Ne.symm differ), fun isFcfs => absurd isFcfs notFcfs,
        atHand.unscheduled⟩
  · rw [isNext]
    have isAt := atHand.fcfs isFcfs
    have isSublist : front.Sublist state.self.running := by
      rw [isFront]
      exact sublist_append_left ..
    have short : state.reqIndex ≤ front.length := by
      have bound := (List.getElem?_eq_some_iff.mp isAt).1
      rw [isFront, length_append] at bound
      exact Nat.le_of_lt_succ bound
    refine ⟨ahead.withRunning isSublist, ?_, fun differ => ?_⟩
    · apply ahead.ahead
      rw [isFront, drop_append_of_le_length short]
      exact mem_append_right _ (mem_singleton_self _)
    · have stays : front[state.reqIndex]? = some id := by
        rw [isFront, getElem?_append] at isAt
        split at isAt
        next => exact isAt
        next => exact absurd (mem_singleton.mp (mem_of_getElem? isAt)).symm differ
      refine ⟨?_, fun _ => stays, atHand.unscheduled⟩
      have bound := (List.getElem?_eq_some_iff.mp stays).1
      rw [mem_take_iff_getElem]
      refine ⟨state.reqIndex, lt_min (Nat.lt_succ_self _) bound, ?_⟩
      exact (List.getElem?_eq_some_iff.mp stays).2

/-- What a pop of a waiting queue does: the request peeked at leaves it. -/
structure Popped (state next : ScheduleState K) (id : ReqId) : Prop where
  counts : ∀ other, state.self.waiting.count other + state.self.skippedWaiting.count other =
    next.self.waiting.count other + next.self.skippedWaiting.count other + [id].count other
  self : next.self = { state.self with
    waiting := next.self.waiting
    skippedWaiting := next.self.skippedWaiting }
  rest : next = { state with self := next.self }

theorem Popped.requests (popped : Popped state next id) : next.self.requests = state.self.requests := by
  rw [popped.self]

theorem Popped.request (popped : Popped state next id) : next.self.request = state.self.request := by
  rw [popped.self]

theorem Popped.running (popped : Popped state next id) : next.self.running = state.self.running := by
  rw [popped.self]

theorem popWaiting_spec (ran : state.popWaiting config fromSkipped = .ok next)
    (peeked : peekRequest (state.waitingQueue fromSkipped) = .ok id) :
    Popped state next id := by
  obtain ⟨⟨popped, rest⟩, pop, ran⟩ := bind_eq_ok.mp ran
  cases ran
  have same := popRequest_eq_peek _ _ peeked pop
  subst same
  have perm := popRequest_perm _ _ pop
  have split : ∀ other, (popped :: rest).count other = [popped].count other + rest.count other := by
    intro other
    rw [← singleton_append, count_append]
  cases fromSkipped with
  | true =>
    refine ⟨fun other => ?_, rfl, rfl⟩
    have counted := perm.count_eq other
    rw [split] at counted
    show _ + (state.waitingQueue true).count other = state.self.waiting.count other + rest.count other + _
    omega
  | false =>
    refine ⟨fun other => ?_, rfl, rfl⟩
    have counted := perm.count_eq other
    rw [split] at counted
    show (state.waitingQueue false).count other + _ =
      rest.count other + state.self.skippedWaiting.count other + _
    omega

/-- What the start of a waiting request does to the scheduler and to the output. -/
structure Started (env : Collaborators K) (state next : ScheduleState K) (id : ReqId)
    (admission : Admission) : Prop where
  status : (state.self.request id).status = .waiting ∨ (state.self.request id).status = .preempted
  request : next.self.request = Function.update state.self.request id
    { state.self.request id with
      status := .running
      numComputedTokens := admission.numComputedTokens }
  kv : next.self.kv = env.allocateEncoderInputs state.self.kv (state.self.request id)
    (admission.encoderInputsToSchedule ++ admission.externalLoadEncoderInput)
  requests : next.self.requests = state.self.requests
  running : next.self.running = state.self.running ++ [id]
  waiting : next.self.waiting = state.self.waiting
  skippedWaiting : next.self.skippedWaiting = state.self.skippedWaiting
  numScheduledTokens : next.numScheduledTokens =
    state.numScheduledTokens.set id admission.numNewTokens
  scheduledSpecDecodeTokens : next.scheduledSpecDecodeTokens = state.scheduledSpecDecodeTokens
  scheduledRunningReqs : next.scheduledRunningReqs = state.scheduledRunningReqs
  preemptedReqs : next.preemptedReqs = state.preemptedReqs
  stepSkippedWaiting : next.stepSkippedWaiting = state.stepSkippedWaiting

theorem startRunning_spec {admission : Admission}
    (ran : state.startRunning env config id admission = .ok next) :
    Started env state next id admission := by
  obtain ⟨⟨newReqs, resumedReqs⟩, checked, ran⟩ := bind_eq_ok.mp ran
  cases ran
  have status : (state.self.request id).status = .waiting ∨
      (state.self.request id).status = .preempted := by
    split at checked
    next isWaiting => exact .inl isWaiting
    next isPreempted => exact .inr isPreempted
    next => cases checked
  exact ⟨status, rfl, rfl, rfl, rfl, rfl, rfl, rfl, rfl, rfl, rfl, rfl⟩

theorem startRemoteLoad_request (state : ScheduleState K) (id : ReqId) (admission : Admission) :
    (state.startRemoteLoad config id admission).self.request =
      update state.self.request id { state.self.request id with
        status := .waitingForRemoteKvs
        numComputedTokens := admission.numComputedTokens } := by
  simp [startRemoteLoad, prependSkipped, Scheduler.modifyRequest]

theorem skipWaiting_eq (ran : state.skipWaiting config fromSkipped id = .ok next) :
    ∃ popped, state.popWaiting config fromSkipped = .ok popped ∧
      next = popped.prependSkipped config id := by
  obtain ⟨popped, pop, ran⟩ := bind_eq_ok.mp ran
  cases ran
  exact ⟨popped, pop, rfl⟩

theorem recordLoras_eq (ran : state.recordLoras config = .ok next) :
    ∃ scheduledLoras, next = { state with scheduledLoras } := by
  unfold recordLoras at ran
  split at ran
  next =>
    cases ran
    exact ⟨_, rfl⟩
  next =>
    obtain ⟨_, -, ran⟩ := bind_eq_ok.mp ran
    cases ran
    exact ⟨_, rfl⟩

end ScheduleState

/-! ## Rounds -/

inductive RunningRound (env : Collaborators K) (config : SchedulerConfig) :
    ScheduleState K → ScheduleState K → Prop where
  | reindex (state : ScheduleState K) (reqIndex : Nat) : RunningRound env config state { state with reqIndex }
  | plan {state : ScheduleState K} {id : ReqId} {plan : EncoderPlan} {kv : K}
      (isRunning : id ∈ state.self.running)
      (isPlan : state.planRunning env config (state.self.request id) = .ok (plan, kv)) :
      RunningRound env config state (state.withKv kv)
  | refuse {state planned : ScheduleState K} {id : ReqId} {plan : EncoderPlan} {kv planKv : K}
      (isRunning : id ∈ state.self.running)
      (isPlan : planned.planRunning env config (state.self.request id) = .ok (plan, planKv))
      (answered : env.allocateSlots state.self.kv (state.self.request id)
        { numNewTokens := plan.numNewTokens
          numLookaheadTokens := config.numLookaheadTokens } = .ok (false, kv)) :
      RunningRound env config state (state.withKv kv)
  | preempt {state taken : ScheduleState K} {victim : ReqId} {self : Scheduler K}
      (took : state.takeVictim env config = .ok (victim, taken))
      (unscheduled : taken.numScheduledTokens.get? victim = none ∧
        taken.scheduledSpecDecodeTokens.get? victim = none)
      (gone : victim ∉ taken.scheduledRunningReqs)
      (ran : taken.self.preemptRequest env config victim = .ok self) :
      RunningRound env config state
        { taken with self, preemptedReqs := taken.preemptedReqs ++ [victim] }
  | run {state planned : ScheduleState K} {id : ReqId} {plan : EncoderPlan} {kv planKv : K}
      (isRunning : id ∈ state.self.running)
      (unscheduled : state.numScheduledTokens.get? id = none ∧
        state.scheduledSpecDecodeTokens.get? id = none)
      (budget : 0 < planned.tokenBudget)
      (isPlan : planned.planRunning env config (state.self.request id) = .ok (plan, planKv))
      (nonzero : plan.numNewTokens ≠ 0)
      (answered : env.allocateSlots state.self.kv (state.self.request id)
        { numNewTokens := plan.numNewTokens
          numLookaheadTokens := config.numLookaheadTokens } = .ok (true, kv)) :
      RunningRound env config state ((state.withKv kv).scheduleRunning env id plan)
  | loras {state next : ScheduleState K} (ran : state.recordLoras config = .ok next) :
      RunningRound env config state next

inductive WaitingRound (env : Collaborators K) (config : SchedulerConfig) :
    ScheduleState K → ScheduleState K → Prop where
  | promote {state : ScheduleState K} {fromSkipped promoted : Bool} {id : ReqId}
      {self : Scheduler K}
      (peeked : peekRequest (state.waitingQueue fromSkipped) = .ok id)
      (ran : ScheduleState.tryPromoteBlockedWaitingRequest env state.self id =
        .ok (promoted, self)) :
      WaitingRound env config state { state with self }
  | skip {state next : ScheduleState K} {fromSkipped : Bool} {id : ReqId}
      (peeked : peekRequest (state.waitingQueue fromSkipped) = .ok id)
      (ran : state.skipWaiting config fromSkipped id = .ok next) : WaitingRound env config state next
  | lookup {state : ScheduleState K} {fromSkipped : Bool} {id : ReqId} {plan : WaitingPlan} {kv : K}
      (peeked : peekRequest (state.waitingQueue fromSkipped) = .ok id)
      (ran : state.lookupComputed env config (state.self.request id) = .ok (plan, kv)) :
      WaitingRound env config state (state.withKv kv)
  | planWaiting {state : ScheduleState K} {id : ReqId} {found : Admission} {plan : WaitingPlan}
      {kv : K} (ran : state.planWaiting env config (state.self.request id) found = .ok (plan, kv)) :
      WaitingRound env config state (state.withKv kv)
  | refuseWaiting {state : ScheduleState K} {fromSkipped : Bool} {id : ReqId} {kv : K}
      (admission : Admission)
      (peeked : peekRequest (state.waitingQueue fromSkipped) = .ok id)
      (answered : env.allocateSlots state.self.kv (state.self.request id)
        (state.admissionArgs env config (state.self.request id) admission) = .ok (false, kv)) :
      WaitingRound env config state (state.withKv
        (if (state.self.request id).hasEncoderInputs then
          env.freeEncoder kv (state.self.request id) else kv))
  | load {state looked popped : ScheduleState K} {fromSkipped : Bool} {id : ReqId} {kv planKv : K}
      {found admission : Admission}
      (peeked : peekRequest (state.waitingQueue fromSkipped) = .ok id)
      (lookedUp : state.lookupComputed env config (state.self.request id) =
        .ok (.proceed found, kv))
      (isLooked : looked = state.withKv kv)
      (planned : looked.planWaiting env config (state.self.request id) found =
        .ok (.proceed admission, planKv))
      (isAsync : admission.loadKvAsync = true) {allocated : K}
      (answered : env.allocateSlots planKv (state.self.request id)
        ((looked.withKv planKv).admissionArgs env config (state.self.request id) admission) =
        .ok (true, allocated))
      (pop : (looked.withKv (if config.hasConnector then env.updateStateAfterAlloc allocated
        (state.self.request id) admission.numExternalComputedTokens else allocated)).popWaiting
          config fromSkipped = .ok popped) :
      WaitingRound env config state (popped.startRemoteLoad config id admission)
  | start {state looked popped next : ScheduleState K} {fromSkipped : Bool} {id : ReqId}
      {kv planKv : K} {found admission : Admission}
      (peeked : peekRequest (state.waitingQueue fromSkipped) = .ok id)
      (lookedUp : state.lookupComputed env config (state.self.request id) =
        .ok (.proceed found, kv))
      (isLooked : looked = state.withKv kv)
      (planned : looked.planWaiting env config (state.self.request id) found =
        .ok (.proceed admission, planKv))
      (isLocal : admission.loadKvAsync = false) {allocated : K}
      (answered : env.allocateSlots planKv (state.self.request id)
        ((looked.withKv planKv).admissionArgs env config (state.self.request id) admission) =
        .ok (true, allocated))
      (pop : (looked.withKv (if config.hasConnector then env.updateStateAfterAlloc allocated
        (state.self.request id) admission.numExternalComputedTokens else allocated)).popWaiting
          config fromSkipped = .ok popped)
      (ran : popped.startRunning env config id admission = .ok next) : WaitingRound env config state next
  | requeue (state : ScheduleState K) : WaitingRound env config state (state.requeueSkipped config)

/-- One round of a loop of `schedule`. -/
inductive Round (env : Collaborators K) (config : SchedulerConfig)
    (state next : ScheduleState K) : Prop where
  | running (round : RunningRound env config state next)
  | waiting (round : WaitingRound env config state next)

abbrev Rounds (env : Collaborators K) (config : SchedulerConfig) :
    ScheduleState K → ScheduleState K → Prop :=
  Relation.ReflTransGen (Round env config)

abbrev RunningRounds (env : Collaborators K) (config : SchedulerConfig) :
    ScheduleState K → ScheduleState K → Prop :=
  Relation.ReflTransGen (RunningRound env config)

abbrev WaitingRounds (env : Collaborators K) (config : SchedulerConfig) :
    ScheduleState K → ScheduleState K → Prop :=
  Relation.ReflTransGen (WaitingRound env config)

namespace ScheduleState

variable {state next : ScheduleState K}

/-- The inner loop ends with slots for the request, untouched so far, or with the
request preempted. -/
theorem allocateRunning_rounds {fuel : Nat} {id : ReqId} {allocated : Bool}
    {planned : ScheduleState K} {plan : EncoderPlan} {planKv : K}
    (ahead : state.Ahead) (atHand : AtHand config state id)
    (isPlan : planned.planRunning env config (state.self.request id) = .ok (plan, planKv))
    (ran : allocateRunning env config fuel state id plan.numNewTokens = .ok (allocated, next)) :
    (allocated = false → RunningRounds env config state next) ∧
    (allocated = true → ∃ (mid : ScheduleState K) (kv : K), RunningRounds env config state mid ∧
      next = mid.withKv kv ∧ mid.Ahead ∧ AtHand config mid id ∧
      mid.self.request id = state.self.request id ∧
      env.allocateSlots mid.self.kv (mid.self.request id)
        { numNewTokens := plan.numNewTokens
          numLookaheadTokens := config.numLookaheadTokens } = .ok (true, kv)) := by
  induction fuel generalizing state with
  | zero => cases ran
  | succ fuel ih =>
    obtain ⟨⟨answer, kv⟩, answered, ran⟩ := bind_eq_ok.mp ran
    cases answer with
    | true =>
      cases ran
      exact ⟨fun refused => (Bool.noConfusion refused), fun _ =>
        ⟨state, kv, .refl, rfl, ahead, atHand, rfl, answered⟩⟩
    | false =>
      obtain ⟨⟨victim, taken⟩, took, ran⟩ := bind_eq_ok.mp ran
      obtain ⟨self, preempted, ran⟩ := bind_eq_ok.mp ran
      have refused : RunningRounds env config state (state.withKv kv) :=
        .single (.refuse (mem_of_mem_take atHand.behind) isPlan answered)
      obtain ⟨takenAhead, unscheduled, stillAtHand⟩ :=
        (ahead.withKv kv).takeVictim (atHand.withKv kv) took
      have first := refused.tail (.preempt took (takenAhead.tokens victim unscheduled) unscheduled
        preempted)
      split at ran
      next =>
        cases ran
        exact ⟨fun _ => first, fun refused => (Bool.noConfusion refused)⟩
      next differ =>
        obtain ⟨running, perm, takenSelf, -⟩ := takeVictim_eq took
        have spec := Scheduler.preemptRequest_spec preempted
        have sameRequest : self.request id = state.self.request id := by
          rw [spec.request, update_of_ne (Ne.symm differ), takenSelf]
          rfl
        have sameRunning : self.running = taken.self.running := spec.running
        have reached := stillAtHand differ
        rw [← sameRequest] at isPlan ⊢
        obtain ⟨whenRefused, whenAllocated⟩ := @ih
          { taken with self, preemptedReqs := taken.preemptedReqs ++ [victim] }
          ⟨by rw [sameRunning]; exact takenAhead.running,
            by rw [sameRunning]; exact takenAhead.ahead, takenAhead.scheduled, takenAhead.tokens⟩
          ⟨by rw [sameRunning]; exact reached.behind, by rw [sameRunning]; exact reached.fcfs,
            reached.unscheduled⟩
          isPlan ran
        refine ⟨fun isFalse => first.trans (whenRefused isFalse), fun isTrue => ?_⟩
        obtain ⟨mid, kv, rounds, rest⟩ := whenAllocated isTrue
        exact ⟨mid, kv, first.trans rounds, rest⟩

theorem Ahead.scheduleRunning {plan : EncoderPlan} (ahead : state.Ahead)
    (atHand : AtHand config state id) : (state.scheduleRunning env id plan).Ahead := by
  refine ⟨ahead.running, fun other isAhead => ?_, ?_, fun other gone => ?_⟩
  · have isAhead' : other ∈ state.self.running.drop (state.reqIndex + 1) := isAhead
    have differ : other ≠ id := fun same =>
      disjoint_take_drop ahead.running le_rfl atHand.behind (same ▸ isAhead')
    show other ∉ state.scheduledRunningReqs ++ [id]
    rw [mem_append, mem_singleton, not_or]
    refine ⟨ahead.ahead other ?_, differ⟩
    exact drop_subset_drop_left _ (Nat.le_succ _) isAhead'
  · exact ahead.scheduled.append (nodup_singleton _)
      (disjoint_singleton.mpr atHand.unscheduled)
  · have gone' : other ∉ state.scheduledRunningReqs ++ [id] := gone
    rw [mem_append, mem_singleton, not_or] at gone'
    have unscheduled := ahead.tokens other gone'.1
    refine ⟨(PyDict.get?_set_of_ne _ _ gone'.2).trans unscheduled.1, ?_⟩
    show (if _ then _ else _ : PyDict ReqId (List TokenId)).get? other = none
    split
    · exact unscheduled.2
    · exact (PyDict.get?_set_of_ne _ _ gone'.2).trans unscheduled.2

theorem Ahead.skip (ahead : state.Ahead) : ({ state with reqIndex := state.reqIndex + 1 }).Ahead :=
  ⟨ahead.running, fun id isAhead =>
    ahead.ahead id (drop_subset_drop_left _ (Nat.le_succ _) isAhead), ahead.scheduled,
    ahead.tokens⟩

theorem atHand_of_index {id : ReqId} (ahead : state.Ahead)
    (isAt : state.self.running[state.reqIndex]? = some id) : AtHand config state id := by
  obtain ⟨bound, read⟩ := List.getElem?_eq_some_iff.mp isAt
  refine ⟨?_, fun _ => isAt, ahead.ahead id ?_⟩
  · rw [mem_take_iff_getElem]
    exact ⟨state.reqIndex, lt_min (Nat.lt_succ_self _) bound, read⟩
  · rw [mem_drop_iff_getElem]
    exact ⟨0, by omega, by simpa using read⟩

/-- The request is neither done nor throttled, and there are tokens to schedule for it. -/
structure Asks (env : Collaborators K) (config : SchedulerConfig) (state : ScheduleState K) (id : ReqId)
    (plan : EncoderPlan) (kv : K) : Prop where
  unfinished : reachesMaxTokens (state.self.request id) = false
  eligible : ¬state.self.currentStep < (state.self.request id).nextDecodeEligibleStep
  isPlan : state.planRunning env config (state.self.request id) = .ok (plan, kv)
  nonzero : plan.numNewTokens ≠ 0

/-- The request is done or throttled, or some budget and some cache leave no tokens
to schedule for it. -/
def MaySkip (env : Collaborators K) (config : SchedulerConfig) (currentStep : Nat) (request : Request) : Prop :=
  reachesMaxTokens request = true ∨ currentStep < request.nextDecodeEligibleStep ∨
    ∃ (state : ScheduleState K) (plan : EncoderPlan) (kv : K), 0 < state.tokenBudget ∧
      state.planRunning env config request = .ok (plan, kv) ∧ plan.numNewTokens = 0

/-- A request without images may be skipped only if it has no tokens left or no room
for them. -/
theorem maySkip_text {request : Request} {currentStep : Nat} (isText : request.hasEncoderInputs = false)
    (unaligned : config.needMambaBlockAlignedSplit = false)
    (skips : MaySkip env config currentStep request) :
    reachesMaxTokens request = true ∨ currentStep < request.nextDecodeEligibleStep ∨
      min (request.numTokensWithSpec + request.numOutputPlaceholders - request.numComputedTokens)
        (config.maxModelLen - request.numComputedTokens - config.numSampledTokensPerStep) = 0 := by
  refine skips.imp_right (Or.imp_right ?_)
  rintro ⟨state, plan, kv, budget, isPlan, nothing⟩
  simp only [planRunning, encoderPlan, isText, unaligned, Bool.false_eq_true, if_false, bind, Except.bind,
    Except.ok.injEq, Prod.mk.injEq] at isPlan
  rw [← isPlan.1] at nothing
  simp only [runningTokens] at nothing
  split at nothing <;> omega

/-- A round skips the request at hand, or asks for slots until it has them or is
preempted itself. -/
theorem runningBody_cases {flow : LoopFlow K} (ran : state.runningBody env config id = .ok flow) :
    (∃ kv, flow = .next { state.withKv kv with reqIndex := state.reqIndex + 1 } ∧ (kv = state.self.kv ∨
      ∃ plan, state.planRunning env config (state.self.request id) = .ok (plan, kv)) ∧
      (0 < state.tokenBudget → MaySkip env config state.self.currentStep (state.self.request id))) ∨
    ∃ plan kv allocated reached, Asks env config state id plan kv ∧
      allocateRunning env config (state.self.running.length + 1) (state.withKv kv) id plan.numNewTokens =
        .ok (allocated, reached) ∧
      flow = if allocated then .next (reached.scheduleRunning env id plan) else .stop reached := by
  unfold runningBody at ran
  dsimp only at ran
  split at ran
  next finished =>
    cases ran
    exact .inl ⟨state.self.kv, rfl, .inl rfl, fun _ => .inl finished⟩
  next unfinished =>
    split at ran
    next throttled =>
      cases ran
      exact .inl ⟨state.self.kv, rfl, .inl rfl, fun _ => .inr (.inl throttled)⟩
    next eligible =>
      obtain ⟨⟨plan, kv⟩, isPlan, ran⟩ := bind_eq_ok.mp ran
      split at ran
      next nothing =>
        cases ran
        exact .inl ⟨kv, rfl, .inr ⟨plan, isPlan⟩, fun budget =>
          .inr (.inr ⟨state, plan, kv, budget, isPlan, nothing⟩)⟩
      next nonzero =>
        obtain ⟨⟨allocated, reached⟩, allocation, ran⟩ := bind_eq_ok.mp ran
        refine .inr ⟨plan, kv, allocated, reached, ⟨by simpa using unfinished, eligible, isPlan, nonzero⟩,
          allocation, ?_⟩
        cases allocated <;> cases ran <;> rfl

theorem runningBody_rounds {flow : LoopFlow K} (ahead : state.Ahead)
    (isAt : state.self.running[state.reqIndex]? = some id)
    (budget : 0 < state.tokenBudget) (ran : state.runningBody env config id = .ok flow) :
    RunningRounds env config state flow.state ∧
      (∀ reached, flow = .next reached → reached.Ahead) := by
  have atHand := @atHand_of_index _ config state id ahead isAt
  have isRunning := mem_of_getElem? isAt
  rcases runningBody_cases ran with ⟨kv, rfl, isKv, -⟩ | ⟨plan, planKv, allocated, reached, asks, allocation, rfl⟩
  · have planned : RunningRounds env config state (state.withKv kv) := by
      rcases isKv with rfl | ⟨plan, isPlan⟩
      · exact .refl
      · exact .single (.plan isRunning isPlan)
    refine ⟨planned.tail (.reindex _ _), fun reached same => ?_⟩
    cases same
    exact (ahead.withKv kv).skip
  · have isPlan := asks.isPlan
    have planned : RunningRounds env config state (state.withKv planKv) := .single (.plan isRunning isPlan)
    obtain ⟨whenRefused, whenAllocated⟩ := @allocateRunning_rounds _ _ _ (state.withKv planKv)
      _ _ _ _ state _ _ (ahead.withKv planKv) (atHand.withKv planKv) isPlan allocation
    cases allocated with
    | false => exact ⟨planned.trans (whenRefused rfl), nofun⟩
    | true =>
      obtain ⟨mid, kv, rounds, rfl, midAhead, midAtHand, sameRequest, answered⟩ := whenAllocated rfl
      rw [show state.self.request id = mid.self.request id from sameRequest.symm] at isPlan
      constructor
      · exact (planned.trans rounds).tail (.run (mem_of_mem_take midAtHand.behind)
          (midAhead.tokens id midAtHand.unscheduled) budget isPlan asks.nonzero answered)
      · intro final same
        cases same
        exact (midAhead.withKv kv).scheduleRunning (midAtHand.withKv kv)

theorem runningLoop_rounds {fuel : Nat} (ahead : state.Ahead)
    (ran : runningLoop env config fuel state = .ok next) : RunningRounds env config state next := by
  induction fuel generalizing state with
  | zero => cases ran
  | succ fuel ih =>
    rw [runningLoop] at ran
    split at ran
    next budget =>
      split at ran
      next =>
        cases ran
        exact .refl
      next id read =>
        obtain ⟨flow, body, ran⟩ := bind_eq_ok.mp ran
        obtain ⟨rounds, stays⟩ := runningBody_rounds ahead read budget body
        cases flow with
        | next reached => exact rounds.trans (ih (stays reached rfl) ran)
        | stop reached =>
          cases ran
          exact rounds
    next =>
      cases ran
      exact .refl

/-- What the running loop leaves alone: nobody gets another priority, and a request
that still runs and is not scheduled has its record. -/
structure Kept (first state : ScheduleState K) : Prop where
  running : state.self.running.Sublist first.self.running
  currentStep : state.self.currentStep = first.self.currentStep
  keys : ∀ id, victimKey (state.self.request id) = victimKey (first.self.request id)
  untouched : ∀ id ∈ state.self.running, id ∉ state.scheduledRunningReqs →
    state.self.request id = first.self.request id

theorem Kept.round {first : ScheduleState K} (kept : Kept first state) (nodup : first.self.running.Nodup)
    (round : RunningRound env config state next) : Kept first next := by
  cases round with
  | reindex => exact ⟨kept.running, kept.currentStep, kept.keys, kept.untouched⟩
  | plan => exact ⟨kept.running, kept.currentStep, kept.keys, kept.untouched⟩
  | refuse => exact ⟨kept.running, kept.currentStep, kept.keys, kept.untouched⟩
  | @preempt taken victim self took _ gone ran =>
    have spec := Scheduler.preemptRequest_spec ran
    obtain ⟨running, perm, takenSelf, isTaken⟩ := takeVictim_eq took
    have isShorter : taken.self.running.Sublist state.self.running := by
      rcases takeVictim_cases took with ⟨-, -, isNext⟩ | ⟨-, front, isFront, isNext⟩
      · split at isNext <;> rw [isNext] <;> exact erase_sublist
      · rw [isNext, isFront]
        exact sublist_append_left ..
    have wasUnscheduled : ∀ id, id ≠ victim → id ∉ taken.scheduledRunningReqs →
        id ∉ state.scheduledRunningReqs := by
      intro id differ unscheduled
      rcases isTaken with rfl | ⟨-, rfl⟩
      · exact unscheduled
      · exact fun isScheduled => unscheduled ((mem_erase_of_ne differ).mpr isScheduled)
    refine ⟨?_, ?_, fun id => ?_, fun id isRunning unscheduled => ?_⟩
    · exact (spec.running ▸ isShorter : self.running.Sublist _).trans kept.running
    · exact (spec.currentStep.trans (congrArg Scheduler.currentStep takenSelf)).trans kept.currentStep
    · refine Eq.trans ?_ (kept.keys id)
      rw [spec.request, takenSelf]
      by_cases same : id = victim
      · rw [same, update_self]
        rfl
      · rw [update_of_ne same]
    · have stillRuns : id ∈ self.running := isRunning
      rw [spec.running, takenSelf] at stillRuns
      have differ : id ≠ victim := fun same =>
        (nodup_cons.mp (perm.nodup (nodup.sublist kept.running))).1 (same ▸ stillRuns)
      rw [spec.request, takenSelf, update_of_ne differ]
      exact kept.untouched id (perm.mem_iff.mpr (mem_cons_of_mem _ stillRuns))
        (wasUnscheduled id differ unscheduled)
  | @run planned id plan kv planKv isRunning =>
    refine ⟨kept.running, kept.currentStep, fun other => ?_, fun other isOther unscheduled => ?_⟩
    · refine Eq.trans ?_ (kept.keys other)
      show victimKey (update state.self.request id _ other) = _
      by_cases same : other = id
      · rw [same, update_self]
        rfl
      · rw [update_of_ne same]
    · obtain ⟨wasUnscheduled, differ⟩ := not_or.mp (mt mem_append.mpr unscheduled)
      show update state.self.request id _ other = _
      rw [update_of_ne (mt mem_singleton.mpr differ)]
      exact kept.untouched other isOther wasUnscheduled
  | loras ran =>
    obtain ⟨_, rfl⟩ := recordLoras_eq ran
    exact ⟨kept.running, kept.currentStep, kept.keys, kept.untouched⟩

theorem Kept.rounds {first : ScheduleState K} (kept : Kept first state) (nodup : first.self.running.Nodup)
    (rounds : RunningRounds env config state next) : Kept first next := by
  induction rounds with
  | refl => exact kept
  | tail _ round ih => exact ih.round nodup round

theorem Kept.refl (state : ScheduleState K) : Kept state state :=
  ⟨List.Sublist.refl _, rfl, fun _ => rfl, fun _ _ _ => rfl⟩

/-! ## The waiting loop -/

/-- A promotion changes the record of a blocked request, which is then blocked as before, `WAITING`
or `PREEMPTED`, and what the connector reported. -/
theorem tryPromote_eq {self promotedSelf : Scheduler K} {promoted : Bool}
    (ran : tryPromoteBlockedWaitingRequest env self id = .ok (promoted, promotedSelf)) :
    (self.request id).status ≠ .running ∧ ∃ kv finished failed status numComputedTokens,
      (status = (self.request id).status ∨ status = .waiting ∨ status = .preempted) ∧
      promotedSelf = { self with
        kv
        finishedRecvingKvReqIds := finished
        failedRecvingKvReqIds := failed
        request := update self.request id
          { self.request id with status := status, numComputedTokens := numComputedTokens } } := by
  have unchanged : self.request = update self.request id (self.request id) :=
    (update_eq_self ..).symm
  unfold tryPromoteBlockedWaitingRequest at ran
  dsimp only at ran
  split at ran
  next status =>
    refine ⟨by rw [status]; exact nofun, ?_⟩
    split at ran
    next =>
      cases ran
      exact ⟨_, _, _, _, (self.request id).numComputedTokens, .inl rfl, by rw [← unchanged]⟩
    next =>
      obtain ⟨loaded, updated, ran⟩ := bind_eq_ok.mp ran
      cases ran
      obtain ⟨mid, isMid, updated⟩ := bind_eq_ok.mp updated
      cases updated
      have midEq : ∃ kv failed numComputedTokens, mid = { self with
          kv
          failedRecvingKvReqIds := failed
          request := update self.request id
            { self.request id with numComputedTokens := numComputedTokens } } := by
        split at isMid
        next =>
          obtain ⟨kv, -, isMid⟩ := bind_eq_ok.mp isMid
          cases isMid
          exact ⟨kv, _, (self.request id).numComputedTokens, by rw [← unchanged]⟩
        next =>
          obtain ⟨kv, -, isMid⟩ := bind_eq_ok.mp isMid
          cases isMid
          by_cases isWhole : (self.request id).numComputedTokens = (self.request id).numTokens
          · exact ⟨kv, self.failedRecvingKvReqIds, _, congrArg (fun record : Request =>
              { self with kv, request := update self.request id record }) (if_pos isWhole)⟩
          · exact ⟨kv, self.failedRecvingKvReqIds, (self.request id).numComputedTokens,
              congrArg (fun record : Request =>
                { self with kv, request := update self.request id record }) (if_neg isWhole)⟩
      obtain ⟨kv, failed, numComputedTokens, rfl⟩ := midEq
      refine ⟨kv, self.finishedRecvingKvReqIds.filter (· ≠ id), failed,
        if (self.request id).numPreemptions ≠ 0 then .preempted else .waiting, numComputedTokens,
        .inr (by split <;> simp), ?_⟩
      simp only [Scheduler.modifyRequest, update_idem, update_self]
  next status =>
    refine ⟨by rw [status]; exact nofun, ?_⟩
    split at ran
    next =>
      cases ran
      exact ⟨_, _, _, .waiting, (self.request id).numComputedTokens, .inr (.inl rfl), rfl⟩
    next =>
      cases ran
      exact ⟨_, _, _, _, (self.request id).numComputedTokens, .inl rfl, by rw [← unchanged]⟩
  next status =>
    obtain ⟨_, -, ran⟩ := bind_eq_ok.mp ran
    cases ran
    exact ⟨by rw [status]; exact nofun, _, _, _, _, (self.request id).numComputedTokens, .inl rfl,
      by rw [← unchanged]⟩
  next => cases ran

theorem promote_rounds {fromSkipped promoted : Bool} {id : ReqId}
    (peeked : peekRequest (state.waitingQueue fromSkipped) = .ok id)
    (ran : state.promote env id = .ok (promoted, next)) :
    WaitingRounds env config state next ∧ next.waitingQueue fromSkipped = state.waitingQueue fromSkipped := by
  unfold promote at ran
  split at ran
  next =>
    obtain ⟨⟨answer, self⟩, tried, ran⟩ := bind_eq_ok.mp ran
    cases ran
    obtain ⟨-, _, _, _, _, _, -, rfl⟩ := tryPromote_eq tried
    exact ⟨.single (.promote peeked tried), rfl⟩
  next =>
    cases ran
    exact ⟨.refl, rfl⟩

/-- A round of the waiting loop puts its request aside, ends the loop, or admits the request. -/
theorem waitingBody_cases {flow : LoopFlow K} (ran : state.waitingBody env config = .ok flow) :
    ∃ id promoted mid,
      peekRequest (state.waitingQueue (state.selectsSkipped config)) = .ok id ∧
      state.promote env id = .ok (promoted, mid) ∧
      ((∃ looked next, (looked = mid ∨ ∃ kv, mid.lookupComputed env config (mid.self.request id) =
          .ok (.skip, kv) ∧ looked = mid.withKv kv) ∧
        looked.skipWaiting config (state.selectsSkipped config) id = .ok next ∧ flow = .next next) ∨
      (∃ kv, mid.lookupComputed env config (mid.self.request id) = .ok (.stop, kv) ∧
        flow = .stop (mid.withKv kv)) ∨
      ∃ kv found plan planKv, mid.lookupComputed env config (mid.self.request id) = .ok (.proceed found, kv) ∧
        (mid.withKv kv).planWaiting env config (mid.self.request id) found = .ok (plan, planKv) ∧
        (flow = .stop (mid.withKv planKv) ∨ ∃ admission, plan = .proceed admission ∧ promoted = true ∧
          mid.exceedsMaxLoras config (mid.self.request id) = false ∧
          (mid.withKv planKv).admitWaiting env config (state.selectsSkipped config) id admission = .ok flow)) := by
  obtain ⟨id, peeked, ran⟩ := bind_eq_ok.mp ran
  obtain ⟨⟨promoted, mid⟩, promotion, ran⟩ := bind_eq_ok.mp ran
  refine ⟨id, promoted, mid, peeked, promotion, ?_⟩
  dsimp only at ran
  split at ran
  next =>
    obtain ⟨skipped, skip, ran⟩ := bind_eq_ok.mp ran
    cases ran
    exact .inl ⟨mid, skipped, .inl rfl, skip, rfl⟩
  next isPromoted =>
    split at ran
    next =>
      obtain ⟨skipped, skip, ran⟩ := bind_eq_ok.mp ran
      cases ran
      exact .inl ⟨mid, skipped, .inl rfl, skip, rfl⟩
    next passes =>
      obtain ⟨⟨looked, kv⟩, lookup, ran⟩ := bind_eq_ok.mp ran
      cases looked with
      | skip =>
        obtain ⟨skipped, skip, ran⟩ := bind_eq_ok.mp ran
        cases ran
        exact .inl ⟨_, skipped, .inr ⟨kv, lookup, rfl⟩, skip, rfl⟩
      | stop =>
        cases ran
        exact .inr (.inl ⟨kv, lookup, rfl⟩)
      | proceed found =>
        obtain ⟨⟨plan, planKv⟩, planned, ran⟩ := bind_eq_ok.mp ran
        refine .inr (.inr ⟨kv, found, plan, planKv, lookup, planned, ?_⟩)
        cases plan with
        | skip =>
          cases ran
          exact .inl rfl
        | stop =>
          cases ran
          exact .inl rfl
        | proceed admission =>
          exact .inr ⟨admission, rfl, by simpa using isPromoted, by simpa using passes, ran⟩

/-- The slots of a waiting request are refused, or it leaves its queue and is loaded or started. -/
theorem admitWaiting_cases {admission : Admission} {flow : LoopFlow K}
    (ran : state.admitWaiting env config fromSkipped id admission = .ok flow) :
    ∃ answer kv, env.allocateSlots state.self.kv (state.self.request id)
        (state.admissionArgs env config (state.self.request id) admission) = .ok (answer, kv) ∧
      (answer = false ∧ flow = .stop (state.withKv
        (if (state.self.request id).hasEncoderInputs then env.freeEncoder kv (state.self.request id) else kv)) ∨
      answer = true ∧ ∃ popped, (state.withKv (if config.hasConnector then env.updateStateAfterAlloc kv
          (state.self.request id) admission.numExternalComputedTokens else kv)).popWaiting config fromSkipped =
          .ok popped ∧
        (admission.loadKvAsync = true ∧ flow = .next (popped.startRemoteLoad config id admission) ∨
        admission.loadKvAsync = false ∧ ∃ started, popped.startRunning env config id admission = .ok started ∧
          flow = .next started)) := by
  obtain ⟨⟨answer, kv⟩, answered, ran⟩ := bind_eq_ok.mp ran
  refine ⟨answer, kv, answered, ?_⟩
  cases answer with
  | false =>
    cases ran
    refine .inl ⟨rfl, congrArg LoopFlow.stop ?_⟩
    split <;> rfl
  | true =>
    obtain ⟨popped, pop, ran⟩ := bind_eq_ok.mp ran
    refine .inr ⟨rfl, popped, ?_, ?_⟩
    · rw [← pop]
      split <;> rfl
    · split at ran
      next isAsync =>
        cases ran
        exact .inl ⟨isAsync, rfl⟩
      next isLocal =>
        obtain ⟨started, start, ran⟩ := bind_eq_ok.mp ran
        cases ran
        exact .inr ⟨by simpa using isLocal, started, start, rfl⟩

theorem waitingBody_rounds {flow : LoopFlow K} (ran : state.waitingBody env config = .ok flow) :
    WaitingRounds env config state flow.state := by
  obtain ⟨id, promoted, mid, peeked, promotion, outcome⟩ := waitingBody_cases ran
  obtain ⟨rounds, sameQueue⟩ := promote_rounds peeked promotion
  rw [← sameQueue] at peeked
  rcases outcome with ⟨_, _, rfl | ⟨kv, looked, rfl⟩, skip, rfl⟩ | ⟨kv, looked, rfl⟩ |
    ⟨kv, found, plan, planKv, looked, planned, rfl | ⟨admission, rfl, _, _, ran⟩⟩
  · exact rounds.tail (.skip peeked skip)
  · exact (rounds.tail (.lookup peeked looked)).tail (.skip peeked skip)
  · exact rounds.tail (.lookup peeked looked)
  · exact (rounds.tail (.lookup peeked looked)).tail (.planWaiting planned)
  · obtain ⟨_, _, answered, ⟨rfl, rfl⟩ | ⟨rfl, popped, pop, ⟨isAsync, rfl⟩ | ⟨isLocal, started, start, rfl⟩⟩⟩ :=
      admitWaiting_cases ran
    · exact ((rounds.tail (.lookup peeked looked)).tail (.planWaiting planned)).tail
        (.refuseWaiting _ peeked answered)
    · exact rounds.tail (.load peeked looked rfl planned isAsync answered pop)
    · exact rounds.tail (.start peeked looked rfl planned isLocal answered pop start)

theorem waitingLoop_rounds {fuel : Nat} (ran : waitingLoop env config fuel state = .ok next) :
    WaitingRounds env config state next := by
  induction fuel generalizing state with
  | zero => cases ran
  | succ fuel ih =>
    rw [waitingLoop] at ran
    split at ran
    next =>
      cases ran
      exact .refl
    next =>
      obtain ⟨flow, body, ran⟩ := bind_eq_ok.mp ran
      have rounds := waitingBody_rounds body
      cases flow with
      | next reached => exact rounds.trans (ih ran)
      | stop reached =>
        cases ran
        exact rounds

end ScheduleState

namespace Scheduler

variable {self : Scheduler K} {state : ScheduleState K}

theorem runningRounds_aside {first last : ScheduleState K} (rounds : RunningRounds env config first last) :
    last.stepSkippedWaiting = first.stepSkippedWaiting := by
  induction rounds with
  | refl => rfl
  | tail _ round ih =>
    rw [← ih]
    cases round with
    | reindex => rfl
    | plan => rfl
    | refuse => rfl
    | preempt took _ _ ran =>
      obtain ⟨running, -, -, rfl | ⟨-, rfl⟩⟩ := ScheduleState.takeVictim_eq took <;> rfl
    | run => rfl
    | loras ran =>
      obtain ⟨_, rfl⟩ := ScheduleState.recordLoras_eq ran
      rfl

theorem beginSchedule_ahead (nodup : self.running.Nodup) :
    (self.beginSchedule env config).Ahead :=
  ⟨nodup, fun _ _ => by simp [beginSchedule], nodup_nil, fun _ _ => ⟨rfl, rfl⟩⟩

theorem scheduleLoops_phases (nodup : self.running.Nodup)
    (ran : self.scheduleLoops env config = .ok state) :
    ∃ mid, RunningRounds env config (self.beginSchedule env config) mid ∧
      ((mid = state) ∨ (mid.preemptedReqs = [] ∧ ∃ last, WaitingRounds env config mid last ∧
        state = last.requeueSkipped config)) := by
  obtain ⟨afterRunning, running, ran⟩ := bind_eq_ok.mp ran
  obtain ⟨recorded, record, ran⟩ := bind_eq_ok.mp ran
  have rounds := (ScheduleState.runningLoop_rounds (beginSchedule_ahead nodup) running).tail
    (.loras record)
  refine ⟨recorded, rounds, ?_⟩
  split at ran
  next goesOn =>
    obtain ⟨afterWaiting, waiting, ran⟩ := bind_eq_ok.mp ran
    cases ran
    have nobody : recorded.preemptedReqs = [] :=
      isEmpty_iff.mp (Bool.and_eq_true_iff.mp goesOn).1
    exact .inr ⟨nobody, afterWaiting, ScheduleState.waitingLoop_rounds waiting, rfl⟩
  next =>
    cases ran
    exact .inl rfl

/-- Between its first and last assignment, `schedule` only makes rounds, and
every request put aside is back in a queue at the end. -/
theorem scheduleLoops_rounds (nodup : self.running.Nodup)
    (ran : self.scheduleLoops env config = .ok state) :
    Rounds env config (self.beginSchedule env config) state ∧ state.stepSkippedWaiting = [] := by
  obtain ⟨mid, running, rfl | ⟨-, last, waiting, rfl⟩⟩ := scheduleLoops_phases nodup ran
  · exact ⟨Relation.ReflTransGen.mono (fun _ _ => .running) _ _ running,
      runningRounds_aside running⟩
  · have waitingRounds := waiting.tail (.requeue _)
    have rounds : Rounds env config (self.beginSchedule env config) mid :=
      Relation.ReflTransGen.mono (fun _ _ => .running) _ _ running
    exact ⟨rounds.trans (Relation.ReflTransGen.mono (fun _ _ => .waiting) _ _ waitingRounds), rfl⟩

end Scheduler

end DeepSpark
