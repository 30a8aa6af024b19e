import DeepSpark.Scheduler.PlainRuns

/-!
The limit on LoRA adapters.

Owns the adapters of a list of requests, the condition under which the limit is
tested soundly, and what follows over whole runs: the requests in `running` never
use more than `max_loras` adapters, and so does no step.
-/

namespace DeepSpark

open Lib Function Scheduler

variable {K : Type} {env : Collaborators K} {config : SchedulerConfig}
  {ids : List ReqId} {maxLoras : Nat}

namespace Scheduler

/-- The ids of the adapters that some requests use. -/
def adapters (self : Scheduler K) (ids : List ReqId) : List Nat :=
  (ids.filterMap fun id => (self.request id).loraRequest.map (·.loraIntId)).filter (0 < ·) |>.dedup

def SameLoras (scheduler next : Scheduler K) : Prop :=
  ∀ id, (next.request id).loraRequest = (scheduler.request id).loraRequest

variable {self next : Scheduler K}

theorem SameLoras.trans {mid : Scheduler K} (first : SameLoras self mid) (second : SameLoras mid next) :
    SameLoras self next := fun id => (second id).trans (first id)

theorem mem_adapters {adapter : Nat} : adapter ∈ self.adapters ids ↔
    0 < adapter ∧ ∃ id ∈ ids, ∃ lora, (self.request id).loraRequest = some lora ∧
      lora.loraIntId = adapter := by
  unfold adapters
  rw [List.mem_dedup, List.mem_filter, decide_eq_true_iff, List.mem_filterMap, and_comm]
  simp only [Option.map_eq_some_iff]

theorem adapters_length_le {nextIds : List ReqId} (same : ∀ id ∈ nextIds, id ∈ ids ∧
      (next.request id).loraRequest = (self.request id).loraRequest) :
    (next.adapters nextIds).length ≤ (self.adapters ids).length := by
  have nodup : (next.adapters nextIds).Nodup := List.nodup_dedup _
  refine (List.subperm_of_subset nodup fun adapter isUsed => ?_).length_le
  obtain ⟨positive, id, isMember, lora, read, isAdapter⟩ := mem_adapters.mp isUsed
  obtain ⟨wasMember, sameLora⟩ := same id isMember
  exact mem_adapters.mpr ⟨positive, id, wasMember, lora, sameLora.symm.trans read, isAdapter⟩

end Scheduler

variable {fuel : Nat}

namespace ScheduleState

open Scheduler (SameLoras)

variable {state next : ScheduleState K}

theorem lorasOf_eq (state : ScheduleState K) (ids : List ReqId) :
    state.lorasOf ids = state.self.adapters ids := rfl

theorem Round.sameLoras (round : Round env config state next) : SameLoras state.self next.self := by
  intro id
  cases round with
  | running round =>
    cases round with
    | reindex => rfl
    | plan => rfl
    | refuse => rfl
    | @preempt taken victim self took _ _ ran =>
      rw [(preemptRequest_spec ran).request, (takeVictim_others took).1]
      by_cases same : id = victim
      · rw [same, update_self]
        rfl
      · rw [update_of_ne same]
    | @run planned other plan kv planKv =>
      show (update state.self.request other _ id).loraRequest = _
      by_cases same : id = other
      · rw [same, update_self]
        rfl
      · rw [update_of_ne same]
    | loras ran =>
      obtain ⟨_, rfl⟩ := recordLoras_eq ran
      rfl
  | waiting round =>
    cases round with
    | @promote _ _ other promotedSelf peeked ran =>
      obtain ⟨-, _, _, _, _, _, -, rfl⟩ := tryPromote_eq ran
      show (update state.self.request other _ id).loraRequest = _
      by_cases same : id = other
      · rw [same, update_self]
      · rw [update_of_ne same]
    | skip peeked ran =>
      obtain ⟨popped, pop, rfl⟩ := skipWaiting_eq ran
      show (popped.self.request id).loraRequest = _
      rw [(popWaiting_spec pop peeked).self]
    | lookup => rfl
    | planWaiting => rfl
    | refuseWaiting => rfl
    | @load _ popped _ other _ _ _ admission peeked _ isLooked _ _ _ _ pop =>
      subst isLooked
      rw [startRemoteLoad_request, (popWaiting_spec pop peeked).self]
      by_cases same : id = other
      · rw [same, update_self]
        rfl
      · rw [update_of_ne same]
        rfl
    | @start _ popped _ _ other _ _ _ _ peeked _ isLooked _ _ _ _ pop ran =>
      subst isLooked
      rw [(startRunning_spec ran).request, (popWaiting_spec pop peeked).self]
      by_cases same : id = other
      · rw [same, update_self]
        rfl
      · rw [update_of_ne same]
        rfl
    | requeue => rfl

theorem Rounds.sameLoras (rounds : Rounds env config state next) :
    SameLoras state.self next.self := by
  induction rounds with
  | refl => exact fun _ => rfl
  | tail _ round ih =>
    exact ih.trans (Round.sameLoras round)

/-! ## The running loop -/

theorem RunningRounds.scheduled_subset (rounds : RunningRounds env config state next)
    (before : ∀ id ∈ state.scheduledRunningReqs, id ∈ state.self.running) :
    ∀ id ∈ next.scheduledRunningReqs, id ∈ next.self.running := by
  induction rounds with
  | refl => exact before
  | @tail mid last _ round ih =>
    cases round with
    | reindex => exact ih
    | plan => exact ih
    | refuse => exact ih
    | @preempt taken victim self took _ gone ran =>
      intro id isScheduled
      have differ : id ≠ victim := fun same => gone (same ▸ isScheduled)
      obtain ⟨running, perm, takenSelf, isTaken⟩ := takeVictim_eq took
      have wasScheduled : id ∈ mid.scheduledRunningReqs := by
        rcases isTaken with rfl | ⟨-, rfl⟩
        · exact isScheduled
        · exact List.mem_of_mem_erase isScheduled
      have isRunning := perm.mem_iff.mp (ih id wasScheduled)
      rw [(preemptRequest_spec ran).running, takenSelf]
      exact (List.mem_cons.mp isRunning).resolve_left differ
    | @run planned id plan kv planKv isRunning =>
      intro other isScheduled
      rcases List.mem_append.mp isScheduled with isScheduled | isLast
      · exact ih other isScheduled
      · rw [List.mem_singleton.mp isLast]
        exact isRunning
    | loras ran =>
      obtain ⟨_, rfl⟩ := recordLoras_eq ran
      exact ih

theorem RunningRounds.running_subset (rounds : RunningRounds env config state next) :
    ∀ id ∈ next.self.running, id ∈ state.self.running := by
  induction rounds with
  | refl => exact fun _ isRunning => isRunning
  | @tail mid last _ round ih =>
    cases round with
    | reindex => exact ih
    | plan => exact ih
    | refuse => exact ih
    | @preempt taken victim self took _ _ ran =>
      intro id isRunning
      obtain ⟨running, perm, takenSelf, -⟩ := takeVictim_eq took
      rw [(preemptRequest_spec ran).running, takenSelf] at isRunning
      exact ih id (perm.mem_iff.mpr (List.mem_cons_of_mem _ isRunning))
    | run => exact ih
    | loras ran =>
      obtain ⟨_, rfl⟩ := recordLoras_eq ran
      exact ih

theorem RunningRounds.nobody (rounds : RunningRounds env config state next) (nobody : next.preemptedReqs = []) :
    state.preemptedReqs = [] ∧ next.self.running = state.self.running := by
  induction rounds with
  | refl => exact ⟨nobody, rfl⟩
  | @tail mid last _ round ih =>
    have unchanged : mid.preemptedReqs = [] ∧ last.self.running = mid.self.running := by
      cases round with
      | reindex => exact ⟨nobody, rfl⟩
      | plan => exact ⟨nobody, rfl⟩
      | refuse => exact ⟨nobody, rfl⟩
      | preempt => exact absurd nobody (List.append_ne_nil_of_right_ne_nil _ (List.cons_ne_nil _ _))
      | run => exact ⟨nobody, rfl⟩
      | loras ran =>
        obtain ⟨_, rfl⟩ := recordLoras_eq ran
        exact ⟨nobody, rfl⟩
    exact ⟨(ih unchanged.1).1, unchanged.2.trans (ih unchanged.1).2⟩

/-- Where nobody is preempted, the first answer gives the slots. -/
theorem allocateRunning_nobody {id : ReqId} {numNewTokens : Int} {allocated : Bool}
    (ran : allocateRunning env config fuel state id numNewTokens = .ok (allocated, next))
    (nobody : next.preemptedReqs = []) : allocated = true ∧ ∃ kv, next = state.withKv kv := by
  induction fuel generalizing state with
  | zero => cases ran
  | succ fuel ih =>
    obtain ⟨⟨answer, kv⟩, -, ran⟩ := bind_eq_ok.mp ran
    cases answer with
    | true =>
      cases ran
      exact ⟨rfl, kv, rfl⟩
    | false =>
      obtain ⟨⟨victim, taken⟩, -, ran⟩ := bind_eq_ok.mp ran
      obtain ⟨self, -, ran⟩ := bind_eq_ok.mp ran
      have someone : taken.preemptedReqs ++ [victim] ≠ [] :=
        List.append_ne_nil_of_right_ne_nil _ (List.cons_ne_nil _ _)
      split at ran
      next =>
        cases ran
        exact absurd nobody someone
      next =>
        obtain ⟨-, _, rfl⟩ := ih ran
        exact absurd nobody someone

/-- A loop that preempts nobody and ends with budget left has scheduled every
request but those that may be skipped. -/
theorem runningLoop_sorts {first : ScheduleState K} (kept : Kept first state) (ahead : state.Ahead)
    (nodup : first.self.running.Nodup)
    (sorted : ∀ id ∈ state.self.running.take state.reqIndex, id ∈ state.scheduledRunningReqs ∨
      MaySkip env config first.self.currentStep (first.self.request id))
    (ran : runningLoop env config fuel state = .ok next) (nobody : next.preemptedReqs = [])
    (budget : 0 < next.tokenBudget) :
    ∀ id ∈ next.self.running, id ∈ next.scheduledRunningReqs ∨
      MaySkip env config first.self.currentStep (first.self.request id) := by
  induction fuel generalizing state with
  | zero => cases ran
  | succ fuel ih =>
    rw [runningLoop] at ran
    split at ran
    next hasBudget =>
      split at ran
      next ended =>
        cases ran
        rwa [List.take_of_length_le (List.getElem?_eq_none_iff.mp ended)] at sorted
      next id read =>
        obtain ⟨flow, body, ran⟩ := bind_eq_ok.mp ran
        obtain ⟨rounds, stays⟩ := runningBody_rounds ahead read hasBudget body
        have isRunning := List.mem_of_getElem? read
        have record := kept.untouched id isRunning
          (show AtHand config state id from atHand_of_index ahead read).unscheduled
        have sorts : ∀ (scheduled : List ReqId), state.scheduledRunningReqs ⊆ scheduled →
            (id ∈ scheduled ∨ MaySkip env config first.self.currentStep (first.self.request id)) →
            ∀ other ∈ state.self.running.take (state.reqIndex + 1), other ∈ scheduled ∨
              MaySkip env config first.self.currentStep (first.self.request other) := by
          intro scheduled isLarger isSorted other isOther
          rw [List.take_add_one, read] at isOther
          rcases List.mem_append.mp isOther with isBefore | isLast
          · exact (sorted other isBefore).imp_left (isLarger ·)
          · rwa [List.mem_singleton.mp isLast]
        rcases runningBody_cases body with ⟨kv, rfl, -, skips⟩ | ⟨plan, kv, allocated, reached, -, allocation, rfl⟩
        · have skips := skips hasBudget
          rw [kept.currentStep, record] at skips
          exact ih (kept.rounds nodup rounds) (stays _ rfl) (sorts _ (List.Subset.refl _) (.inr skips)) ran
        · cases allocated with
          | false =>
            cases ran
            exact absurd (allocateRunning_nobody allocation nobody).1 Bool.false_ne_true
          | true =>
            have laterRounds := runningLoop_rounds (stays _ rfl) ran
            have laterNobody := (RunningRounds.nobody laterRounds nobody).1
            obtain ⟨-, _, rfl⟩ := allocateRunning_nobody allocation laterNobody
            exact ih (kept.rounds nodup rounds) (stays _ rfl) (sorts _ (List.subset_append_left _ _)
              (.inl (List.mem_append_right _ (List.mem_singleton_self id)))) ran
    next noBudget =>
      cases ran
      exact absurd budget noBudget

/-! ## The waiting loop -/

/-- The LoRA test sees every adapter of the running requests. -/
structure Shown (maxLoras : Nat) (state : ScheduleState K) : Prop where
  adapters : ∀ adapter ∈ state.self.adapters state.self.running, adapter ∈ state.scheduledLoras
  bound : state.scheduledLoras.length ≤ maxLoras

theorem Shown.of_same (shown : Shown maxLoras state) (running : next.self.running = state.self.running)
    (sameLoras : SameLoras state.self next.self) (scheduled : next.scheduledLoras = state.scheduledLoras) :
    Shown maxLoras next := by
  refine ⟨fun adapter isUsed => ?_, scheduled ▸ shown.bound⟩
  obtain ⟨positive, id, isRunning, lora, read, isAdapter⟩ := mem_adapters.mp isUsed
  rw [scheduled]
  exact shown.adapters adapter (mem_adapters.mpr
    ⟨positive, id, running ▸ isRunning, lora, (sameLoras id).symm.trans read, isAdapter⟩)

theorem promote_running {id : ReqId} {promoted : Bool}
    (ran : state.promote env id = .ok (promoted, next)) :
    next.self.running = state.self.running ∧ SameLoras state.self next.self ∧
      next.scheduledLoras = state.scheduledLoras := by
  unfold promote at ran
  split at ran
  next =>
    obtain ⟨⟨answer, self⟩, tried, ran⟩ := bind_eq_ok.mp ran
    cases ran
    obtain ⟨-, _, _, _, _, _, -, rfl⟩ := tryPromote_eq tried
    refine ⟨rfl, fun other => ?_, rfl⟩
    dsimp only
    by_cases same : other = id
    · rw [same, update_self]
    · rw [update_of_ne same]
  next =>
    cases ran
    exact ⟨rfl, fun _ => rfl, rfl⟩

theorem skipWaiting_running {fromSkipped : Bool} {id : ReqId}
    (peeked : RequestQueue.peekRequest (state.waitingQueue fromSkipped) = .ok id)
    (ran : state.skipWaiting config fromSkipped id = .ok next) :
    next.self.running = state.self.running ∧ next.scheduledLoras = state.scheduledLoras := by
  obtain ⟨popped, pop, rfl⟩ := skipWaiting_eq ran
  have spec := popWaiting_spec pop peeked
  have loras : popped.scheduledLoras = state.scheduledLoras := by rw [spec.rest]
  exact ⟨spec.running, loras⟩

theorem startRunning_loras {id : ReqId} {admission : Admission} (isMax : config.maxLoras = some maxLoras)
    (ran : state.startRunning env config id admission = .ok next) :
    next.scheduledLoras = (state.self.request id).loraRequest.elim state.scheduledLoras fun lora =>
      state.scheduledLoras.insert lora.loraIntId := by
  obtain ⟨⟨newReqs, resumedReqs⟩, -, ran⟩ := bind_eq_ok.mp ran
  cases ran
  rw [isMax]
  cases (state.self.request id).loraRequest <;> rfl

/-- One round of the waiting loop starts at most the request that passed the
test. -/
theorem waitingBody_running {flow : LoopFlow K} (isMax : config.maxLoras = some maxLoras)
    (ran : state.waitingBody env config = .ok flow) :
    flow.state.self.running = state.self.running ∧ flow.state.scheduledLoras = state.scheduledLoras ∨
      ∃ id promoted, state.promote env id = .ok (true, promoted) ∧
        promoted.exceedsMaxLoras config (promoted.self.request id) = false ∧
        flow.state.self.running = state.self.running ++ [id] ∧
        flow.state.scheduledLoras = (promoted.self.request id).loraRequest.elim state.scheduledLoras fun lora =>
          state.scheduledLoras.insert lora.loraIntId := by
  obtain ⟨id, answer, promoted, peeked, promotion, outcome⟩ := waitingBody_cases ran
  obtain ⟨running, -, loras⟩ := promote_running promotion
  have stillPeeked := (@promote_rounds _ env config _ _ _ _ _ peeked promotion).2 ▸ peeked
  rcases outcome with ⟨_, _, rfl | ⟨kv, -, rfl⟩, skip, rfl⟩ | ⟨kv, -, rfl⟩ |
    ⟨kv, found, plan, planKv, -, -, rfl | ⟨admission, -, rfl, passes, ran⟩⟩
  · obtain ⟨skipRunning, skipLoras⟩ := skipWaiting_running stillPeeked skip
    exact .inl ⟨skipRunning.trans running, skipLoras.trans loras⟩
  · obtain ⟨skipRunning, skipLoras⟩ :=
      @skipWaiting_running _ config (promoted.withKv kv) _ _ _ stillPeeked skip
    exact .inl ⟨skipRunning.trans running, skipLoras.trans loras⟩
  · exact .inl ⟨running, loras⟩
  · exact .inl ⟨running, loras⟩
  · obtain ⟨_, _, -, ⟨-, rfl⟩ | ⟨-, popped, pop, starts⟩⟩ := admitWaiting_cases ran
    · exact .inl ⟨running, loras⟩
    · have spec := popWaiting_spec pop stillPeeked
      have poppedRunning := (congrArg Scheduler.running spec.self).trans running
      have poppedLoras := (congrArg ScheduleState.scheduledLoras spec.rest).trans loras
      rcases starts with ⟨-, rfl⟩ | ⟨-, started, start, rfl⟩
      · exact .inl ⟨poppedRunning, poppedLoras⟩
      · refine .inr ⟨id, promoted, promotion, passes,
          (startRunning_spec start).running.trans (congrArg (· ++ [id]) poppedRunning), ?_⟩
        have sameRecord : popped.self.request id = promoted.self.request id := by rw [spec.self]; rfl
        exact (startRunning_loras isMax start).trans (by rw [sameRecord, poppedLoras])

theorem Shown.waitingBody {flow : LoopFlow K} (shown : Shown maxLoras state) (isMax : config.maxLoras = some maxLoras)
    (ran : state.waitingBody env config = .ok flow) : Shown maxLoras flow.state := by
  have sameLoras := Rounds.sameLoras (Relation.ReflTransGen.mono (fun _ _ => Round.waiting) _ _
    (waitingBody_rounds ran))
  rcases waitingBody_running isMax ran with ⟨running, scheduled⟩ | ⟨id, promoted, promotion, passes, grown, scheduled⟩
  · exact shown.of_same running sameLoras scheduled
  · obtain ⟨-, promotedLoras, promotedScheduled⟩ := promote_running promotion
    have sameLora := promotedLoras id
    have stays : ∀ adapter ∈ state.scheduledLoras, adapter ∈ flow.state.scheduledLoras := by
      intro adapter isScheduled
      rw [scheduled]
      cases (promoted.self.request id).loraRequest with
      | none => exact isScheduled
      | some lora => exact List.mem_insert_of_mem isScheduled
    refine ⟨fun adapter isUsed => ?_, ?_⟩
    · obtain ⟨positive, other, isRunning, lora, read, isAdapter⟩ := mem_adapters.mp isUsed
      rw [sameLoras other] at read
      rw [grown, List.mem_append, List.mem_singleton] at isRunning
      rcases isRunning with wasRunning | rfl
      · exact stays adapter (shown.adapters adapter
          (mem_adapters.mpr ⟨positive, other, wasRunning, lora, read, isAdapter⟩))
      · rw [scheduled, sameLora, read, ← isAdapter]
        exact List.mem_insert_self
    · rw [scheduled]
      cases read : (promoted.self.request id).loraRequest with
      | none => exact shown.bound
      | some lora =>
        have fits : state.scheduledLoras.length = maxLoras → lora.loraIntId ∈ state.scheduledLoras := by
          intro full
          simpa [exceedsMaxLoras, isMax, read, promotedScheduled, full] using passes
        show (state.scheduledLoras.insert lora.loraIntId).length ≤ maxLoras
        by_cases isMember : lora.loraIntId ∈ state.scheduledLoras
        · rw [List.insert_of_mem isMember]
          exact shown.bound
        · rw [List.insert_of_not_mem isMember, List.length_cons]
          exact Nat.lt_of_le_of_ne shown.bound (mt fits isMember)

theorem Shown.waitingLoop (shown : Shown maxLoras state) (isMax : config.maxLoras = some maxLoras)
    (ran : waitingLoop env config fuel state = .ok next) : Shown maxLoras next := by
  induction fuel generalizing state with
  | zero => cases ran
  | succ fuel ih =>
    rw [ScheduleState.waitingLoop] at ran
    split at ran
    next =>
      cases ran
      exact shown
    next =>
      obtain ⟨flow, body, ran⟩ := bind_eq_ok.mp ran
      cases flow with
      | next reached => exact ih (shown.waitingBody isMax body) ran
      | stop reached =>
        cases ran
        exact shown.waitingBody isMax body

end ScheduleState

variable {mid : ScheduleState K}

namespace Scheduler

open ScheduleState

variable {self next : Scheduler K} {id : ReqId}

/-! ## One call -/

/-- Every adapter of a running request is also one of a request that the running loop
cannot skip, or there is room for the adapters of all requests. -/
def LorasShow (env : Collaborators K) (config : SchedulerConfig) (self : Scheduler K) : Prop :=
  (∀ id ∈ self.running, ∀ lora, (self.request id).loraRequest = some lora →
    ∃ sure ∈ self.running, (self.request sure).loraRequest.map (·.loraIntId) = some lora.loraIntId ∧
      ¬MaySkip env config (self.currentStep + 1) (self.request sure)) ∨
  (self.adapters (self.running ++ self.waiting ++ self.skippedWaiting)).length ≤ config.maxLoras.getD 0

/-- What the running loop leaves: its requests were running, and it scheduled
some of those it left. -/
theorem runningLoop_adapters (nodup : self.running.Nodup)
    (ran : runningLoop env config fuel (self.beginSchedule env config) = .ok mid) :
    (mid.lorasOf mid.scheduledRunningReqs).length ≤ (self.adapters self.running).length ∧
      (mid.self.adapters mid.self.running).length ≤ (self.adapters self.running).length := by
  have rounds := runningLoop_rounds (beginSchedule_ahead nodup) ran
  have loras := Rounds.sameLoras
    (Relation.ReflTransGen.mono (fun _ _ => Round.running) _ _ rounds)
  have running := RunningRounds.running_subset rounds
  have scheduled := RunningRounds.scheduled_subset rounds fun _ => by
    simp [beginSchedule]
  rw [lorasOf_eq]
  exact ⟨adapters_length_le fun id isScheduled => ⟨running id (scheduled id isScheduled), loras id⟩,
    adapters_length_le fun id isRunning => ⟨running id isRunning, loras id⟩⟩

/-- The assertion before the waiting loop holds if the running requests keep the
limit. -/
theorem recordLoras_ok (isMax : config.maxLoras = some maxLoras)
    (nodup : self.running.Nodup) (bound : (self.adapters self.running).length ≤ maxLoras)
    (ran : runningLoop env config fuel (self.beginSchedule env config) = .ok mid) :
    ∃ recorded, mid.recordLoras config = .ok recorded := by
  have scheduled := (runningLoop_adapters nodup ran).1.trans bound
  unfold recordLoras
  rw [isMax]
  dsimp only
  rw [decide_eq_true scheduled]
  exact ⟨_, rfl⟩

theorem recordLoras_shown {recorded : ScheduleState K} (isMax : config.maxLoras = some maxLoras)
    (ran : mid.recordLoras config = .ok recorded) :
    recorded = { mid with scheduledLoras := mid.lorasOf mid.scheduledRunningReqs } ∧
      (mid.lorasOf mid.scheduledRunningReqs).length ≤ maxLoras := by
  unfold recordLoras at ran
  rw [isMax] at ran
  obtain ⟨_, checked, ran⟩ := bind_eq_ok.mp ran
  cases ran
  exact ⟨rfl, by simpa using pyAssert_eq_ok.mp checked⟩

/-- The waiting loop starts with every adapter in use among those scheduled. -/
theorem runningLoop_shown {recorded : ScheduleState K} (isMax : config.maxLoras = some maxLoras)
    (nodup : self.running.Nodup)
    (sure : ∀ id ∈ self.running, ∀ lora, (self.request id).loraRequest = some lora →
      ∃ sure ∈ self.running, (self.request sure).loraRequest.map (·.loraIntId) = some lora.loraIntId ∧
        ¬MaySkip env config (self.currentStep + 1) (self.request sure))
    (ran : runningLoop env config fuel (self.beginSchedule env config) = .ok mid)
    (record : mid.recordLoras config = .ok recorded) (nobody : recorded.preemptedReqs = [])
    (budget : 0 < recorded.tokenBudget) : Shown maxLoras recorded := by
  obtain ⟨rfl, bound⟩ := recordLoras_shown isMax record
  have ahead : (self.beginSchedule env config).Ahead := beginSchedule_ahead nodup
  have rounds := runningLoop_rounds ahead ran
  have sameLoras := Rounds.sameLoras
    (Relation.ReflTransGen.mono (fun _ _ => Round.running) _ _ rounds)
  have sorted := runningLoop_sorts (Kept.refl _) ahead nodup nofun ran nobody budget
  have sameRunning := (RunningRounds.nobody rounds nobody).2
  refine ⟨fun adapter isUsed => ?_, bound⟩
  obtain ⟨positive, id, isRunning, lora, read, isAdapter⟩ := mem_adapters.mp isUsed
  obtain ⟨other, isOther, sameAdapter, cannotSkip⟩ := sure id (sameRunning ▸ isRunning) lora ((sameLoras id).symm.trans read)
  obtain ⟨otherLora, otherRead, isSame⟩ := Option.map_eq_some_iff.mp sameAdapter
  have isScheduled := (sorted other (sameRunning ▸ isOther)).resolve_right cannotSkip
  exact mem_adapters.mpr ⟨positive, other, isScheduled, otherLora, (sameLoras other).trans otherRead, isSame.trans isAdapter⟩

/-- One `schedule` keeps the limit if every adapter in use shows. -/
theorem schedule_adapters {output : SchedulerOutput} (isMax : config.maxLoras = some maxLoras)
    (queues : self.QueuedOnce []) (shows : self.LorasShow env config)
    (bound : (self.adapters self.running).length ≤ maxLoras)
    (ran : self.schedule env config = .ok (output, next)) :
    (next.adapters next.running).length ≤ maxLoras := by
  obtain ⟨state, loops, -, rfl, rfl⟩ := schedule_eq ran
  have stateBound : (state.self.adapters state.self.running).length ≤ maxLoras := by
    rcases shows with sure | room
    · obtain ⟨mid, running, loops⟩ := bind_eq_ok.mp loops
      obtain ⟨recorded, record, loops⟩ := bind_eq_ok.mp loops
      have recordedBound : (recorded.self.adapters recorded.self.running).length ≤ maxLoras := by
        rw [(recordLoras_shown isMax record).1]
        exact (runningLoop_adapters queues.nodup running).2.trans bound
      split at loops
      next waits =>
        obtain ⟨last, waiting, loops⟩ := bind_eq_ok.mp loops
        cases loops
        by_cases budget : 0 < recorded.tokenBudget
        · have nobody := List.isEmpty_iff.mp (Bool.and_eq_true_iff.mp waits).1
          have shown := (runningLoop_shown isMax queues.nodup sure running record nobody budget).waitingLoop isMax waiting
          exact (List.subperm_of_subset (List.nodup_dedup _) shown.adapters).length_le.trans shown.bound
        · rw [waitingLoop, if_pos (by simp [not_lt.mp budget])] at waiting
          cases waiting
          exact recordedBound
      next =>
        cases loops
        exact recordedBound
    · have sameLoras := Rounds.sameLoras (scheduleLoops_rounds queues.nodup loops).1
      rw [isMax] at room
      refine (adapters_length_le fun id isRunning => ⟨?_, sameLoras id⟩).trans room
      by_contra absent
      rw [List.mem_append, List.mem_append, not_or, not_or] at absent
      have unqueued : self.running.count id + self.waitingCount [] id = 0 := by
        rw [waitingCount, List.count_eq_zero.mpr absent.1.1, List.count_eq_zero.mpr absent.1.2,
          List.count_eq_zero.mpr absent.2]
        rfl
      have nowhere := ((scheduleLoops_visited queues loops).1.leftAlone id unqueued).2
      have somewhere := List.count_pos_iff.mpr isRunning
      omega
  obtain ⟨-, running, -⟩ := @updateAfterSchedule_frame _ config { state.self with
    prevStepScheduledReqIds := (makeOutput state).numScheduledTokens.keys } (makeOutput state)
  rw [running]
  refine (adapters_length_le fun id isRunning => ⟨isRunning, ?_⟩).trans stateBound
  rw [updateAfterSchedule_request]
  cases (makeOutput state).numScheduledTokens.get? id with
  | none => rfl
  | some tokens =>
    obtain ⟨_, _, _, _, _, isAfter⟩ := @afterSchedule_frame _ config { state.self with
      prevStepScheduledReqIds := (makeOutput state).numScheduledTokens.keys } (makeOutput state) id
      tokens (state.self.request id)
    show (afterSchedule ..).loraRequest = _
    rw [isAfter]

/-- What an operation other than `schedule` does to the limit: nothing starts to
run, and no running request changes its adapter. -/
def KeepsLoras (scheduler next : Scheduler K) : Prop :=
  ∀ id ∈ next.running, id ∈ scheduler.running ∧
    (next.request id).loraRequest = (scheduler.request id).loraRequest

theorem KeepsLoras.of_same (running : next.running = self.running) (loras : SameLoras self next) :
    KeepsLoras self next := fun id isRunning => ⟨running ▸ isRunning, loras id⟩

theorem KeepsLoras.trans {mid : Scheduler K} (first : KeepsLoras self mid)
    (second : KeepsLoras mid next) : KeepsLoras self next := fun id isRunning =>
  ⟨(first id (second id isRunning).1).1,
    (second id isRunning).2.trans (first id (second id isRunning).1).2⟩

theorem modifyRequest_loras (self : Scheduler K) (id : ReqId) (change : Request → Request)
    (keeps : ∀ request, (change request).loraRequest = request.loraRequest) :
    SameLoras self (self.modifyRequest id change) := by
  intro other
  by_cases same : other = id
  · rw [same, modifyRequest_self, keeps]
  · rw [modifyRequest_of_ne _ _ same]

theorem updateSession_loras {update : StreamingUpdate}
    (ran : self.updateSession config id update = .ok next) : SameLoras self next := by
  obtain ⟨updated, session, ran⟩ := bind_eq_ok.mp ran
  cases ran
  obtain ⟨hashed, hashing, isUpdated⟩ := bind_eq_ok.mp session
  cases isUpdated
  obtain ⟨blockHashes, rfl⟩ := Request.updateBlockHashes_frame hashing
  intro other
  by_cases same : other = id
  · rw [same]
    show (Function.update self.request id _ id).loraRequest = _
    rw [update_self]
  · show (Function.update self.request id _ other).loraRequest = _
    rw [update_of_ne same]

theorem handleStoppedRequest_loras {finished : Bool}
    (ran : self.handleStoppedRequest config id = .ok (finished, next)) : SameLoras self next := by
  unfold handleStoppedRequest at ran
  dsimp only at ran
  split at ran
  next =>
    cases ran
    exact fun _ => rfl
  next =>
    split at ran
    next =>
      cases ran
      exact modifyRequest_loras self id _ fun _ => rfl
    next update rest _ =>
      obtain ⟨updated, session, ran⟩ := bind_eq_ok.mp ran
      cases ran
      have loras := (modifyRequest_loras self id (fun request =>
        { request with streamingQueue := some rest }) fun _ => rfl).trans (updateSession_loras session)
      intro other
      rw [(enqueueWaitingRequest_spec config updated id).1]
      exact loras other
    next =>
      cases ran
      intro other
      rw [(enqueueWaitingRequest_spec ..).1]
      exact modifyRequest_loras self id (fun request =>
        { request with status := .waitingForStreamingReq }) (fun _ => rfl) other

variable {output : ModelRunnerOutput}

theorem answered_loras {before after : Request} {stopped : Bool}
    (answered : Answered config output id before stopped after) :
    after.loraRequest = before.loraRequest := by
  cases answered with
  | silent => rfl
  | pooled => rfl
  | discarded => rfl
  | appended _ spec =>
    obtain ⟨_, _, rfl⟩ := spec.record
    rfl
  | refused spec =>
    obtain ⟨_, _, rfl⟩ := spec.record
    rfl

/-- One entry of a step leaves `running` and all adapters as they are. -/
theorem UpdateState.Entered.keepsLoras {scheduled : SchedulerOutput}
    {state next : UpdateState K} (entered : Entered env config scheduled output state id next) :
    next.self.running = state.self.running ∧ SameLoras state.self next.self := by
  have applied : ∀ {self : Scheduler K} {stopped : Bool},
      (state.self.beforeOutput env config scheduled output id).applyOutput env config output id =
        .ok (stopped, self) →
      self.running = state.self.running ∧ SameLoras state.self self := by
    intro self stopped ran
    have outcome := applyOutput_applied ran
    have same := (beforeOutput_sameQueues state.self scheduled output id).trans outcome.sameQueues
    refine ⟨same.running, fun other => ?_⟩
    by_cases isId : other = id
    · obtain ⟨_, _, isRejected⟩ := @rejectDrafts_frame config
        ((scheduled.scheduledSpecDecodeTokens.get? id).getD []) (output.sampledTokenIds id)
        (state.self.request id)
      rw [isId, answered_loras outcome.answered, beforeOutput_request, isRejected]
    · rw [same.others other isId]
  cases entered with
  | gone => exact ⟨rfl, fun _ => rfl⟩
  | continued _ _ ran => exact applied ran
  | @stopped self handled final finished _ _ ran handle freed =>
    obtain ⟨running, loras⟩ := applied ran
    have handledRunning : handled.running = self.running := by
      cases handleStoppedRequest_handled handle with
      | finished same => exact same.running
      | resumed _ running => exact running
      | waits _ running => exact running
    have handledLoras := loras.trans (handleStoppedRequest_loras handle)
    have finalSame : final.running = state.self.running ∧ SameLoras state.self final := by
      split at freed
      next =>
        obtain ⟨-, request, freedRunning, -⟩ := freeRequest_spec freed
        refine ⟨freedRunning.trans (handledRunning.trans running), fun other => ?_⟩
        rw [request]
        exact handledLoras other
      next =>
        cases freed
        exact ⟨handledRunning.trans running, handledLoras⟩
    split
    · exact finalSame
    · exact finalSame

theorem removeAll_subset {items : List ReqId} : ∀ id ∈ removeAll ids items, id ∈ ids := by
  intro id isMember
  unfold removeAll at isMember
  split at isMember
  · exact isMember
  · exact List.mem_of_mem_erase isMember
  · exact List.mem_of_mem_filter isMember

theorem updateFromOutputOf_keepsLoras {scheduled : SchedulerOutput}
    (ran : self.updateFromOutputOf env config scheduled output = .ok next) : KeepsLoras self next := by
  obtain ⟨updated, update, ran⟩ := bind_eq_ok.mp ran
  obtain ⟨state, loop, update⟩ := bind_eq_ok.mp update
  obtain ⟨received, recving, sending⟩ := bind_eq_ok.mp update
  have transferred := transfers_transferred recving sending
  have looped : state.self.running = self.running ∧ SameLoras self state.self := by
    refine foldlM_preserves (P := fun state : UpdateState K =>
      state.self.running = self.running ∧ SameLoras self state.self) ?_ ⟨rfl, fun _ => rfl⟩ loop
    intro before entry after ⟨running, loras⟩ ran
    obtain ⟨nextRunning, nextLoras⟩ := (UpdateState.updateRequest_entered ran).2.keepsLoras
    exact ⟨nextRunning.trans running, loras.trans nextLoras⟩
  have updatedKeeps : KeepsLoras self updated := by
    intro id isRunning
    rw [transferred.running] at isRunning
    rw [transferred.request]
    have wasRunning := removeAll_subset id isRunning
    exact ⟨looped.1 ▸ wasRunning, looped.2 id⟩
  split at ran
  next =>
    cases ran
    apply updatedKeeps.trans
    intro id isRunning
    obtain ⟨planted, -, running, -⟩ := plantAll_planted config output.draftTokenCounts updated id
    rw [running] at isRunning
    refine ⟨isRunning, ?_⟩
    rcases planted with same | ⟨-, -, _, -, isPlanted⟩
    · rw [same]
    · rw [isPlanted]
      rfl
  next =>
    cases ran
    exact updatedKeeps

theorem finishRequests_keepsLoras {requestIds : Option (List ReqId)} {finishedStatus : RequestStatus}
    (queues : self.QueuedOnce [])
    (ran : self.finishRequests env config requestIds finishedStatus = .ok next) :
    KeepsLoras self next := by
  intro id isRunning
  obtain ⟨cases, -, running, -⟩ := (finishRequests_spec queues ran).2 id
  refine ⟨List.count_pos_iff.mp ((List.count_pos_iff.mpr isRunning).trans_le running), ?_⟩
  rcases cases with same | ⟨-, -, -, changed⟩
  · rw [same]
  · rw [changed]

theorem addRequest_keepsLoras {request : Request} (queues : self.Queues [])
    (once : self.QueuedOnce []) (ran : self.addRequest env config request = .ok next) :
    KeepsLoras self next := by
  unfold addRequest at ran
  dsimp only at ran
  split at ran
  next =>
    split at ran
    next =>
      split at ran
      next => cases ran
      next =>
        cases ran
        exact KeepsLoras.of_same rfl (modifyRequest_loras _ _ _ fun _ => rfl)
    next =>
      split at ran
      next =>
        exact KeepsLoras.of_same (updateSession_spec ran).1.running (updateSession_loras ran)
      next => exact finishRequests_keepsLoras once ran
  next read =>
    have notMember : request.requestId ∉ self.requests := by
      intro isMember
      rw [getRequest, if_pos isMember] at read
      cases read
    have notRunning : request.requestId ∉ self.running := by
      intro isRunning
      obtain ⟨live, -⟩ := (queues.placed _).of_running (List.count_pos_iff.mpr isRunning)
      exact notMember (mem_requests_of_isLive live)
    cases ran
    intro id isRunning
    obtain ⟨records, -, running, -⟩ := enqueueWaitingRequest_spec config
      (self.modifyRequest request.requestId fun _ =>
        if request.resumable then { request with streamingQueue := some [] } else request)
      request.requestId
    have isRunning : id ∈ self.running := running ▸ isRunning
    refine ⟨isRunning, ?_⟩
    rw [records, modifyRequest_of_ne]
    rintro rfl
    exact notRunning isRunning

theorem Queues.queuedOnce (queues : self.Queues []) : self.QueuedOnce [] := by
  refine ⟨fun id => ?_, fun id isRunning => ?_, fun id isWaiting => ?_⟩
  · have once := (queues.placed id).once
    have atMost : (self.isLive id).toNat ≤ 1 := Bool.toNat_le _
    rw [occurrences] at once
    rw [waitingCount]
    omega
  · exact ((queues.placed id).of_running (List.count_pos_iff.mpr isRunning)).2.1
  · exact ((queues.placed id).of_waiting isWaiting).2.1

end Scheduler

/-! ## Runs -/

namespace System

/-- No stop loses a request, and before every step each adapter in use shows. -/
def LoraEvent (env : Collaborators K) (config : SchedulerConfig) (system : System K)
    (event : Event) : Prop :=
  system.SafeStops env config event ∧
    (event = .schedule → system.scheduler.LorasShow env config)

variable {system next : System K}

theorem step_adapters {event : Event} (isMax : config.maxLoras = some maxLoras)
    (isAllowed : system.LoraEvent env config event) (queues : system.scheduler.Queues [])
    (bound : (system.scheduler.adapters system.scheduler.running).length ≤ maxLoras)
    (ran : system.step env config event = .ok next) :
    (next.scheduler.adapters next.scheduler.running).length ≤ maxLoras := by
  have once := queues.queuedOnce
  have kept : event ≠ .schedule → KeepsLoras system.scheduler next.scheduler := by
    intro notSchedule
    cases event with
    | add request =>
      obtain ⟨scheduler, added, ran⟩ := bind_eq_ok.mp ran
      cases ran
      exact addRequest_keepsLoras queues once added
    | schedule => exact absurd rfl notSchedule
    | output index output =>
      rw [step] at ran
      split at ran
      next => cases ran
      next =>
        obtain ⟨scheduler, updated, ran⟩ := bind_eq_ok.mp ran
        cases ran
        exact updateFromOutputOf_keepsLoras updated
    | drafts draftTokenIds =>
      cases ran
      intro id isRunning
      obtain ⟨-, running, -, same | ⟨-, -, -, specTokenIds, -, changed⟩⟩ :=
        updateAllDrafts_spec env draftTokenIds system.scheduler id
      · exact ⟨running ▸ isRunning, by dsimp only; rw [same]⟩
      · exact ⟨running ▸ isRunning, by dsimp only; rw [changed]⟩
    | finish requestIds finishedStatus =>
      obtain ⟨scheduler, finished, ran⟩ := bind_eq_ok.mp ran
      cases ran
      exact finishRequests_keepsLoras once finished
    | reset resetRunningRequests =>
      obtain ⟨⟨successful, scheduler⟩, reset, ran⟩ := bind_eq_ok.mp ran
      cases ran
      obtain ⟨-, -, running, -, record⟩ := resetPrefixCache_spec once reset
      intro id isRunning
      rw [running] at isRunning
      rw [record]
      split at isRunning
      next => exact absurd isRunning List.not_mem_nil
      next notReset => rw [if_neg fun both => notReset both.1]; exact ⟨isRunning, rfl⟩
  by_cases isSchedule : event = .schedule
  · subst isSchedule
    obtain ⟨⟨output, scheduler⟩, scheduled, ran⟩ := bind_eq_ok.mp ran
    cases ran
    exact schedule_adapters isMax once (isAllowed.2 rfl) bound scheduled
  · exact (adapters_length_le (kept isSchedule)).trans bound

/-- In every run in which each adapter in use shows before every step: the assertion
on the scheduled adapters holds in the next step, and that step schedules requests
of at most `max_loras` adapters. -/
theorem reachable_maxLoras {maxLoras : Nat} (isMax : config.maxLoras = some maxLoras)
    (reachable : Reachable env config (LoraEvent env config) system) :
    (∀ fuel mid, ScheduleState.runningLoop env config fuel
        (system.scheduler.beginSchedule env config) = .ok mid →
      ∃ recorded, mid.recordLoras config = .ok recorded) ∧
    ∀ output scheduler, system.scheduler.LorasShow env config →
      system.scheduler.schedule env config = .ok (output, scheduler) →
      (scheduler.adapters output.numScheduledTokens.keys).length ≤ maxLoras := by
  have sound : system.scheduler.Queues [] ∧
      (system.scheduler.adapters system.scheduler.running).length ≤ maxLoras := by
    refine Reachable.induct (P := fun system => system.scheduler.Queues [] ∧
      (system.scheduler.adapters system.scheduler.running).length ≤ maxLoras) ?_ ?_ reachable
    · intro start isInitial
      refine ⟨isInitial.queues, ?_⟩
      rw [isInitial.running]
      exact Nat.zero_le _
    · intro before event after isAllowed ran ⟨queues, bound⟩
      exact ⟨step_queues isAllowed.1 queues ran, step_adapters isMax isAllowed queues bound ran⟩
  obtain ⟨queues, bound⟩ := sound
  have once := queues.queuedOnce
  refine ⟨fun fuel mid ran => recordLoras_ok isMax once.nodup bound ran,
    fun output scheduler shows ran => ?_⟩
  refine (adapters_length_le fun id isScheduled => ⟨?_, rfl⟩).trans
    (schedule_adapters isMax once shows bound ran)
  obtain ⟨-, -, isRunning, -⟩ := schedule_visits once ran
  obtain ⟨tokens, read⟩ := PyDict.mem_keys.mp isScheduled
  exact isRunning id tokens read

def loraConfig : SchedulerConfig := { asyncConfig with maxLoras := some 1 }

def loraPrompt (id : ReqId) (adapter : Nat) : Request :=
  { promptOf id [1, 2] with loraRequest := some ⟨s!"adapter-{adapter}", adapter⟩ }

/-- A request for another adapter is held back while the first one decodes. -/
theorem reachable_maxLoras_heldBack :
    ∃ system output scheduler,
      (withSlots 8).run slotPool loraConfig
        [.add (loraPrompt 0 1), .schedule, .add (loraPrompt 1 2)] = .ok system ∧
      system.scheduler.schedule slotPool loraConfig = .ok (output, scheduler) ∧
      output.numScheduledTokens.keys = [0] ∧ scheduler.skippedWaiting = [1] ∧
      (scheduler.adapters output.numScheduledTokens.keys).length ≤ 1 := by
  have isNew : ∀ id adapter, (loraPrompt id adapter).IsNew := fun _ _ =>
    ⟨.inl rfl, rfl, rfl, rfl, rfl, rfl, rfl, rfl, rfl, rfl⟩
  have added : Reachable slotPool loraConfig (LoraEvent slotPool loraConfig) _ :=
    ⟨_, withSlots_isInitial 8, .single ⟨.add (loraPrompt 0 1), ⟨isNew 0 1, nofun⟩, rfl⟩⟩
  obtain ⟨start, isInitial, run⟩ := added
  have scheduled := run.tail ⟨.schedule, ⟨trivial, fun _ => .inl fun _ nobody => nomatch nobody⟩, rfl⟩
  have again := scheduled.tail ⟨.add (loraPrompt 1 2), ⟨isNew 1 2, nofun⟩, rfl⟩
  refine ⟨_, _, _, rfl, rfl, by decide, by decide, ?_⟩
  refine (reachable_maxLoras rfl ⟨start, isInitial, again⟩).2 _ _ (.inl fun id isRunning lora read => ?_) rfl
  have isFirst : id = 0 := List.mem_singleton.mp isRunning
  subst isFirst
  refine ⟨0, List.mem_singleton_self 0, congrArg (Option.map (·.loraIntId)) read, fun skips => ?_⟩
  rcases ScheduleState.maySkip_text (by rfl) rfl skips with finished | throttled | nothing
  · exact absurd finished (by decide)
  · exact absurd throttled (by decide)
  · exact absurd nothing (by decide)

/-- A sync scheduler with two steps in flight: the second one skips the request of
the first adapter and admits one for another, and the third runs into the
assertion. -/
theorem assertionOnLoras : ∃ system mid,
    (withSlots 8).run slotPool { loraConfig with asyncScheduling := false }
      [.add (loraPrompt 0 1), .schedule, .add (loraPrompt 1 2), .schedule,
        .output 0 (sampledOutput [5]), .output 0 (sampledOutput [5])] = .ok system ∧
      ScheduleState.runningLoop slotPool { loraConfig with asyncScheduling := false }
        (2 * system.scheduler.running.length + 1)
        (system.scheduler.beginSchedule slotPool { loraConfig with asyncScheduling := false }) =
          .ok mid ∧
      mid.recordLoras { loraConfig with asyncScheduling := false } = .error (.assertionError "") :=
  ⟨_, _, rfl, rfl, rfl⟩

end System

end DeepSpark
