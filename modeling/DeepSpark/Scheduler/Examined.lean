import DeepSpark.Scheduler.System

/-!
Whom the running loop of `schedule` looks at under the priority policy.

Owns the states in which the loop looks at a request, the running lists, priorities
and readiness under which it examines everybody whatever slots the requests get, and
three requests of any other that it does not.
-/

namespace DeepSpark

open Lib

variable {K : Type} {env : Collaborators K} {config : SchedulerConfig}

namespace ScheduleState

variable {state next : ScheduleState K} {idle : ReqId → Prop} {seen : List ReqId} {id victim : ReqId} {fuel : Nat}

/-! ## What the loop looks at -/

def looks (env : Collaborators K) (config : SchedulerConfig) : Nat → ScheduleState K → List (ScheduleState K)
  | 0, _ => []
  | fuel + 1, state =>
    if state.tokenBudget > 0 then
      match state.self.running[state.reqIndex]? with
      | none => []
      | some id =>
        state :: match state.runningBody env config id with
          | .ok (.next state) => looks env config fuel state
          | _ => []
    else []

def lookedAt (state : ScheduleState K) : Option ReqId := state.self.running[state.reqIndex]?

theorem mem_looks (budget : 0 < state.tokenBudget) (read : state.lookedAt = some id) :
    state ∈ looks env config (fuel + 1) state := by
  rw [looks, if_pos budget, show state.self.running[state.reqIndex]? = some id from read]
  exact List.mem_cons_self

theorem looks_next (fuel : Nat) (budget : 0 < state.tokenBudget) (read : state.lookedAt = some id)
    (body : state.runningBody env config id = .ok (.next next)) :
    looks env config (fuel + 1) state = state :: looks env config fuel next := by
  rw [looks, if_pos budget, show state.self.running[state.reqIndex]? = some id from read]
  dsimp only
  rw [body]

/-- The requests the loop examines: each is scheduled, skipped, or the one it breaks off on. -/
def examined (env : Collaborators K) (config : SchedulerConfig) (fuel : Nat) (state : ScheduleState K) :
    List ReqId :=
  (looks env config fuel state).filterMap lookedAt

/-- The loop breaks off on a request that cannot be scheduled. -/
def BreaksOff (env : Collaborators K) (config : SchedulerConfig) (fuel : Nat) (state : ScheduleState K) : Prop :=
  ∃ look ∈ looks env config fuel state, ∃ id stopped, look.lookedAt = some id ∧
    look.runningBody env config id = .ok (.stop stopped)

theorem examined_next (fuel : Nat) (budget : 0 < state.tokenBudget) (read : state.lookedAt = some id)
    (body : state.runningBody env config id = .ok (.next next)) :
    examined env config (fuel + 1) state = id :: examined env config fuel next := by
  rw [examined, looks_next fuel budget read body]
  exact List.filterMap_cons_some read

theorem breaksOff_next (fuel : Nat) (budget : 0 < state.tokenBudget) (read : state.lookedAt = some id)
    (body : state.runningBody env config id = .ok (.next next)) :
    BreaksOff env config (fuel + 1) state ↔ BreaksOff env config fuel next := by
  rw [BreaksOff, looks_next fuel budget read body, List.exists_mem_cons_iff]
  refine or_iff_right ?_
  rintro ⟨other, stopped, isOther, stops⟩
  cases read.symm.trans isOther
  cases body.symm.trans stops

/-- Some budget and some cache let the loop ask for slots for the request. -/
def MayAsk (env : Collaborators K) (config : SchedulerConfig) (currentStep : Nat) (request : Request) : Prop :=
  reachesMaxTokens request = false ∧ ¬currentStep < request.nextDecodeEligibleStep ∧
    ∃ (state : ScheduleState K) (plan : EncoderPlan) (kv : K), 0 < state.tokenBudget ∧
      state.planRunning env config request = .ok (plan, kv) ∧ plan.numNewTokens ≠ 0

theorem Asks.mayAsk {plan : EncoderPlan} {kv : K} (asks : Asks env config state id plan kv)
    (budget : 0 < state.tokenBudget) : MayAsk env config state.self.currentStep (state.self.request id) :=
  ⟨asks.unfinished, asks.eligible, state, plan, kv, budget, asks.isPlan, asks.nonzero⟩

/-! ## The inner loop -/

/-- The request at hand is at the index, and the ones before it have been seen:
they are scheduled, or `idle`. -/
structure Looking (idle : ReqId → Prop) (seen : List ReqId) (state : ScheduleState K) (id : ReqId) : Prop where
  ahead : state.Ahead
  isAt : state.lookedAt = some id
  behind : ∀ other ∈ state.self.running.take state.reqIndex,
    other ∈ seen ∧ (other ∈ state.scheduledRunningReqs ∨ idle other)

theorem Looking.withKv (looking : Looking idle seen state id) (kv : K) : Looking idle seen (state.withKv kv) id :=
  ⟨looking.ahead.withKv kv, looking.isAt, looking.behind⟩

theorem Looking.split (looking : Looking idle seen state id) :
    state.self.running = state.self.running.take state.reqIndex ++
      id :: state.self.running.drop (state.reqIndex + 1) := by
  obtain ⟨inRange, read⟩ := List.getElem?_eq_some_iff.mp looking.isAt
  conv_lhs => rw [← List.take_append_drop state.reqIndex state.self.running]
  rw [List.drop_eq_getElem_cons inRange, read]

theorem Looking.takeVictim {taken : ScheduleState K} (looking : Looking idle seen state id)
    (isPriority : config.policy = .priority) (took : state.takeVictim env config = .ok (victim, taken))
    (scheduled : victim ∈ state.self.running.take state.reqIndex → victim ∈ state.scheduledRunningReqs)
    (differ : victim ≠ id) : Looking idle seen taken id := by
  have isAt := looking.isAt
  have nodup := looking.ahead.running
  have ahead := (looking.ahead.takeVictim (atHand_of_index looking.ahead isAt) took).1
  obtain ⟨-, isRunning, isTaken⟩ | ⟨isFcfs, -⟩ := takeVictim_cases took
  · split at isTaken
    next wasScheduled =>
      have isBehind := looking.ahead.isBehind isRunning wasScheduled
      subst isTaken
      refine ⟨ahead, ?_, fun other isOther => ?_⟩
      · rw [lookedAt, ← List.head?_drop] at isAt ⊢
        exact (congrArg List.head? (erase_of_mem_take isBehind).2).trans isAt
      · have isOther : other ∈ (state.self.running.erase victim).take (state.reqIndex - 1) := isOther
        rw [(erase_of_mem_take isBehind).1] at isOther
        have isOlder := (nodup.sublist (List.take_sublist ..)).mem_erase_iff.mp isOther
        obtain ⟨isSeen, isSorted⟩ := looking.behind other isOlder.2
        exact ⟨isSeen, isSorted.imp_left (List.mem_erase_of_ne isOlder.1).mpr⟩
    next unscheduled =>
      -- the victim is behind the request at hand
      have notBefore : victim ∉ state.self.running.take state.reqIndex := fun isBefore =>
        unscheduled (scheduled isBefore)
      have erased : state.self.running.erase victim = state.self.running.take state.reqIndex ++
          id :: (state.self.running.drop (state.reqIndex + 1)).erase victim := by
        conv_lhs => rw [looking.split]
        rw [List.erase_append_right _ notBefore, List.erase_cons_tail (by simpa using differ.symm)]
      have length : (state.self.running.take state.reqIndex).length = state.reqIndex :=
        List.length_take_of_le (List.getElem?_eq_some_iff.mp isAt).1.le
      subst isTaken
      refine ⟨ahead, ?_, fun other isOther => looking.behind other ?_⟩
      · show (state.self.running.erase victim)[state.reqIndex]? = some id
        rw [erased, List.getElem?_append_right length.le, length, Nat.sub_self]
        rfl
      · have isOther : other ∈ (state.self.running.erase victim).take state.reqIndex := isOther
        rwa [erased, List.take_left' length] at isOther
  · rw [isPriority] at isFcfs
    cases isFcfs

/-- No two requests from the one at hand on may follow an idle request that is
preempted before them. -/
def Unshadowed (idle : ReqId → Prop) (self : Scheduler K) (id : ReqId) : Prop :=
  ∀ before after, [before, id, after].Sublist self.running → idle before →
    victimKey (self.request id) ≤ victimKey (self.request before) →
    victimKey (self.request before) < victimKey (self.request after)

/-- An idle victim before the index brings the request at hand behind it; that
request is then the last. -/
theorem Looking.takeIdle {first taken : ScheduleState K} (looking : Looking idle seen state id)
    (kept : Kept first state) (unshadowed : Unshadowed idle first.self id)
    (isPriority : config.policy = .priority) (took : state.takeVictim env config = .ok (victim, taken))
    (isBefore : victim ∈ state.self.running.take state.reqIndex) (isIdle : idle victim) :
    ∀ other ∈ state.self.running, other ∈ id :: seen := by
  have found := lowestPriority_spec (takeVictim_lowest isPriority took)
  have largest : ∀ other ∈ state.self.running,
      victimKey (first.self.request other) ≤ victimKey (first.self.request victim) := by
    intro other isOther
    rw [← kept.keys other, ← kept.keys victim]
    exact found.2 other isOther
  have last : state.self.running.drop (state.reqIndex + 1) = [] := by
    refine List.eq_nil_iff_forall_not_mem.mpr fun after isAfter => ?_
    have isRow : [victim, id, after].Sublist state.self.running := by
      rw [looking.split]
      exact (List.singleton_sublist.mpr isBefore).append ((List.singleton_sublist.mpr isAfter).cons_cons id)
    have isRunning := isRow.subset
    exact absurd (largest after (isRunning (by simp)))
      (unshadowed victim after (isRow.trans kept.running) isIdle (largest id (isRunning (by simp)))).not_ge
  intro other isOther
  rw [looking.split, last, List.mem_append, List.mem_singleton] at isOther
  rcases isOther with isEarlier | rfl
  · exact List.mem_cons_of_mem _ (looking.behind other isEarlier).1
  · exact List.mem_cons_self

/-- The request at hand is at the index, or nothing left in `running` is new. -/
structure Handling (config : SchedulerConfig) (idle : ReqId → Prop) (seen : List ReqId) (state : ScheduleState K)
    (id : ReqId) : Prop where
  ahead : state.Ahead
  atHand : AtHand config state id
  looking : Looking idle seen state id ∨ ∀ other ∈ state.self.running, other ∈ id :: seen

theorem Handling.preempt {first taken : ScheduleState K} {self : Scheduler K} (handling : Handling config idle seen state id)
    (kept : Kept first state) (unshadowed : Unshadowed idle first.self id)
    (isPriority : config.policy = .priority) (took : state.takeVictim env config = .ok (victim, taken))
    (preempted : taken.self.preemptRequest env config victim = .ok self) (differ : victim ≠ id) :
    Handling config idle seen { taken with self, preemptedReqs := taken.preemptedReqs ++ [victim] } id := by
  obtain ⟨ahead, -, atHand⟩ := handling.ahead.takeVictim handling.atHand took
  have atHand := atHand differ
  have sameRunning := (Scheduler.preemptRequest_spec preempted).running
  have looking : Looking idle seen taken id ∨ ∀ other ∈ taken.self.running, other ∈ id :: seen := by
    have allSeen : (∀ other ∈ state.self.running, other ∈ id :: seen) →
        ∀ other ∈ taken.self.running, other ∈ id :: seen := by
      intro isSeen other isOther
      obtain ⟨running, perm, takenSelf, -⟩ := takeVictim_eq took
      rw [takenSelf] at isOther
      exact isSeen other (perm.mem_iff.mpr (List.mem_cons_of_mem _ isOther))
    rcases handling.looking with looking | isSeen
    · by_cases isIdle : victim ∈ state.self.running.take state.reqIndex ∧ victim ∉ state.scheduledRunningReqs
      · have idles := (looking.behind victim isIdle.1).2.resolve_left isIdle.2
        exact .inr (allSeen (looking.takeIdle kept unshadowed isPriority took isIdle.1 idles))
      · exact .inl (looking.takeVictim isPriority took (fun isBefore => by_contra fun unscheduled =>
          isIdle ⟨isBefore, unscheduled⟩) differ)
    · exact .inr (allSeen isSeen)
  refine ⟨⟨?_, ?_, ahead.scheduled, ahead.tokens⟩, ⟨?_, ?_, atHand.unscheduled⟩, ?_⟩
  · exact sameRunning.symm ▸ ahead.running
  · exact sameRunning.symm ▸ ahead.ahead
  · exact sameRunning.symm ▸ atHand.behind
  · exact sameRunning.symm ▸ atHand.fcfs
  · refine looking.imp (fun looking => ⟨⟨?_, ?_, ahead.scheduled, ahead.tokens⟩, ?_, ?_⟩) fun isSeen => ?_
    · exact sameRunning.symm ▸ ahead.running
    · exact sameRunning.symm ▸ ahead.ahead
    · exact (congrArg (·[taken.reqIndex]?) sameRunning).trans looking.isAt
    · exact sameRunning.symm ▸ looking.behind
    · exact sameRunning.symm ▸ isSeen

variable {first : ScheduleState K}

theorem Handling.allocate {numNewTokens : Int} (handling : Handling config idle seen state id)
    (kept : Kept first state) (nodup : first.self.running.Nodup) (unshadowed : Unshadowed idle first.self id)
    (isPriority : config.policy = .priority)
    (ran : allocateRunning env config fuel state id numNewTokens = .ok (true, next)) :
    Handling config idle seen next id := by
  induction fuel generalizing state with
  | zero => cases ran
  | succ fuel ih =>
    obtain ⟨⟨answer, kv⟩, answered, ran⟩ := bind_eq_ok.mp ran
    have asked : Handling config idle seen (state.withKv kv) id :=
      ⟨handling.ahead.withKv kv, handling.atHand.withKv kv, handling.looking.imp_left (·.withKv kv)⟩
    have asksKept : Kept first (state.withKv kv) := ⟨kept.running, kept.currentStep, kept.keys, kept.untouched⟩
    cases answer with
    | true =>
      cases ran
      exact asked
    | false =>
      obtain ⟨⟨victim, taken⟩, took, ran⟩ := bind_eq_ok.mp ran
      obtain ⟨self, preempted, ran⟩ := bind_eq_ok.mp ran
      obtain ⟨takenAhead, gone, -⟩ := asked.ahead.takeVictim asked.atHand took
      split at ran
      next => cases ran
      next differ =>
        exact ih (asked.preempt asksKept unshadowed isPriority took preempted differ)
          (asksKept.round nodup (.preempt took (takenAhead.tokens victim gone) gone preempted)) ran

/-! ## The loop -/

/-- Between two rounds: everything before the index has been seen, or everything
left in `running`. -/
structure Swept (idle : ReqId → Prop) (seen : List ReqId) (state : ScheduleState K) : Prop where
  ahead : state.Ahead
  seen : (∀ other ∈ state.self.running.take state.reqIndex,
      other ∈ seen ∧ (other ∈ state.scheduledRunningReqs ∨ idle other)) ∨
    ∀ other ∈ state.self.running, other ∈ seen

/-- A round that does not break off sees the request at hand. -/
theorem Swept.round (visited : Swept idle seen state) (read : state.lookedAt = some id)
    (kept : Kept first state) (nodup : first.self.running.Nodup)
    (isPriority : config.policy = .priority) (budget : 0 < state.tokenBudget)
    (skips : MaySkip env config state.self.currentStep (state.self.request id) → idle id)
    (asks : ∀ plan kv, Asks env config state id plan kv → Unshadowed idle first.self id)
    (ran : state.runningBody env config id = .ok (.next next)) : Swept idle (id :: seen) next := by
  have atHand : AtHand config state id := atHand_of_index visited.ahead read
  have handling : Handling config idle seen state id := by
    refine ⟨visited.ahead, atHand, visited.seen.imp (fun behind => ⟨visited.ahead, read, behind⟩) ?_⟩
    exact fun isSeen other isOther => List.mem_cons_of_mem _ (isSeen other isOther)
  have passes : ∀ {state : ScheduleState K}, Looking idle seen state id →
      ∀ other ∈ state.self.running.take (state.reqIndex + 1),
        other ∈ id :: seen ∧ (other ∈ state.scheduledRunningReqs ∨ idle other ∨ other = id) := by
    intro state looking other isOther
    rw [List.take_add_one, show state.self.running[state.reqIndex]? = some id from looking.isAt] at isOther
    rcases List.mem_append.mp isOther with isBefore | isLast
    · obtain ⟨isSeen, isSorted⟩ := looking.behind other isBefore
      exact ⟨List.mem_cons_of_mem _ isSeen, isSorted.imp_right .inl⟩
    · have isId := List.mem_singleton.mp isLast
      exact ⟨List.mem_cons.mpr (.inl isId), .inr (.inr isId)⟩
  rcases runningBody_cases ran with ⟨kv, isNext, -, skip⟩ | ⟨plan, kv, allocated, reached, isAsking, allocation, isNext⟩
  · cases isNext
    refine ⟨(visited.ahead.withKv kv).skip, handling.looking.imp_left fun looking other isOther => ?_⟩
    obtain ⟨isSeen, isSorted⟩ := passes (looking.withKv kv) other isOther
    refine ⟨isSeen, isSorted.imp_right fun isIdle => isIdle.elim (fun isIdle => isIdle) ?_⟩
    rintro rfl
    exact skips (skip budget)
  · cases allocated with
    | false => cases isNext
    | true =>
      cases isNext
      have asked : Handling config idle seen (state.withKv kv) id :=
        ⟨handling.ahead.withKv kv, handling.atHand.withKv kv, handling.looking.imp_left (·.withKv kv)⟩
      have asksKept : Kept first (state.withKv kv) := ⟨kept.running, kept.currentStep, kept.keys, kept.untouched⟩
      have handled := asked.allocate asksKept nodup (asks plan kv isAsking) isPriority allocation
      refine ⟨handled.ahead.scheduleRunning handled.atHand, handled.looking.imp_left fun looking other isOther => ?_⟩
      obtain ⟨isSeen, isScheduled | isIdle | isId⟩ := passes looking other isOther
      · exact ⟨isSeen, .inl (List.mem_append_left _ isScheduled)⟩
      · exact ⟨isSeen, .inr isIdle⟩
      · exact ⟨isSeen, .inl (List.mem_append_right _ (List.mem_singleton.mpr isId))⟩

/-- A loop that ends with budget left and without breaking off examines every
running request it had not seen before. -/
theorem runningLoop_visits (visited : Swept idle seen state) (kept : Kept first state)
    (nodup : first.self.running.Nodup) (isPriority : config.policy = .priority)
    (skips : ∀ id ∈ first.self.running,
      MaySkip env config first.self.currentStep (first.self.request id) → idle id)
    (asks : ∀ id ∈ first.self.running,
      MayAsk env config first.self.currentStep (first.self.request id) → Unshadowed idle first.self id)
    (ran : runningLoop env config fuel state = .ok next) (budget : 0 < next.tokenBudget)
    (goesOn : ¬BreaksOff env config fuel state) :
    ∀ id ∈ next.self.running, id ∈ seen ∨ id ∈ examined env config fuel state := by
  induction fuel generalizing state seen with
  | zero => cases ran
  | succ fuel ih =>
    intro id isRunning
    rw [runningLoop] at ran
    split at ran
    next hasBudget =>
      split at ran
      next ended =>
        cases ran
        rcases visited.seen with behind | isSeen
        · exact .inl (behind id (by rwa [List.take_of_length_le (List.getElem?_eq_none_iff.mp ended)])).1
        · exact .inl (isSeen id isRunning)
      next current read =>
        obtain ⟨flow, body, ran⟩ := bind_eq_ok.mp ran
        cases flow with
        | stop stopped =>
          exact absurd ⟨state, mem_looks hasBudget read, current, stopped, read, body⟩ goesOn
        | next reached =>
          have isCurrent : current ∈ state.self.running := List.mem_of_getElem? read
          have wasRunning := kept.running.subset isCurrent
          -- nothing has touched the request at hand yet
          have sameRecord := kept.untouched current isCurrent
            (show AtHand config state current from atHand_of_index visited.ahead read).unscheduled
          have reachedSwept := visited.round read kept nodup isPriority hasBudget
            (fun skip => skips current wasRunning (by rwa [kept.currentStep, sameRecord] at skip))
            (fun plan kv asking => asks current wasRunning (by
              have mayAsk := asking.mayAsk hasBudget
              rwa [kept.currentStep, sameRecord] at mayAsk)) body
          have reachedKept := kept.rounds nodup (runningBody_rounds visited.ahead read hasBudget body).1
          rw [breaksOff_next fuel hasBudget read body] at goesOn
          have later := ih reachedSwept reachedKept ran goesOn id isRunning
          rw [examined_next fuel hasBudget read body]
          rcases later with isSeen | isLater
          · exact (List.mem_cons.mp isSeen).symm.imp_right fun isCurrent => List.mem_cons.mpr (.inl isCurrent)
          · exact .inr (List.mem_cons_of_mem _ isLater)
    next noBudget =>
      cases ran
      exact absurd budget noBudget

/-! ## Three requests and no free slot -/

theorem runningLoop_next (fuel : Nat) (budget : 0 < state.tokenBudget) (read : state.lookedAt = some id)
    (body : state.runningBody env config id = .ok (.next next)) :
    runningLoop env config (fuel + 1) state = runningLoop env config fuel next := by
  rw [runningLoop, if_pos budget, show state.self.running[state.reqIndex]? = some id from read]
  dsimp only
  rw [body]
  rfl

theorem lowestPriority_head {self : Scheduler K} {rest : List ReqId}
    (below : ∀ other ∈ rest, victimKey (self.request other) ≤ victimKey (self.request id)) :
    lowestPriority self (id :: rest) = some id := by
  rw [lowestPriority]
  split
  next => rfl
  next other read =>
    exact if_neg fun less => (below other (lowestPriority_spec read).1).not_gt (Prod.Lex.toLex_lt_toLex.mpr less)

end ScheduleState

open ScheduleState

/-- Whenever the running loop ends with budget left and without breaking off, it has
examined every request it leaves in `running`. -/
def Scheduler.VisitsAll (env : Collaborators K) (config : SchedulerConfig) (self : Scheduler K) : Prop :=
  ∀ fuel next, runningLoop env config fuel (self.beginSchedule env config) = .ok next → 0 < next.tokenBudget →
    ¬BreaksOff env config fuel (self.beginSchedule env config) →
    ∀ id ∈ next.self.running, id ∈ examined env config fuel (self.beginSchedule env config)

def priorityConfig : SchedulerConfig := { asyncConfig with policy := .priority, asyncScheduling := false, ppSize := 2 }

/-- A running request under `key` that rests or has one token to schedule. -/
def presented (key : ReqId → ℤ ×ₗ ℤ) (rests : ReqId → Bool) (id : ReqId) : Request :=
  { promptOf id [1, 2] with
    status := .running
    numComputedTokens := if rests id then 2 else 1
    priority := (ofLex (key id)).1
    arrivalTime := (ofLex (key id)).2 }

def presenting (running : List ReqId) (key : ReqId → ℤ ×ₗ ℤ) (rests : ReqId → Bool) (held : PyDict ReqId Nat) :
    Scheduler SlotPool where
  request := presented key rests
  running := running
  kv := { free := 0, held }

section Presented

variable {key : ReqId → ℤ ×ₗ ℤ} {rests : ReqId → Bool} {id before asking after : ReqId} {state : ScheduleState SlotPool}

theorem planRunning_presented (budget : 0 < state.tokenBudget) (id : ReqId) :
    state.planRunning slotPool priorityConfig (presented key rests id) =
      .ok (⟨[], if rests id then 0 else 1, state.encoderComputeBudget, []⟩, state.self.kv) := by
  have tokens : state.runningTokens priorityConfig (presented key rests id) = if rests id then 0 else 1 := by
    simp only [runningTokens, priorityConfig, asyncConfig, presented, promptOf, Request.numTokensWithSpec,
      List.length_cons, List.length_nil]
    split <;> omega
  rw [← tokens]
  rfl

theorem maySkip_presented {currentStep : Nat}
    (skips : MaySkip slotPool priorityConfig currentStep (presented key rests id)) : rests id = true := by
  rcases skips with finished | throttled | ⟨state, plan, kv, budget, isPlan, nothing⟩
  · cases finished
  · exact absurd throttled (Nat.not_lt_zero _)
  · rw [planRunning_presented budget id] at isPlan
    cases isPlan
    by_contra awake
    rw [if_neg awake] at nothing
    cases nothing

theorem mayAsk_presented {currentStep : Nat}
    (asks : MayAsk slotPool priorityConfig currentStep (presented key rests id)) : rests id = false := by
  obtain ⟨-, -, state, plan, kv, budget, isPlan, something⟩ := asks
  rw [planRunning_presented budget id] at isPlan
  cases isPlan
  by_contra rest
  exact something (if_pos (by simpa using rest))

theorem runningBody_rests (record : state.self.request id = presented key rests id) (rest : rests id = true)
    (budget : 0 < state.tokenBudget) :
    state.runningBody slotPool priorityConfig id = .ok (.next { state with reqIndex := state.reqIndex + 1 }) := by
  have eligible : ¬state.self.currentStep < (presented key rests id).nextDecodeEligibleStep := Nat.not_lt_zero _
  unfold runningBody
  dsimp only
  rw [record, if_neg (by simp [reachesMaxTokens, presented, promptOf]), if_neg eligible, planRunning_presented budget id,
    rest]
  rfl

theorem runningBody_asks {reached : ScheduleState SlotPool} (record : state.self.request id = presented key rests id)
    (awake : rests id = false) (budget : 0 < state.tokenBudget)
    (allocation : allocateRunning slotPool priorityConfig (state.self.running.length + 1) state id 1 =
      .ok (true, reached)) :
    state.runningBody slotPool priorityConfig id =
      .ok (.next (reached.scheduleRunning slotPool id ⟨[], 1, state.encoderComputeBudget, []⟩)) := by
  have eligible : ¬state.self.currentStep < (presented key rests id).nextDecodeEligibleStep := Nat.not_lt_zero _
  unfold runningBody
  dsimp only
  rw [record, if_neg (by simp [reachesMaxTokens, presented, promptOf]), if_neg eligible, planRunning_presented budget id,
    awake]
  exact bind_eq_ok.mpr ⟨_, rfl, bind_eq_ok.mpr ⟨(true, reached), allocation, rfl⟩⟩

/-- With no slot left, the first of three requests is preempted for the second while it
rests before the index, and the loop passes over the third. -/
theorem presenting_passesOver (nodup : [before, asking, after].Nodup) (rest : rests before = true)
    (awake : rests asking = false) (askingBelow : key asking ≤ key before) (afterBelow : key after ≤ key before) :
    ¬(presenting [before, asking, after] key rests ((PyDict.empty.set before 2).set asking 1)).VisitsAll slotPool
      priorityConfig := by
  set first := (presenting [before, asking, after] key rests
    ((PyDict.empty.set before 2).set asking 1)).beginSchedule slotPool priorityConfig
  set second : ScheduleState SlotPool := { first with reqIndex := 1 }
  have notAsking : asking ≠ before := by
    rintro rfl
    simp at nodup
  have found : lowestPriority second.self [before, asking, after] = some before :=
    lowestPriority_head (List.forall_mem_cons.mpr ⟨askingBelow, List.forall_mem_singleton.mpr afterBelow⟩)
  have firstBudget : 0 < first.tokenBudget := show (0 : Int) < 8 by decide
  -- one token more than the request holds, and none is free
  have refused : slotPool.allocateSlots second.self.kv (second.self.request asking)
      { numNewTokens := 1, numLookaheadTokens := 0 } = .ok (false, second.self.kv) := by
    refine if_neg (not_le.mpr ?_)
    show 0 < ((if rests asking then 2 else 1 : Int) + 1).toNat + 0 -
      (((PyDict.empty.set before 2).set asking 1).get? asking).getD 0
    rw [PyDict.get?_set_self, awake]
    decide
  obtain ⟨reached, allocation, row, index, budget⟩ : ∃ reached,
      allocateRunning slotPool priorityConfig 4 second asking 1 = .ok (true, reached) ∧
        reached.self.running = [asking, after] ∧ reached.reqIndex = 1 ∧ reached.tokenBudget = 8 := by
    have took : second.takeVictim slotPool priorityConfig =
        .ok (before, second.withRunning ([before, asking, after].erase before)) := by
      rw [takeVictim, show priorityConfig.policy = .priority from rfl]
      dsimp only
      rw [show second.self.running = [before, asking, after] from rfl, found]
      rfl
    obtain ⟨self, preempted⟩ : ∃ self, (second.withRunning ([before, asking, after].erase before)).self.preemptRequest
        slotPool priorityConfig before = .ok self :=
      ⟨_, bind_eq_ok.mpr ⟨(), pyAssert_eq_ok.mpr rfl, bind_eq_ok.mpr ⟨_, rfl, rfl⟩⟩⟩
    have spec := Scheduler.preemptRequest_spec preempted
    obtain ⟨kv, freed, isKv⟩ := spec.freed
    cases freed
    have record : self.request asking = presented key rests asking := by
      rw [spec.request, Function.update_of_ne notAsking]
      rfl
    obtain ⟨kv, granted⟩ : ∃ kv, slotPool.allocateSlots self.kv (self.request asking)
        { numNewTokens := 1, numLookaheadTokens := 0 } = .ok (true, kv) := by
      refine ⟨_, if_pos ((Nat.sub_le _ _).trans ?_)⟩
      rw [record, isKv]
      show ((if rests asking then 2 else 1 : Int) + 1).toNat + 0 ≤
        0 + (((PyDict.empty.set before 2).set asking 1).get? before).getD 0
      rw [PyDict.get?_set_of_ne _ _ notAsking.symm, PyDict.get?_set_self, awake]
      decide
    refine ⟨{ second.withRunning [asking, after] with
      self := { self with kv }, preemptedReqs := [before] }, ?_, ?_, rfl, rfl⟩
    · rw [allocateRunning, show priorityConfig.numLookaheadTokens = 0 from rfl, refused]
      simp only [bind, Except.bind, show second.withKv second.self.kv = second from rfl, took, preempted,
        if_neg notAsking.symm, Bool.false_eq_true, if_false]
      rw [allocateRunning, show priorityConfig.numLookaheadTokens = 0 from rfl, granted]
      simp only [bind, Except.bind, if_true]
      rw [List.erase_cons_head]
      rfl
    · exact spec.running.trans (List.erase_cons_head ..)
  have body := runningBody_asks (show second.self.request asking = presented key rests asking from rfl) awake firstBudget
    allocation
  set done := reached.scheduleRunning slotPool asking ⟨[], 1, second.encoderComputeBudget, []⟩
  have rested : first.runningBody slotPool priorityConfig before = .ok (.next second) :=
    runningBody_rests (show _ = presented key rests before from rfl) rest firstBudget
  have secondBudget : 0 < second.tokenBudget := firstBudget
  have isSecond : second.lookedAt = some asking := rfl
  have doneBudget : 0 < done.tokenBudget := show 0 < reached.tokenBudget - 1 by rw [budget]; decide
  have ended : done.self.running[done.reqIndex]? = none := by
    show reached.self.running[reached.reqIndex + 1]? = none
    rw [row, index]
    rfl
  have loop : runningLoop slotPool priorityConfig 3 first = .ok done := by
    rw [runningLoop_next 2 firstBudget rfl rested, runningLoop_next 1 secondBudget isSecond body, runningLoop,
      if_pos doneBudget, ended]
  have looked : examined slotPool priorityConfig 3 first = [before, asking] := by
    rw [examined_next 2 firstBudget rfl rested, examined_next 1 secondBudget isSecond body, examined, looks,
      if_pos doneBudget, ended]
    rfl
  intro visits
  have isLooked := visits 3 done loop doneBudget ?goesOn after (row ▸ by simp : after ∈ reached.self.running)
  case goesOn =>
    rw [breaksOff_next 2 firstBudget rfl rested, breaksOff_next 1 secondBudget isSecond body]
    rintro ⟨look, isLook, -⟩
    rw [looks, if_pos doneBudget, ended] at isLook
    cases isLook
  rw [looked] at isLooked
  simp only [List.nodup_cons, List.mem_cons, List.not_mem_nil, or_false, not_or] at nodup isLooked
  rcases isLooked with rfl | rfl
  · exact nodup.1.2 rfl
  · exact nodup.2.1 rfl

end Presented

namespace Scheduler

/-! ## Whom the loop passes over -/

/-- How the running loop may find a request: `ready` and `idle` leave it no choice. -/
inductive Readiness where
  | ready
  | idle
  | either

/-- The running requests are among these, in this order, with these keys and this
readiness. -/
structure Presents (env : Collaborators K) (config : SchedulerConfig) (scheduler : Scheduler K) (running : List ReqId)
    (key : ReqId → ℤ ×ₗ ℤ) (readiness : ReqId → Readiness) : Prop where
  list : scheduler.running.Sublist running
  keys : ∀ id ∈ scheduler.running, victimKey (scheduler.request id) = key id
  skips : ∀ id ∈ scheduler.running, MaySkip env config (scheduler.currentStep + 1) (scheduler.request id) → readiness id ≠ .ready
  asks : ∀ id ∈ scheduler.running, MayAsk env config (scheduler.currentStep + 1) (scheduler.request id) → readiness id ≠ .idle

/-- Some request that may ask for slots stands between one that may be skipped and
another, and neither of the two is preempted before the one that may be skipped. -/
def PassesOver (running : List ReqId) (key : ReqId → ℤ ×ₗ ℤ) (readiness : ReqId → Readiness) : Prop :=
  ∃ before asking after, [before, asking, after].Sublist running ∧ readiness before ≠ .ready ∧
    readiness asking ≠ .idle ∧ key asking ≤ key before ∧ key after ≤ key before

theorem Presents.visitsAll {self : Scheduler K} {running : List ReqId} {key : ReqId → ℤ ×ₗ ℤ}
    {readiness : ReqId → Readiness} (presents : Presents env config self running key readiness)
    (nodup : running.Nodup) (nobody : ¬PassesOver running key readiness) (isPriority : config.policy = .priority) :
    self.VisitsAll env config := by
  intro fuel next ran budget goesOn id isRunning
  have startNodup := nodup.sublist presents.list
  have visited : Swept (readiness · ≠ .ready) [] (self.beginSchedule env config) :=
    ⟨beginSchedule_ahead startNodup, .inl nofun⟩
  refine (runningLoop_visits visited (Kept.refl _) startNodup isPriority (fun other isOther => ?_)
    (fun asking isAsking mayAsk => ?_) ran budget goesOn id isRunning).resolve_left List.not_mem_nil
  · exact presents.skips other isOther
  · intro before after isRow isIdle below
    have keys : ∀ id ∈ [before, asking, after], victimKey (self.request id) = key id := fun id isMember =>
      presents.keys id (isRow.subset isMember)
    have isOwn := presents.asks asking isAsking mayAsk
    by_contra above
    refine nobody ⟨before, asking, after, isRow.trans presents.list, isIdle, isOwn, ?_, ?_⟩
    · rw [← keys asking (by simp), ← keys before (by simp)]
      exact below
    · rw [← keys after (by simp), ← keys before (by simp)]
      exact not_lt.mp above

/-- The second request rests; the last has the lowest priority and holds no slot. -/
def fourRunning : Scheduler SlotPool :=
  presenting [3, 0, 1, 2] (fun id => toLex (if id = 0 then 1 else if id = 2 then 2 else 0, 0)) (· = 0)
    (((PyDict.empty.set 3 2).set 0 2).set 1 1)

/-- Three requests of which the first has nothing to schedule and the lowest priority. -/
def threeRunning : Scheduler SlotPool :=
  presenting [0, 1, 2] (fun id => toLex (if id = 0 then 1 else 0, 0)) (· = 0)
    (((PyDict.empty.set 0 2).set 1 1).set 2 1)

end Scheduler

end DeepSpark
