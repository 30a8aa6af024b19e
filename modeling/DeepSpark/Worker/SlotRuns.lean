import DeepSpark.Scheduler.Departures
import DeepSpark.Worker.RequestState

/-!
A scheduler driving the request slots of a runner.

Owns the runs of both, the requests that keep a slot although they left `running`, the
condition under which the scheduler leaves room for them, and what follows over whole
runs: the slots in use are those of running, reported and parked requests, and the runner
never runs out of them.
-/

namespace DeepSpark

open Lib ScheduleState

variable {K : Type} {env : Collaborators K} {config : SchedulerConfig} {parked : List ReqId}

namespace ScheduleState

variable {state next : ScheduleState K}

def waitingStops (config : SchedulerConfig) (state : ScheduleState K) : Bool :=
  (state.self.waiting.isEmpty && state.self.skippedWaiting.isEmpty) || state.tokenBudget ≤ 0 ||
    state.self.running.length == config.maxNumRunningReqs

/-- Whenever the waiting loop admits a request, the requests that then run and the parked
ones number at most `max_num_running_reqs`. -/
def leavesRoom (env : Collaborators K) (config : SchedulerConfig) (parked : List ReqId) :
    Nat → ScheduleState K → Bool
  | 0, _ => true
  | fuel + 1, state =>
    state.waitingStops config ||
      match state.waitingBody env config with
      | .error _ => true
      | .ok flow =>
        (flow.state.self.running == state.self.running ||
            decide ((flow.state.self.running ++ parked).dedup.length ≤ config.maxNumRunningReqs)) &&
          match flow with
          | .next next => leavesRoom env config parked fuel next
          | .stop _ => true

/-- What the waiting loop reports: nobody, or requests that run and for whom there is
room. -/
structure Roomy (config : SchedulerConfig) (parked : List ReqId) (state : ScheduleState K) : Prop where
  running : ∀ id ∈ state.admitted, id ∈ state.self.running
  room : state.admitted = [] ∨ (state.self.running ++ parked).dedup.length ≤ config.maxNumRunningReqs

theorem Roomy.nobody (roomy : Roomy config parked state) (nobody : NobodyAdmitted state next) :
    Roomy config parked next := by
  refine ⟨?_, ?_⟩
  · rw [nobody.admitted, nobody.running]
    exact roomy.running
  · rw [nobody.admitted, nobody.running]
    exact roomy.room

theorem waitingLoop_roomy {fuel : Nat}
    (room : leavesRoom env config parked fuel state = true) (roomy : Roomy config parked state)
    (ran : waitingLoop env config fuel state = .ok next) :
    Roomy config parked next ∧ (∀ id ∈ state.self.running, id ∈ next.self.running) ∧
      next.preemptedReqs = state.preemptedReqs ∧ next.self.finishedReqIds = state.self.finishedReqIds := by
  induction fuel generalizing state with
  | zero => cases ran
  | succ fuel ih =>
    rw [waitingLoop] at ran
    split at ran
    next =>
      cases ran
      exact ⟨roomy, fun _ isRunning => isRunning, rfl, rfl⟩
    next goesOn =>
      obtain ⟨flow, body, ran⟩ := bind_eq_ok.mp ran
      have notStopped : state.waitingStops config = false := by
        rw [waitingStops]
        simpa using goesOn
      rw [leavesRoom, notStopped, Bool.false_or, body] at room
      obtain ⟨fits, later⟩ := Bool.and_eq_true_iff.mp room
      have flowRoomy : Roomy config parked flow.state ∧
          (∀ id ∈ state.self.running, id ∈ flow.state.self.running) ∧
          flow.state.preemptedReqs = state.preemptedReqs ∧
          flow.state.self.finishedReqIds = state.self.finishedReqIds := by
        rcases waitingBody_admits body with nobody | ⟨id, one⟩
        · exact ⟨roomy.nobody nobody, fun _ isRunning => nobody.running ▸ isRunning, nobody.preempted,
            nobody.finished⟩
        · have stays : ∀ other ∈ state.self.running, other ∈ flow.state.self.running := by
            intro other isRunning
            rw [one.running]
            exact List.mem_append_left _ isRunning
          refine ⟨⟨?_, Or.inr ?_⟩, stays, one.preempted, one.finished⟩
          · intro other isAdmitted
            rcases (one.admitted other).mp isAdmitted with rfl | wasAdmitted
            · rw [one.running]
              exact List.mem_append_right _ (List.mem_singleton_self _)
            · exact stays other (roomy.running other wasAdmitted)
          · rcases Bool.or_eq_true_iff.mp fits with same | bound
            · rw [one.running] at same
              exact absurd (List.append_right_eq_self.mp (beq_iff_eq.mp same)) (List.cons_ne_nil _ _)
            · exact of_decide_eq_true bound
      cases flow with
      | next reached =>
        obtain ⟨reachedRoomy, stays, preempted, finished⟩ := flowRoomy
        obtain ⟨nextRoomy, nextStays, nextPreempted, nextFinished⟩ :=
          ih later reachedRoomy ran
        exact ⟨nextRoomy, fun id isRunning => nextStays id (stays id isRunning),
          nextPreempted.trans preempted, nextFinished.trans finished⟩
      | stop reached =>
        cases ran
        exact flowRoomy

end ScheduleState

namespace Scheduler

variable {self next : Scheduler K}

/-- The waiting loop of the next step leaves room for the slots of parked requests. -/
def leavesRoom (env : Collaborators K) (config : SchedulerConfig) (self : Scheduler K) (parked : List ReqId) :
    Bool :=
  match ScheduleState.runningLoop env config (2 * self.running.length + 1) (self.beginSchedule env config) with
  | .error _ => true
  | .ok mid =>
    match mid.recordLoras config with
    | .error _ => true
    | .ok recorded =>
      !(recorded.preemptedReqs.isEmpty && recorded.self.pauseState = .unpaused) ||
        ScheduleState.leavesRoom env config parked
          (recorded.self.waiting.length + recorded.self.skippedWaiting.length + 1) recorded

/-- The step that `schedule` returns: who leaves `running` is reported as preempted, whoever
was finished before is reported, and for those reported as new there is room. -/
theorem schedule_roomy {output : SchedulerOutput}
    (room : self.leavesRoom env config parked = true) (ran : self.schedule env config = .ok (output, next)) :
    (∀ id ∈ self.running, id ∈ next.running ∨ id ∈ output.preemptedReqIds) ∧
      output.finishedReqIds = self.finishedReqIds ∧
      (∀ id ∈ output.scheduledNewReqs ++ output.scheduledResumedReqs, id ∈ next.running) ∧
      (output.scheduledNewReqs ++ output.scheduledResumedReqs = [] ∨
        (next.running ++ parked).dedup.length ≤ config.maxNumRunningReqs) := by
  obtain ⟨state, loops, -, rfl, rfl⟩ := schedule_eq ran
  obtain ⟨-, isRunning, -⟩ := @updateAfterSchedule_frame _ config { state.self with
    prevStepScheduledReqIds := (makeOutput state).numScheduledTokens.keys } (makeOutput state)
  rw [isRunning]
  show (∀ id ∈ self.running, id ∈ state.self.running ∨ id ∈ state.preemptedReqs) ∧
    state.self.finishedReqIds = self.finishedReqIds ∧
    (∀ id ∈ state.admitted, id ∈ state.self.running) ∧
    (state.admitted = [] ∨ (state.self.running ++ parked).dedup.length ≤ config.maxNumRunningReqs)
  obtain ⟨mid, running, loops⟩ := bind_eq_ok.mp loops
  obtain ⟨recorded, record, loops⟩ := bind_eq_ok.mp loops
  rw [leavesRoom, show ScheduleState.runningLoop env config (2 * self.running.length + 1)
    (self.beginSchedule env config) = .ok mid from running] at room
  dsimp only at room
  rw [record] at room
  dsimp only at room
  have recordedSame : Preempts mid recorded := by
    obtain ⟨_, rfl⟩ := recordLoras_eq record
    exact .of_same rfl rfl rfl rfl
  have preempts := (runningLoop_preempts running).trans recordedSame
  have recordedRoomy : Roomy config parked recorded := by
    have nobody : recorded.admitted = [] := preempts.admitted
    refine ⟨?_, Or.inl nobody⟩
    rw [nobody]
    exact fun _ => nofun
  have left : ∀ id ∈ self.running, id ∈ recorded.self.running ∨ id ∈ recorded.preemptedReqs := preempts.running
  split at loops
  next waits =>
    obtain ⟨last, waiting, loops⟩ := bind_eq_ok.mp loops
    cases loops
    have waits' : (recorded.preemptedReqs.isEmpty && decide (recorded.self.pauseState = .unpaused)) = true := waits
    rw [waits', Bool.not_true, Bool.false_or] at room
    obtain ⟨roomy, stays, preempted, finished⟩ := waitingLoop_roomy room recordedRoomy waiting
    refine ⟨fun id wasRunning => ?_, finished.trans preempts.finished, roomy.running, roomy.room⟩
    rcases left id wasRunning with isRunning | told
    · exact Or.inl (stays id isRunning)
    · exact Or.inr (preempted.symm ▸ told)
  next =>
    cases loops
    exact ⟨left, preempts.finished, recordedRoomy.running, recordedRoomy.room⟩

end Scheduler

/-! ## Runs -/

/-- A scheduler, the request slots of the runner after the steps issued so far, and, for
the record, the parked requests: those that left `running` and keep their slot. -/
structure WorkerSystem (K : Type) where
  system : System K
  states : RequestState
  parked : List ReqId := []

namespace WorkerSystem

variable (env : Collaborators K) (config : SchedulerConfig)

/-- The requests an event parks: sessions that stop but go on, and all that run at a forced
reset. -/
def parks (scheduler next : Scheduler K) : Event → List ReqId
  | .output _ _ => scheduler.running.filter fun id =>
    (scheduler.request id).resumable ∧ id ∉ next.running ∧ id ∉ next.finishedReqIds
  | .reset true => scheduler.running
  | _ => []

/-- One event; the runner executes a step when it is scheduled. -/
def step (self : WorkerSystem K) : Event → Except PyError (WorkerSystem K)
  | .schedule => do
      let (output, scheduler) ← self.system.scheduler.schedule env config
      let states ← self.states.executeModel output
      .ok { system := { scheduler, inFlight := self.system.inFlight ++ [output] }
            states := states
            parked := self.parked.filter fun id =>
              id ∉ scheduler.running ∧ id ∉ self.system.scheduler.finishedReqIds }
  | event => do
      let system ← self.system.step env config event
      .ok { self with
            system := system
            parked := self.parked ++ parks self.system.scheduler system.scheduler event }

def run (self : WorkerSystem K) (events : List Event) : Except PyError (WorkerSystem K) :=
  events.foldlM (step env config) self

/-- A scheduler without requests, and a runner with a slot for each request that may run. -/
structure IsInitial (start : WorkerSystem K) : Prop where
  system : start.system.IsInitial
  states : start.states = RequestState.init config.maxNumRunningReqs

def keepers (self : WorkerSystem K) : List ReqId :=
  self.parked.filter fun id => id ∉ self.system.scheduler.finishedReqIds

/-- A step leaves room for the slots that parked requests keep. -/
def LeavesRoom (self : WorkerSystem K) : Event → Prop
  | .schedule => self.system.scheduler.leavesRoom env config self.keepers = true
  | _ => True

def RoomyStep (self next : WorkerSystem K) : Prop :=
  ∃ event, self.LeavesRoom env config event ∧ self.step env config event = .ok next

def Reachable (self : WorkerSystem K) : Prop :=
  ∃ start : WorkerSystem K, start.IsInitial config ∧ Relation.ReflTransGen (RoomyStep env config) start self

variable {env config} {self next : WorkerSystem K}

/-- The slots are consistent, and held by running, reported and parked requests only. -/
structure Accounted (config : SchedulerConfig) (runner : WorkerSystem K) : Prop where
  consistent : runner.states.Consistent config.maxNumRunningReqs
  held : ∀ id ∈ runner.states.holders,
    id ∈ runner.system.scheduler.running ∨ id ∈ runner.system.scheduler.finishedReqIds ∨ id ∈ runner.parked

theorem Accounted.of_departs (accounted : Accounted config self) {system : System K}
    {parks : ReqId → Prop} (departs : Scheduler.Departs parks self.system.scheduler system.scheduler)
    (kept : ∀ id ∈ self.parked, id ∈ parked)
    (parking : ∀ id ∈ self.system.scheduler.running, id ∉ system.scheduler.running →
      id ∉ system.scheduler.finishedReqIds → parks id → id ∈ parked) :
    Accounted config { self with system := system, parked := parked } := by
  refine ⟨accounted.consistent, ?_⟩
  intro id isHolder
  rcases accounted.held id isHolder with isRunning | told | isParked
  · by_cases stays : id ∈ system.scheduler.running
    · exact Or.inl stays
    · by_cases told : id ∈ system.scheduler.finishedReqIds
      · exact Or.inr (Or.inl told)
      · have isParking := ((departs.running id isRunning).resolve_left stays).resolve_left told
        exact Or.inr (Or.inr (parking id isRunning stays told isParking))
  · exact Or.inr (Or.inl (departs.finished id told))
  · exact Or.inr (Or.inr (kept id isParked))

/-- The runner adds the requests of a step that leaves room, and the slots stay
accounted for. -/
theorem Accounted.scheduled (accounted : Accounted config self) {output : SchedulerOutput}
    {scheduler : Scheduler K} (room : self.LeavesRoom env config .schedule)
    (ran : self.system.scheduler.schedule env config = .ok (output, scheduler)) :
    ∃ added, (self.states.finishRequests output).addRequests output = .ok added ∧
      added.Consistent config.maxNumRunningReqs ∧
      ∀ id ∈ added.holders, id ∈ scheduler.running ∨ id ∈ self.keepers := by
  obtain ⟨left, reported, running, fits⟩ := Scheduler.schedule_roomy room ran
  have consistent := accounted.consistent.finishRequests output
  have within : ∀ id ∈ (self.states.finishRequests output).holders, id ∈ scheduler.running ++ self.keepers := by
    intro id isHolder
    obtain ⟨⟨notFinished, notPreempted⟩, wasHolder⟩ := RequestState.finishRequests_holders.mp isHolder
    rw [reported] at notFinished
    rcases accounted.held id wasHolder with isRunning | told | isParked
    · exact List.mem_append_left _ ((left id isRunning).resolve_right notPreempted)
    · exact absurd told notFinished
    · exact List.mem_append_right _ (List.mem_filter.mpr ⟨isParked, decide_eq_true notFinished⟩)
  rcases fits with nobody | bound
  · refine ⟨self.states.finishRequests output, ?_, consistent, fun id isHolder => List.mem_append.mp (within id isHolder)⟩
    rw [RequestState.addRequests, nobody]
    rfl
  · obtain ⟨added, ranAdded, isConsistent, holders⟩ := consistent.addRequests_ok within
      (fun id isAdded => List.mem_append_left _ (running id isAdded)) bound
    refine ⟨added, ranAdded, isConsistent, ?_⟩
    intro id isHolder
    rcases (holders id).mp isHolder with isAdded | wasHolder
    · exact Or.inl (running id isAdded)
    · exact List.mem_append.mp (within id wasHolder)

theorem Accounted.step (accounted : Accounted config self) {event : Event}
    (room : self.LeavesRoom env config event) (ran : self.step env config event = .ok next) :
    Accounted config next := by
  have same : ∀ id ∈ self.parked, ∀ others, id ∈ self.parked ++ others :=
    fun id isParked others => List.mem_append_left _ isParked
  cases event with
  | schedule =>
    obtain ⟨⟨output, scheduler⟩, scheduled, ran⟩ := bind_eq_ok.mp ran
    obtain ⟨states, executed, ran⟩ := bind_eq_ok.mp ran
    obtain ⟨added, ranAdded, executed⟩ := bind_eq_ok.mp executed
    obtain ⟨_, -, executed⟩ := bind_eq_ok.mp executed
    cases executed
    cases ran
    obtain ⟨known, isKnown, consistent, holders⟩ := accounted.scheduled room scheduled
    rw [ranAdded] at isKnown
    cases isKnown
    refine ⟨consistent, ?_⟩
    intro id isHolder
    rcases holders id isHolder with isRunning | isKeeper
    · exact Or.inl isRunning
    · by_cases isRunning : id ∈ scheduler.running
      · exact Or.inl isRunning
      · obtain ⟨isParked, notTold⟩ := List.mem_filter.mp isKeeper
        right
        right
        exact List.mem_filter.mpr ⟨isParked, decide_eq_true ⟨isRunning, of_decide_eq_true notTold⟩⟩
  | add request =>
    obtain ⟨system, ranSystem, ran⟩ := bind_eq_ok.mp ran
    obtain ⟨scheduler, added, ranSystem⟩ := bind_eq_ok.mp ranSystem
    cases ranSystem
    cases ran
    exact accounted.of_departs (Scheduler.addRequest_departs added) (fun id isParked => same id isParked _)
      fun _ _ _ _ => False.elim
  | output index output =>
    obtain ⟨system, ranSystem, ran⟩ := bind_eq_ok.mp ran
    cases ran
    rw [System.step] at ranSystem
    split at ranSystem
    next => cases ranSystem
    next =>
      obtain ⟨scheduler, updated, ranSystem⟩ := bind_eq_ok.mp ranSystem
      cases ranSystem
      refine accounted.of_departs (Scheduler.updateFromOutputOf_departs updated)
        (fun id isParked => same id isParked _) ?_
      intro id isRunning gone notTold resumable
      exact List.mem_append_right _ (List.mem_filter.mpr ⟨isRunning, decide_eq_true ⟨resumable, gone, notTold⟩⟩)
  | drafts draftTokenIds =>
    obtain ⟨system, ranSystem, ran⟩ := bind_eq_ok.mp ran
    cases ranSystem
    cases ran
    have steady := Scheduler.foldl_steady (@Scheduler.updateDraftTokenIds_steady _ env) draftTokenIds
      self.system.scheduler
    have departs : Scheduler.Departs (fun _ => False) self.system.scheduler _ := steady.departs
    exact accounted.of_departs departs (fun id isParked => same id isParked _)
      fun _ _ _ _ => False.elim
  | finish requestIds finishedStatus =>
    obtain ⟨system, ranSystem, ran⟩ := bind_eq_ok.mp ran
    obtain ⟨scheduler, finished, ranSystem⟩ := bind_eq_ok.mp ranSystem
    cases ranSystem
    cases ran
    exact accounted.of_departs (Scheduler.finishRequests_departs finished)
      (fun id isParked => same id isParked _) fun _ _ _ _ => False.elim
  | reset resetRunningRequests =>
    obtain ⟨system, ranSystem, ran⟩ := bind_eq_ok.mp ran
    obtain ⟨⟨successful, scheduler⟩, reset, ranSystem⟩ := bind_eq_ok.mp ranSystem
    cases ranSystem
    cases ran
    refine accounted.of_departs (Scheduler.resetPrefixCache_departs reset)
      (fun id isParked => same id isParked _) ?_
    rintro id isRunning - - rfl
    exact List.mem_append_right _ isRunning

theorem Reachable.accounted (reachable : Reachable env config self) : Accounted config self := by
  obtain ⟨start, isInitial, run⟩ := reachable
  induction run with
  | refl =>
    refine ⟨?_, ?_⟩
    · rw [isInitial.states]
      exact RequestState.init_consistent _
    · rw [isInitial.states]
      exact fun _ => nofun
  | tail _ step ih =>
    obtain ⟨event, room, ran⟩ := step
    exact ih.step room ran

theorem updateRequests_error {states : RequestState} {reqIds : List ReqId} {failure : PyError}
    (ran : (forM reqIds fun reqId =>
      match states.reqIdToIndex.get? reqId with
      | none => Except.error (PyError.keyError "req_id")
      | some _ => Except.ok ()) = .error failure) : failure = .keyError "req_id" := by
  induction reqIds with
  | nil => cases ran
  | cons reqId rest ih =>
    rw [List.forM_cons] at ran
    cases found : states.reqIdToIndex.get? reqId with
    | none =>
      rw [found] at ran
      exact (Except.error.inj ran).symm
    | some index =>
      rw [found] at ran
      exact ih ran

/-- In every run whose steps leave room for the slots that parked requests keep, the slots
stay consistent and the runner never runs out of them. -/
theorem reachable_freeIndices (reachable : Reachable env config self) :
    (∀ left right index, self.states.reqIdToIndex.get? left = some index →
      self.states.reqIdToIndex.get? right = some index → left = right) ∧
    self.states.Consistent config.maxNumRunningReqs ∧
    ∀ output scheduler, self.LeavesRoom env config .schedule →
      self.system.scheduler.schedule env config = .ok (output, scheduler) →
      self.states.executeModel output ≠ .error (.assertionError "No free indices") := by
  have accounted := reachable.accounted
  refine ⟨fun _ _ _ => accounted.consistent.injective, accounted.consistent, ?_⟩
  intro output scheduler room scheduled failed
  obtain ⟨added, ranAdded, -⟩ := accounted.scheduled room scheduled
  have executed : self.states.executeModel output = (do
      added.updateRequests output
      .ok added) := by
    rw [RequestState.executeModel, ranAdded]
    rfl
  rw [executed] at failed
  cases updated : added.updateRequests output with
  | error failure =>
    rw [updated, updateRequests_error updated] at failed
    cases failed
  | ok _ =>
    rw [updated] at failed
    cases failed

/-- A runner of one slot over a number of free KV slots. -/
def oneSlotConfig : SchedulerConfig := { asyncConfig with maxNumRunningReqs := 1, useV2ModelRunner := true }

def withSlots (free : Nat) : WorkerSystem SlotPool where
  system := System.withSlots free
  states := RequestState.init 1

/-- A request is finished and another one takes its slot. -/
theorem reachable_freeIndices_afterStop :
    ∃ runner output scheduler, (withSlots 8).run slotPool oneSlotConfig
        [.add (promptOf 0 [1]), .schedule, .output 0 (sampledOutput [9]), .add (promptOf 1 [1])] = .ok runner ∧
      runner.system.scheduler.schedule slotPool oneSlotConfig = .ok (output, scheduler) ∧
      output.scheduledNewReqs = [1] ∧
      runner.states.executeModel output ≠ .error (.assertionError "No free indices") := by
  have reachable : Reachable slotPool oneSlotConfig _ :=
    ⟨withSlots 8, ⟨System.withSlots_isInitial 8, rfl⟩,
      (((Relation.ReflTransGen.refl.tail ⟨.add (promptOf 0 [1]), trivial, rfl⟩).tail
        ⟨.schedule, rfl, rfl⟩).tail ⟨.output 0 (sampledOutput [9]), trivial, rfl⟩).tail
        ⟨.add (promptOf 1 [1]), trivial, rfl⟩⟩
  exact ⟨_, _, _, rfl, rfl, by decide, (reachable_freeIndices reachable).2.2 _ _ rfl rfl⟩

/-- A session waits for its next turn with its slot, and the scheduler admits another
request in its place. -/
theorem noFreeIndices : ∃ runner output scheduler, (withSlots 8).run slotPool oneSlotConfig
      [.add { promptOf 0 [1] with resumable := true }, .schedule, .output 0 (sampledOutput [9]),
        .add (promptOf 1 [1])] = .ok runner ∧
    runner.system.scheduler.schedule slotPool oneSlotConfig = .ok (output, scheduler) ∧
    runner.states.executeModel output = .error (.assertionError "No free indices") :=
  ⟨_, _, _, rfl, rfl, rfl⟩

end WorkerSystem

end DeepSpark
