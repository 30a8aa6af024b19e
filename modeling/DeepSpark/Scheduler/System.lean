import DeepSpark.Scheduler.Rounds

/-!
Runs of a scheduler: the calls the engine makes, in any order, with the steps
whose outputs have not come back yet.

Owns the events, the step function over them, and the reachable systems of the
runs whose events a predicate allows. Also owns what `_update_after_schedule` does
to one request.
-/

namespace DeepSpark

open Lib

structure Request.IsNew (request : Request) : Prop where
  status : request.status = .waiting ∨ request.status = .waitingForStructuredOutputGrammar
  outputTokenIds : request.outputTokenIds = []
  allTokenIds : request.allTokenIds.length = request.numPromptTokens
  numOutputPlaceholders : request.numOutputPlaceholders = 0
  asyncTokensToDiscard : request.asyncTokensToDiscard = 0
  specTokenIds : request.specTokenIds = []
  numComputedTokens : request.numComputedTokens = 0
  isPrefillChunk : request.isPrefillChunk = false
  numPreemptions : request.numPreemptions = 0
  streamingQueue : request.streamingQueue = none

/-- The calls of the engine. `output` returns the output of the step at an index
of those in flight. -/
inductive Event where
  | add (request : Request)
  | schedule
  | output (index : Nat) (output : ModelRunnerOutput)
  | drafts (draftTokenIds : List (ReqId × List TokenId))
  | finish (requestIds : Option (List ReqId)) (finishedStatus : RequestStatus)
  | reset (resetRunningRequests : Bool)

/-- A scheduler with its steps in flight, oldest first. -/
structure System (K : Type) where
  scheduler : Scheduler K
  inFlight : List SchedulerOutput := []

namespace System

variable {K : Type} (env : Collaborators K) (config : SchedulerConfig)

def step (system : System K) : Event → Except PyError (System K)
  | .add request => do
      let scheduler ← system.scheduler.addRequest env config request
      .ok { system with scheduler }
  | .schedule => do
      let (output, scheduler) ← system.scheduler.schedule env config
      .ok { scheduler, inFlight := system.inFlight ++ [output] }
  | .output index output =>
    match system.inFlight[index]? with
    | none => .error (.indexError "no such step in flight")
    | some scheduled => do
        let scheduler ← system.scheduler.updateFromOutputOf env config scheduled output
        .ok { scheduler, inFlight := system.inFlight.eraseIdx index }
  | .drafts draftTokenIds =>
    .ok { system with
      scheduler := draftTokenIds.foldl (fun self entry => self.updateDraftTokenIds env entry)
        system.scheduler }
  | .finish requestIds finishedStatus => do
      let scheduler ← system.scheduler.finishRequests env config requestIds finishedStatus
      .ok { system with scheduler }
  | .reset resetRunningRequests => do
      let (_, scheduler) ← system.scheduler.resetPrefixCache env config resetRunningRequests
      .ok { system with scheduler }

def run (system : System K) (events : List Event) : Except PyError (System K) :=
  events.foldlM (step env config) system

structure IsInitial (system : System K) : Prop where
  requests : system.scheduler.requests = []
  waiting : system.scheduler.waiting = []
  skippedWaiting : system.scheduler.skippedWaiting = []
  running : system.scheduler.running = []
  inFlight : system.inFlight = []

def AllowedStep (allowed : System K → Event → Prop) (system next : System K) : Prop :=
  ∃ event, allowed system event ∧ system.step env config event = .ok next

def Reachable (allowed : System K → Event → Prop) (system : System K) : Prop :=
  ∃ start : System K, start.IsInitial ∧
    Relation.ReflTransGen (AllowedStep env config allowed) start system

variable {env config}

theorem Reachable.induct {allowed : System K → Event → Prop} {P : System K → Prop}
    (initial : ∀ system, system.IsInitial → P system)
    (steps : ∀ system event next, allowed system event → system.step env config event = .ok next →
      P system → P next)
    {system : System K} (reachable : Reachable env config allowed system) : P system := by
  obtain ⟨start, isInitial, run⟩ := reachable
  induction run with
  | refl => exact initial start isInitial
  | tail _ taken ih =>
    obtain ⟨event, isAllowed, ran⟩ := taken
    exact steps _ event _ isAllowed ran ih

theorem reachable_of_run {allowed : System K → Event → Prop} {start system : System K}
    (isInitial : start.IsInitial) (events : List Event)
    (isAllowed : ∀ index event before, events[index]? = some event →
      start.run env config (events.take index) = .ok before → allowed before event)
    (ran : start.run env config events = .ok system) : Reachable env config allowed system := by
  refine ⟨start, isInitial, ?_⟩
  induction events using List.reverseRecOn generalizing system with
  | nil =>
    cases ran
    exact .refl
  | append_singleton front event ih =>
    rw [run, List.foldlM_append] at ran
    obtain ⟨before, ranFront, ranLast⟩ := bind_eq_ok.mp ran
    obtain ⟨after, ranEvent, isLast⟩ := bind_eq_ok.mp ranLast
    cases isLast
    refine (ih ?_ ranFront).tail ⟨event, ?_, ranEvent⟩
    · intro index other earlier read ranEarlier
      have below := (List.getElem?_eq_some_iff.mp read).1
      apply isAllowed index other earlier
      · rw [List.getElem?_append_left below]
        exact read
      · rw [List.take_append_of_le_length below.le]
        exact ranEarlier
    · apply isAllowed front.length event before
      · rw [List.getElem?_append_right le_rfl, Nat.sub_self, List.getElem?_cons_zero]
      · rw [List.take_append_of_le_length le_rfl, List.take_length]
        exact ranFront

end System

/-! ## A smallest engine -/

structure SlotPool where
  free : Nat
  held : PyDict ReqId Nat := .empty

/-- The collaborators of a text-only engine without prefix caching and
connectors, with one full-attention group whose blocks hold one token. -/
def slotPool : Collaborators SlotPool where
  newStepStarts pool := pool
  getComputedBlocks pool _ := .ok (⟨[], 0, 0⟩, pool)
  allocateSlots pool request args :=
    let needed := (request.numComputedTokens + args.numNewTokens).toNat + args.numLookaheadTokens
    let held := (pool.held.get? request.requestId).getD 0
    if needed - held ≤ pool.free then
      .ok (true, ⟨pool.free - (needed - held), pool.held.set request.requestId (max needed held)⟩)
    else .ok (false, pool)
  free pool request :=
    .ok ⟨pool.free + (pool.held.get? request.requestId).getD 0,
      pool.held.erase request.requestId⟩
  cacheBlocks pool _ _ := .ok pool
  resetPrefixCache pool := .ok (true, pool)
  getNumEncoderEmbeds _ _ := 0
  getEmbedsIndicesInRange _ start stop := (start, stop)
  checkAndUpdateCache pool _ _ := (false, pool)
  canAllocateEncoder pool _ _ _ _ := (false, pool)
  hasCacheItem _ _ := false
  allocateEncoderInputs pool _ _ := pool
  freeEncoder pool _ := pool
  freeEncoderInputs pool _ := pool
  getNumNewMatchedTokens pool _ _ := (some 0, false, pool)
  ensureCacheAvailable _ _ _ := true
  updateStateAfterAlloc pool _ _ := pool
  remainingBlocks _ _ := 0
  connectorFinished pool _ := .ok (false, pool)
  hasGrammar _ _ := true
  acceptTokens pool _ _ := .ok (true, pool)
  validateTokens _ _ tokens := tokens

/-- A text request with a prompt, at most eight output tokens and the end token
nine. -/
def promptOf (id : ReqId) (tokenIds : List TokenId) : Request where
  requestId := id
  samplingParams := { maxTokens := 8, eosTokenId := some 9 }
  maxTokens := 8
  promptTokenIds := tokenIds
  numPromptTokens := tokenIds.length
  allTokenIds := tokenIds

theorem promptOf_isNew (id : ReqId) (tokenIds : List TokenId) : (promptOf id tokenIds).IsNew :=
  ⟨.inl rfl, rfl, rfl, rfl, rfl, rfl, rfl, rfl, rfl, rfl⟩

def asyncConfig : SchedulerConfig where
  policy := .fcfs
  maxNumRunningReqs := 4
  maxNumScheduledTokens := 8
  maxModelLen := 16
  numSampledTokensPerStep := 1
  numSpecTokens := 0
  numLookaheadTokens := 0
  longPrefillTokenThreshold := 0
  enableChunkedPrefill := true
  schedulerReserveFullIsl := false
  maxLoras := none
  maxNumEncoderInputTokens := 0
  isEncoderDecoder := false
  disableChunkedMmInput := false
  requiresEagleCacheDrop := false
  useEagle := false
  hasMambaLayers := false
  needMambaBlockAlignedSplit := false
  blockSize := 1
  hasConnector := false
  hasEcConnector := false
  asyncScheduling := true
  ppSize := 1
  useV2ModelRunner := false
  useDsparkConfidenceSchedule := false
  blockHasher := none

/-- An engine with a number of free slots and no request. -/
def System.withSlots (free : Nat) : System SlotPool where
  scheduler := { request := fun id => promptOf id [], kv := { free } }

theorem System.withSlots_isInitial (free : Nat) : (System.withSlots free).IsInitial :=
  ⟨rfl, rfl, rfl, rfl, rfl⟩

def sampledOutput (tokenIds : List TokenId) : ModelRunnerOutput where
  sampledTokenIds _ := tokenIds

/-! ## The end of a step -/

namespace Scheduler

variable {K : Type} {env : Collaborators K} {config : SchedulerConfig} {self next : Scheduler K}

private theorem foldl_modifyRequest_entries {α : Type} (change : ReqId → α → Request → Request)
    (entries : List (ReqId × α)) (nodup : (entries.map Prod.fst).Nodup) (self : Scheduler K) :
    entries.foldl (fun updated entry => updated.modifyRequest entry.1 (change entry.1 entry.2)) self =
      { self with
        request := fun id => (PyDict.get? ⟨entries, nodup⟩ id).elim (self.request id)
          fun value => change id value (self.request id) } := by
  induction entries generalizing self with
  | nil => rfl
  | cons entry rest ih =>
    obtain ⟨key, value⟩ := entry
    have parts := List.nodup_cons.mp nodup
    rw [List.foldl_cons, ih parts.2]
    congr 1
    funext id
    by_cases same : id = key
    · subst same
      have absent : PyDict.get? ⟨rest, parts.2⟩ id = none := PyDict.get?_eq_none.mpr parts.1
      have found : PyDict.get? ⟨(id, value) :: rest, nodup⟩ id = some value :=
        PyDict.mem_entries.mp List.mem_cons_self
      rw [absent, found]
      exact modifyRequest_self self id _
    · have skipped : PyDict.get? ⟨(key, value) :: rest, nodup⟩ id =
          PyDict.get? ⟨rest, parts.2⟩ id := by
        unfold PyDict.get?
        rw [List.lookup_cons, beq_false_of_ne same]
      rw [skipped, modifyRequest_of_ne self _ same]

theorem foldl_modifyRequest {α : Type} (change : ReqId → α → Request → Request)
    (dict : PyDict ReqId α) (self : Scheduler K) :
    dict.entries.foldl (fun updated entry =>
        updated.modifyRequest entry.1 (change entry.1 entry.2)) self =
      { self with
        request := fun id => (dict.get? id).elim (self.request id)
          fun value => change id value (self.request id) } :=
  foldl_modifyRequest_entries change dict.entries dict.nodup self

theorem updateAfterSchedule_request (self : Scheduler K) (output : SchedulerOutput) (id : ReqId) :
    (self.updateAfterSchedule config output).request id =
      (output.numScheduledTokens.get? id).elim (self.request id) fun numScheduledToken =>
        self.afterSchedule config output id numScheduledToken (self.request id) := by
  unfold updateAfterSchedule
  rw [foldl_modifyRequest (self.afterSchedule config output)]

theorem updateAfterSchedule_frame (self : Scheduler K) (output : SchedulerOutput) :
    (self.updateAfterSchedule config output).requests = self.requests ∧
      (self.updateAfterSchedule config output).running = self.running ∧
      (self.updateAfterSchedule config output).waiting = self.waiting ∧
      (self.updateAfterSchedule config output).skippedWaiting = self.skippedWaiting ∧
      (self.updateAfterSchedule config output).kv = self.kv := by
  unfold updateAfterSchedule
  rw [foldl_modifyRequest (self.afterSchedule config output)]
  exact ⟨rfl, rfl, rfl, rfl, rfl⟩

/-- The parts of a call of `schedule`. -/
theorem schedule_eq {output : SchedulerOutput} (ran : self.schedule env config = .ok (output, next)) :
    ∃ state, self.scheduleLoops env config = .ok state ∧ checkScheduled config state = .ok () ∧
      output = makeOutput state ∧
      next = Scheduler.updateAfterSchedule config
        { state.self with prevStepScheduledReqIds := output.numScheduledTokens.keys } output := by
  obtain ⟨state, loops, ran⟩ := bind_eq_ok.mp ran
  obtain ⟨_, checked, ran⟩ := bind_eq_ok.mp ran
  cases ran
  exact ⟨state, loops, checked, rfl, rfl⟩

end Scheduler

end DeepSpark
