import DeepSpark.Scheduler.Placeholders

/-!
The token accounting of the async scheduler over whole runs.

Owns the runs whose outputs answer their steps in order. In all of them the
placeholders of a request are those of its steps in flight, a running request that
is not in a prefill chunk has computed everything but the tokens of its next step,
and a forced reset of requests without drafts in flight drops exactly the outputs
of the steps that were in flight.
-/

namespace DeepSpark

open Lib Function Scheduler

variable {K : Type} {env : Collaborators K} {config : SchedulerConfig}

namespace System

/-- No step in flight of a running request carries drafts or is stale, so that
every placeholder stands for one output. -/
def ResetsWithoutDrafts (config : SchedulerConfig) (system : System K) (frames : List Frame) : Prop :=
  config.numSampledTokensPerStep ≤ 1 ∧
    ∀ id ∈ system.scheduler.running, (system.scheduler.request id).asyncTokensToDiscard = 0 ∧
      ∀ frame ∈ frames, frame.drafts id = []

/-- Outputs come back in order and answer their step, and no stop loses a request. -/
def AnsweredEvent (env : Collaborators K) (config : SchedulerConfig) (system : System K)
    (frames : List Frame) (event : Event) : Prop :=
  system.PlainEvent event ∧ system.SafeStops env config event ∧
    match event with
    | .output index output =>
      index = 0 ∧ ∀ frame ∈ frames.head?, frame.Answers config output system.scheduler
    | _ => True

/-- Besides, a forced reset finds no drafts in flight. -/
def CountedEvent (env : Collaborators K) (config : SchedulerConfig) (system : System K)
    (frames : List Frame) (event : Event) : Prop :=
  system.AnsweredEvent env config frames event ∧
    (event = .reset true → system.ResetsWithoutDrafts config frames)

structure Accounting (config : SchedulerConfig) (system : System K) (frames : List Frame) : Prop where
  plain : system.scheduler.Plain
  queues : system.scheduler.Queues []
  inFlight : frames.map Frame.scheduled = system.inFlight
  noDrafts : ∀ frame ∈ frames, ∀ id, frame.isPrefillChunk id = true ∨ frame.isStale id = true →
    frame.drafts id = []
  staleFirst : StaleFirst frames
  accounted : ∀ id ∈ system.scheduler.requests, (system.scheduler.request id).isFinished = false →
    (system.scheduler.request id).Accounted config (freshFrames frames id) id
  stale : ∀ id ∈ system.scheduler.requests, (system.scheduler.request id).isFinished = false →
    (system.scheduler.request id).asyncTokensToDiscard = staleCount config frames id

variable {system next : System K} {frames : List Frame}

theorem Accounting.of_same (accounting : system.Accounting config frames) (plain : next.scheduler.Plain)
    (queues : next.scheduler.Queues []) (inFlight : next.inFlight = system.inFlight)
    (same : ∀ id ∈ next.scheduler.requests, (next.scheduler.request id).isFinished = false →
      id ∈ system.scheduler.requests ∧ ∃ specTokenIds,
        next.scheduler.request id =
          { system.scheduler.request id with specTokenIds := specTokenIds }) :
    next.Accounting config frames := by
  refine ⟨plain, queues, accounting.inFlight.trans inFlight.symm, accounting.noDrafts,
    accounting.staleFirst, fun id isMember unfinished => ?_, fun id isMember unfinished => ?_⟩
  · obtain ⟨wasMember, specTokenIds, record⟩ := same id isMember unfinished
    rw [record] at unfinished ⊢
    have before := accounting.accounted id wasMember unfinished
    exact ⟨before.placeholders, before.computed⟩
  · obtain ⟨wasMember, specTokenIds, record⟩ := same id isMember unfinished
    rw [record] at unfinished ⊢
    exact accounting.stale id wasMember unfinished

theorem counters_of_unknown {id : ReqId}
    (unknown : ∀ frame ∈ frames, id ∉ frame.scheduled.numScheduledTokens.keys) :
    framePlaceholders config (freshFrames frames id) id = 0 ∧ staleCount config frames id = 0 := by
  constructor
  · apply List.sum_eq_zero
    intro value member
    obtain ⟨frame, isFrame, rfl⟩ := List.mem_map.mp member
    exact Frame.placeholders_of_notMem (unknown frame (List.mem_of_mem_filter isFrame))
  · rw [staleCount, List.countP_eq_zero]
    intro frame isFrame
    rw [Frame.placeholders_of_notMem (unknown frame isFrame)]
    simp

theorem Accounting.add {request : Request} (accounting : system.Accounting config frames)
    (isPlain : system.PlainEvent (.add request)) (queues : next.scheduler.Queues [])
    (ran : system.step env config (.add request) = .ok next) : next.Accounting config frames := by
  have plain := step_plain isPlain accounting.plain ran
  obtain ⟨scheduler, added, ran⟩ := bind_eq_ok.mp ran
  cases ran
  obtain ⟨isNew, notResumable, isFresh⟩ := isPlain
  obtain ⟨records, requests, -⟩ := addRequest_fresh isFresh.requests notResumable added
  obtain ⟨noPlaceholders, noStale⟩ := @counters_of_unknown config frames request.requestId
    fun frame isFrame => isFresh.inFlight _ (accounting.inFlight ▸ List.mem_map_of_mem isFrame)
  have others : ∀ id ∈ scheduler.requests, id ≠ request.requestId →
      id ∈ system.scheduler.requests ∧ scheduler.request id = system.scheduler.request id := by
    intro id isMember differ
    rw [requests, List.mem_append, List.mem_singleton] at isMember
    rw [records, update_of_ne differ]
    exact ⟨isMember.resolve_right differ, rfl⟩
  refine ⟨plain, queues, accounting.inFlight, accounting.noDrafts, accounting.staleFirst,
    fun id isMember unfinished => ?_, fun id isMember unfinished => ?_⟩
  · dsimp only at isMember unfinished ⊢
    by_cases same : id = request.requestId
    · rw [same, records, update_self]
      refine ⟨isNew.numOutputPlaceholders.trans noPlaceholders.symm, fun isRunning => ?_⟩
      rcases isNew.status with status | status
      · rw [status] at isRunning
        cases isRunning
      · rw [status] at isRunning
        cases isRunning
    · obtain ⟨wasMember, record⟩ := others id isMember same
      rw [record] at unfinished ⊢
      exact accounting.accounted id wasMember unfinished
  · dsimp only at isMember unfinished ⊢
    by_cases same : id = request.requestId
    · rw [same, records, update_self, noStale]
      exact isNew.asyncTokensToDiscard
    · obtain ⟨wasMember, record⟩ := others id isMember same
      rw [record] at unfinished ⊢
      exact accounting.stale id wasMember unfinished

theorem Accounting.unfinished {scheduler : Scheduler K} {scheduled : SchedulerOutput} {id : ReqId}
    (accounting : system.Accounting config frames)
    (ran : system.scheduler.schedule env config = .ok (scheduled, scheduler))
    (unfinished : (scheduler.request id).isFinished = false) :
    (system.scheduler.request id).isFinished = false := by
  by_contra finished
  have finished : (system.scheduler.request id).isFinished = true := by simpa using finished
  have notLive : system.scheduler.isLive id = false := by
    simp [isLive, finished]
  have nowhere : system.scheduler.running.count id + system.scheduler.waitingCount [] id = 0 := by
    have once := (accounting.queues.placed id).once
    rw [occurrences, notLive, Bool.toNat_false] at once
    rw [waitingCount]
    omega
  obtain ⟨queues, -, isRunning, _, visits⟩ :=
    schedule_visits accounting.plain.queues ran
  obtain ⟨record, -, unqueued, request⟩ := visits id
  cases read : scheduled.numScheduledTokens.get? id with
  | none =>
    rw [read, Option.elim_none, (unqueued nowhere).1] at request
    rw [request, finished] at unfinished
    cases unfinished
  | some tokens =>
    have status := queues.running id (isRunning id tokens read)
    rw [request, read, Option.elim_some, afterSchedule_status,
      (unqueued nowhere).1] at status
    rw [Request.isFinished, status] at finished
    cases finished

theorem Accounting.schedule (isAsync : config.asyncScheduling = true)
    (accounting : system.Accounting config frames) (queues : next.scheduler.Queues [])
    (ran : system.step env config .schedule = .ok next) :
    next.Accounting config (observeFrames frames system .schedule next) := by
  have plain := @step_plain _ _ _ _ _ .schedule trivial accounting.plain ran
  obtain ⟨⟨scheduled, scheduler⟩, schedule, ran⟩ := bind_eq_ok.mp ran
  cases ran
  obtain ⟨-, requests, isRunning, _, visits⟩ :=
    schedule_visits accounting.plain.queues schedule
  set newest : Frame := {
    scheduled := scheduled
    isPrefillChunk := fun id => (scheduler.request id).isPrefillChunk } with isNewest
  have observed : observeFrames frames system .schedule
      ⟨scheduler, system.inFlight ++ [scheduled]⟩ = frames ++ [newest] := by
    simp only [observeFrames, List.getLast?_concat, isNewest]
  rw [observed]
  refine ⟨plain, queues, ?_, fun frame isFrame id silent => ?_, fun id => ?_,
    fun id isMember unfinished => ?_, fun id isMember unfinished => ?_⟩
  · rw [List.map_append, accounting.inFlight]
    rfl
  · rw [List.mem_append, List.mem_singleton] at isFrame
    rcases isFrame with isEarlier | rfl
    · exact accounting.noDrafts frame isEarlier id silent
    · have isChunk : (scheduler.request id).isPrefillChunk = true := silent.resolve_right nofun
      obtain ⟨record, visit, -, request⟩ := visits id
      cases read : scheduled.numScheduledTokens.get? id with
      | none =>
        rw [read] at visit
        exact visit.unscheduled_drafts
      | some tokens =>
        rw [read] at visit request
        have positive := List.count_pos_iff.mpr (isRunning id tokens read)
        obtain ⟨live, -⟩ := (queues.placed id).of_running positive
        have unfinished := unfinished_of_isLive live
        have isMember := mem_requests_of_isLive live
        rw [requests] at isMember
        have before := accounting.accounted id isMember (accounting.unfinished schedule unfinished)
        obtain ⟨_, chunk, -⟩ := afterSchedule_async isAsync _ scheduled id tokens record
        rw [request, Option.elim_some, chunk, decide_eq_true_iff] at isChunk
        apply (visit.drafts_length _).1 isChunk
        rw [before.placeholders]
        exact framePlaceholders_nonneg _ id
  · rw [List.pairwise_append]
    refine ⟨accounting.staleFirst id, List.pairwise_singleton _ _, fun _ _ later isLater _ => ?_⟩
    rw [List.mem_singleton.mp isLater]
  · dsimp only at isMember unfinished ⊢
    obtain ⟨record, visit, -, request⟩ := visits id
    rw [requests] at isMember
    have before := accounting.accounted id isMember (accounting.unfinished schedule unfinished)
    rw [freshFrames_append _ _ _ rfl, request]
    exact before.schedule isAsync visit (by rw [request])
  · dsimp only at isMember unfinished ⊢
    obtain ⟨record, visit, -, request⟩ := visits id
    rw [requests] at isMember
    have before := accounting.stale id isMember (accounting.unfinished schedule unfinished)
    rw [staleCount_append _ _ _ rfl, ← before, request]
    obtain ⟨_, _, _, _, isRecord⟩ := visit.frame
    cases scheduled.numScheduledTokens.get? id with
    | none => rw [Option.elim_none, isRecord]
    | some tokens =>
      obtain ⟨_, _, _, _, _, isAfter⟩ :=
        @Scheduler.afterSchedule_frame _ config _ scheduled id tokens record
      rw [Option.elim_some, isAfter, isRecord]

theorem Accounting.output (isAsync : config.asyncScheduling = true)
    (accounting : system.Accounting config frames) {index : Nat} {output : ModelRunnerOutput}
    (isAllowed : system.CountedEvent env config frames (.output index output))
    (queues : next.scheduler.Queues [])
    (ran : system.step env config (.output index output) = .ok next) :
    next.Accounting config (observeFrames frames system (.output index output) next) := by
  have plain := step_plain isAllowed.1.1 accounting.plain ran
  obtain ⟨⟨-, -, rfl, answers⟩, -⟩ := isAllowed
  rw [step] at ran
  split at ran
  next => cases ran
  next scheduled read =>
    obtain ⟨scheduler, updated, ran⟩ := bind_eq_ok.mp ran
    cases ran
    cases frames with
    | nil =>
      have isEmpty := accounting.inFlight
      rw [← isEmpty] at read
      cases read
    | cons frame later =>
      have isFirst : frame.scheduled = scheduled := by
        rw [← accounting.inFlight] at read
        exact Option.some.inj read
      subst isFirst
      have answers := answers frame rfl
      have counters : ∀ id ∈ scheduler.requests, (scheduler.request id).isFinished = false →
          (scheduler.request id).Accounted config (freshFrames later id) id ∧
            (scheduler.request id).asyncTokensToDiscard = staleCount config later id := by
        intro id isMember unfinished
        obtain ⟨members, -, record, planted, cause⟩ := updateFromOutputOf_answers updated id
        have isLive := members isMember
        have kept : record.status.isFinished = false ∧
            (record.Accounted config (freshFrames later id) id ∧
                record.asyncTokensToDiscard = staleCount config later id →
              (scheduler.request id).Accounted config (freshFrames later id) id ∧
                (scheduler.request id).asyncTokensToDiscard = staleCount config later id) := by
          rcases planted with same | ⟨isOpen, -, count, -, isPlanted⟩
          · rw [same] at unfinished ⊢
            exact ⟨unfinished, fun counters => counters⟩
          · rw [isPlanted]
            exact ⟨isOpen, fun counters =>
              ⟨⟨counters.1.placeholders, counters.1.computed⟩, counters.2⟩⟩
        apply kept.2
        rcases cause with ⟨notAnswered, same⟩ | ⟨isScheduled, -, wasOpen, stopped, answer, answered,
          stands⟩
        · rw [same] at kept ⊢
          have accounted := accounting.accounted id isLive kept.1
          have stale := accounting.stale id isLive kept.1
          have notScheduled : id ∉ frame.scheduled.numScheduledTokens.keys := by
            rcases notAnswered with notScheduled | notLive | finished
            · exact notScheduled
            · exact absurd isLive notLive
            · have isOpen := kept.1
              rw [← Request.isFinished, finished] at isOpen
              cases isOpen
          have none := @Frame.placeholders_of_notMem config frame id notScheduled
          cases isStale : frame.isStale id with
          | true =>
            rw [freshFrames_cons_stale isStale] at accounted
            rw [staleCount_cons_stale isStale, none, if_neg (lt_irrefl 0)] at stale
            exact ⟨accounted, stale⟩
          | false =>
            rw [freshFrames_cons_fresh isStale] at accounted
            obtain ⟨noneStale, laterNone⟩ :=
              @staleCount_of_fresh config _ _ _ accounting.staleFirst isStale
            rw [noneStale] at stale
            refine ⟨⟨?_, accounted.computed⟩, stale.trans (by rw [laterNone])⟩
            rw [accounted.first, none, zero_add]
        · have wasPlain := accounting.plain.resumable id isLive
          have same := stands (.inr (answered.resumable
            ((UpdateState.rejectDrafts_resumable ..).trans wasPlain)))
          rw [same] at kept ⊢
          have accounted := accounting.accounted id isLive wasOpen
          have stale := accounting.stale id isLive wasOpen
          cases isStale : frame.isStale id with
          | true =>
            rw [freshFrames_cons_stale isStale] at accounted
            have isAnswer := answered.stale isAsync isStale stale isScheduled isLive
              (accounting.noDrafts frame List.mem_cons_self id (.inr isStale)) answers kept.1
            rw [isAnswer]
            exact ⟨⟨accounted.placeholders, accounted.computed⟩, rfl⟩
          | false =>
            rw [freshFrames_cons_fresh isStale] at accounted
            obtain ⟨noneStale, laterNone⟩ :=
              @staleCount_of_fresh config _ _ _ accounting.staleFirst isStale
            rw [noneStale] at stale
            rw [laterNone]
            exact accounted.answered isAsync stale isScheduled isLive
              (fun isChunk => accounting.noDrafts frame List.mem_cons_self id (.inl isChunk))
              answers answered kept.1
      refine ⟨plain, queues, ?_, fun other isLater =>
        accounting.noDrafts other (List.mem_cons_of_mem _ isLater),
        fun id => (List.pairwise_cons.mp (accounting.staleFirst id)).2,
        fun id isMember unfinished => (counters id isMember unfinished).1,
        fun id isMember unfinished => (counters id isMember unfinished).2⟩
      rw [← accounting.inFlight]
      rfl

/-- A forced reset of requests without drafts in flight turns every placeholder
into one stale step. -/
theorem Accounting.reset (accounting : system.Accounting config frames)
    (isAllowed : system.ResetsWithoutDrafts config frames) (queues : next.scheduler.Queues [])
    (ran : system.step env config (.reset true) = .ok next) :
    next.Accounting config (observeFrames frames system (.reset true) next) := by
  have plain := @step_plain _ env config _ _ (.reset true) trivial accounting.plain ran
  obtain ⟨⟨successful, scheduler⟩, reset, ran⟩ := bind_eq_ok.mp ran
  cases ran
  obtain ⟨samples, isAllowed⟩ := isAllowed
  obtain ⟨-, requests, -, -, record⟩ := resetPrefixCache_spec accounting.plain.queues reset
  have counters : ∀ id ∈ scheduler.requests, (scheduler.request id).isFinished = false →
      (scheduler.request id).Accounted config
          (freshFrames (frames.map (markStale system.scheduler.running)) id) id ∧
        (scheduler.request id).asyncTokensToDiscard =
          staleCount config (frames.map (markStale system.scheduler.running)) id := by
    intro id isMember unfinished
    rw [requests] at isMember
    by_cases isRunning : id ∈ system.scheduler.running
    · rw [record, if_pos ⟨rfl, isRunning⟩]
      have isLive := (accounting.queues.placed id).of_running (List.count_pos_iff.mpr isRunning)
      have wasOpen := unfinished_of_isLive isLive.1
      obtain ⟨noStale, noDrafts⟩ := isAllowed id isRunning
      rw [accounting.stale id isMember wasOpen, Nat.cast_eq_zero] at noStale
      obtain ⟨nothing, all⟩ := markStale_of_running isRunning samples noDrafts noStale
      rw [nothing, all]
      refine ⟨⟨rfl, nofun⟩, ?_⟩
      exact (accounting.accounted id isMember wasOpen).placeholders
    · rw [record, if_neg fun both => isRunning both.2] at unfinished ⊢
      obtain ⟨samePlaceholders, sameCount⟩ := @markStale_of_notRunning config _ _ isRunning frames
      have accounted := accounting.accounted id isMember unfinished
      rw [sameCount]
      exact ⟨⟨accounted.placeholders.trans samePlaceholders.symm, accounted.computed⟩,
        accounting.stale id isMember unfinished⟩
  refine ⟨plain, queues, ?_, fun frame isFrame id silent => ?_, fun id => ?_,
    fun id isMember unfinished => (counters id isMember unfinished).1,
    fun id isMember unfinished => (counters id isMember unfinished).2⟩
  · show (frames.map _).map _ = _
    rw [List.map_map]
    exact accounting.inFlight
  · obtain ⟨old, isOld, rfl⟩ := List.mem_map.mp isFrame
    by_cases isRunning : id ∈ system.scheduler.running
    · exact (isAllowed id isRunning).2 old isOld
    · apply accounting.noDrafts old isOld id
      simpa [markStale, isRunning] using silent
  · show (frames.map _).Pairwise _
    rw [List.pairwise_map]
    refine (accounting.staleFirst id).imp fun ordered isFresh => ?_
    by_cases isRunning : id ∈ system.scheduler.running
    · simp [markStale, isRunning] at isFresh
    · simp only [markStale, isRunning, decide_false, Bool.or_false] at isFresh ⊢
      exact ordered isFresh

theorem Accounting.step (isAsync : config.asyncScheduling = true)
    (accounting : system.Accounting config frames) {event : Event}
    (isAllowed : system.CountedEvent env config frames event)
    (ran : system.step env config event = .ok next) :
    next.Accounting config (observeFrames frames system event next) := by
  have queues := step_queues isAllowed.1.2.1 accounting.queues ran
  have plain := step_plain isAllowed.1.1 accounting.plain ran
  cases event with
  | add request => exact accounting.add isAllowed.1.1 queues ran
  | schedule => exact accounting.schedule isAsync queues ran
  | output index output => exact accounting.output isAsync isAllowed queues ran
  | drafts draftTokenIds =>
    cases ran
    refine accounting.of_same plain queues rfl fun id isMember _ => ?_
    obtain ⟨requests, -, -, same | ⟨-, -, -, specTokenIds, -, changed⟩⟩ :=
      updateAllDrafts_spec env draftTokenIds system.scheduler id
    · exact ⟨requests ▸ isMember, _, same⟩
    · exact ⟨requests ▸ isMember, specTokenIds, changed⟩
  | finish requestIds finishedStatus =>
    obtain ⟨scheduler, finished, ran⟩ := bind_eq_ok.mp ran
    cases ran
    refine accounting.of_same plain queues rfl fun id isMember unfinished => ?_
    obtain ⟨-, spec⟩ := finishRequests_spec accounting.plain.queues finished
    refine ⟨(spec id).requests isMember, ?_⟩
    rcases (spec id).request with same | ⟨isFinished, -, -, changed⟩
    · exact ⟨_, same⟩
    · rw [changed, Request.isFinished, isFinished] at unfinished
      cases unfinished
  | reset resetRunningRequests =>
    cases resetRunningRequests with
    | true => exact accounting.reset (isAllowed.2 rfl) queues ran
    | false =>
      obtain ⟨⟨successful, scheduler⟩, reset, ran⟩ := bind_eq_ok.mp ran
      cases ran
      refine accounting.of_same plain queues rfl fun id isMember _ => ?_
      obtain ⟨-, requests, -, -, record⟩ :=
        resetPrefixCache_spec accounting.plain.queues reset
      rw [requests] at isMember
      rw [record, if_neg (by simp)]
      exact ⟨isMember, _, rfl⟩

theorem IsInitial.accounting (isInitial : system.IsInitial) : system.Accounting config [] := by
  refine ⟨isInitial.plain, isInitial.queues, isInitial.inFlight.symm, nofun,
    fun _ => List.Pairwise.nil, fun id isMember => ?_, fun id isMember => ?_⟩
  · rw [isInitial.requests] at isMember
    exact absurd isMember List.not_mem_nil
  · rw [isInitial.requests] at isMember
    exact absurd isMember List.not_mem_nil

theorem observed_accounting (isAsync : config.asyncScheduling = true)
    (observed : Observed env config [] observeFrames (CountedEvent env config) system frames) :
    system.Accounting config frames := by
  induction observed with
  | initial isInitial => exact isInitial.accounting
  | step _ _ isAllowed ran ih =>
    exact ih.step isAsync isAllowed ran

/-- The assertion of `_update_request_with_output`, wherever the loop of
`update_from_output` reaches it. -/
def PlaceholdersSuffice (env : Collaborators K) (config : SchedulerConfig) (scheduler : Scheduler K)
    (scheduled : SchedulerOutput) (output : ModelRunnerOutput) : Prop :=
  ∀ front id numTokensScheduled rest (state : UpdateState K),
    scheduled.numScheduledTokens.entries = front ++ (id, numTokensScheduled) :: rest →
    front.foldlM (UpdateState.updateRequest env config scheduled output)
      { self := scheduler } = .ok state →
    id ∈ state.self.requests → (state.self.request id).isFinished = false →
    ∀ appended stopped updated, appendTokens config
        ((state.self.beforeOutput env config scheduled output id).request id)
        (output.sampledTokenIds id) = .ok (appended, stopped, updated) →
      0 ≤ updated.numOutputPlaceholders - appended.length

theorem Accounting.suffice (accounting : system.Accounting config frames) {frame : Frame}
    (isFirst : frame ∈ frames.head?) (isFresh : ∀ id, frame.isStale id = false)
    {output : ModelRunnerOutput} (answers : frame.Answers config output system.scheduler) :
    PlaceholdersSuffice env config system.scheduler frame.scheduled output := by
  obtain ⟨later, rfl⟩ := List.head?_eq_some_iff.mp isFirst
  intro front id numTokensScheduled rest state isEntries ran isMember unfinished appended stopped
    updated append
  have nodup := frame.scheduled.numScheduledTokens.nodup
  rw [isEntries, List.map_append, List.map_cons] at nodup
  obtain ⟨frontNodup, -, apart⟩ := List.nodup_append.mp nodup
  have isScheduled : id ∈ frame.scheduled.numScheduledTokens.keys := by
    rw [PyDict.keys, isEntries, List.map_append, List.map_cons]
    exact List.mem_append_right _ List.mem_cons_self
  obtain ⟨record, isLive⟩ : state.self.request id = system.scheduler.request id ∧
      id ∈ system.scheduler.requests := by
    rcases updateLoop_isolated id frontNodup ran with ⟨-, same, members⟩ | ⟨inFront, -⟩
    · exact ⟨same, members.mp isMember⟩
    · exact absurd rfl (apart id inFront id List.mem_cons_self)
  rw [record] at unfinished
  rw [beforeOutput_request, record] at append
  have accounted := accounting.accounted id isLive unfinished
  rw [freshFrames_cons_fresh (isFresh id)] at accounted
  have spec := appendTokens_spec append
  obtain ⟨blockHashes, status, isUpdated⟩ := spec.record
  have fewer := spec.isPrefix.length_le
  have nonnegative := @framePlaceholders_nonneg config (freshFrames later id) id
  have same : updated.numOutputPlaceholders = (rejectDrafts config (frame.drafts id)
      (output.sampledTokenIds id) (system.scheduler.request id)).numOutputPlaceholders := by
    rw [isUpdated]
    rfl
  rw [same]
  cases isChunk : frame.isPrefillChunk id with
  | true =>
    have silent := answers.chunk id isScheduled isLive isChunk
    have none : appended.length = 0 := by
      rw [silent] at fewer
      exact Nat.le_zero.mp fewer
    have first := accounted.first
    rw [Frame.placeholders_of_chunk isChunk] at first
    rw [accounting.noDrafts frame List.mem_cons_self id (.inl isChunk), none]
    show 0 ≤ (system.scheduler.request id).numOutputPlaceholders - 0
    omega
  | false =>
    cases isPooling : (system.scheduler.request id).isPooling with
    | true =>
      obtain ⟨empty, -⟩ := answers.pooled id isScheduled isLive isChunk isPooling
      have none : appended.length = 0 := by
        rw [empty] at fewer
        exact Nat.le_zero.mp fewer
      rw [empty, none]
      by_cases noSamples : config.numSampledTokensPerStep = 0
      · have rejected := (@Request.Accounted.rejected config _ _ _ _ [] 0 accounted isScheduled isChunk (Nat.zero_le _)
          (by rw [noSamples, List.length_nil])).1
        rw [rejected, List.length_nil]
        omega
      · rw [rejectDrafts_silent noSamples]
        have first := accounted.first
        have frameNonnegative := @Frame.placeholders_nonneg config frame id
        omega
    | false =>
      obtain ⟨accepted, isAccepted, length⟩ :=
        answers.tokens id isScheduled isLive isChunk isPooling
      rw [(accounted.rejected isScheduled isChunk isAccepted length).1]
      omega

/-! ## Runs without forced resets -/

/-- Outputs come back in order and answer their step, the prefix cache is not
reset by force, and no stop loses a request. -/
def AccountedEvent (env : Collaborators K) (config : SchedulerConfig) (system : System K)
    (frames : List Frame) (event : Event) : Prop :=
  system.AnsweredEvent env config frames event ∧ event ≠ .reset true

theorem observed_fresh
    (observed : Observed env config [] observeFrames (AccountedEvent env config) system frames) :
    ∀ frame ∈ frames, ∀ id, frame.isStale id = false := by
  induction observed with
  | initial => exact nofun
  | @step before next frames event _ isAllowed ran ih =>
    intro frame isFrame
    cases event with
    | add => exact ih frame isFrame
    | schedule =>
      rw [observeFrames] at isFrame
      cases newest : next.inFlight.getLast? with
      | none =>
        rw [newest] at isFrame
        exact ih frame isFrame
      | some scheduled =>
        rw [newest] at isFrame
        rcases List.mem_append.mp isFrame with isEarlier | isNewest
        · exact ih frame isEarlier
        · rw [List.mem_singleton.mp isNewest]
          exact fun _ => rfl
    | output index output =>
      rw [observeFrames] at isFrame
      exact ih frame (List.mem_of_mem_eraseIdx isFrame)
    | drafts => exact ih frame isFrame
    | finish => exact ih frame isFrame
    | reset resetRunningRequests =>
      cases resetRunningRequests with
      | true => exact absurd rfl isAllowed.2
      | false => exact ih frame isFrame

/-- In every run without sessions whose outputs answer their steps in order: the
placeholders of an unfinished request are those of its steps in flight, a running
request that is not in a prefill chunk has computed everything but the tokens of
its next step, and no output takes back more placeholders than there are. -/
theorem observed_tokenAccounting (isAsync : config.asyncScheduling = true)
    (observed : Observed env config [] observeFrames (AccountedEvent env config) system frames) :
    (∀ id ∈ system.scheduler.requests, (system.scheduler.request id).isFinished = false →
      (system.scheduler.request id).numOutputPlaceholders = framePlaceholders config frames id) ∧
    (∀ id ∈ system.scheduler.running, (system.scheduler.request id).isPrefillChunk = false →
      (system.scheduler.request id).numComputedTokens =
        (system.scheduler.request id).numTokens +
          (system.scheduler.request id).numOutputPlaceholders - config.numSampledTokensPerStep) ∧
    ∀ frame ∈ frames.head?, ∀ output : ModelRunnerOutput,
      frame.Answers config output system.scheduler →
        PlaceholdersSuffice env config system.scheduler frame.scheduled output := by
  have accounting := observed_accounting isAsync (observed.mono fun _ _ _ isAllowed =>
    ⟨isAllowed.1, fun isReset => absurd isReset isAllowed.2⟩)
  have allFresh := observed_fresh observed
  have allKept : ∀ id, freshFrames frames id = frames := by
    intro id
    rw [freshFrames, List.filter_eq_self]
    intro frame isFrame
    rw [allFresh frame isFrame id, Bool.not_false]
  have accounted := accounting.accounted
  simp only [allKept] at accounted
  refine ⟨fun id isMember unfinished => (accounted id isMember unfinished).placeholders,
    fun id isRunning notChunk => ?_, fun frame isFirst output answers =>
      accounting.suffice isFirst (allFresh frame (List.mem_of_mem_head? isFirst)) answers⟩
  obtain ⟨live, status, -⟩ :=
    (accounting.queues.placed id).of_running (List.count_pos_iff.mpr isRunning)
  exact (accounted id (mem_requests_of_isLive live)
    (unfinished_of_isLive live)).computed status notChunk

def draftConfig : SchedulerConfig := { asyncConfig with numSpecTokens := 2 }

theorem AnsweredEvent.of_decode {frame : Frame} {id : ReqId} {tokens : Int}
    {output : ModelRunnerOutput} {accepted : Nat} (isFirst : frame ∈ frames.head?)
    (inFlight : system.inFlight[0]? = some frame.scheduled)
    (isLone : frame.scheduled.numScheduledTokens.entries = [(id, tokens)])
    (isRunning : (system.scheduler.request id).status = .running)
    (notChunk : frame.isPrefillChunk id = false)
    (notPooling : (system.scheduler.request id).isPooling = false)
    (isAccepted : accepted ≤ (frame.drafts id).length)
    (length : (output.sampledTokenIds id).length = config.numSampledTokensPerStep + accepted) :
    system.AnsweredEvent env config frames (.output 0 output) := by
  refine ⟨trivial, fun scheduled read => ?_, rfl, fun first isHead => ?_⟩
  · rw [inFlight] at read
    cases read
    rw [isLone]
    refine ⟨fun request read _ _ _ notRunning => ?_, fun _ _ => trivial⟩
    rw [getRequest] at read
    split at read
    · cases read
      exact absurd isRunning notRunning
    · cases read
  · rw [isFirst] at isHead
    cases isHead
    exact .of_decode isLone notChunk notPooling isAccepted length

/-- Two steps are in flight, the second with both drafts, and the first comes
back. -/
theorem observed_tokenAccounting_drafts :
    ∃ system, (withSlots 8).run slotPool draftConfig
        [.add (promptOf 0 [1, 2]), .schedule, .schedule, .output 0 (sampledOutput [5])] =
          .ok system ∧
      system.scheduler.running = [0] ∧ (system.scheduler.request 0).numOutputPlaceholders = 3 ∧
      (system.scheduler.request 0).numComputedTokens =
        (system.scheduler.request 0).numTokens +
          (system.scheduler.request 0).numOutputPlaceholders - 1 := by
  refine ⟨_, rfl, by decide, by decide, ?_⟩
  have added : Observed slotPool draftConfig [] observeFrames (AccountedEvent slotPool draftConfig)
      _ _ := (Observed.initial (withSlots_isInitial 8)).step (.add (promptOf 0 [1, 2]))
    ⟨⟨⟨promptOf_isNew 0 [1, 2], rfl, nofun, nofun, rfl, nofun⟩, promptOf_isNew 0 [1, 2], trivial⟩,
        nofun⟩ rfl
  have scheduled := added.step .schedule ⟨⟨trivial, trivial, trivial⟩, nofun⟩ rfl
  have again := scheduled.step .schedule ⟨⟨trivial, trivial, trivial⟩, nofun⟩ rfl
  have answered := again.step (.output 0 (sampledOutput [5])) ⟨.of_decode rfl rfl rfl (by decide)
    (by decide) (by decide) (Nat.zero_le _) rfl, nofun⟩ rfl
  exact (observed_tokenAccounting rfl answered).2.1 0 (by decide) (by decide)

/-- A diffusion model samples no token beside its drafts, and its decode step ends
at the last known token. -/
theorem observed_withoutSamples :
    ∃ (system : System SlotPool) (frames : List Frame),
      Observed slotPool { asyncConfig with numSampledTokensPerStep := 0 } [] observeFrames
        (AccountedEvent slotPool { asyncConfig with numSampledTokensPerStep := 0 }) system frames ∧
      0 ∈ system.scheduler.running ∧ (system.scheduler.request 0).isPrefillChunk = false ∧
      (system.scheduler.request 0).numComputedTokens ≠
        (system.scheduler.request 0).numTokens +
          (system.scheduler.request 0).numOutputPlaceholders - 1 := by
  have added : Observed slotPool { asyncConfig with numSampledTokensPerStep := 0 } [] observeFrames
      (AccountedEvent slotPool { asyncConfig with numSampledTokensPerStep := 0 }) _ _ :=
    (Observed.initial (withSlots_isInitial 8)).step (.add (promptOf 0 [1, 2]))
      ⟨⟨⟨promptOf_isNew 0 [1, 2], rfl, nofun, nofun, rfl, nofun⟩, promptOf_isNew 0 [1, 2], trivial⟩,
        nofun⟩ rfl
  have scheduled := added.step .schedule ⟨⟨trivial, trivial, trivial⟩, nofun⟩ rfl
  exact ⟨_, _, scheduled, by decide, by decide, by decide⟩

/-! ## Forced resets -/

/-- In every run without sessions whose forced resets find no drafts in flight, an
output of a step that was in flight at a forced reset leaves the tokens of a request
that was running then as they are, and every other output is appended up to the
token that stops the request. -/
theorem observed_resetDropsStale (isAsync : config.asyncScheduling = true)
    (observed : Observed env config [] observeFrames (CountedEvent env config) system frames)
    {frame : Frame} (isFirst : frame ∈ frames.head?) (output : ModelRunnerOutput)
    (answers : frame.Answers config output system.scheduler)
    (ran : system.step env config (.output 0 output) = .ok next) (id : ReqId)
    (isScheduled : id ∈ frame.scheduled.numScheduledTokens.keys)
    (isMember : id ∈ system.scheduler.requests)
    (unfinished : (system.scheduler.request id).isFinished = false)
    (nonempty : output.sampledTokenIds id ≠ []) :
    (frame.isStale id = true →
      (next.scheduler.request id).allTokenIds = (system.scheduler.request id).allTokenIds) ∧
    (frame.isStale id = false → ∃ appended ≠ [], appended <+: output.sampledTokenIds id ∧
      ((next.scheduler.request id).isFinished = false → appended = output.sampledTokenIds id) ∧
      (next.scheduler.request id).allTokenIds =
        (system.scheduler.request id).allTokenIds ++ appended) := by
  have accounting := observed_accounting isAsync observed
  obtain ⟨later, rfl⟩ := List.head?_eq_some_iff.mp isFirst
  rw [step, ← accounting.inFlight] at ran
  obtain ⟨scheduler, updated, ran⟩ := bind_eq_ok.mp ran
  cases ran
  have counted := accounting.stale id isMember unfinished
  obtain ⟨-, -, record, planted, cause⟩ := updateFromOutputOf_answers updated id
  obtain ⟨sameTokens, sameStatus⟩ : (scheduler.request id).allTokenIds = record.allTokenIds ∧
      (scheduler.request id).isFinished = record.isFinished := by
    rcases planted with same | ⟨-, -, _, -, isPlanted⟩
    · rw [same]
      exact ⟨rfl, rfl⟩
    · rw [isPlanted]
      exact ⟨rfl, rfl⟩
  rw [sameTokens, sameStatus]
  rcases cause with ⟨notAnswered, -⟩ | ⟨-, -, -, stopped, answer, answered, stands⟩
  · rcases notAnswered with notScheduled | notLive | finished
    · exact absurd isScheduled notScheduled
    · exact absurd isMember notLive
    · rw [unfinished] at finished
      cases finished
  · have same := stands (.inr (answered.resumable
      ((UpdateState.rejectDrafts_resumable ..).trans (accounting.plain.resumable id isMember))))
    subst same
    refine ⟨fun isStale => ?_, fun isFresh => ?_⟩
    · have noDrafts := accounting.noDrafts frame List.mem_cons_self id (.inr isStale)
      have returns := answers.returns isScheduled isMember nonempty noDrafts
      rw [staleCount_cons_stale isStale, if_pos returns] at counted
      change Answered config output id (rejectDrafts config (frame.drafts id) _ _) _ _
        at answered
      rw [noDrafts, rejectDrafts_nil] at answered
      obtain ⟨-, isAnswer⟩ := answered.of_stale isAsync nonempty (by omega)
      rw [isAnswer]
    · obtain ⟨noneStale, -⟩ := @staleCount_of_fresh config _ _ _ accounting.staleFirst isFresh
      rw [noneStale] at counted
      obtain ⟨_, _, isRejected⟩ := @Scheduler.rejectDrafts_frame config (frame.drafts id)
        (output.sampledTokenIds id) (system.scheduler.request id)
      change Answered config output id (rejectDrafts config (frame.drafts id) _ _) _ _
        at answered
      rw [isRejected] at answered
      obtain ⟨appended, hasTokens, isPrefix, goesOn, tokens⟩ :=
        answered.of_fresh nonempty (le_of_eq counted)
      refine ⟨appended, hasTokens, isPrefix, fun isOpen => goesOn ?_, tokens⟩
      by_contra stops
      rw [Request.isFinished, answered.status.1 (by simpa using stops)] at isOpen
      cases isOpen

/-- The first step of a request comes back after a forced reset, and then the step
that was scheduled afterwards. -/
theorem observed_resetDropsStale_second :
    ∃ system dropped next, (withSlots 8).run slotPool draftConfig
        [.add (promptOf 0 [1, 2]), .schedule, .reset true, .schedule] = .ok system ∧
      system.step slotPool draftConfig (.output 0 (sampledOutput [5])) = .ok dropped ∧
      (dropped.scheduler.request 0).allTokenIds = [1, 2] ∧
      dropped.step slotPool draftConfig (.output 0 (sampledOutput [6])) = .ok next ∧
      ∃ appended ≠ [], appended <+: [6] ∧
        (next.scheduler.request 0).allTokenIds = [1, 2] ++ appended := by
  have added : Observed slotPool draftConfig [] observeFrames (CountedEvent slotPool draftConfig)
      _ _ := (Observed.initial (withSlots_isInitial 8)).step (.add (promptOf 0 [1, 2]))
    ⟨⟨⟨promptOf_isNew 0 [1, 2], rfl, nofun, nofun, rfl, nofun⟩, promptOf_isNew 0 [1, 2], trivial⟩,
      nofun⟩ rfl
  have scheduled := added.step .schedule ⟨⟨trivial, trivial, trivial⟩, nofun⟩ rfl
  have reset := scheduled.step (.reset true) ⟨⟨trivial, trivial, trivial⟩, fun _ => ?_⟩ rfl
  · have again := reset.step .schedule ⟨⟨trivial, trivial, trivial⟩, nofun⟩ rfl
    have dropped := again.step (.output 0 (sampledOutput [5])) ⟨.of_decode rfl rfl rfl (by decide)
      (by decide) (by decide) (Nat.zero_le _) rfl, nofun⟩ rfl
    have first := observed_resetDropsStale rfl again rfl (sampledOutput [5])
      (.of_decode rfl (by decide) (by decide) (Nat.zero_le _) rfl) rfl 0
      List.mem_cons_self (by decide) (by decide) (by decide)
    have second := observed_resetDropsStale rfl dropped rfl (sampledOutput [6])
      (.of_decode rfl (by decide) (by decide) (Nat.zero_le _) rfl) rfl 0
      List.mem_cons_self (by decide) (by decide) (by decide)
    obtain ⟨appended, nonempty, isPrefix, -, isAppended⟩ := second.2 rfl
    exact ⟨_, _, _, rfl, rfl, first.1 rfl, rfl, appended, nonempty, isPrefix, isAppended⟩
  · refine ⟨by decide, fun id isRunning => ?_⟩
    have isZero : id = 0 := List.mem_singleton.mp isRunning
    subst isZero
    refine ⟨by decide, fun frame isFrame => ?_⟩
    rw [List.mem_singleton.mp isFrame]
    rfl

/-- A decode step with two drafts is in flight at a forced reset: the request
discards four outputs although two steps are stale, and loses the first output of
the step that follows. -/
theorem resetDropsFreshOutput :
    ∃ (system next : System SlotPool) (frame : Frame) (output : ModelRunnerOutput),
      Observed slotPool draftConfig [] observeFrames (AnsweredEvent slotPool draftConfig) system
        [frame] ∧
      frame.isStale 0 = false ∧ frame.Answers draftConfig output system.scheduler ∧
      system.step slotPool draftConfig (.output 0 output) = .ok next ∧
      0 ∈ system.scheduler.running ∧ output.sampledTokenIds 0 = [9] ∧
      (next.scheduler.request 0).isFinished = false ∧
      (next.scheduler.request 0).allTokenIds = (system.scheduler.request 0).allTokenIds := by
  have added : Observed slotPool draftConfig [] observeFrames (AnsweredEvent slotPool draftConfig)
      _ _ := (Observed.initial (withSlots_isInitial 8)).step (.add (promptOf 0 [1, 2]))
    ⟨⟨promptOf_isNew 0 [1, 2], rfl, nofun, nofun, rfl, nofun⟩, promptOf_isNew 0 [1, 2], trivial⟩ rfl
  have scheduled := added.step .schedule ⟨trivial, trivial, trivial⟩ rfl
  have again := scheduled.step .schedule ⟨trivial, trivial, trivial⟩ rfl
  have reset := again.step (.reset true) ⟨trivial, trivial, trivial⟩ rfl
  have resumed := reset.step .schedule ⟨trivial, trivial, trivial⟩ rfl
  have first := resumed.step (.output 0 (sampledOutput [5]))
    (.of_decode rfl rfl rfl (by decide) (by decide) (by decide) (Nat.zero_le 0) rfl) rfl
  have second := first.step (.output 0 (sampledOutput [6, 7, 8]))
    (.of_decode rfl rfl rfl (by decide) (by decide) (by decide) (Nat.le_refl 2) rfl) rfl
  exact ⟨_, _, _, sampledOutput [9], second, rfl,
    .of_decode rfl (by decide) (by decide) (Nat.zero_le 0) rfl, rfl, by decide, rfl, by decide,
    by decide⟩

end System

end DeepSpark
