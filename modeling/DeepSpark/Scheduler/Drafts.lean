import DeepSpark.Scheduler.PlainRuns

/-!
Draft placeholders over whole runs.

Owns the observer of each running request's previous step, the events that name
drafts of running requests only, and what follows: a request that is not running
has no drafts, and drafts are scheduled only after a step that was no prefill
chunk.
-/

namespace DeepSpark

open Lib

variable {K : Type} {env : Collaborators K} {config : SchedulerConfig}

/-- The observer of each request's previous step: nothing for a request that is
not running, otherwise whether the step left it in a prefill chunk. -/
def observePrevious (previous : ReqId → Option Bool) (_ : System K) (event : Event)
    (next : System K) (id : ReqId) : Option Bool :=
  if id ∈ next.scheduler.running then
    match event, next.inFlight.getLast? with
    | .schedule, some scheduled =>
      if id ∈ scheduled.numScheduledTokens.keys then
        some (next.scheduler.request id).isPrefillChunk
      else previous id
    | _, _ => previous id
  else none

variable {before after : Request}

/-- A request that is not running now lost its drafts or was waiting with them. -/
theorem Visit.drafts_of_notRunning {tokens : Option Int}
    {drafts : List TokenId} (visit : Visit before after tokens drafts)
    (notRunning : after.status ≠ .running) :
    after.specTokenIds = [] ∨
      before.status ≠ .running ∧ after.specTokenIds = before.specTokenIds := by
  cases visit with
  | untouched => exact .inr ⟨notRunning, rfl⟩
  | moved _ _ wasWaiting => exact .inr ⟨wasWaiting, rfl⟩
  | preempted => exact .inl rfl
  | ran _ wasRunning => exact absurd wasRunning notRunning
  | started => exact absurd rfl notRunning

theorem Visit.drafts_of_scheduled {tokens : Int} {drafts : List TokenId}
    (visit : Visit before after (some tokens) drafts) :
    after.specTokenIds = [] ∨
      before.status ≠ .running ∧ after.specTokenIds = before.specTokenIds := by
  cases visit with
  | ran => exact .inl rfl
  | started _ _ wasWaiting => exact .inr ⟨wasWaiting, rfl⟩

theorem Answered.drafts {output : ModelRunnerOutput} {id : ReqId}
    {stopped : Bool} (answered : Answered config output id before stopped after) :
    after.isPrefillChunk = before.isPrefillChunk ∧ after.specTokenIds = before.specTokenIds := by
  cases answered with
  | silent => exact ⟨rfl, rfl⟩
  | pooled => exact ⟨rfl, rfl⟩
  | discarded => exact ⟨rfl, rfl⟩
  | appended _ spec =>
    obtain ⟨_, _, rfl⟩ := spec.record
    exact ⟨rfl, rfl⟩
  | refused spec =>
    obtain ⟨_, _, rfl⟩ := spec.record
    exact ⟨rfl, rfl⟩

namespace Scheduler

structure Drafted (scheduler : Scheduler K) (previous : ReqId → Option Bool) : Prop where
  plain : scheduler.Plain
  waiting : ∀ id, (0 < scheduler.waitingCount [] id ∨
      id ∈ scheduler.requests ∧ (scheduler.request id).isFinished = false) →
    (scheduler.request id).status ≠ .running → (scheduler.request id).specTokenIds = []
  chunk : ∀ id ∈ scheduler.running, (scheduler.request id).isPrefillChunk = true →
    (scheduler.request id).specTokenIds = []
  previous : ∀ id ∈ scheduler.running, previous id = some (scheduler.request id).isPrefillChunk

variable {self next : Scheduler K} {previous : ReqId → Option Bool}

/-- A request keeps its drafts, unless it takes new ones while it runs, and it
leaves queues only. -/
structure KeepsDrafts (scheduler next : Scheduler K) (id : ReqId) : Prop where
  requests : id ∈ next.requests → id ∈ scheduler.requests
  running : next.running.count id ≤ scheduler.running.count id
  waiting : next.waitingCount [] id ≤ scheduler.waitingCount [] id
  isPrefillChunk : (next.request id).isPrefillChunk = (scheduler.request id).isPrefillChunk
  status : (next.request id).status = (scheduler.request id).status ∨
    (next.request id).isFinished = true
  drafts : (next.request id).specTokenIds = (scheduler.request id).specTokenIds ∨
    (scheduler.request id).isPrefillChunk = false ∧ (next.request id).status = .running ∨
    (next.request id).specTokenIds = []

theorem Drafted.of_keeps (drafted : self.Drafted previous) (plain : next.Plain)
    (keeps : ∀ id, KeepsDrafts self next id) :
    next.Drafted fun id => if id ∈ next.running then previous id else none := by
  have wasRunning : ∀ id ∈ next.running, id ∈ self.running := fun id isRunning =>
    List.count_pos_iff.mp ((List.count_pos_iff.mpr isRunning).trans_le (keeps id).running)
  refine ⟨plain, fun id isQueued notRunning => ?_, fun id isRunning isChunk => ?_,
    fun id isRunning => ?_⟩
  · rcases (keeps id).drafts with same | ⟨-, isRunning⟩ | none
    · rw [same]
      rcases isQueued with isWaiting | ⟨isMember, unfinished⟩
      · have wasWaiting := isWaiting.trans_le (keeps id).waiting
        exact drafted.waiting id (.inl wasWaiting) (drafted.plain.queues.waiting id wasWaiting)
      · have sameStatus := (keeps id).status.resolve_right (by simp [unfinished])
        rw [Request.isFinished, sameStatus] at unfinished
        rw [sameStatus] at notRunning
        exact drafted.waiting id (.inr ⟨(keeps id).requests isMember, unfinished⟩) notRunning
    · exact absurd isRunning notRunning
    · exact none
  · rw [(keeps id).isPrefillChunk] at isChunk
    rcases (keeps id).drafts with same | ⟨notChunk, -⟩ | none
    · rw [same]
      exact drafted.chunk id (wasRunning id isRunning) isChunk
    · rw [isChunk] at notChunk
      cases notChunk
    · exact none
  · rw [if_pos isRunning, (keeps id).isPrefillChunk]
    exact drafted.previous id (wasRunning id isRunning)

theorem afterSchedule_specTokenIds (self : Scheduler K) (output : SchedulerOutput) (id : ReqId)
    (tokens : Int) (request : Request)
    (isChunk : (self.afterSchedule config output id tokens request).isPrefillChunk = true) :
    (self.afterSchedule config output id tokens request).specTokenIds = request.specTokenIds := by
  unfold afterSchedule at isChunk ⊢
  dsimp only at isChunk ⊢
  split
  next isAsync =>
    rw [if_pos isAsync] at isChunk
    unfold addPlaceholders at isChunk ⊢
    split
    next => rfl
    next notChunk =>
      rw [if_neg notChunk] at isChunk
      exact absurd isChunk notChunk
  next => rfl

end Scheduler

namespace ScheduleState

variable {state next : ScheduleState K}

def NoEmptyDrafts (state : ScheduleState K) : Prop :=
  ∀ id, state.scheduledSpecDecodeTokens.get? id ≠ some []

theorem Round.noEmptyDrafts (round : Round env config state next) (before : state.NoEmptyDrafts) :
    next.NoEmptyDrafts := by
  cases round with
  | running round =>
    cases round with
    | reindex => exact before
    | plan => exact before
    | refuse => exact before
    | @preempt taken victim self took unscheduled _ ran =>
      intro id
      by_cases same : id = victim
      · rw [same, unscheduled.2]
        exact nofun
      · rw [((takeVictim_others took).2.2 id same).2]
        exact before id
    | @run planned id plan kv planKv =>
      intro other
      show (if (scheduledSpecTokens (state.self.request id) plan.numNewTokens).isEmpty then
        state.scheduledSpecDecodeTokens else state.scheduledSpecDecodeTokens.set id
          (scheduledSpecTokens (state.self.request id) plan.numNewTokens)).get? other ≠ some []
      split
      next => exact before other
      next nonempty =>
        by_cases same : other = id
        · rw [same, PyDict.get?_set_self, ne_eq, Option.some.injEq]
          simpa using nonempty
        · rw [PyDict.get?_set_of_ne _ _ same]
          exact before other
    | loras ran =>
      obtain ⟨_, rfl⟩ := recordLoras_eq ran
      exact before
  | waiting round =>
    cases round with
    | promote => exact before
    | skip peeked ran =>
      obtain ⟨popped, pop, rfl⟩ := skipWaiting_eq ran
      rw [(popWaiting_spec pop peeked).rest]
      exact before
    | lookup => exact before
    | planWaiting => exact before
    | refuseWaiting => exact before
    | @load _ popped _ _ _ _ _ _ peeked _ isLooked _ _ _ _ pop =>
      subst isLooked
      rw [(popWaiting_spec pop peeked).rest]
      exact before
    | start peeked _ isLooked _ _ _ pop ran =>
      subst isLooked
      unfold NoEmptyDrafts
      rw [(startRunning_spec ran).scheduledSpecDecodeTokens, (popWaiting_spec pop peeked).rest]
      exact before
    | requeue => exact before

theorem Rounds.noEmptyDrafts (rounds : Rounds env config state next) (before : state.NoEmptyDrafts) :
    next.NoEmptyDrafts := by
  induction rounds with
  | refl => exact before
  | tail _ round ih => exact Round.noEmptyDrafts round ih

end ScheduleState

namespace Scheduler

variable {self next : Scheduler K} {previous : ReqId → Option Bool} {output : SchedulerOutput}

theorem schedule_draftsNonempty (nodup : self.running.Nodup)
    (ran : self.schedule env config = .ok (output, next)) {id : ReqId}
    (isMember : id ∈ output.scheduledSpecDecodeTokens.keys) :
    (output.scheduledSpecDecodeTokens.get? id).getD [] ≠ [] := by
  obtain ⟨state, loops, -, rfl, -⟩ := schedule_eq ran
  obtain ⟨drafts, read⟩ := PyDict.mem_keys.mp isMember
  have nonempty := ScheduleState.Rounds.noEmptyDrafts (scheduleLoops_rounds nodup loops).1
    (fun _ => nofun) id
  rw [read, Option.getD_some]
  rintro rfl
  exact nonempty read

theorem QueuedOnce.mem_running {id : ReqId} (queues : self.QueuedOnce [])
    (isQueued : self.running.count id + self.waitingCount [] id ≠ 0)
    (status : (self.request id).status = .running) : id ∈ self.running := by
  apply List.count_pos_iff.mp
  by_contra notRunning
  exact queues.waiting id (by omega) status

theorem QueuedOnce.waiting_pos {id : ReqId} (queues : self.QueuedOnce [])
    (isQueued : self.running.count id + self.waitingCount [] id ≠ 0)
    (status : (self.request id).status ≠ .running) : 0 < self.waitingCount [] id := by
  by_contra notWaiting
  exact status (queues.running id (List.count_pos_iff.mp (by omega)))

/-- Drafts are scheduled with requests whose previous step was no prefill chunk. -/
theorem Drafted.scheduledDrafts (drafted : self.Drafted previous)
    (ran : self.schedule env config = .ok (output, next)) {id : ReqId}
    (isMember : id ∈ output.scheduledSpecDecodeTokens.keys) : previous id = some false := by
  have nonempty := schedule_draftsNonempty drafted.plain.queues.nodup ran isMember
  obtain ⟨-, -, isRunning, _, visits⟩ := schedule_visits drafted.plain.queues ran
  obtain ⟨record, visit, unqueued, -⟩ := visits id
  have wasQueued : ∀ tokens, output.numScheduledTokens.get? id = some tokens →
      self.running.count id + self.waitingCount [] id ≠ 0 := by
    intro tokens read none
    have positive := List.count_pos_iff.mpr (isRunning id tokens read)
    omega
  generalize (output.scheduledSpecDecodeTokens.get? id).getD [] = drafts at visit nonempty
  generalize output.numScheduledTokens.get? id = tokens at visit wasQueued
  cases visit with
  | untouched => exact absurd rfl nonempty
  | moved => exact absurd rfl nonempty
  | preempted => exact absurd rfl nonempty
  | started => exact absurd rfl nonempty
  | ran numNewTokens wasRunning =>
    have inRunning := drafted.plain.queues.mem_running (wasQueued numNewTokens rfl) wasRunning
    rw [drafted.previous id inRunning, Option.some.injEq]
    by_contra isChunk
    apply nonempty
    rw [ScheduleState.scheduledSpecTokens,
      drafted.chunk id inRunning (by simpa using isChunk), List.take_nil]

theorem Drafted.schedule (drafted : self.Drafted previous)
    (ran : self.schedule env config = .ok (output, next)) :
    next.Drafted fun id =>
      if id ∈ next.running then
        if id ∈ output.numScheduledTokens.keys then some (next.request id).isPrefillChunk
        else previous id
      else none := by
  obtain ⟨queues, requests, isRunning, scheduler, visits⟩ := schedule_visits drafted.plain.queues ran
  have unscheduled : ∀ id, id ∈ next.running → output.numScheduledTokens.get? id = none →
      next.request id = self.request id ∧ id ∈ self.running := by
    intro id inRunning read
    obtain ⟨record, visit, unqueued, request⟩ := visits id
    rw [read] at visit request
    have status := queues.running id inRunning
    rw [request] at status
    obtain ⟨same, -⟩ := visit.of_unscheduled status
    refine ⟨request.trans same, drafted.plain.queues.mem_running (fun none => ?_) (same ▸ status)⟩
    have positive := List.count_pos_iff.mpr inRunning
    omega
  refine ⟨schedule_plain drafted.plain ran, fun id isQueued notRunning => ?_,
    fun id inRunning isChunk => ?_, fun id inRunning => ?_⟩
  · obtain ⟨record, visit, unqueued, request⟩ := visits id
    have notScheduled : output.numScheduledTokens.get? id = none := by
      cases read : output.numScheduledTokens.get? id with
      | none => rfl
      | some tokens => exact absurd (queues.running id (isRunning id tokens read)) notRunning
    rw [notScheduled] at visit request
    have request : next.request id = record := request
    rw [request] at notRunning ⊢
    rcases visit.drafts_of_notRunning notRunning with none | ⟨wasWaiting, same⟩
    · exact none
    · rw [same]
      refine drafted.waiting id ?_ wasWaiting
      by_cases nowhere : self.running.count id + self.waitingCount [] id = 0
      · right
        obtain ⟨isRecord, notQueued⟩ := unqueued nowhere
        have isLive := isQueued.resolve_left (by omega)
        rw [requests, request, isRecord] at isLive
        exact isLive
      · exact .inl (drafted.plain.queues.waiting_pos nowhere wasWaiting)
  · cases read : output.numScheduledTokens.get? id with
    | none =>
      obtain ⟨same, wasRunning⟩ := unscheduled id inRunning read
      rw [same] at isChunk ⊢
      exact drafted.chunk id wasRunning isChunk
    | some tokens =>
      obtain ⟨record, visit, unqueued, request⟩ := visits id
      rw [read] at visit request
      rw [request] at isChunk ⊢
      rw [Option.elim_some, afterSchedule_specTokenIds _ _ _ _ _ isChunk]
      rcases visit.drafts_of_scheduled with none | ⟨wasWaiting, same⟩
      · exact none
      · rw [same]
        refine drafted.waiting id (.inl (drafted.plain.queues.waiting_pos (fun none => ?_)
          wasWaiting)) wasWaiting
        have positive := List.count_pos_iff.mpr inRunning
        omega
  · rw [if_pos inRunning]
    split
    next => rfl
    next notScheduled =>
      obtain ⟨same, wasRunning⟩ := unscheduled id inRunning (PyDict.get?_eq_none.mpr notScheduled)
      rw [same]
      exact drafted.previous id wasRunning

/-- Drafts that come for this request come while it runs, if they come for a
decode. -/
def MayHoldDrafts (self : Scheduler K) (id : ReqId) : Prop :=
  id ∈ self.requests → (self.request id).isFinished = false →
    (self.request id).isPrefillChunk = false → (self.request id).status = .running

theorem updateFromOutputOf_keepsDrafts {scheduled : SchedulerOutput} {output : ModelRunnerOutput}
    (plain : self.Plain)
    (mayHold : ∀ id count, (id, count) ∈ output.draftTokenCounts →
      0 < min count (config.numSpecTokens : Int) → self.MayHoldDrafts id)
    (ran : self.updateFromOutputOf env config scheduled output = .ok next) (id : ReqId) :
    KeepsDrafts self next id := by
  obtain ⟨running, waiting⟩ := updateFromOutputOf_shrinks plain ran id
  obtain ⟨members, untouched, record, planted, cause⟩ := updateFromOutputOf_answers ran id
  by_cases wasMember : id ∈ self.requests
  · have kept : record.isPrefillChunk = (self.request id).isPrefillChunk ∧
        record.specTokenIds = (self.request id).specTokenIds ∧
        (record.status = (self.request id).status ∨ record.isFinished = true) := by
      rcases cause with ⟨-, same⟩ | ⟨-, -, -, stopped, answer, answered, stands⟩
      · rw [same]
        exact ⟨rfl, rfl, .inl rfl⟩
      · obtain ⟨_, _, isRejected⟩ := @rejectDrafts_frame config
          ((scheduled.scheduledSpecDecodeTokens.get? id).getD []) (output.sampledTokenIds id)
          (self.request id)
        rw [isRejected] at answered
        rw [stands (.inr (answered.resumable (plain.resumable id wasMember)))]
        refine ⟨answered.drafts.1, answered.drafts.2, ?_⟩
        cases stopped with
        | true => exact .inr (answered.status.1 rfl)
        | false => exact .inl (answered.status.2 rfl)
    rcases planted with same | ⟨unfinished, notChunk, count, isCount, isPlanted⟩
    · rw [← same] at kept
      exact ⟨members, running, waiting, kept.1, kept.2.2, .inl kept.2.1⟩
    · have status := kept.2.2.resolve_right (by simp [unfinished])
      have keptStatus : (next.request id).status = (self.request id).status := by
        rw [isPlanted]
        exact status
      refine ⟨members, running, waiting, ?_, .inl keptStatus, ?_⟩
      · rw [isPlanted]
        exact kept.1
      · by_cases positive : 0 < min count (config.numSpecTokens : Int)
        · right
          left
          rw [kept.1] at notChunk
          rw [Request.isFinished, status] at unfinished
          exact ⟨notChunk, keptStatus.trans
            (mayHold id count isCount positive wasMember unfinished notChunk)⟩
        · right
          right
          rw [isPlanted]
          show List.replicate (max 0 (min count (config.numSpecTokens : Int))).toNat (-1) = []
          rw [max_eq_left (by omega)]
          rfl
  · have same := untouched wasMember
    exact ⟨members, running, waiting, by rw [same], .inl (by rw [same]), .inl (by rw [same])⟩

end Scheduler

/-! ## Runs -/

namespace System

/-- Drafts are named for running requests only, and no request is a session. -/
def DraftEvent (config : SchedulerConfig) (system : System K) (_ : ReqId → Option Bool)
    (event : Event) : Prop :=
  system.PlainEvent event ∧
    match event with
    | .output _ output => ∀ id count, (id, count) ∈ output.draftTokenCounts →
        0 < min count (config.numSpecTokens : Int) → system.scheduler.MayHoldDrafts id
    | .drafts draftTokenIds => ∀ entry ∈ draftTokenIds, system.scheduler.MayHoldDrafts entry.1
    | _ => True

variable {system next : System K} {previous : ReqId → Option Bool}

section

variable (drafted : system.scheduler.Drafted previous)

include drafted

theorem add_drafted {request : Request} (isPlain : system.PlainEvent (.add request))
    (ran : system.step env config (.add request) = .ok next) :
    next.scheduler.Drafted fun id => if id ∈ next.scheduler.running then previous id else none := by
  have plain := step_plain isPlain drafted.plain ran
  obtain ⟨scheduler, added, ran⟩ := bind_eq_ok.mp ran
  cases ran
  obtain ⟨isNew, notResumable, isFresh⟩ := isPlain
  obtain ⟨records, requests, running, waiting⟩ :=
    Scheduler.addRequest_fresh isFresh.requests notResumable added
  have others : ∀ id, id ≠ request.requestId → scheduler.request id = system.scheduler.request id := by
    intro id differ
    rw [records, Function.update_of_ne differ]
  have inRunning : ∀ id ∈ scheduler.running, id ∈ system.scheduler.running ∧
      scheduler.request id = system.scheduler.request id := by
    intro id isRunning
    rw [running] at isRunning
    refine ⟨isRunning, others id ?_⟩
    rintro rfl
    exact isFresh.running isRunning
  refine ⟨plain, fun id isQueued notRunning => ?_, fun id isRunning isChunk => ?_,
    fun id isRunning => ?_⟩
  · dsimp only at isQueued notRunning ⊢
    by_cases same : id = request.requestId
    · rw [same, records, Function.update_self]
      exact isNew.specTokenIds
    · rw [others id same] at isQueued notRunning ⊢
      refine drafted.waiting id (isQueued.imp (fun isWaiting => ?_) fun ⟨isMember, unfinished⟩ =>
        ⟨?_, unfinished⟩) notRunning
      · rw [waiting, List.count_singleton, beq_false_of_ne (Ne.symm same)] at isWaiting
        exact isWaiting
      · rw [requests, List.mem_append, List.mem_singleton] at isMember
        exact isMember.resolve_right same
  · obtain ⟨wasRunning, same⟩ := inRunning id isRunning
    rw [same] at isChunk ⊢
    exact drafted.chunk id wasRunning isChunk
  · obtain ⟨wasRunning, same⟩ := inRunning id isRunning
    rw [if_pos isRunning, same]
    exact drafted.previous id wasRunning

theorem drafts_drafted {draftTokenIds : List (ReqId × List TokenId)}
    (mayHold : ∀ entry ∈ draftTokenIds, system.scheduler.MayHoldDrafts entry.1)
    (ran : system.step env config (.drafts draftTokenIds) = .ok next) :
    next.scheduler.Drafted fun id => if id ∈ next.scheduler.running then previous id else none := by
  have plain := @step_plain _ env config _ _ (.drafts draftTokenIds) trivial drafted.plain ran
  cases ran
  refine drafted.of_keeps plain fun id => ?_
  obtain ⟨requests, running, waiting, change⟩ :=
    Scheduler.updateAllDrafts_spec env draftTokenIds system.scheduler id
  have members : id ∈ (draftTokenIds.foldl (fun self entry => self.updateDraftTokenIds env entry)
      system.scheduler).requests → id ∈ system.scheduler.requests := by
    rw [requests]
    exact fun isMember => isMember
  rcases change with same | ⟨isEntry, isMember, unfinished, specTokenIds, whenChunk, changed⟩
  · exact ⟨members, by rw [running], waiting.le, by rw [same], .inl (by rw [same]),
      .inl (by rw [same])⟩
  · refine ⟨members, by rw [running], waiting.le, by rw [changed], .inl (by rw [changed]), ?_⟩
    right
    rw [changed]
    cases isChunk : (system.scheduler.request id).isPrefillChunk with
    | true => exact .inr (whenChunk isChunk)
    | false =>
      obtain ⟨entry, isIn, rfl⟩ := List.mem_map.mp isEntry
      exact .inl ⟨rfl, mayHold entry isIn isMember unfinished isChunk⟩

theorem reset_drafted {resetRunningRequests : Bool}
    (ran : system.step env config (.reset resetRunningRequests) = .ok next) :
    next.scheduler.Drafted fun id => if id ∈ next.scheduler.running then previous id else none := by
  have plain := @step_plain _ env config _ _ (.reset resetRunningRequests) trivial drafted.plain ran
  obtain ⟨⟨successful, scheduler⟩, reset, ran⟩ := bind_eq_ok.mp ran
  cases ran
  obtain ⟨-, requests, running, counts, record⟩ :=
    Scheduler.resetPrefixCache_spec drafted.plain.queues reset
  cases resetRunningRequests with
  | false =>
    refine drafted.of_keeps plain fun id => ?_
    have same : scheduler.request id = system.scheduler.request id := by
      rw [record, if_neg (by simp)]
    have count := counts id
    have running : scheduler.running = system.scheduler.running := running
    rw [running] at count
    exact ⟨by rw [requests]; exact fun isMember => isMember, by rw [running],
      (Nat.add_left_cancel count).le, by rw [same], .inl (by rw [same]), .inl (by rw [same])⟩
  | true =>
    have running : scheduler.running = [] := running
    refine ⟨plain, fun id isQueued notRunning => ?_, fun id isRunning => ?_, fun id isRunning => ?_⟩
    · dsimp only at isQueued notRunning ⊢
      by_cases wasRunning : id ∈ system.scheduler.running
      · rw [record, if_pos ⟨rfl, wasRunning⟩]
        rfl
      · have same : scheduler.request id = system.scheduler.request id := by
          rw [record, if_neg fun both => wasRunning both.2]
        have count := counts id
        rw [running, List.count_nil, Nat.zero_add, List.count_eq_zero_of_not_mem wasRunning,
          Nat.zero_add] at count
        rw [same, requests, count] at isQueued
        rw [same] at notRunning ⊢
        exact drafted.waiting id isQueued notRunning
    · dsimp only at isRunning
      rw [running] at isRunning
      exact absurd isRunning List.not_mem_nil
    · dsimp only at isRunning
      rw [running] at isRunning
      exact absurd isRunning List.not_mem_nil

theorem step_drafted {event : Event} (isAllowed : system.DraftEvent config previous event)
    (ran : system.step env config event = .ok next) :
    next.scheduler.Drafted (observePrevious previous system event next) := by
  cases event with
  | add request => exact add_drafted drafted isAllowed.1 ran
  | schedule =>
    obtain ⟨⟨output, scheduler⟩, scheduled, ran⟩ := bind_eq_ok.mp ran
    cases ran
    have observed : observePrevious previous system .schedule
        ⟨scheduler, system.inFlight ++ [output]⟩ = fun id =>
        if id ∈ scheduler.running then
          if id ∈ output.numScheduledTokens.keys then some (scheduler.request id).isPrefillChunk
          else previous id
        else none := by
      funext id
      simp only [observePrevious, List.getLast?_concat]
    rw [observed]
    exact drafted.schedule scheduled
  | output index output =>
    have plain := @step_plain _ env config _ _ (.output index output) trivial drafted.plain ran
    rw [step] at ran
    split at ran
    next => cases ran
    next scheduled read =>
      obtain ⟨scheduler, updated, ran⟩ := bind_eq_ok.mp ran
      cases ran
      exact drafted.of_keeps plain fun id =>
        Scheduler.updateFromOutputOf_keepsDrafts drafted.plain isAllowed.2 updated id
  | drafts draftTokenIds => exact drafts_drafted drafted isAllowed.2 ran
  | finish requestIds finishedStatus =>
    have plain := @step_plain _ env config _ _ (.finish requestIds finishedStatus) trivial
      drafted.plain ran
    obtain ⟨scheduler, finished, ran⟩ := bind_eq_ok.mp ran
    cases ran
    refine drafted.of_keeps plain fun id => ?_
    obtain ⟨-, spec⟩ := Scheduler.finishRequests_spec drafted.plain.queues finished
    obtain ⟨cases, requests, running, waiting⟩ := spec id
    rcases cases with same | ⟨isFinished, -, -, changed⟩
    · exact ⟨requests, running, waiting, by rw [same], .inl (by rw [same]), .inl (by rw [same])⟩
    · exact ⟨requests, running, waiting, by rw [changed],
        .inr (by rw [changed]; exact isFinished), .inl (by rw [changed])⟩
  | reset resetRunningRequests => exact reset_drafted drafted ran

end

theorem observed_drafted {env : Collaborators K}
    (observed : Observed env config (fun _ => none) observePrevious (DraftEvent config) system
      previous) : system.scheduler.Drafted previous := by
  induction observed with
  | initial isInitial =>
    refine ⟨isInitial.plain, fun id isQueued => ?_, fun id isRunning => ?_, fun id isRunning => ?_⟩
    · rw [Scheduler.waitingCount, isInitial.waiting, isInitial.skippedWaiting,
        isInitial.requests] at isQueued
      simp at isQueued
    · rw [isInitial.running] at isRunning
      exact absurd isRunning List.not_mem_nil
    · rw [isInitial.running] at isRunning
      exact absurd isRunning List.not_mem_nil
  | step event _ isAllowed ran ih =>
    exact step_drafted ih isAllowed ran

/-- In every run that names drafts of running requests only: a request that is
unfinished or waiting has no drafts unless it runs, and `schedule` enters drafts
only for requests whose previous step since their admission was no prefill
chunk. -/
theorem observed_draftsOfDecodes
    (observed : Observed env config (fun _ => none) observePrevious (DraftEvent config) system
      previous) :
    (∀ id, (0 < system.scheduler.waitingCount [] id ∨ id ∈ system.scheduler.requests ∧
        (system.scheduler.request id).isFinished = false) →
      (system.scheduler.request id).status ≠ .running →
      (system.scheduler.request id).specTokenIds = []) ∧
    ∀ output scheduler, system.scheduler.schedule env config = .ok (output, scheduler) →
      ∀ id ∈ output.scheduledSpecDecodeTokens.keys, previous id = some false := by
  have drafted := observed_drafted observed
  exact ⟨drafted.waiting, fun output scheduler ran id isMember => drafted.scheduledDrafts ran isMember⟩

/-- An `AsyncScheduler` with two drafts a step and the confidence schedule. -/
def dsparkConfig : SchedulerConfig :=
  { asyncConfig with
    numSpecTokens := 2
    useDsparkConfidenceSchedule := true }

/-- One sampled token for every request, and two drafts for the first. -/
def draftedOutput : ModelRunnerOutput where
  sampledTokenIds _ := [5]
  draftTokenCounts := [(0, 2)]

theorem observed_draftsOfDecodes_running :
    ∃ (system : System SlotPool) (previous : ReqId → Option Bool) (output : SchedulerOutput)
      (scheduler : Scheduler SlotPool),
      Observed slotPool dsparkConfig (fun _ => none) observePrevious (DraftEvent dsparkConfig) system
        previous ∧
      system.scheduler.schedule slotPool dsparkConfig = .ok (output, scheduler) ∧
      output.scheduledSpecDecodeTokens.keys = [0] ∧ previous 0 = some false := by
  have added : Observed slotPool dsparkConfig (fun _ => none) observePrevious
      (DraftEvent dsparkConfig) _ _ :=
    (Observed.initial (withSlots_isInitial 8)).step (.add (promptOf 0 [1, 2]))
      ⟨⟨promptOf_isNew 0 [1, 2], rfl, nofun, nofun, rfl, nofun⟩, trivial⟩ rfl
  have scheduled := added.step .schedule ⟨trivial, trivial⟩ rfl
  have answered := scheduled.step (.output 0 draftedOutput) ⟨trivial, ?_⟩ rfl
  · exact ⟨_, _, _, _, answered, rfl, by decide,
      (observed_draftsOfDecodes answered).2 _ _ rfl 0 (by decide)⟩
  · intro id count isCount _ _ _ _
    have isFirst : id = 0 := congrArg Prod.fst (List.mem_singleton.mp isCount)
    rw [isFirst]
    decide

/-- A request is preempted while its first step is in flight, and that step's
output brings drafts. -/
theorem plantedWhilePreempted :
    ∃ system, (withSlots 3).run slotPool dsparkConfig
        [.add (promptOf 0 [1, 2]), .schedule, .schedule, .output 0 draftedOutput] = .ok system ∧
      0 ∈ system.scheduler.requests ∧ (system.scheduler.request 0).status = .preempted ∧
      (system.scheduler.request 0).specTokenIds = [-1, -1] :=
  ⟨_, rfl, by decide, by decide, by decide⟩

end System

end DeepSpark
