import DeepSpark.Scheduler.Outputs
import DeepSpark.Scheduler.Visits

/-!
What one call of `update_from_output` does to one request.

Owns `Answered`, the list of everything the output of a step can do to a request's
record, the isolation of one request's entry from the loop over a step, and the
queues of runs without streaming sessions.
-/

namespace DeepSpark

open Lib

variable {K : Type} {env : Collaborators K} {config : SchedulerConfig}

def placeholdersAfter (config : SchedulerConfig) (before : Request) (appended : List TokenId) : Int :=
  if config.asyncScheduling then before.numOutputPlaceholders - appended.length
  else before.numOutputPlaceholders

/-- What an output does to a request, and whether it stops the request; `before`
is its record after the rejection arithmetic. -/
inductive Answered (config : SchedulerConfig) (output : ModelRunnerOutput) (id : ReqId)
    (before : Request) : Bool → Request → Prop
  | silent (empty : output.sampledTokenIds id = [])
      (unpooled : (before.isPooling && output.hasPoolerOutput id) = false) :
      Answered config output id before false before
  | pooled (empty : output.sampledTokenIds id = []) (isPooling : before.isPooling = true) :
      Answered config output id before true { before with status := .finishedStopped }
  | discarded (isAsync : config.asyncScheduling = true)
      (discards : 0 < before.asyncTokensToDiscard) (nonempty : output.sampledTokenIds id ≠ []) :
      Answered config output id before false
        { before with asyncTokensToDiscard := before.asyncTokensToDiscard - 1 }
  | appended {updated : Request} {appended : List TokenId} {stopped : Bool}
      (nonempty : output.sampledTokenIds id ≠ [])
      (spec : Appended before updated (output.sampledTokenIds id) appended stopped)
      (isFresh : config.asyncScheduling = true →
        before.asyncTokensToDiscard ≤ 0 ∧ 0 ≤ placeholdersAfter config before appended) :
      Answered config output id before stopped
        { updated with numOutputPlaceholders := placeholdersAfter config before appended }
  | refused {updated : Request} {appended : List TokenId} {stopped : Bool}
      (spec : Appended before updated (output.sampledTokenIds id) appended stopped)
      (isFresh : config.asyncScheduling = true → before.asyncTokensToDiscard ≤ 0) :
      Answered config output id before true
        { updated with
          numOutputPlaceholders := placeholdersAfter config before appended
          status := .finishedError
          resumable := false }

namespace Scheduler

variable {self next : Scheduler K} {id : ReqId}

theorem updateRequestWithOutput_appended {newTokenIds appended : List TokenId} {stopped : Bool}
    (ran : self.updateRequestWithOutput env config id newTokenIds = .ok (appended, stopped, next)) :
    (config.asyncScheduling = true ∧ 0 < (self.request id).asyncTokensToDiscard ∧ appended = [] ∧
        stopped = false ∧ next.request id = { self.request id with
          asyncTokensToDiscard := (self.request id).asyncTokensToDiscard - 1 }) ∨
      ∃ updated, Appended (self.request id) updated newTokenIds appended stopped ∧
        (config.asyncScheduling = true → (self.request id).asyncTokensToDiscard ≤ 0 ∧
          0 ≤ placeholdersAfter config (self.request id) appended) ∧
        next.request id = { updated with
          numOutputPlaceholders := placeholdersAfter config (self.request id) appended } := by
  rcases (updateRequestWithOutput_spec ran).2 with
    ⟨isAsync, discards, none, goesOn, -, record⟩ | ⟨updated, spec, whenAsync, whenSync⟩
  · exact .inl ⟨isAsync, discards, none, goesOn, record⟩
  · right
    obtain ⟨blockHashes, status, isUpdated⟩ := spec.record
    have same : updated.numOutputPlaceholders = (self.request id).numOutputPlaceholders := by
      rw [isUpdated]
    refine ⟨updated, spec, fun isAsync => ?_, ?_⟩
    · obtain ⟨fresh, -, nonnegative⟩ := whenAsync isAsync
      rw [placeholdersAfter, if_pos isAsync, ← same]
      exact ⟨fresh, nonnegative⟩
    · rw [placeholdersAfter]
      split
      next isAsync => rw [(whenAsync isAsync).2.1, same]
      next isSync =>
        rw [(whenSync (by simpa using isSync)).1, ← same]

theorem Applied.answered {output : ModelRunnerOutput} {stopped : Bool}
    (applied : Applied env config output id self next stopped) :
    Answered config output id (self.request id) stopped (next.request id) := by
  cases applied with
  | silent empty unpooled same =>
    rw [same]
    exact .silent empty unpooled
  | pooled empty isPooling isNext =>
    rw [isNext, modifyRequest_self]
    exact .pooled empty isPooling
  | @sampled appended _ mid kv nonempty ran isNext =>
    have record : next.request id = mid.request id := by rw [isNext]
    rcases updateRequestWithOutput_appended ran with
      ⟨isAsync, discards, none, goesOn, isMid⟩ | ⟨updated, spec, isFresh, isMid⟩
    · rw [record, isMid, goesOn]
      exact .discarded isAsync discards nonempty
    · rw [record, isMid]
      exact .appended nonempty spec isFresh
  | @rejected appended _ mid kv nonempty ran isAppended isNext =>
    rw [isNext, modifyRequest_self]
    rcases updateRequestWithOutput_appended ran with
      ⟨_, _, none, _⟩ | ⟨updated, spec, isFresh, isMid⟩
    · exact absurd none isAppended
    · show Answered config output id _ true { mid.request id with
        status := .finishedError, resumable := false }
      rw [isMid]
      exact @Answered.refused config output id _ updated appended _ spec
        fun isAsync => (isFresh isAsync).1

theorem handleStoppedRequest_plain {finished : Bool}
    (ran : self.handleStoppedRequest config id = .ok (finished, next))
    (notResumable : (self.request id).resumable = false) : finished = true ∧ next = self := by
  unfold handleStoppedRequest at ran
  rw [if_pos (by simp [notResumable])] at ran
  cases ran
  exact ⟨rfl, rfl⟩

namespace UpdateState

variable {scheduled : SchedulerOutput} {output : ModelRunnerOutput} {state next : UpdateState K}

/-- The entry of a request that is gone does nothing; any other is answered, and
the answer stands unless a session goes on. -/
theorem Entered.answered (entered : Entered env config scheduled output state id next) :
    (next = state ∧ (id ∈ state.self.requests → (state.self.request id).isFinished = true)) ∨
      (id ∈ state.self.requests ∧ (state.self.request id).isFinished = false ∧
        ∃ stopped record, Answered config output id (rejectDrafts config
            ((scheduled.scheduledSpecDecodeTokens.get? id).getD []) (output.sampledTokenIds id)
            (state.self.request id)) stopped record ∧
          (stopped = false ∨ record.resumable = false → next.self.request id = record)) := by
  cases entered with
  | gone notLive =>
    refine .inl ⟨rfl, fun isMember => notLive _ ?_⟩
    rw [getRequest, if_pos isMember]
  | continued isMember unfinished applied =>
    have answered := (applyOutput_applied applied).answered
    rw [beforeOutput_request] at answered
    exact .inr ⟨isMember, unfinished, _, _, answered, fun _ => rfl⟩
  | @stopped self handled final finished isMember unfinished applied handle freed =>
    have answered := (applyOutput_applied applied).answered
    rw [beforeOutput_request] at answered
    refine .inr ⟨isMember, unfinished, _, _, answered, fun plain => ?_⟩
    obtain ⟨isFinished, sameHandled⟩ :=
      handleStoppedRequest_plain handle (plain.resolve_left nofun)
    rw [isFinished, if_pos rfl] at freed
    have record := (freeRequest_spec freed).2.1
    rw [sameHandled] at record
    split
    · exact congrFun record id
    · exact congrFun record id

theorem Entered.others (entered : Entered env config scheduled output state id next) {other : ReqId}
    (differ : other ≠ id) : next.self.request other = state.self.request other ∧
      (other ∈ next.self.requests ↔ other ∈ state.self.requests) := by
  cases entered with
  | gone => exact ⟨rfl, .rfl⟩
  | continued _ _ applied =>
    have same := (beforeOutput_sameQueues state.self scheduled output id).trans
      (applyOutput_applied applied).sameQueues
    exact ⟨same.others other differ, by rw [same.requests]⟩
  | @stopped self handled final finished _ _ applied handle freed =>
    have same := (beforeOutput_sameQueues state.self scheduled output id).trans
      (applyOutput_applied applied).sameQueues
    have handledSame : handled.request other = self.request other ∧
        handled.requests = self.requests := by
      cases handleStoppedRequest_handled handle with
      | finished same => exact ⟨same.others other differ, same.requests⟩
      | resumed requests _ _ _ others => exact ⟨others other differ, requests⟩
      | waits requests _ _ _ others => exact ⟨others other differ, requests⟩
    have finalSame : final.request other = handled.request other ∧
        (other ∈ final.requests ↔ other ∈ handled.requests) := by
      split at freed
      next =>
        obtain ⟨requests, request, -⟩ := freeRequest_spec freed
        rw [request]
        rcases requests with requests | requests <;> rw [requests]
        · exact ⟨rfl, .rfl⟩
        · exact ⟨rfl, List.mem_erase_of_ne differ⟩
      next =>
        cases freed
        exact ⟨rfl, .rfl⟩
    have record : final.request other = state.self.request other := by
      rw [finalSame.1, handledSame.1, same.others other differ]
    have members : other ∈ final.requests ↔ other ∈ state.self.requests := by
      rw [finalSame.2, handledSame.2, same.requests]
    split
    · exact ⟨record, members⟩
    · exact ⟨record, members⟩

theorem Entered.requests_subset (entered : Entered env config scheduled output state id next)
    {other : ReqId} (isMember : other ∈ next.self.requests) : other ∈ state.self.requests := by
  by_cases differ : other = id
  · rw [differ]
    rcases entered.answered with ⟨same, -⟩ | ⟨wasMember, -⟩
    · rw [← same, ← differ]
      exact isMember
    · exact wasMember
  · exact (entered.others differ).2.mp isMember

end UpdateState

/-- The loop of `update_from_output`, seen from one request: its own entry, if it
has one, between entries that leave it alone. -/
theorem updateLoop_isolated {scheduled : SchedulerOutput} {output : ModelRunnerOutput}
    {entries : List (ReqId × Int)} {state final : UpdateState K} (id : ReqId)
    (nodup : (entries.map Prod.fst).Nodup)
    (ran : entries.foldlM (UpdateState.updateRequest env config scheduled output) state =
      .ok final) :
    (id ∉ entries.map Prod.fst ∧ final.self.request id = state.self.request id ∧
        (id ∈ final.self.requests ↔ id ∈ state.self.requests)) ∨
      (id ∈ entries.map Prod.fst ∧ ∃ before after : UpdateState K,
        UpdateState.Entered env config scheduled output before id after ∧
          before.self.request id = state.self.request id ∧
          (id ∈ before.self.requests ↔ id ∈ state.self.requests) ∧
          final.self.request id = after.self.request id ∧
          (id ∈ final.self.requests ↔ id ∈ after.self.requests)) := by
  induction entries generalizing state with
  | nil =>
    cases ran
    exact .inl ⟨List.not_mem_nil, rfl, .rfl⟩
  | cons entry rest ih =>
    obtain ⟨next, ranEntry, ranRest⟩ := bind_eq_ok.mp ran
    have entered := (UpdateState.updateRequest_entered ranEntry).2
    have parts := List.nodup_cons.mp nodup
    rw [List.map_cons, List.mem_cons]
    rcases ih parts.2 ranRest with
      ⟨notLater, record, members⟩ | ⟨isLater, before, after, laterEntered, sameBefore⟩
    · by_cases same : id = entry.1
      · subst same
        exact .inr ⟨.inl rfl, state, next, entered, rfl, .rfl, record, members⟩
      · obtain ⟨first, firstMembers⟩ := entered.others same
        exact .inl ⟨by simp [same, notLater], record.trans first, members.trans firstMembers⟩
    · have differ : id ≠ entry.1 := fun same => parts.1 (same ▸ isLater)
      obtain ⟨first, firstMembers⟩ := entered.others differ
      exact .inr ⟨.inr isLater, before, after, laterEntered, sameBefore.1.trans first,
        sameBefore.2.1.trans firstMembers, sameBefore.2.2⟩

/-! ## The whole call -/

theorem freeBlocks_eq (ran : self.freeBlocks env id = .ok next) :
    (self.request id).isFinished = true ∧ ∃ kv, next = { self with
      kv := kv
      requests := self.requests.erase id } := by
  obtain ⟨_, checked, ran⟩ := bind_eq_ok.mp ran
  obtain ⟨kv, -, ran⟩ := bind_eq_ok.mp ran
  cases ran
  exact ⟨pyAssert_eq_ok.mp checked, kv, rfl⟩

/-- What the end of a KV transfer leaves alone: records and queues; it only
removes requests. -/
structure Transferred (scheduler next : Scheduler K) : Prop where
  request : next.request = scheduler.request
  running : next.running = scheduler.running
  waiting : next.waiting = scheduler.waiting
  skippedWaiting : next.skippedWaiting = scheduler.skippedWaiting
  requests : ∀ id ∈ next.requests, id ∈ scheduler.requests

theorem Transferred.refl (self : Scheduler K) : Transferred self self :=
  ⟨rfl, rfl, rfl, rfl, fun _ => id⟩

theorem Transferred.trans {mid : Scheduler K} (first : Transferred self mid)
    (second : Transferred mid next) : Transferred self next :=
  ⟨second.request.trans first.request, second.running.trans first.running,
    second.waiting.trans first.waiting, second.skippedWaiting.trans first.skippedWaiting,
    fun id isMember => first.requests id (second.requests id isMember)⟩

theorem freeBlocks_transferred (ran : self.freeBlocks env id = .ok next) : Transferred self next := by
  obtain ⟨-, kv, rfl⟩ := freeBlocks_eq ran
  exact ⟨rfl, rfl, rfl, rfl, fun _ => List.mem_of_mem_erase⟩

theorem finishRecving_transferred (ran : self.finishRecving env id = .ok next) :
    Transferred self next := by
  obtain ⟨_, -, ran⟩ := bind_eq_ok.mp ran
  split at ran
  next =>
    cases ran
    exact ⟨rfl, rfl, rfl, rfl, fun _ isMember => isMember⟩
  next => exact freeBlocks_transferred ran

theorem finishSending_transferred (ran : self.finishSending env id = .ok next) :
    Transferred self next := by
  obtain ⟨_, -, ran⟩ := bind_eq_ok.mp ran
  exact freeBlocks_transferred ran

theorem transfers_transferred {output : ModelRunnerOutput} {mid : Scheduler K}
    (recving : output.finishedRecving.foldlM (finishRecving env) self = .ok mid)
    (sending : output.finishedSending.foldlM (finishSending env) mid = .ok next) :
    Transferred self next := by
  have afterRecving : Transferred self mid :=
    foldlM_preserves (fun _ _ _ before ran => before.trans (finishRecving_transferred ran))
      (Transferred.refl self) recving
  exact foldlM_preserves (fun _ _ _ before ran => before.trans (finishSending_transferred ran))
    afterRecving sending

def plantDrafts (config : SchedulerConfig) (count : Int) (request : Request) : Request :=
  { request with
    specTokenIds := List.replicate (max 0 (min count config.numSpecTokens)).toNat (-1) }

theorem plantDraftPlaceholders_spec (config : SchedulerConfig) (self : Scheduler K) (entry : ReqId × Int) :
    SameQueues self (self.plantDraftPlaceholders config entry) entry.1 ∧
      ((self.plantDraftPlaceholders config entry).request entry.1 = self.request entry.1 ∨
        entry.1 ∈ self.requests ∧ (self.request entry.1).isFinished = false ∧
          (self.request entry.1).isPrefillChunk = false ∧
          (self.plantDraftPlaceholders config entry).request entry.1 =
            plantDrafts config entry.2 (self.request entry.1)) := by
  unfold plantDraftPlaceholders getRequest
  by_cases isMember : entry.1 ∈ self.requests
  · rw [if_pos isMember]
    dsimp only
    split
    next => exact ⟨SameQueues.refl _ _, .inl rfl⟩
    next isOpen =>
      rw [Bool.or_eq_true, not_or] at isOpen
      refine ⟨modifyRequest_sameQueues .., .inr ⟨isMember, by simpa using isOpen.1,
        by simpa using isOpen.2, ?_⟩⟩
      exact modifyRequest_self ..
  · rw [if_neg isMember]
    exact ⟨SameQueues.refl _ _, .inl rfl⟩

/-- What the draft counts of an output do to the record its own output left a
request with. -/
def Planted (config : SchedulerConfig) (counts : List (ReqId × Int)) (id : ReqId)
    (record planted : Request) : Prop :=
  planted = record ∨ record.isFinished = false ∧ record.isPrefillChunk = false ∧
    ∃ count, (id, count) ∈ counts ∧ planted = plantDrafts config count record

theorem plantAll_planted (config : SchedulerConfig) (counts : List (ReqId × Int)) (self : Scheduler K) (id : ReqId) :
    Planted config counts id (self.request id)
        ((counts.foldl (plantDraftPlaceholders config) self).request id) ∧
      (counts.foldl (plantDraftPlaceholders config) self).requests = self.requests ∧
      (counts.foldl (plantDraftPlaceholders config) self).running = self.running ∧
      (counts.foldl (plantDraftPlaceholders config) self).waiting = self.waiting ∧
      (counts.foldl (plantDraftPlaceholders config) self).skippedWaiting = self.skippedWaiting ∧
      (id ∉ self.requests →
        (counts.foldl (plantDraftPlaceholders config) self).request id = self.request id) := by
  induction counts generalizing self with
  | nil => exact ⟨.inl rfl, rfl, rfl, rfl, rfl, fun _ => rfl⟩
  | cons entry rest ih =>
    obtain ⟨same, change⟩ := plantDraftPlaceholders_spec config self entry
    obtain ⟨planted, requests, running, waiting, skipped, absent⟩ :=
      ih (self.plantDraftPlaceholders config entry)
    rw [List.foldl_cons]
    refine ⟨?_, requests.trans same.requests, running.trans same.running,
      waiting.trans same.waiting, skipped.trans same.skippedWaiting, fun notMember => ?_⟩
    rotate_left
    · rw [absent (by rw [same.requests]; exact notMember)]
      by_cases isEntry : id = entry.1
      · rw [isEntry] at notMember ⊢
        exact change.resolve_right fun planted => notMember planted.1
      · exact same.others id isEntry
    have later : Planted config (entry :: rest) id
        ((self.plantDraftPlaceholders config entry).request id)
        ((rest.foldl (plantDraftPlaceholders config)
          (self.plantDraftPlaceholders config entry)).request id) :=
      planted.imp_right fun ⟨unfinished, notChunk, count, member, isPlanted⟩ =>
        ⟨unfinished, notChunk, count, List.mem_cons_of_mem _ member, isPlanted⟩
    by_cases isEntry : id = entry.1
    · rcases change with unchanged | ⟨-, unfinished, notChunk, isPlanted⟩
      · rw [← isEntry] at unchanged
        rwa [unchanged] at later
      · subst isEntry
        rw [isPlanted] at later
        right
        refine ⟨unfinished, notChunk, ?_⟩
        rcases later with same | ⟨-, -, count, member, isLater⟩
        · exact ⟨entry.2, List.mem_cons_self, same⟩
        · exact ⟨count, member, isLater⟩
    · rwa [same.others id isEntry] at later

/-- What one call of `update_from_output` does to a request: nothing if it has no
entry or is gone, an answer otherwise, and then perhaps new drafts. The answer is
the record unless a session goes on. -/
theorem updateFromOutputOf_answers {scheduled : SchedulerOutput} {output : ModelRunnerOutput}
    (ran : self.updateFromOutputOf env config scheduled output = .ok next) (id : ReqId) :
    (id ∈ next.requests → id ∈ self.requests) ∧
      (id ∉ self.requests → next.request id = self.request id) ∧
      ∃ record, Planted config output.draftTokenCounts id record (next.request id) ∧
        (((id ∉ scheduled.numScheduledTokens.keys ∨ id ∉ self.requests ∨
              (self.request id).isFinished = true) ∧ record = self.request id) ∨
          (id ∈ scheduled.numScheduledTokens.keys ∧ id ∈ self.requests ∧
            (self.request id).isFinished = false ∧
            ∃ stopped answer, Answered config output id (rejectDrafts config
                ((scheduled.scheduledSpecDecodeTokens.get? id).getD []) (output.sampledTokenIds id)
                (self.request id)) stopped answer ∧
              (stopped = false ∨ answer.resumable = false → record = answer))) := by
  obtain ⟨updated, update, ran⟩ := bind_eq_ok.mp ran
  obtain ⟨state, loop, update⟩ := bind_eq_ok.mp update
  obtain ⟨received, recving, sending⟩ := bind_eq_ok.mp update
  have transferred := transfers_transferred recving sending
  have planted : Planted config output.draftTokenCounts id (updated.request id) (next.request id) ∧
      next.requests = updated.requests ∧
      (id ∉ updated.requests → next.request id = updated.request id) := by
    split at ran
    next =>
      cases ran
      obtain ⟨isPlanted, requests, -, -, -, absent⟩ :=
        plantAll_planted config output.draftTokenCounts updated id
      exact ⟨isPlanted, requests, absent⟩
    next =>
      cases ran
      exact ⟨.inl rfl, rfl, fun _ => rfl⟩
  have record : updated.request id = state.self.request id := congrFun transferred.request id
  have members : id ∈ next.requests → id ∈ state.self.requests := by
    rw [planted.2.1]
    exact transferred.requests id
  have untouched (notMember : id ∉ state.self.requests) :
      next.request id = state.self.request id := by
    rw [planted.2.2 fun isMember => notMember (transferred.requests id isMember), record]
  rcases updateLoop_isolated id scheduled.numScheduledTokens.nodup loop with
    ⟨noEntry, same, sameMembers⟩ | ⟨hasEntry, before, after, entered, sameBefore, membersBefore,
      sameAfter, membersAfter⟩
  · refine ⟨fun isMember => sameMembers.mp (members isMember), fun notMember => ?_, _, planted.1,
      .inl ⟨.inl noEntry, ?_⟩⟩
    · rw [untouched fun isMember => notMember (sameMembers.mp isMember), same]
    · rw [record, same]
  · have wasMember : id ∈ state.self.requests → id ∈ self.requests := fun isMember =>
      membersBefore.mp (entered.requests_subset (membersAfter.mp isMember))
    refine ⟨fun isMember => wasMember (members isMember), fun notMember => ?_, _, planted.1, ?_⟩
    · rw [untouched fun isMember => notMember (wasMember isMember), sameAfter]
      rcases entered.answered with ⟨sameState, -⟩ | ⟨isMember, -⟩
      · rw [sameState, sameBefore]
      · exact absurd (membersBefore.mp isMember) notMember
    rcases entered.answered with ⟨sameState, notLive⟩ | ⟨isMember, unfinished, stopped, answer,
      answered, stands⟩
    · left
      constructor
      · by_cases isMember : id ∈ self.requests
        · right
          right
          have finished := notLive (membersBefore.mpr isMember)
          rwa [sameBefore] at finished
        · exact .inr (.inl isMember)
      · rw [record, sameAfter, sameState, sameBefore]
    · right
      rw [sameBefore] at answered unfinished
      exact ⟨hasEntry, membersBefore.mp isMember, unfinished, stopped, answer, answered,
        fun plain => by rw [record, sameAfter, stands plain]⟩

end Scheduler

end DeepSpark
