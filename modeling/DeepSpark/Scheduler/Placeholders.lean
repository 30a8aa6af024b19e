import DeepSpark.Scheduler.PlainRuns

/-!
The token counters of one request under the async scheduler.

Owns the steps in flight with the prefill chunks and the stale steps among them,
what the worker returns for a step, and how one `schedule`, one output and one
forced reset move the placeholders, the computed tokens and the number of stale
steps.
-/

namespace DeepSpark

open Lib Scheduler

variable {K : Type} {env : Collaborators K} {config : SchedulerConfig}

/-- A step in flight, with the requests it left in a prefill chunk and those that
a forced reset preempted since. -/
structure Frame where
  scheduled : SchedulerOutput
  isPrefillChunk : ReqId → Bool
  isStale : ReqId → Bool := fun _ => false

variable {id : ReqId} {scheduler : Scheduler K}

namespace Frame

variable (config : SchedulerConfig) (frame : Frame)

def drafts (id : ReqId) : List TokenId :=
  (frame.scheduled.scheduledSpecDecodeTokens.get? id).getD []

def placeholders (id : ReqId) : Int :=
  if id ∈ frame.scheduled.numScheduledTokens.keys ∧ frame.isPrefillChunk id = false then
    (config.numSampledTokensPerStep + (frame.drafts id).length : Nat)
  else 0

/-- What a worker returns for a step: nothing for a prefill chunk, the sampled
tokens and some of the drafts otherwise, and for a pooling request its result. -/
structure Answers (output : ModelRunnerOutput) (scheduler : Scheduler K) : Prop where
  chunk : ∀ id ∈ frame.scheduled.numScheduledTokens.keys, id ∈ scheduler.requests →
    frame.isPrefillChunk id = true → output.sampledTokenIds id = []
  tokens : ∀ id ∈ frame.scheduled.numScheduledTokens.keys, id ∈ scheduler.requests →
    frame.isPrefillChunk id = false → (scheduler.request id).isPooling = false →
    ∃ accepted ≤ (frame.drafts id).length,
      (output.sampledTokenIds id).length = config.numSampledTokensPerStep + accepted
  pooled : ∀ id ∈ frame.scheduled.numScheduledTokens.keys, id ∈ scheduler.requests →
    frame.isPrefillChunk id = false → (scheduler.request id).isPooling = true →
    output.sampledTokenIds id = [] ∧ output.hasPoolerOutput id = true

variable {config frame}

theorem placeholders_nonneg (id : ReqId) : 0 ≤ frame.placeholders config id := by
  unfold placeholders
  split
  · exact Int.natCast_nonneg _
  · exact le_rfl

theorem placeholders_of_notMem {id : ReqId}
    (notMember : id ∉ frame.scheduled.numScheduledTokens.keys) :
    frame.placeholders config id = 0 :=
  if_neg fun both => notMember both.1

theorem placeholders_of_chunk (isChunk : frame.isPrefillChunk id = true) :
    frame.placeholders config id = 0 :=
  if_neg fun both => by rw [isChunk] at both; exact absurd both.2 nofun

theorem placeholders_of_decode {id : ReqId}
    (isMember : id ∈ frame.scheduled.numScheduledTokens.keys)
    (notChunk : frame.isPrefillChunk id = false) :
    frame.placeholders config id =
      (config.numSampledTokensPerStep + (frame.drafts id).length : Nat) :=
  if_pos ⟨isMember, notChunk⟩

theorem Answers.of_decode {output : ModelRunnerOutput} {tokens : Int} {accepted : Nat}
    (isLone : frame.scheduled.numScheduledTokens.entries = [(id, tokens)])
    (notChunk : frame.isPrefillChunk id = false)
    (notPooling : (scheduler.request id).isPooling = false)
    (isAccepted : accepted ≤ (frame.drafts id).length)
    (length : (output.sampledTokenIds id).length = config.numSampledTokensPerStep + accepted) :
    frame.Answers config output scheduler := by
  have isOnly : ∀ other ∈ frame.scheduled.numScheduledTokens.keys, other = id := by
    intro other isScheduled
    rw [PyDict.keys, isLone] at isScheduled
    exact List.mem_singleton.mp isScheduled
  refine ⟨fun other isScheduled _ isChunk => ?_, fun other isScheduled _ _ _ => ?_,
    fun other isScheduled _ _ isPooling => ?_⟩
  · rw [isOnly other isScheduled, notChunk] at isChunk
    cases isChunk
  · rw [isOnly other isScheduled]
    exact ⟨accepted, isAccepted, length⟩
  · rw [isOnly other isScheduled, notPooling] at isPooling
    cases isPooling

theorem Answers.returns {output : ModelRunnerOutput}
    (answers : frame.Answers config output scheduler)
    (isMember : id ∈ frame.scheduled.numScheduledTokens.keys) (isLive : id ∈ scheduler.requests)
    (nonempty : output.sampledTokenIds id ≠ []) (noDrafts : frame.drafts id = []) :
    0 < frame.placeholders config id := by
  cases isChunk : frame.isPrefillChunk id with
  | true => exact absurd (answers.chunk id isMember isLive isChunk) nonempty
  | false =>
    cases isPooling : (scheduler.request id).isPooling with
    | true => exact absurd (answers.pooled id isMember isLive isChunk isPooling).1 nonempty
    | false =>
      obtain ⟨accepted, isAccepted, length⟩ := answers.tokens id isMember isLive isChunk isPooling
      rw [noDrafts, List.length_nil, Nat.le_zero] at isAccepted
      have positive := List.length_pos_iff.mpr nonempty
      rw [placeholders_of_decode isMember isChunk, noDrafts]
      omega

end Frame

def framePlaceholders (config : SchedulerConfig) (frames : List Frame) (id : ReqId) : Int :=
  (frames.map fun frame => frame.placeholders config id).sum

theorem framePlaceholders_cons (frame : Frame) (frames : List Frame) (id : ReqId) :
    framePlaceholders config (frame :: frames) id =
      frame.placeholders config id + framePlaceholders config frames id := by
  rw [framePlaceholders, List.map_cons, List.sum_cons]
  rfl

theorem framePlaceholders_nonneg (frames : List Frame) (id : ReqId) :
    0 ≤ framePlaceholders config frames id := by
  apply List.sum_nonneg
  intro value member
  obtain ⟨frame, -, rfl⟩ := List.mem_map.mp member
  exact frame.placeholders_nonneg id

def freshFrames (frames : List Frame) (id : ReqId) : List Frame :=
  frames.filter fun frame => !frame.isStale id

def staleCount (config : SchedulerConfig) (frames : List Frame) (id : ReqId) : Nat :=
  frames.countP fun frame => frame.isStale id && decide (0 < frame.placeholders config id)

def markStale (running : List ReqId) (frame : Frame) : Frame :=
  { frame with isStale := fun id => frame.isStale id || decide (id ∈ running) }

def observeFrames (frames : List Frame) (system : System K) : Event → System K → List Frame
  | .schedule, next =>
    match next.inFlight.getLast? with
    | some scheduled =>
      frames ++ [{
        scheduled := scheduled
        isPrefillChunk := fun id => (next.scheduler.request id).isPrefillChunk }]
    | none => frames
  | .output index _, _ => frames.eraseIdx index
  | .reset true, _ => frames.map (markStale system.scheduler.running)
  | _, _ => frames

structure Request.Accounted (config : SchedulerConfig) (frames : List Frame) (id : ReqId)
    (request : Request) : Prop where
  placeholders : request.numOutputPlaceholders = framePlaceholders config frames id
  computed : request.status = .running → request.isPrefillChunk = false →
    request.numComputedTokens =
      request.numTokens + request.numOutputPlaceholders - config.numSampledTokensPerStep

variable {frames : List Frame}

theorem Request.Accounted.congr {nextFrames : List Frame}
    {request next : Request} (accounted : request.Accounted config frames id)
    (placeholders : next.numOutputPlaceholders = request.numOutputPlaceholders)
    (tokens : next.numTokens = request.numTokens)
    (computed : next.status = .running → next.isPrefillChunk = false →
      request.status = .running ∧ request.isPrefillChunk = false ∧
        next.numComputedTokens = request.numComputedTokens)
    (sameFrames : framePlaceholders config nextFrames id = framePlaceholders config frames id) :
    next.Accounted config nextFrames id := by
  refine ⟨?_, fun isRunning notChunk => ?_⟩
  · rw [placeholders, sameFrames]
    exact accounted.placeholders
  · obtain ⟨wasRunning, wasDecode, same⟩ := computed isRunning notChunk
    rw [same, tokens, placeholders]
    exact accounted.computed wasRunning wasDecode

/-! ## schedule -/

/-- The counters of a scheduled request after `_update_after_schedule`. -/
theorem afterSchedule_async (isAsync : config.asyncScheduling = true) (self : Scheduler K)
    (output : SchedulerOutput) (id : ReqId) (tokens : Int) (request : Request) :
    let after := self.afterSchedule config output id tokens request
    after.numComputedTokens = request.numComputedTokens + tokens ∧
      after.isPrefillChunk = decide (request.numComputedTokens + tokens <
        request.numTokens + request.numOutputPlaceholders) ∧
      after.numOutputPlaceholders = request.numOutputPlaceholders +
        (if after.isPrefillChunk then 0 else (config.numSampledTokensPerStep +
          ((output.scheduledSpecDecodeTokens.get? id).getD []).length : Nat)) := by
  unfold afterSchedule
  dsimp only
  rw [if_pos isAsync]
  unfold addPlaceholders
  split
  next => exact ⟨rfl, rfl, (add_zero _).symm⟩
  next => exact ⟨rfl, rfl, rfl⟩

variable {before after : Request}

/-- The drafts of a scheduled request are exactly the tokens beyond its known
ones. -/
theorem Visit.drafts_length {tokens : Int} {drafts : List TokenId}
    (visit : Visit before after (some tokens) drafts) (nonnegative : 0 ≤ before.numOutputPlaceholders) :
    (after.numComputedTokens + tokens < after.numTokens + after.numOutputPlaceholders → drafts = []) ∧
      (after.numTokens + after.numOutputPlaceholders ≤ after.numComputedTokens + tokens →
        (drafts.length : Int) = after.numComputedTokens + tokens -
          (after.numTokens + after.numOutputPlaceholders)) := by
  cases visit with
  | ran _ _ _ bound =>
    have total : (before.numTokensWithSpec : Int) =
        before.numTokens + before.specTokenIds.length := Nat.cast_add _ _
    constructor
    · intro isChunk
      have isChunk : before.numComputedTokens + tokens <
        before.numTokens + before.numOutputPlaceholders := isChunk
      have none : (tokens + before.numComputedTokens - before.numTokens -
        before.numOutputPlaceholders).toNat = 0 := by omega
      rw [ScheduleState.scheduledSpecTokens, none, List.take_zero]
    · intro isDecode
      have isDecode : before.numTokens + before.numOutputPlaceholders ≤
        before.numComputedTokens + tokens := isDecode
      show ((ScheduleState.scheduledSpecTokens before tokens).length : Int) =
        before.numComputedTokens + tokens - (before.numTokens + before.numOutputPlaceholders)
      rw [ScheduleState.scheduledSpecTokens, List.length_take]
      omega
  | started _ numComputedTokens _ bound =>
    refine ⟨fun _ => rfl, fun isDecode => ?_⟩
    have isDecode : before.numTokens + before.numOutputPlaceholders ≤
      numComputedTokens + tokens := isDecode
    show (0 : Int) = numComputedTokens + tokens - (before.numTokens + before.numOutputPlaceholders)
    omega

theorem Visit.unscheduled_drafts {drafts : List TokenId}
    (visit : Visit before after none drafts) : drafts = [] := by
  cases visit with
  | untouched => rfl
  | moved => rfl
  | preempted => rfl

theorem Request.Accounted.schedule {scheduled : SchedulerOutput}
    {record : Request} {isPrefillChunk : ReqId → Bool}
    (isAsync : config.asyncScheduling = true) (accounted : before.Accounted config frames id)
    (visit : Visit before record (scheduled.numScheduledTokens.get? id)
      ((scheduled.scheduledSpecDecodeTokens.get? id).getD []))
    (isChunk : isPrefillChunk id = ((scheduled.numScheduledTokens.get? id).elim record fun tokens =>
      scheduler.afterSchedule config scheduled id tokens record).isPrefillChunk) :
    ((scheduled.numScheduledTokens.get? id).elim record fun tokens =>
        scheduler.afterSchedule config scheduled id tokens record).Accounted config
      (frames ++ [{ scheduled := scheduled, isPrefillChunk := isPrefillChunk }]) id := by
  have sums : framePlaceholders config (frames ++ [{ scheduled := scheduled, isPrefillChunk := isPrefillChunk }]) id =
      framePlaceholders config frames id + Frame.placeholders config
          { scheduled := scheduled, isPrefillChunk := isPrefillChunk } id := by
    rw [framePlaceholders, List.map_append, List.sum_append, List.map_singleton, List.sum_singleton]
    rfl
  obtain ⟨_, _, _, _, frame⟩ := visit.frame
  have kept : record.numOutputPlaceholders = before.numOutputPlaceholders ∧
      record.numTokens = before.numTokens := by
    rw [frame]
    exact ⟨rfl, rfl⟩
  have nonnegative : 0 ≤ before.numOutputPlaceholders := by
    rw [accounted.placeholders]
    exact framePlaceholders_nonneg frames id
  cases read : scheduled.numScheduledTokens.get? id with
  | none =>
    rw [read] at visit
    have notMember : id ∉ scheduled.numScheduledTokens.keys := PyDict.get?_eq_none.mp read
    apply accounted.congr kept.1 kept.2
    · intro isRunning notChunk
      obtain ⟨same, -⟩ := visit.of_unscheduled isRunning
      subst same
      exact ⟨isRunning, notChunk, rfl⟩
    · rw [sums, Frame.placeholders_of_notMem notMember, add_zero]
  | some tokens =>
    have member : id ∈ scheduled.numScheduledTokens.keys := PyDict.mem_keys.mpr ⟨tokens, read⟩
    rw [read] at visit isChunk
    obtain ⟨_, _, _, _, _, isAfter⟩ :=
      @Scheduler.afterSchedule_frame _ config scheduler scheduled id tokens record
    obtain ⟨computed, chunk, placeholders⟩ :=
      afterSchedule_async isAsync scheduler scheduled id tokens record
    rw [Option.elim_some] at isChunk ⊢
    have sameTokens : (scheduler.afterSchedule config scheduled id tokens record).numTokens =
        record.numTokens := by
      rw [isAfter]
      rfl
    have drafts := visit.drafts_length nonnegative
    refine ⟨?_, fun isRunning notChunk => ?_⟩
    · rw [placeholders, kept.1, accounted.placeholders, sums]
      congr 1
      split
      next chunked =>
        rw [Frame.placeholders_of_chunk (isChunk.trans chunked)]
        rfl
      next decoded =>
        rw [Frame.placeholders_of_decode member (isChunk.trans (by simpa using decoded))]
        rfl
    · rw [chunk, decide_eq_false_iff_not, not_lt] at notChunk
      rw [computed, sameTokens, placeholders, chunk, if_neg (by simpa using notChunk)]
      omega

/-! ## update_from_output -/

variable {request : Request}

/-- The rejection arithmetic on a request whose step is accounted for: its guards
hold, and the rejected drafts are taken from both counters. -/
theorem rejectDrafts_counts {drafts sampled : List TokenId} {accepted : Nat}
    (isAccepted : accepted ≤ drafts.length)
    (length : sampled.length = config.numSampledTokensPerStep + accepted)
    (enough : (config.numSampledTokensPerStep + drafts.length : Nat) ≤ request.numOutputPlaceholders) :
    (rejectDrafts config drafts sampled request).numOutputPlaceholders =
        request.numOutputPlaceholders - (drafts.length - accepted) ∧
      (drafts.length ≤ request.numComputedTokens →
        (rejectDrafts config drafts sampled request).numComputedTokens =
          request.numComputedTokens - (drafts.length - accepted)) := by
  unfold rejectDrafts
  split
  next rejects =>
    have nonempty : 0 < drafts.length := by
      rw [List.length_pos_iff]
      rintro rfl
      exact absurd rejects nofun
    dsimp only
    rw [length, if_pos (by omega)]
    constructor
    · push_cast
      omega
    · intro computed
      rw [if_pos (by omega)]
      omega
  next keeps =>
    have none : drafts.length = accepted := by
      rw [Bool.and_eq_true, not_and_or] at keeps
      rcases keeps with noDrafts | noTokens
      · have noDrafts : drafts = [] := by simpa using noDrafts
        rw [noDrafts] at isAccepted ⊢
        exact (Nat.le_zero.mp isAccepted).symm
      · have parts : sampled = [] ∧ config.numSampledTokensPerStep ≠ 0 := by simpa using noTokens
        rw [parts.1, List.length_nil] at length
        exact absurd length.symm (by omega)
    exact ⟨by omega, fun _ => by omega⟩

theorem rejectDrafts_silent {drafts : List TokenId}
    (samples : config.numSampledTokensPerStep ≠ 0) :
    rejectDrafts config drafts [] request = request := by
  exact if_neg (by simp [samples])

/-- The placeholders of the oldest step in flight are among those of a request. -/
theorem Request.Accounted.first {frame : Frame}
    (accounted : request.Accounted config (frame :: frames) id) :
    request.numOutputPlaceholders =
      frame.placeholders config id + framePlaceholders config frames id := by
  rw [accounted.placeholders, framePlaceholders_cons]

/-- What a decode step with `accepted` drafts leaves of a request before its
tokens are appended. -/
theorem Request.Accounted.rejected {frame : Frame} {frames : List Frame} {id : ReqId} {sampled : List TokenId} {accepted : Nat}
    (accounted : request.Accounted config (frame :: frames) id)
    (isMember : id ∈ frame.scheduled.numScheduledTokens.keys)
    (notChunk : frame.isPrefillChunk id = false) (isAccepted : accepted ≤ (frame.drafts id).length)
    (length : sampled.length = config.numSampledTokensPerStep + accepted) :
    (rejectDrafts config (frame.drafts id) sampled request).numOutputPlaceholders =
        sampled.length + framePlaceholders config frames id ∧
      (request.status = .running → request.isPrefillChunk = false →
        (rejectDrafts config (frame.drafts id) sampled request).numComputedTokens =
          request.numTokens + sampled.length + framePlaceholders config frames id -
            config.numSampledTokensPerStep) := by
  have first := accounted.first
  rw [Frame.placeholders_of_decode isMember notChunk] at first
  have later := @framePlaceholders_nonneg config frames id
  obtain ⟨placeholders, computed⟩ := @rejectDrafts_counts _ request _ _ _ isAccepted length
    (by omega)
  constructor
  · rw [placeholders, length]
    omega
  · intro isRunning isDecode
    have counted := accounted.computed isRunning isDecode
    rw [computed (by omega), length]
    omega

variable {output : ModelRunnerOutput} {stopped : Bool}

/-- The output of the oldest step keeps the counters of a request that goes on. -/
theorem Request.Accounted.answered {frame : Frame}
    (isAsync : config.asyncScheduling = true)
    (accounted : (scheduler.request id).Accounted config (frame :: frames) id)
    (isFresh : (scheduler.request id).asyncTokensToDiscard = 0)
    (isMember : id ∈ frame.scheduled.numScheduledTokens.keys) (isLive : id ∈ scheduler.requests)
    (noDrafts : frame.isPrefillChunk id = true → frame.drafts id = [])
    (answers : frame.Answers config output scheduler)
    (answered : Answered config output id (rejectDrafts config (frame.drafts id)
      (output.sampledTokenIds id) (scheduler.request id)) stopped after)
    (unfinished : after.status.isFinished = false) :
    after.Accounted config frames id ∧ after.asyncTokensToDiscard = 0 := by
  have goesOn : stopped = false := by
    by_contra stops
    rw [answered.status.1 (by simpa using stops)] at unfinished
    cases unfinished
  obtain ⟨numComputedTokens, numOutputPlaceholders, isRejected⟩ :=
    @Scheduler.rejectDrafts_frame config (frame.drafts id) (output.sampledTokenIds id)
      (scheduler.request id)
  cases isChunk : frame.isPrefillChunk id with
  | true =>
    have silent := answers.chunk id isMember isLive isChunk
    rw [noDrafts isChunk] at answered
    have unchanged : after = scheduler.request id := by
      cases answered with
      | silent => rfl
      | pooled => cases goesOn
      | discarded _ _ nonempty => exact absurd silent nonempty
      | appended nonempty => exact absurd silent nonempty
      | refused => cases goesOn
    have first := accounted.first
    rw [Frame.placeholders_of_chunk isChunk, zero_add] at first
    rw [unchanged]
    exact ⟨⟨first, accounted.computed⟩, isFresh⟩
  | false =>
    have notPooling : (scheduler.request id).isPooling = false := by
      by_contra isPooling
      obtain ⟨empty, hasOutput⟩ := answers.pooled id isMember isLive isChunk (by simpa using isPooling)
      cases answered with
      | silent _ unpooled =>
        rw [isRejected, hasOutput, Bool.and_true] at unpooled
        exact isPooling unpooled
      | pooled => cases goesOn
      | discarded _ _ nonempty => exact nonempty empty
      | appended nonempty => exact nonempty empty
      | refused => cases goesOn
    obtain ⟨accepted, isAccepted, length⟩ := answers.tokens id isMember isLive isChunk notPooling
    obtain ⟨placeholders, computed⟩ := accounted.rejected isMember isChunk isAccepted length
    rw [isRejected] at placeholders computed answered
    cases answered with
    | silent empty =>
      rw [empty, List.length_nil] at placeholders computed
      refine ⟨⟨?_, fun isRunning notChunk => ?_⟩, isFresh⟩
      · rw [placeholders]
        exact zero_add _
      · rw [computed isRunning notChunk, placeholders]
        show _ = ((scheduler.request id).numTokens : Int) + _ - _
        omega
    | pooled => cases goesOn
    | discarded _ discards =>
      rw [isFresh] at discards
      exact absurd discards (lt_irrefl 0)
    | @appended updated appended _ nonempty spec =>
      obtain ⟨blockHashes, status, rfl⟩ := spec.record
      obtain ⟨sameStatus, all⟩ := spec.continued goesOn
      subst all
      have left : placeholdersAfter config { scheduler.request id with
          numComputedTokens := numComputedTokens
          numOutputPlaceholders := numOutputPlaceholders } (output.sampledTokenIds id) =
          framePlaceholders config frames id := by
        have placeholders : numOutputPlaceholders = _ := placeholders
        rw [placeholdersAfter, if_pos isAsync]
        show numOutputPlaceholders - _ = _
        rw [placeholders]
        omega
      rw [left]
      refine ⟨⟨rfl, fun isRunning notChunk => ?_⟩, isFresh⟩
      have computed : numComputedTokens = _ :=
        computed (sameStatus.symm.trans isRunning) notChunk
      show numComputedTokens = ((scheduler.request id).allTokenIds ++
        output.sampledTokenIds id).length + framePlaceholders config frames id - _
      rw [computed, List.length_append]
      show _ + _ + _ - _ = (((scheduler.request id).numTokens + _ : Nat) : Int) + _ - _
      push_cast
      ring
    | refused => cases goesOn

/-! ## Stale steps -/

def StaleFirst (frames : List Frame) : Prop :=
  ∀ id, frames.Pairwise fun earlier later => earlier.isStale id = false → later.isStale id = false

variable {later : List Frame}

theorem freshFrames_cons_fresh {frame : Frame}
    (isFresh : frame.isStale id = false) :
    freshFrames (frame :: later) id = frame :: freshFrames later id :=
  List.filter_cons_of_pos (by simp [isFresh])

theorem freshFrames_cons_stale {frame : Frame}
    (isStale : frame.isStale id = true) : freshFrames (frame :: later) id = freshFrames later id :=
  List.filter_cons_of_neg (by simp [isStale])

theorem staleCount_of_fresh {frame : Frame} {id : ReqId}
    (staleFirst : StaleFirst (frame :: later)) (isFresh : frame.isStale id = false) :
    staleCount config (frame :: later) id = 0 ∧ staleCount config later id = 0 := by
  have laterFresh : staleCount config later id = 0 := by
    rw [staleCount, List.countP_eq_zero]
    intro other isLater
    simp [(List.pairwise_cons.mp (staleFirst id)).1 other isLater isFresh]
  refine ⟨?_, laterFresh⟩
  rw [staleCount, List.countP_cons, ← staleCount, laterFresh, isFresh]
  rfl

theorem freshFrames_append (frames : List Frame) (frame : Frame) (id : ReqId)
    (isFresh : frame.isStale id = false) :
    freshFrames (frames ++ [frame]) id = freshFrames frames id ++ [frame] := by
  rw [freshFrames, List.filter_append]
  congr 1
  exact List.filter_cons_of_pos (by simp [isFresh])

theorem staleCount_append (frames : List Frame) (frame : Frame) (id : ReqId)
    (isFresh : frame.isStale id = false) :
    staleCount config (frames ++ [frame]) id = staleCount config frames id := by
  rw [staleCount, List.countP_append, List.countP_singleton, isFresh]
  rfl

theorem markStale_of_notRunning {running : List ReqId} {id : ReqId} (notRunning : id ∉ running)
    (frames : List Frame) :
    framePlaceholders config (freshFrames (frames.map (markStale running)) id) id =
        framePlaceholders config (freshFrames frames id) id ∧
      staleCount config (frames.map (markStale running)) id = staleCount config frames id := by
  have same : ∀ frame : Frame, (markStale running frame).isStale id = frame.isStale id := by
    intro frame
    simp [markStale, notRunning]
  constructor
  · rw [freshFrames, List.filter_map, framePlaceholders, List.map_map, framePlaceholders, freshFrames]
    have sameFilter : ((fun frame : Frame => !frame.isStale id) ∘ markStale running) =
        fun frame => !frame.isStale id := by
      funext frame
      exact congrArg _ (same frame)
    rw [sameFilter]
    rfl
  · rw [staleCount, List.countP_map, staleCount]
    congr 1
    funext frame
    show ((markStale running frame).isStale id && _) = _
    rw [same]
    rfl

/-- A forced reset of a running request makes all its steps stale, one by one as
many as it had placeholders if no step carries drafts. -/
theorem markStale_of_running {running : List ReqId} (isRunning : id ∈ running)
    (samples : config.numSampledTokensPerStep ≤ 1)
    (noDrafts : ∀ frame ∈ frames, frame.drafts id = []) (none : staleCount config frames id = 0) :
    freshFrames (frames.map (markStale running)) id = [] ∧
      (staleCount config (frames.map (markStale running)) id : Int) =
        framePlaceholders config (freshFrames frames id) id := by
  have marked : ∀ frame : Frame, (markStale running frame).isStale id = true := by
    intro frame
    simp [markStale, isRunning]
  constructor
  · rw [freshFrames, List.filter_eq_nil_iff]
    intro frame isFrame
    obtain ⟨old, -, rfl⟩ := List.mem_map.mp isFrame
    simp [marked]
  · induction frames with
    | nil => rfl
    | cons frame later ih =>
      have laterNone : staleCount config later id = 0 := by
        rw [staleCount, List.countP_cons] at none
        rw [staleCount]
        omega
      have laterSum := ih
        (fun other isOther => noDrafts other (List.mem_cons_of_mem _ isOther)) laterNone
      have value : frame.placeholders config id = 0 ∨ frame.placeholders config id = 1 := by
        unfold Frame.placeholders
        rw [noDrafts frame List.mem_cons_self, List.length_nil]
        split
        · omega
        · exact .inl rfl
      rw [List.map_cons, staleCount, List.countP_cons, ← staleCount]
      show ((staleCount config (later.map (markStale running)) id +
        (if ((markStale running frame).isStale id && decide (0 < frame.placeholders config id)) = true
          then 1 else 0) : Nat) : Int) = _
      rw [marked, Bool.true_and, Nat.cast_add, laterSum]
      cases isStale : frame.isStale id with
      | false =>
        rw [freshFrames_cons_fresh isStale, framePlaceholders_cons]
        rcases value with zero | one
        · rw [zero]
          simp
        · rw [one]
          simp [add_comm]
      | true =>
        rw [freshFrames_cons_stale isStale]
        rw [staleCount, List.countP_cons, isStale, Bool.true_and] at none
        rcases value with zero | one
        · rw [zero]
          simp
        · rw [one] at none
          simp at none

theorem Answered.of_stale (answered : Answered config output id before stopped after)
    (isAsync : config.asyncScheduling = true) (nonempty : output.sampledTokenIds id ≠ [])
    (stale : 0 < before.asyncTokensToDiscard) : stopped = false ∧
      after = { before with asyncTokensToDiscard := before.asyncTokensToDiscard - 1 } := by
  cases answered with
  | silent empty => exact absurd empty nonempty
  | pooled empty => exact absurd empty nonempty
  | discarded => exact ⟨rfl, rfl⟩
  | appended _ _ isFresh => exact absurd (isFresh isAsync).1 (not_le_of_gt stale)
  | refused _ isFresh => exact absurd (isFresh isAsync) (not_le_of_gt stale)

theorem Answered.of_fresh (answered : Answered config output id before stopped after)
    (nonempty : output.sampledTokenIds id ≠ []) (fresh : before.asyncTokensToDiscard ≤ 0) :
    ∃ appended, appended ≠ [] ∧ appended <+: output.sampledTokenIds id ∧
      (stopped = false → appended = output.sampledTokenIds id) ∧
      after.allTokenIds = before.allTokenIds ++ appended := by
  cases answered with
  | silent empty => exact absurd empty nonempty
  | pooled empty => exact absurd empty nonempty
  | discarded _ discards => exact absurd fresh (not_le_of_gt discards)
  | @appended updated appended _ _ spec =>
    obtain ⟨_, _, rfl⟩ := spec.record
    exact ⟨appended, spec.nonempty nonempty, spec.isPrefix, fun goesOn => (spec.continued goesOn).2,
      rfl⟩
  | @refused updated appended _ spec =>
    obtain ⟨_, _, rfl⟩ := spec.record
    exact ⟨appended, spec.nonempty nonempty, spec.isPrefix, nofun, rfl⟩

theorem rejectDrafts_nil (sampled : List TokenId) (request : Request) :
    rejectDrafts config [] sampled request = request := rfl

theorem staleCount_cons_stale {frame : Frame}
    (isStale : frame.isStale id = true) : staleCount config (frame :: later) id =
      staleCount config later id + if 0 < frame.placeholders config id then 1 else 0 := by
  rw [staleCount, List.countP_cons, isStale, ← staleCount]
  simp

theorem Answered.stale {frame : Frame}
    (isAsync : config.asyncScheduling = true) (isStale : frame.isStale id = true)
    (counted : (scheduler.request id).asyncTokensToDiscard = staleCount config (frame :: later) id)
    (isMember : id ∈ frame.scheduled.numScheduledTokens.keys) (isLive : id ∈ scheduler.requests)
    (noDrafts : frame.drafts id = []) (answers : frame.Answers config output scheduler)
    (answered : Answered config output id (rejectDrafts config (frame.drafts id)
      (output.sampledTokenIds id) (scheduler.request id)) stopped after)
    (unfinished : after.status.isFinished = false) :
    after = { scheduler.request id with
      asyncTokensToDiscard := staleCount config later id } := by
  rw [noDrafts, rejectDrafts_nil] at answered
  rw [staleCount_cons_stale isStale] at counted
  have goesOn : stopped = false := by
    by_contra stops
    rw [answered.status.1 (by simpa using stops)] at unfinished
    cases unfinished
  have unchanged (empty : output.sampledTokenIds id = [])
      (silent : frame.placeholders config id = 0) :
      after = { scheduler.request id with asyncTokensToDiscard := staleCount config later id } := by
    rw [silent, if_neg (lt_irrefl 0), Nat.add_zero] at counted
    rw [← counted]
    cases answered with
    | silent => rfl
    | pooled => cases goesOn
    | discarded _ _ nonempty => exact absurd empty nonempty
    | appended nonempty => exact absurd empty nonempty
    | refused => cases goesOn
  cases isChunk : frame.isPrefillChunk id with
  | true =>
    exact unchanged (answers.chunk id isMember isLive isChunk) (Frame.placeholders_of_chunk isChunk)
  | false =>
    have value := @Frame.placeholders_of_decode config frame id isMember isChunk
    rw [noDrafts, List.length_nil, Nat.add_zero] at value
    cases isPooling : (scheduler.request id).isPooling with
    | true =>
      obtain ⟨empty, hasOutput⟩ := answers.pooled id isMember isLive isChunk isPooling
      cases answered with
      | silent _ unpooled =>
        rw [isPooling, hasOutput] at unpooled
        cases unpooled
      | pooled => cases goesOn
      | discarded _ _ nonempty => exact absurd empty nonempty
      | appended nonempty => exact absurd empty nonempty
      | refused => cases goesOn
    | false =>
      obtain ⟨accepted, isAccepted, length⟩ := answers.tokens id isMember isLive isChunk isPooling
      rw [noDrafts, List.length_nil, Nat.le_zero] at isAccepted
      rw [isAccepted, Nat.add_zero] at length
      by_cases noSamples : config.numSampledTokensPerStep = 0
      · rw [noSamples] at length value
        exact unchanged (List.length_eq_zero_iff.mp length) value
      · have nonempty : output.sampledTokenIds id ≠ [] := by
          rw [← List.length_pos_iff]
          omega
        rw [if_pos (by omega)] at counted
        obtain ⟨-, isAfter⟩ := answered.of_stale isAsync nonempty (by omega)
        rw [isAfter, counted]
        congr 1
        omega

end DeepSpark
