import DeepSpark.Scheduler.State

/-!
`_try_schedule_encoder_inputs` and the window of multi-modal items it works on.

Owns the loop over the items of one request, with every way it can end, and the
bound the scheduler relies on: the encoder never gives a request more tokens than
were asked for.
-/

namespace DeepSpark

open Lib

/-- What `_try_schedule_encoder_inputs` returns. -/
structure EncoderPlan where
  encoderInputsToSchedule : List Nat
  numNewTokens : Int
  encoderComputeBudget : Int
  externalLoadEncoderInput : List Nat
deriving DecidableEq, Repr

def bisectLeft {α : Type} (items : List α) (key : α → Int) (x : Int) : Nat :=
  (items.takeWhile fun item => key item < x).length

theorem mem_take_bisectLeft {α : Type} {items : List α} {key : α → Int} {x : Int} {item : α}
    (isBefore : item ∈ items.take (bisectLeft items key x)) : key item < x := by
  have isPrefix : items.take (bisectLeft items key x) = items.takeWhile fun item => key item < x :=
    (List.prefix_iff_eq_take.mp (List.takeWhile_prefix _)).symm
  rw [isPrefix] at isBefore
  simpa using List.mem_takeWhile_imp isBefore

def getMmFeaturesInWindow (mmFeatures : List MultiModalFeatureSpec) (start stop : Int) : Nat × Nat :=
  (bisectLeft mmFeatures (fun feature => feature.offset + feature.length) (start + 1),
    bisectLeft mmFeatures (fun feature => feature.offset) stop)

namespace Scheduler

variable {K : Type} (env : Collaborators K) (config : SchedulerConfig)

structure EncoderState (K : Type) where
  kv : K
  plan : EncoderPlan
  mmHashesToSchedule : List String := []
  numEmbedsToSchedule : Nat := 0

def EncoderState.cut (state : EncoderState K) (numNewTokens : Int) : EncoderState K :=
  { state with plan := { state.plan with numNewTokens } }

/-- An item that the encoder computes, or that the EC connector loads. -/
def EncoderState.take (state : EncoderState K) (request : Request)
    (feature : MultiModalFeatureSpec) (inputId : Nat) : EncoderState K :=
  let numEncoderEmbeds := env.getNumEncoderEmbeds request inputId
  { state with
    mmHashesToSchedule := state.mmHashesToSchedule.insert feature.identifier
    numEmbedsToSchedule := state.numEmbedsToSchedule + numEncoderEmbeds
    plan :=
      if config.hasEcConnector && env.hasCacheItem state.kv feature.identifier then
        { state.plan with
          externalLoadEncoderInput := state.plan.externalLoadEncoderInput ++ [inputId] }
      else
        { state.plan with
          encoderInputsToSchedule := state.plan.encoderInputsToSchedule ++ [inputId]
          encoderComputeBudget := state.plan.encoderComputeBudget - numEncoderEmbeds } }

/-- Whether an item needs no work: the same item is already scheduled in this
step, or its embeddings are cached. -/
def EncoderState.isAvailable (state : EncoderState K) (request : Request)
    (feature : MultiModalFeatureSpec) (inputId : Nat) : Bool × K :=
  if config.isEncoderDecoder then (false, state.kv)
  else if feature.identifier ∈ state.mmHashesToSchedule then (true, state.kv)
  else env.checkAndUpdateCache state.kv request inputId

def scheduleEncoderItems (request : Request) (numComputedTokens shiftComputedTokens : Int) :
    EncoderState K → List (MultiModalFeatureSpec × Nat) → Except PyError (EncoderState K)
  | state, [] => .ok state
  | state, (feature, inputId) :: rest =>
    let startPos : Int := feature.offset
    let numNewTokens := state.plan.numNewTokens
    if config.isEncoderDecoder ∧ numComputedTokens > 0 then do
      pyAssert (startPos = 0) ("Encoder input should be processed at the beginning of the sequence " ++
        "when encoder-decoder models are used.")
      scheduleEncoderItems request numComputedTokens shiftComputedTokens state rest
    else
      let (isAvailable, kv) := state.isAvailable env config request feature inputId
      let state := { state with kv }
      if isAvailable then
        scheduleEncoderItems request numComputedTokens shiftComputedTokens state rest
      else if config.disableChunkedMmInput ∧ numComputedTokens < startPos ∧
          numComputedTokens + numNewTokens < startPos + feature.length then
        .ok (state.cut (max 0 (startPos - (numComputedTokens + shiftComputedTokens))))
      else
        let (fits, kv) := env.canAllocateEncoder state.kv request inputId
          state.plan.encoderComputeBudget state.numEmbedsToSchedule
        let state := { state with kv }
        if !fits then
          if numComputedTokens + shiftComputedTokens < startPos then
            .ok (state.cut (startPos - (numComputedTokens + shiftComputedTokens)))
          else .ok (state.cut 0)
        else
          let (embedsStart, embedsEnd) := env.getEmbedsIndicesInRange feature
            (max 0 (numComputedTokens - startPos))
            (min feature.length (numComputedTokens + numNewTokens - startPos))
          if embedsEnd - embedsStart = 0 then
            scheduleEncoderItems request numComputedTokens shiftComputedTokens state rest
          else
            scheduleEncoderItems request numComputedTokens shiftComputedTokens
              (state.take env config request feature inputId) rest

def tryScheduleEncoderInputs (kv : K) (request : Request)
    (numComputedTokens numNewTokens encoderComputeBudget shiftComputedTokens : Int) :
    Except PyError (EncoderPlan × K) :=
  let plan : EncoderPlan := ⟨[], numNewTokens, encoderComputeBudget, []⟩
  if numNewTokens = 0 ∨ request.hasEncoderInputs = false then .ok (plan, kv)
  else do
    let (lo, hi) := getMmFeaturesInWindow request.mmFeatures numComputedTokens
      (numComputedTokens + numNewTokens + shiftComputedTokens)
    let lo := if config.isEncoderDecoder then 0 else lo
    let state ← scheduleEncoderItems env config request numComputedTokens shiftComputedTokens
      { kv, plan } ((request.mmFeatures.zipIdx.take hi).drop lo)
    .ok (state.plan, state.kv)

variable {env config}

theorem EncoderState.take_numNewTokens (state : EncoderState K) (request : Request)
    (feature : MultiModalFeatureSpec) (inputId : Nat) :
    (state.take env config request feature inputId).plan.numNewTokens = state.plan.numNewTokens := by
  unfold EncoderState.take
  split <;> rfl

/-- Items that start before the end of the window can only cut the tokens down. -/
theorem scheduleEncoderItems_numNewTokens {request : Request}
    {numComputedTokens numNewTokens shiftComputedTokens : Int}
    {items : List (MultiModalFeatureSpec × Nat)} {state next : EncoderState K}
    (ran : scheduleEncoderItems env config request numComputedTokens shiftComputedTokens state items =
      .ok next)
    (inWindow : ∀ item ∈ items, (item.1.offset : Int) <
      numComputedTokens + numNewTokens + shiftComputedTokens)
    (uncut : state.plan.numNewTokens = numNewTokens) :
    next.plan.numNewTokens ≤ numNewTokens ∨ next.plan.numNewTokens = 0 := by
  induction items generalizing state with
  | nil =>
    cases ran
    exact .inl uncut.le
  | cons item rest ih =>
    have startsBefore := inWindow _ List.mem_cons_self
    have restInWindow := fun item isItem => inWindow item (List.mem_cons_of_mem _ isItem)
    rw [scheduleEncoderItems] at ran
    dsimp only at ran startsBefore
    split at ran
    next =>
      obtain ⟨_, -, ran⟩ := bind_eq_ok.mp ran
      exact ih ran restInWindow uncut
    next =>
      split at ran
      next => exact ih ran restInWindow uncut
      next =>
        split at ran
        next =>
          cases ran
          show max 0 _ ≤ _ ∨ max 0 _ = 0
          omega
        next =>
          split at ran
          next =>
            split at ran
            next =>
              cases ran
              left
              show _ - _ ≤ _
              omega
            next =>
              cases ran
              exact .inr rfl
          next =>
            split at ran
            next => exact ih ran restInWindow uncut
            next =>
              apply ih ran restInWindow
              rw [EncoderState.take_numNewTokens]
              exact uncut

theorem tryScheduleEncoderInputs_numNewTokens {kv nextKv : K} {request : Request}
    {numComputedTokens numNewTokens encoderComputeBudget shiftComputedTokens : Int}
    {plan : EncoderPlan}
    (ran : tryScheduleEncoderInputs env config kv request numComputedTokens numNewTokens
      encoderComputeBudget shiftComputedTokens = .ok (plan, nextKv)) :
    plan.numNewTokens ≤ numNewTokens ∨ plan.numNewTokens = 0 := by
  unfold tryScheduleEncoderInputs at ran
  split at ran
  next =>
    cases ran
    exact .inl le_rfl
  next =>
    obtain ⟨state, loop, ran⟩ := bind_eq_ok.mp ran
    cases ran
    refine scheduleEncoderItems_numNewTokens loop (fun item isItem => ?_) rfl
    have mapped := List.mem_map_of_mem (f := Prod.fst) (List.mem_of_mem_drop isItem)
    rw [List.map_take, List.zipIdx_map_fst] at mapped
    exact @mem_take_bisectLeft _ _ (fun feature : MultiModalFeatureSpec => (feature.offset : Int)) _ _
      mapped

end Scheduler

end DeepSpark
