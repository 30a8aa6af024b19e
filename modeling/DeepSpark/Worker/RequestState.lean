import DeepSpark.Scheduler.Schedule

/-!
The request slots of the runner: the host side of `RequestState` of
`v1/worker/gpu/states.py` and the parts of `model_runner.py` that move requests in and
out of it.

Owns the three collections of slots, the operations on them, what keeps them consistent,
and the bound on the slots in use.
-/

namespace DeepSpark

open Lib PyDict

structure RequestState where
  reqIdToIndex : PyDict ReqId Nat
  indexToReqId : PyDict Nat ReqId
  freeIndices : List Nat

variable {other : ReqId} {reqIds : List ReqId}

namespace RequestState

def init (maxNumReqs : Nat) : RequestState := ⟨.empty, .empty, List.range maxNumReqs⟩

/-- `RequestState.add_request`; `free_indices.pop()` takes the last one. -/
def addRequest (self : RequestState) (reqId : ReqId) : Except PyError RequestState :=
  match self.freeIndices.getLast? with
  | none => .error (.assertionError "No free indices")
  | some reqIdx =>
    .ok { reqIdToIndex := self.reqIdToIndex.set reqId reqIdx
          indexToReqId := self.indexToReqId.set reqIdx reqId
          freeIndices := self.freeIndices.dropLast }

def removeRequest (self : RequestState) (reqId : ReqId) : RequestState :=
  match self.reqIdToIndex.get? reqId with
  | none => self
  | some reqIdx =>
    { reqIdToIndex := self.reqIdToIndex.erase reqId
      indexToReqId := self.indexToReqId.erase reqIdx
      freeIndices := self.freeIndices ++ [reqIdx] }

def finishRequests (self : RequestState) (schedulerOutput : SchedulerOutput) : RequestState :=
  (schedulerOutput.finishedReqIds ++ schedulerOutput.preemptedReqIds).foldl removeRequest self

/-- `ModelRunner.add_requests` for one request: a request that is there gives up its slot. -/
def addNewRequest (self : RequestState) (reqId : ReqId) : Except PyError RequestState :=
  (self.removeRequest reqId).addRequest reqId

/-- `ModelRunner.add_requests`; resumed requests come as new ones. -/
def addRequests (self : RequestState) (schedulerOutput : SchedulerOutput) : Except PyError RequestState :=
  (schedulerOutput.scheduledNewReqs ++ schedulerOutput.scheduledResumedReqs).foldlM addNewRequest self

/-- `ModelRunner.update_requests` looks the scheduled running requests up. -/
def updateRequests (self : RequestState) (schedulerOutput : SchedulerOutput) : Except PyError Unit :=
  forM schedulerOutput.scheduledRunningReqs fun reqId =>
    match self.reqIdToIndex.get? reqId with
    | none => .error (.keyError "req_id")
    | some _ => .ok ()

def executeModel (self : RequestState) (schedulerOutput : SchedulerOutput) : Except PyError RequestState := do
  let added ← (self.finishRequests schedulerOutput).addRequests schedulerOutput
  added.updateRequests schedulerOutput
  .ok added

def holders (self : RequestState) : List ReqId := self.reqIdToIndex.keys

/-- The two dictionaries are inverse to each other, and the free indices are the unused
ones, each once. -/
structure Consistent (maxNumReqs : Nat) (states : RequestState) : Prop where
  inverse : ∀ reqId index, states.reqIdToIndex.get? reqId = some index ↔ states.indexToReqId.get? index = some reqId
  bounded : ∀ reqId index, states.reqIdToIndex.get? reqId = some index → index < maxNumReqs
  freeNodup : states.freeIndices.Nodup
  free : ∀ index, index ∈ states.freeIndices ↔ index < maxNumReqs ∧ states.indexToReqId.get? index = none

variable {maxNumReqs : Nat} {self next : RequestState} {reqId : ReqId}

theorem Consistent.injective (consistent : Consistent maxNumReqs self) {left right : ReqId} {index : Nat}
    (isLeft : self.reqIdToIndex.get? left = some index) (isRight : self.reqIdToIndex.get? right = some index) :
    left = right := by
  have leftBack := (consistent.inverse left index).mp isLeft
  have rightBack := (consistent.inverse right index).mp isRight
  rw [leftBack] at rightBack
  exact Option.some.inj rightBack

theorem init_consistent (maxNumReqs : Nat) : Consistent maxNumReqs (init maxNumReqs) where
  inverse _ _ := ⟨nofun, nofun⟩
  bounded _ _ := nofun
  freeNodup := List.nodup_range
  free _ := ⟨fun inRange => ⟨List.mem_range.mp inRange, rfl⟩, fun below => List.mem_range.mpr below.1⟩

/-! ## Removing -/

theorem removeRequest_holders :
    other ∈ (self.removeRequest reqId).holders ↔ other ≠ reqId ∧ other ∈ self.holders := by
  unfold removeRequest
  split
  next absent =>
    constructor
    · intro isHolder
      refine ⟨?_, isHolder⟩
      rintro rfl
      exact get?_eq_none.mp absent isHolder
    · exact And.right
  next index found =>
    show other ∈ (self.reqIdToIndex.erase reqId).keys ↔ _
    rw [mem_keys]
    by_cases same : other = reqId
    · subst same
      rw [get?_erase_self]
      constructor
      · rintro ⟨_, read⟩
        cases read
      · rintro ⟨differ, -⟩
        exact absurd rfl differ
    · rw [get?_erase_of_ne _ same, ← mem_keys]
      exact ⟨fun isHolder => ⟨same, isHolder⟩, And.right⟩

theorem Consistent.removeRequest (consistent : Consistent maxNumReqs self) (reqId : ReqId) :
    Consistent maxNumReqs (self.removeRequest reqId) := by
  unfold RequestState.removeRequest
  split
  next => exact consistent
  next reqIdx found =>
    have back := (consistent.inverse reqId reqIdx).mp found
    refine ⟨?_, ?_, ?_, ?_⟩
    · intro other index
      by_cases same : other = reqId
      · rw [same, get?_erase_self]
        refine ⟨nofun, fun read => ?_⟩
        by_cases sameIndex : index = reqIdx
        · rw [sameIndex, get?_erase_self] at read
          cases read
        · rw [get?_erase_of_ne _ sameIndex] at read
          have forth := (consistent.inverse reqId index).mpr read
          rw [found] at forth
          exact absurd (Option.some.inj forth).symm sameIndex
      · rw [get?_erase_of_ne _ same]
        by_cases sameIndex : index = reqIdx
        · rw [sameIndex, get?_erase_self]
          refine ⟨fun read => absurd (consistent.injective read found) same, nofun⟩
        · rw [get?_erase_of_ne _ sameIndex]
          exact consistent.inverse other index
    · intro other index read
      by_cases same : other = reqId
      · rw [same, get?_erase_self] at read
        cases read
      · rw [get?_erase_of_ne _ same] at read
        exact consistent.bounded other index read
    · apply consistent.freeNodup.append (List.nodup_singleton _)
      rw [List.disjoint_singleton, consistent.free]
      rintro ⟨-, unused⟩
      rw [back] at unused
      cases unused
    · intro index
      rw [List.mem_append, List.mem_singleton, consistent.free]
      by_cases sameIndex : index = reqIdx
      · rw [sameIndex, get?_erase_self]
        exact ⟨fun _ => ⟨consistent.bounded reqId reqIdx found, rfl⟩, fun _ => Or.inr rfl⟩
      · rw [get?_erase_of_ne _ sameIndex]
        exact ⟨fun either => either.resolve_right sameIndex, Or.inl⟩

theorem Consistent.finishRequests (consistent : Consistent maxNumReqs self) (schedulerOutput : SchedulerOutput) :
    Consistent maxNumReqs (self.finishRequests schedulerOutput) :=
  foldl_preserves (fun _ reqId holds => holds.removeRequest reqId) consistent

theorem foldl_removeRequest_holders :
    other ∈ (reqIds.foldl RequestState.removeRequest self).holders ↔ other ∉ reqIds ∧ other ∈ self.holders := by
  induction reqIds generalizing self with
  | nil => simp only [List.foldl_nil, List.not_mem_nil, not_false_iff, true_and]
  | cons reqId rest ih =>
    rw [List.foldl_cons, ih, removeRequest_holders, List.mem_cons, not_or]
    exact ⟨fun ⟨notRest, differ, isHolder⟩ => ⟨⟨differ, notRest⟩, isHolder⟩,
      fun ⟨⟨differ, notRest⟩, isHolder⟩ => ⟨notRest, differ, isHolder⟩⟩

theorem finishRequests_holders {schedulerOutput : SchedulerOutput} :
    other ∈ (self.finishRequests schedulerOutput).holders ↔
      (other ∉ schedulerOutput.finishedReqIds ∧ other ∉ schedulerOutput.preemptedReqIds) ∧ other ∈ self.holders := by
  rw [finishRequests, foldl_removeRequest_holders, List.mem_append, not_or]

/-! ## Adding -/

theorem addRequest_holders (ran : self.addRequest reqId = .ok next) :
    other ∈ next.holders ↔ other = reqId ∨ other ∈ self.holders := by
  unfold addRequest at ran
  split at ran
  next => cases ran
  next reqIdx _ =>
    cases ran
    show other ∈ (self.reqIdToIndex.set reqId reqIdx).keys ↔ _
    rw [mem_keys]
    by_cases same : other = reqId
    · rw [same, get?_set_self]
      exact ⟨fun _ => Or.inl rfl, fun _ => ⟨_, rfl⟩⟩
    · rw [get?_set_of_ne _ _ same, ← mem_keys]
      exact ⟨Or.inr, fun either => either.resolve_left same⟩

theorem Consistent.addRequest (consistent : Consistent maxNumReqs self) (absent : reqId ∉ self.holders)
    (ran : self.addRequest reqId = .ok next) : Consistent maxNumReqs next := by
  unfold RequestState.addRequest at ran
  split at ran
  next => cases ran
  next reqIdx isLast =>
    cases ran
    obtain ⟨front, isFront⟩ := List.getLast?_eq_some_iff.mp isLast
    have wasFree : reqIdx ∈ self.freeIndices := List.mem_of_getLast? isLast
    obtain ⟨below, unused⟩ := (consistent.free reqIdx).mp wasFree
    have notHolder := get?_eq_none.mpr absent
    have nodup := consistent.freeNodup
    rw [isFront, List.nodup_append] at nodup
    refine ⟨?_, ?_, ?_, ?_⟩
    · intro other index
      by_cases same : other = reqId
      · rw [same, get?_set_self]
        by_cases sameIndex : index = reqIdx
        · rw [sameIndex, get?_set_self]
          exact ⟨fun _ => rfl, fun _ => rfl⟩
        · rw [get?_set_of_ne _ _ sameIndex]
          refine ⟨fun read => absurd (Option.some.inj read).symm sameIndex, fun read => ?_⟩
          have forth := (consistent.inverse reqId index).mpr read
          rw [notHolder] at forth
          cases forth
      · rw [get?_set_of_ne _ _ same]
        by_cases sameIndex : index = reqIdx
        · rw [sameIndex, get?_set_self]
          refine ⟨fun read => ?_, fun read => absurd (Option.some.inj read).symm same⟩
          have back := (consistent.inverse other reqIdx).mp read
          rw [unused] at back
          cases back
        · rw [get?_set_of_ne _ _ sameIndex]
          exact consistent.inverse other index
    · intro other index read
      by_cases same : other = reqId
      · rw [same, get?_set_self] at read
        rw [← Option.some.inj read]
        exact below
      · rw [get?_set_of_ne _ _ same] at read
        exact consistent.bounded other index read
    · rw [isFront, List.dropLast_concat]
      exact nodup.1
    · intro index
      rw [isFront, List.dropLast_concat]
      have wasMember := consistent.free index
      rw [isFront, List.mem_append, List.mem_singleton] at wasMember
      by_cases sameIndex : index = reqIdx
      · rw [sameIndex, get?_set_self]
        refine ⟨fun inFront => ?_, nofun⟩
        exact absurd rfl (nodup.2.2 reqIdx inFront reqIdx (List.mem_singleton_self _))
      · rw [get?_set_of_ne _ _ sameIndex, ← wasMember]
        exact ⟨Or.inl, fun either => either.resolve_right sameIndex⟩

theorem Consistent.addNewRequest (consistent : Consistent maxNumReqs self)
    (ran : self.addNewRequest reqId = .ok next) : Consistent maxNumReqs next :=
  (consistent.removeRequest reqId).addRequest (fun isHolder => (removeRequest_holders.mp isHolder).1 rfl) ran

theorem addNewRequest_holders (ran : self.addNewRequest reqId = .ok next) :
    other ∈ next.holders ↔ other = reqId ∨ other ∈ self.holders := by
  rw [addRequest_holders ran, removeRequest_holders]
  by_cases same : other = reqId
  · simp only [same, true_or]
  · simp only [same, not_false_iff, true_and, ne_eq, false_or]

/-! ## Room -/

theorem Consistent.full (consistent : Consistent maxNumReqs self) (none_free : self.freeIndices = []) :
    maxNumReqs ≤ self.holders.length := by
  have used : ∀ index ∈ List.range maxNumReqs, ∃ reqId, self.indexToReqId.get? index = some reqId := by
    intro index inRange
    cases found : self.indexToReqId.get? index with
    | some reqId => exact ⟨reqId, rfl⟩
    | none =>
      have isFree := (consistent.free index).mpr ⟨List.mem_range.mp inRange, found⟩
      rw [none_free] at isFree
      cases isFree
  have nodup : ((List.range maxNumReqs).filterMap self.indexToReqId.get?).Nodup := by
    apply List.Nodup.filterMap _ List.nodup_range
    intro left right reqId isLeft isRight
    have leftForth := (consistent.inverse reqId left).mpr isLeft
    have rightForth := (consistent.inverse reqId right).mpr isRight
    rw [leftForth] at rightForth
    exact Option.some.inj rightForth
  have inHolders : ((List.range maxNumReqs).filterMap self.indexToReqId.get?) ⊆ self.holders := by
    intro reqId member
    obtain ⟨index, -, read⟩ := List.mem_filterMap.mp member
    exact mem_keys.mpr ⟨index, (consistent.inverse reqId index).mpr read⟩
  have length : ((List.range maxNumReqs).filterMap self.indexToReqId.get?).length = maxNumReqs := by
    rw [List.length_filterMap_eq_countP, List.countP_eq_length.mpr, List.length_range]
    intro index inRange
    obtain ⟨reqId, read⟩ := used index inRange
    rw [read]
    rfl
  rw [← length]
  exact (List.subperm_of_subset nodup inHolders).length_le

theorem Consistent.addNewRequest_ok (consistent : Consistent maxNumReqs self)
    (within : ∀ other ∈ self.holders, other ∈ reqIds) (isMember : reqId ∈ reqIds)
    (bound : reqIds.dedup.length ≤ maxNumReqs) : ∃ next, self.addNewRequest reqId = .ok next := by
  unfold RequestState.addNewRequest RequestState.addRequest
  split
  next noFree =>
    have full := (consistent.removeRequest reqId).full (List.getLast?_eq_none_iff.mp noFree)
    have smaller : (self.removeRequest reqId).holders.length < reqIds.dedup.length := by
      have nodup : (reqId :: (self.removeRequest reqId).holders).Nodup := by
        rw [List.nodup_cons]
        exact ⟨fun isHolder => (removeRequest_holders.mp isHolder).1 rfl, keys_nodup _⟩
      have subset : (reqId :: (self.removeRequest reqId).holders) ⊆ reqIds.dedup := by
        intro other member
        rw [List.mem_dedup]
        rcases List.mem_cons.mp member with rfl | isHolder
        · exact isMember
        · exact within other (removeRequest_holders.mp isHolder).2
      exact (List.subperm_of_subset nodup subset).length_le
    omega
  next => exact ⟨_, rfl⟩

theorem Consistent.addRequests_ok (consistent : Consistent maxNumReqs self) {added : List ReqId}
    (within : ∀ other ∈ self.holders, other ∈ reqIds) (areMembers : ∀ reqId ∈ added, reqId ∈ reqIds)
    (bound : reqIds.dedup.length ≤ maxNumReqs) :
    ∃ next, added.foldlM RequestState.addNewRequest self = .ok next ∧ Consistent maxNumReqs next ∧
      ∀ other, other ∈ next.holders ↔ other ∈ added ∨ other ∈ self.holders := by
  induction added generalizing self with
  | nil =>
    exact ⟨self, rfl, consistent, fun other => ⟨Or.inr, fun either => either.resolve_left List.not_mem_nil⟩⟩
  | cons reqId rest ih =>
    obtain ⟨mid, ran⟩ := consistent.addNewRequest_ok within (areMembers reqId List.mem_cons_self) bound
    have midWithin : ∀ other ∈ mid.holders, other ∈ reqIds := by
      intro other isHolder
      rcases (addNewRequest_holders ran).mp isHolder with rfl | wasHolder
      · exact areMembers other List.mem_cons_self
      · exact within other wasHolder
    obtain ⟨next, ranRest, isConsistent, holders⟩ := ih (consistent.addNewRequest ran) midWithin
      fun other member => areMembers other (List.mem_cons_of_mem _ member)
    refine ⟨next, bind_eq_ok.mpr ⟨mid, ran, ranRest⟩, isConsistent, ?_⟩
    intro other
    rw [holders, addNewRequest_holders ran, List.mem_cons]
    constructor
    · rintro (inRest | isReq | wasHolder)
      · exact Or.inl (Or.inr inRest)
      · exact Or.inl (Or.inl isReq)
      · exact Or.inr wasHolder
    · rintro ((isReq | inRest) | wasHolder)
      · exact Or.inr (Or.inl isReq)
      · exact Or.inl inRest
      · exact Or.inr (Or.inr wasHolder)

end RequestState

end DeepSpark
