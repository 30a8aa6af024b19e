import DeepSpark.BlockPool.Pool
import DeepSpark.Lib.PyDict

/-!
Recovery from failed KV loads: `_update_requests_with_invalid_blocks` of
`v1/core/sched/scheduler.py`.

Owns the pass over the requests that truncates each one at its first unmarked
invalid block, and the relation between a request and the earlier one that
recomputes the blocks they share. Block tables are read through the manager's
`get_block_ids`; requests are values, in the order the pass visits them.
-/

namespace DeepSpark

open Lib

variable {reqBlockIds : List BlockId}

namespace InvalidBlocks

/-- The local variables of the loop over the blocks of one request, and the
accumulators it shares with the other requests. -/
structure BlockScan where
  isAffected : Bool
  markedInvalidBlock : Bool
  numComputedTokens : Int
  totalAffectedTokens : Int
  blocksToEvict : List BlockId
  markedInvalidBlockIds : List BlockId
deriving DecidableEq, Repr

structure Report where
  affectedReqIds : List ReqId := []
  totalAffectedTokens : Int := 0
  blocksToEvict : List BlockId := []
  markedInvalidBlockIds : List BlockId := []
deriving DecidableEq, Repr

section

variable (blockSize : Nat) (invalidBlockIds : List BlockId)
  (numScheduledTokens : PyDict ReqId Nat) (evictBlocks : Bool)

def visitBlock (reqNumComputedTokens : Int) (reqBlockIds : List BlockId) (idx : Nat)
    (blockId : BlockId) (scan : BlockScan) : BlockScan :=
  if blockId ∈ invalidBlockIds then
    let scan := { scan with isAffected := true }
    if blockId ∈ scan.markedInvalidBlockIds then scan
    else
      let scan := { scan with markedInvalidBlockIds := blockId :: scan.markedInvalidBlockIds }
      if scan.markedInvalidBlock then scan
      else
        { scan with
          markedInvalidBlock := true
          numComputedTokens := idx * blockSize
          totalAffectedTokens :=
            scan.totalAffectedTokens + (reqNumComputedTokens - idx * blockSize)
          blocksToEvict :=
            if evictBlocks then scan.blocksToEvict ++ reqBlockIds.drop idx
            else scan.blocksToEvict }
  else scan

def scanBlocks (reqNumComputedTokens : Int) (reqBlockIds : List BlockId) :
    Nat → List BlockId → BlockScan → BlockScan
  | _, [], scan => scan
  | idx, blockId :: rest, scan =>
    scanBlocks reqNumComputedTokens reqBlockIds (idx + 1) rest
      (visitBlock blockSize invalidBlockIds evictBlocks reqNumComputedTokens reqBlockIds idx
        blockId scan)

/-- `request.num_computed_tokens - num_scheduled_tokens.get(req_id, 0)`. -/
def reqNumComputedTokens (request : Request) : Int :=
  request.numComputedTokens - ((numScheduledTokens.get? request.requestId).getD 0 : Nat)

def reqNumComputedBlocks (request : Request) : Nat :=
  ((reqNumComputedTokens numScheduledTokens request + blockSize - 1) / blockSize).toNat

/-- One round of the loop over the requests; `reqBlockIds` is the unpacked table. -/
def scanRequest (reqBlockIds : List BlockId) (request : Request) (report : Report) :
    Request × Report :=
  let reqNumComputed := reqNumComputedTokens numScheduledTokens request
  let scan := scanBlocks blockSize invalidBlockIds evictBlocks reqNumComputed reqBlockIds 0
    (reqBlockIds.take (reqNumComputedBlocks blockSize numScheduledTokens request))
    { isAffected := false
      markedInvalidBlock := false
      numComputedTokens := request.numComputedTokens
      totalAffectedTokens := report.totalAffectedTokens
      blocksToEvict := report.blocksToEvict
      markedInvalidBlockIds := report.markedInvalidBlockIds }
  if scan.isAffected then
    let affectedReqIds := report.affectedReqIds ++ [request.requestId]
    if scan.markedInvalidBlock then
      ({ request with numComputedTokens := scan.numComputedTokens },
        ⟨affectedReqIds, scan.totalAffectedTokens, scan.blocksToEvict, scan.markedInvalidBlockIds⟩)
    else
      ({ request with numComputedTokens := reqNumComputed },
        ⟨affectedReqIds,
          scan.totalAffectedTokens + (scan.numComputedTokens - reqNumComputed),
          scan.blocksToEvict, scan.markedInvalidBlockIds⟩)
  else
    (request, ⟨report.affectedReqIds, scan.totalAffectedTokens, scan.blocksToEvict,
      scan.markedInvalidBlockIds⟩)

/-- `(req_block_ids,) = self.kv_cache_manager.get_block_ids(req_id)`. -/
def unpackBlockIds : List (List BlockId) → Except PyError (List BlockId)
  | [reqBlockIds] => .ok reqBlockIds
  | [] => .error (.valueError "not enough values to unpack (expected 1, got 0)")
  | _ => .error (.valueError "too many values to unpack (expected 1)")

/-- `_update_requests_with_invalid_blocks`, from a state of the accumulators on. -/
def updateRequestsWithInvalidBlocks (getBlockIds : ReqId → List (List BlockId)) :
    List Request → Report → Except PyError (List Request × Report)
  | [], report => .ok ([], report)
  | request :: rest, report => do
      let reqBlockIds ← unpackBlockIds (getBlockIds request.requestId)
      let (updated, report) := scanRequest blockSize invalidBlockIds numScheduledTokens evictBlocks
        reqBlockIds request report
      let (others, report) ← updateRequestsWithInvalidBlocks getBlockIds rest report
      .ok (updated :: others, report)

end

variable {blockSize : Nat} {invalidBlockIds : List BlockId}
  {numScheduledTokens : PyDict ReqId Nat} {evictBlocks : Bool}

/-! ## One request -/

/-- After the loop exactly the invalid blocks it met are marked besides the old ones. -/
theorem scanBlocks_marked {reqNumComputed : Int}
    (rest : List BlockId) (idx : Nat) (scan : BlockScan) (blockId : BlockId) :
    blockId ∈ (scanBlocks blockSize invalidBlockIds evictBlocks reqNumComputed reqBlockIds idx rest
        scan).markedInvalidBlockIds ↔
      blockId ∈ scan.markedInvalidBlockIds ∨ blockId ∈ rest ∧ blockId ∈ invalidBlockIds := by
  induction rest generalizing idx scan with
  | nil => simp [scanBlocks]
  | cons head rest ih =>
    have visited : blockId ∈ (visitBlock blockSize invalidBlockIds evictBlocks reqNumComputed
        reqBlockIds idx head scan).markedInvalidBlockIds ↔
        blockId ∈ scan.markedInvalidBlockIds ∨ blockId = head ∧ blockId ∈ invalidBlockIds := by
      unfold visitBlock
      dsimp only
      split_ifs with isInvalid isMarked
      · constructor
        · exact Or.inl
        · rintro (wasMarked | ⟨rfl, -⟩)
          · exact wasMarked
          · exact isMarked
      all_goals grind
    rw [scanBlocks, ih, visited, List.mem_cons]
    grind

variable (blockSize invalidBlockIds evictBlocks) in
theorem scanBlocks_affected (reqNumComputed : Int) (reqBlockIds : List BlockId)
    (rest : List BlockId) (idx : Nat) (scan : BlockScan) :
    (scanBlocks blockSize invalidBlockIds evictBlocks reqNumComputed reqBlockIds idx rest
        scan).isAffected = true ↔
      scan.isAffected = true ∨ ∃ blockId ∈ rest, blockId ∈ invalidBlockIds := by
  induction rest generalizing idx scan with
  | nil => simp [scanBlocks]
  | cons head rest ih =>
    have visited : (visitBlock blockSize invalidBlockIds evictBlocks reqNumComputed reqBlockIds idx
        head scan).isAffected = true ↔ scan.isAffected = true ∨ head ∈ invalidBlockIds := by
      unfold visitBlock
      dsimp only
      split_ifs with isInvalid <;> simp [isInvalid]
    rw [scanBlocks, ih, visited, or_assoc, List.exists_mem_cons_iff]

variable (blockSize invalidBlockIds evictBlocks) in
theorem scanBlocks_keeps (reqNumComputed : Int) (reqBlockIds : List BlockId)
    (rest : List BlockId) (idx : Nat) {scan : BlockScan} (isMarked : scan.markedInvalidBlock = true) :
    (scanBlocks blockSize invalidBlockIds evictBlocks reqNumComputed reqBlockIds idx rest
        scan).markedInvalidBlock = true ∧
      (scanBlocks blockSize invalidBlockIds evictBlocks reqNumComputed reqBlockIds idx rest
        scan).numComputedTokens = scan.numComputedTokens := by
  induction rest generalizing idx scan with
  | nil => exact ⟨isMarked, rfl⟩
  | cons head rest ih =>
    have visited : (visitBlock blockSize invalidBlockIds evictBlocks reqNumComputed reqBlockIds idx
          head scan).markedInvalidBlock = true ∧
        (visitBlock blockSize invalidBlockIds evictBlocks reqNumComputed reqBlockIds idx
          head scan).numComputedTokens = scan.numComputedTokens := by
      unfold visitBlock
      dsimp only
      split_ifs
      all_goals exact ⟨isMarked, rfl⟩
    obtain ⟨stays, same⟩ := ih (idx + 1) visited.1
    exact ⟨stays, same.trans visited.2⟩

variable (blockSize invalidBlockIds evictBlocks) in
/-- The loop truncates at the first invalid block that was not marked before, and
leaves the length alone when there is none. -/
theorem scanBlocks_truncates (reqNumComputed : Int) (reqBlockIds : List BlockId)
    (rest : List BlockId) (idx : Nat) {scan : BlockScan} (unmarked : scan.markedInvalidBlock = false) :
    ((scanBlocks blockSize invalidBlockIds evictBlocks reqNumComputed reqBlockIds idx rest
        scan).markedInvalidBlock = false ∧
      (scanBlocks blockSize invalidBlockIds evictBlocks reqNumComputed reqBlockIds idx rest
        scan).numComputedTokens = scan.numComputedTokens ∧
      ∀ blockId ∈ rest, blockId ∈ invalidBlockIds → blockId ∈ scan.markedInvalidBlockIds) ∨
    (scanBlocks blockSize invalidBlockIds evictBlocks reqNumComputed reqBlockIds idx rest
        scan).markedInvalidBlock = true ∧
      ∃ first < rest.length,
        (scanBlocks blockSize invalidBlockIds evictBlocks reqNumComputed reqBlockIds idx rest
          scan).numComputedTokens = ((idx + first : Nat) : Int) * blockSize ∧
        ∀ (before : Nat) (blockId : BlockId), before < first → rest[before]? = some blockId →
          blockId ∈ invalidBlockIds → blockId ∈ scan.markedInvalidBlockIds := by
  induction rest generalizing idx scan with
  | nil => exact .inl ⟨unmarked, rfl, by simp⟩
  | cons head rest ih =>
    rw [scanBlocks]
    by_cases fresh : head ∈ invalidBlockIds ∧ head ∉ scan.markedInvalidBlockIds
    · -- this block truncates the request
      right
      set visited := visitBlock blockSize invalidBlockIds evictBlocks reqNumComputed reqBlockIds idx
        head scan with isVisited
      have truncated : visited.markedInvalidBlock = true ∧
          visited.numComputedTokens = (idx : Int) * blockSize := by
        rw [isVisited, visitBlock]
        simp [fresh.1, fresh.2, unmarked]
      obtain ⟨stays, same⟩ := scanBlocks_keeps blockSize invalidBlockIds evictBlocks reqNumComputed
        reqBlockIds rest (idx + 1) truncated.1
      refine ⟨stays, 0, by simp, ?_, fun before blockId below => absurd below (by omega)⟩
      rw [same, truncated.2, Nat.add_zero]
    · have visited : (visitBlock blockSize invalidBlockIds evictBlocks reqNumComputed reqBlockIds idx
            head scan).markedInvalidBlock = false ∧
          (visitBlock blockSize invalidBlockIds evictBlocks reqNumComputed reqBlockIds idx
            head scan).numComputedTokens = scan.numComputedTokens ∧
          (visitBlock blockSize invalidBlockIds evictBlocks reqNumComputed reqBlockIds idx
            head scan).markedInvalidBlockIds = scan.markedInvalidBlockIds := by
        unfold visitBlock
        dsimp only
        split
        next isInvalid =>
          split
          next => exact ⟨unmarked, rfl, rfl⟩
          next notMarked => exact absurd ⟨isInvalid, notMarked⟩ fresh
        next => exact ⟨unmarked, rfl, rfl⟩
      have headMarked : head ∈ invalidBlockIds → head ∈ scan.markedInvalidBlockIds := by
        intro isInvalid
        by_contra notMarked
        exact fresh ⟨isInvalid, notMarked⟩
      rcases ih (idx + 1) visited.1 with
        ⟨stays, same, allMarked⟩ | ⟨truncated, first, below, length, allMarked⟩
      · refine .inl ⟨stays, same.trans visited.2.1, ?_⟩
        intro blockId member isInvalid
        rcases List.mem_cons.mp member with rfl | inRest
        · exact headMarked isInvalid
        · rw [← visited.2.2]
          exact allMarked blockId inRest isInvalid
      · refine .inr ⟨truncated, first + 1, by simpa using below, ?_, ?_⟩
        · rw [length, Nat.add_assoc, Nat.add_comm 1 first]
        · intro before blockId isBefore read isInvalid
          cases before with
          | zero =>
            cases read
            exact headMarked isInvalid
          | succ before =>
            rw [← visited.2.2]
            exact allMarked before blockId (by omega) read isInvalid

variable (blockSize invalidBlockIds numScheduledTokens evictBlocks) in
/-- What the pass makes of one request, given the blocks earlier requests marked:
it holds no invalid computed block, it is truncated at the first unmarked one, or
all of them are marked and it loses its schedule-time advance. -/
theorem scanRequest_spec (reqBlockIds : List BlockId) (request : Request) (report : Report) :
    ((∀ blockId ∈ reqBlockIds.take (reqNumComputedBlocks blockSize numScheduledTokens request),
        blockId ∉ invalidBlockIds) ∧
      (scanRequest blockSize invalidBlockIds numScheduledTokens evictBlocks reqBlockIds request
        report).1 = request) ∨
    (∃ blockId ∈ reqBlockIds.take (reqNumComputedBlocks blockSize numScheduledTokens request),
        blockId ∈ invalidBlockIds) ∧
    (∃ numComputedTokens, (scanRequest blockSize invalidBlockIds numScheduledTokens evictBlocks
        reqBlockIds request report).1 = { request with numComputedTokens } ∧
      ((∃ first < reqNumComputedBlocks blockSize numScheduledTokens request,
          numComputedTokens = (first : Int) * blockSize ∧
          ∀ (before : Nat) (blockId : BlockId), before < first → reqBlockIds[before]? = some blockId →
            blockId ∈ invalidBlockIds → blockId ∈ report.markedInvalidBlockIds) ∨
        numComputedTokens = reqNumComputedTokens numScheduledTokens request ∧
          ∀ blockId ∈ reqBlockIds.take (reqNumComputedBlocks blockSize numScheduledTokens request),
            blockId ∈ invalidBlockIds → blockId ∈ report.markedInvalidBlockIds)) := by
  set row := reqBlockIds.take (reqNumComputedBlocks blockSize numScheduledTokens request) with isRow
  set start : BlockScan := ⟨false, false, request.numComputedTokens, report.totalAffectedTokens,
    report.blocksToEvict, report.markedInvalidBlockIds⟩ with isStart
  have affected := scanBlocks_affected blockSize invalidBlockIds evictBlocks
    (reqNumComputedTokens numScheduledTokens request) reqBlockIds row 0 start
  have truncates := scanBlocks_truncates blockSize invalidBlockIds evictBlocks
    (reqNumComputedTokens numScheduledTokens request) reqBlockIds row 0
    (show start.markedInvalidBlock = false from rfl)
  rw [scanRequest]
  rw [← isRow, ← isStart]
  split
  next isAffected =>
    refine .inr ⟨by simpa using affected.mp isAffected, ?_⟩
    rcases truncates with ⟨unmarked, -, allMarked⟩ | ⟨isMarked, first, below, length, allMarked⟩
    · rw [if_neg (by rw [unmarked]; exact Bool.false_ne_true)]
      exact ⟨_, rfl, .inr ⟨rfl, allMarked⟩⟩
    · rw [if_pos isMarked]
      refine ⟨_, rfl, .inl ⟨first, ?_, ?_, ?_⟩⟩
      · rw [isRow, List.length_take] at below
        omega
      · rw [length, Nat.zero_add]
      · intro before blockId isBefore read
        refine allMarked before blockId isBefore ?_
        rw [isRow, List.length_take] at below
        rw [isRow, List.getElem?_take_of_lt (by omega)]
        exact read
  next unaffected =>
    left
    refine ⟨fun blockId member isInvalid => unaffected ?_, rfl⟩
    exact affected.mpr (.inr ⟨blockId, member, isInvalid⟩)

variable (blockSize invalidBlockIds numScheduledTokens evictBlocks) in
theorem scanRequest_marked (reqBlockIds : List BlockId) (request : Request) (report : Report)
    (blockId : BlockId) :
    blockId ∈ (scanRequest blockSize invalidBlockIds numScheduledTokens evictBlocks reqBlockIds
        request report).2.markedInvalidBlockIds ↔
      blockId ∈ report.markedInvalidBlockIds ∨
        blockId ∈ reqBlockIds.take (reqNumComputedBlocks blockSize numScheduledTokens request) ∧
          blockId ∈ invalidBlockIds := by
  rw [scanRequest]
  split
  next =>
    split
    next => exact scanBlocks_marked _ _ _ _
    next => exact scanBlocks_marked _ _ _ _
  next => exact scanBlocks_marked _ _ _ _

theorem start_lt_of_computed {request : Request} {index : Nat}
    (computed : index < reqNumComputedBlocks blockSize numScheduledTokens request) :
    (index : Int) * blockSize < reqNumComputedTokens numScheduledTokens request := by
  unfold reqNumComputedBlocks at computed
  generalize reqNumComputedTokens numScheduledTokens request = tokens at computed ⊢
  have below : (index : Int) + 1 ≤ (tokens + blockSize - 1) / blockSize := by omega
  by_cases isZero : blockSize = 0
  · subst isZero
    simp at computed
  · have positive : (0 : Int) < blockSize := by omega
    have scaled := (Int.le_ediv_iff_mul_le positive).mp below
    rw [Int.add_mul, Int.one_mul] at scaled
    omega

variable (blockSize invalidBlockIds numScheduledTokens evictBlocks) in
theorem scanRequest_le (reqBlockIds : List BlockId) (request : Request) (report : Report) :
    (scanRequest blockSize invalidBlockIds numScheduledTokens evictBlocks reqBlockIds request
      report).1.numComputedTokens ≤ request.numComputedTokens := by
  rcases scanRequest_spec blockSize invalidBlockIds numScheduledTokens evictBlocks reqBlockIds request
    report with ⟨-, same⟩ | ⟨-, numComputedTokens, same, reason⟩
  · rw [same]
  · rw [same]
    have reverted : reqNumComputedTokens numScheduledTokens request ≤ request.numComputedTokens := by
      unfold reqNumComputedTokens
      omega
    rcases reason with ⟨first, computed, length, -⟩ | ⟨length, -⟩
    · rw [length]
      exact (start_lt_of_computed computed).le.trans reverted
    · exact length.le.trans reverted

/-! ## The whole pass -/

/-- One of the requests holds the block at an index it does not count as computed
any more. -/
def RecomputedIn (blockSize : Nat) (getBlockIds : ReqId → List (List BlockId))
    (results : List Request) (blockId : BlockId) : Prop :=
  ∃ result ∈ results, ∃ (reqBlockIds : List BlockId) (index : Nat), getBlockIds result.requestId = [reqBlockIds] ∧
    reqBlockIds[index]? = some blockId ∧ result.numComputedTokens ≤ (index : Int) * blockSize

variable {getBlockIds : ReqId → List (List BlockId)}

theorem RecomputedIn.mono {results others : List Request}
    {blockId : BlockId} (recomputed : RecomputedIn blockSize getBlockIds results blockId)
    (subset : results ⊆ others) : RecomputedIn blockSize getBlockIds others blockId := by
  obtain ⟨result, member, reason⟩ := recomputed
  exact ⟨result, subset member, reason⟩

/-- What holds of one request after the pass, given the results of the requests
before it: nothing else changed, it did not grow, it kept its length if it held no
invalid computed block, and each such block it still counts on is recomputed by an
earlier request. -/
structure Recovered (blockSize : Nat) (invalidBlockIds : List BlockId)
    (numScheduledTokens : PyDict ReqId Nat) (getBlockIds : ReqId → List (List BlockId))
    (earlier : List Request) (request result : Request) (reqBlockIds : List BlockId) : Prop where
  table : getBlockIds request.requestId = [reqBlockIds]
  frame : result = { request with numComputedTokens := result.numComputedTokens }
  le : result.numComputedTokens ≤ request.numComputedTokens
  unaffected : (∀ (index : Nat) (blockId : BlockId),
      index < reqNumComputedBlocks blockSize numScheduledTokens request →
      reqBlockIds[index]? = some blockId → blockId ∉ invalidBlockIds) →
    result.numComputedTokens = request.numComputedTokens
  recomputed : ∀ (index : Nat) (blockId : BlockId), reqBlockIds[index]? = some blockId →
    blockId ∈ invalidBlockIds → index < reqNumComputedBlocks blockSize numScheduledTokens request →
    (index : Int) * blockSize < result.numComputedTokens →
    RecomputedIn blockSize getBlockIds earlier blockId

private theorem mem_take_iff {bound : Nat} {blockId : BlockId} :
    blockId ∈ reqBlockIds.take bound ↔
      ∃ index : Nat, index < bound ∧ reqBlockIds[index]? = some blockId := by
  rw [List.mem_iff_getElem?]
  constructor
  · rintro ⟨index, read⟩
    rw [List.getElem?_take] at read
    split at read
    next below => exact ⟨index, below, read⟩
    next => cases read
  · rintro ⟨index, below, read⟩
    exact ⟨index, by rw [List.getElem?_take_of_lt below]; exact read⟩

variable (invalidBlockIds numScheduledTokens evictBlocks) in
/-- One round of the pass: the request is recovered, and every block marked so far
is recomputed by it or by a request before it. -/
theorem scanRequest_recovered {earlier : List Request}
    {request : Request} {report : Report}
    (table : getBlockIds request.requestId = [reqBlockIds])
    (marked : ∀ blockId ∈ report.markedInvalidBlockIds,
      RecomputedIn blockSize getBlockIds earlier blockId) :
    Recovered blockSize invalidBlockIds numScheduledTokens getBlockIds earlier request
        (scanRequest blockSize invalidBlockIds numScheduledTokens evictBlocks reqBlockIds request
          report).1 reqBlockIds ∧
      ∀ blockId ∈ (scanRequest blockSize invalidBlockIds numScheduledTokens evictBlocks reqBlockIds
          request report).2.markedInvalidBlockIds,
        RecomputedIn blockSize getBlockIds (earlier ++ [(scanRequest blockSize invalidBlockIds
          numScheduledTokens evictBlocks reqBlockIds request report).1]) blockId := by
  have le := scanRequest_le blockSize invalidBlockIds numScheduledTokens evictBlocks
    reqBlockIds request report
  have newMarked := scanRequest_marked blockSize invalidBlockIds numScheduledTokens evictBlocks
    reqBlockIds request report
  have spec := scanRequest_spec blockSize invalidBlockIds numScheduledTokens evictBlocks
    reqBlockIds request report
  set result := (scanRequest blockSize invalidBlockIds numScheduledTokens evictBlocks reqBlockIds
    request report).1
  have stillMarked : ∀ blockId ∈ report.markedInvalidBlockIds,
      RecomputedIn blockSize getBlockIds (earlier ++ [result]) blockId :=
    fun blockId member => (marked blockId member).mono (List.subset_append_left _ _)
  rcases spec with ⟨allValid, same⟩ | ⟨⟨held, heldMember, heldInvalid⟩, numComputedTokens, same, reason⟩
  · rw [same] at le ⊢
    refine ⟨⟨table, rfl, le, fun _ => rfl, ?_⟩, ?_⟩
    · intro index blockId read isInvalid below
      exact absurd isInvalid (allValid blockId (mem_take_iff.mpr ⟨index, below, read⟩))
    · intro blockId member
      rcases (newMarked blockId).mp member with wasMarked | ⟨inRow, isInvalid⟩
      · exact same ▸ stillMarked blockId wasMarked
      · exact absurd isInvalid (allValid blockId inRow)
  · have isResult : result.numComputedTokens = numComputedTokens := by rw [same]
    have notValid : ¬ ∀ (index : Nat) (blockId : BlockId),
        index < reqNumComputedBlocks blockSize numScheduledTokens request →
        reqBlockIds[index]? = some blockId → blockId ∉ invalidBlockIds := by
      intro allValid
      obtain ⟨index, below, read⟩ := mem_take_iff.mp heldMember
      exact allValid index held below read heldInvalid
    rcases reason with ⟨first, computed, length, allMarked⟩ | ⟨length, allMarked⟩
    · -- truncated at `first`: the blocks before it are recomputed earlier, the rest here
      constructor
      · refine ⟨table, by rw [same], le, fun allValid => absurd allValid notValid, ?_⟩
        · intro index blockId read isInvalid below counted
          refine marked blockId (allMarked index blockId ?_ read isInvalid)
          rw [isResult, length] at counted
          have smaller := Int.lt_of_mul_lt_mul_right counted (Int.natCast_nonneg blockSize)
          omega
      · intro blockId member
        rcases (newMarked blockId).mp member with wasMarked | ⟨inRow, isInvalid⟩
        · exact stillMarked blockId wasMarked
        · obtain ⟨index, -, read⟩ := mem_take_iff.mp inRow
          by_cases isBefore : index < first
          · exact stillMarked blockId (allMarked index blockId isBefore read isInvalid)
          · refine ⟨result, by simp, reqBlockIds, index, ?_, read, ?_⟩
            · rw [same]
              exact table
            · rw [isResult, length]
              exact Int.mul_le_mul_of_nonneg_right (by omega) (Int.natCast_nonneg blockSize)
    · constructor
      · refine ⟨table, by rw [same], le, fun allValid => absurd allValid notValid, ?_⟩
        · intro index blockId read isInvalid below _
          exact marked blockId (allMarked blockId (mem_take_iff.mpr ⟨index, below, read⟩) isInvalid)
      · intro blockId member
        rcases (newMarked blockId).mp member with wasMarked | ⟨inRow, isInvalid⟩
        · exact stillMarked blockId wasMarked
        · exact stillMarked blockId (allMarked blockId inRow isInvalid)

/-- The pass from any state of the accumulators whose marked blocks are recomputed
by requests visited before. -/
private theorem updateRequests_recovered {requests earlier : List Request} {report : Report}
    (single : ∀ request ∈ requests, ∃ reqBlockIds, getBlockIds request.requestId = [reqBlockIds])
    (marked : ∀ blockId ∈ report.markedInvalidBlockIds,
      RecomputedIn blockSize getBlockIds earlier blockId) :
    ∃ results report', updateRequestsWithInvalidBlocks blockSize invalidBlockIds numScheduledTokens
        evictBlocks getBlockIds requests report = .ok (results, report') ∧
      results.length = requests.length ∧
      ∀ (position : Nat) (request : Request), requests[position]? = some request →
        ∃ result reqBlockIds, results[position]? = some result ∧
          Recovered blockSize invalidBlockIds numScheduledTokens getBlockIds
            (earlier ++ results.take position) request result reqBlockIds := by
  induction requests generalizing earlier report with
  | nil => exact ⟨[], report, rfl, rfl, by simp⟩
  | cons head rest ih =>
    obtain ⟨reqBlockIds, table⟩ := single head List.mem_cons_self
    obtain ⟨recovered, nextMarked⟩ := scanRequest_recovered invalidBlockIds numScheduledTokens evictBlocks
      table marked
    obtain ⟨results, report', ran, length, all⟩ := ih
      (fun request member => single request (List.mem_cons_of_mem _ member)) nextMarked
    set round := scanRequest blockSize invalidBlockIds numScheduledTokens evictBlocks reqBlockIds
      head report
    refine ⟨round.1 :: results, report', ?_, by rw [List.length_cons, List.length_cons, length], ?_⟩
    · rw [updateRequestsWithInvalidBlocks, table]
      show (updateRequestsWithInvalidBlocks blockSize invalidBlockIds numScheduledTokens evictBlocks
        getBlockIds rest round.2 >>= fun pair => .ok (round.1 :: pair.1, pair.2)) =
          .ok (round.1 :: results, report')
      rw [ran]
      rfl
    · intro position request read
      cases position with
      | zero =>
        cases read
        refine ⟨round.1, reqBlockIds, rfl, ?_⟩
        rw [List.take_zero, List.append_nil]
        exact recovered
      | succ position =>
        obtain ⟨result, otherBlockIds, resultRead, others⟩ := all position request read
        refine ⟨result, otherBlockIds, resultRead, ?_⟩
        rw [List.append_assoc] at others
        exact others

/-- For every list of requests with one block table each, every set of invalid
blocks and every schedule, the pass returns, and every request is recovered: what it
still counts as computed is valid, or recomputed by a request before it. -/
theorem updateRequestsWithInvalidBlocks_recovered (blockSize : Nat) (invalidBlockIds : List BlockId)
    (numScheduledTokens : PyDict ReqId Nat) (evictBlocks : Bool) {requests : List Request}
    (single : ∀ request ∈ requests, ∃ reqBlockIds, getBlockIds request.requestId = [reqBlockIds]) :
    ∃ results report, updateRequestsWithInvalidBlocks blockSize invalidBlockIds numScheduledTokens
        evictBlocks getBlockIds requests {} = .ok (results, report) ∧
      results.length = requests.length ∧
      ∀ (position : Nat) (request : Request), requests[position]? = some request →
        ∃ result reqBlockIds, results[position]? = some result ∧
          Recovered blockSize invalidBlockIds numScheduledTokens getBlockIds
            (results.take position) request result reqBlockIds :=
  @updateRequests_recovered _ _ _ _ _ _ [] _ single nofun

private def computedRequest (requestId : ReqId) (numComputedTokens : Int) : Request where
  requestId
  samplingParams := { maxTokens := 1 }
  maxTokens := 1
  promptTokenIds := [5, 6, 7, 8]
  numPromptTokens := 4
  allTokenIds := [5, 6, 7, 8]
  numComputedTokens

/-- Two requests share the invalid block 2: the first is cut back to its start, the
second keeps counting on it. -/
theorem updateRequestsWithInvalidBlocks_shared :
    ∃ results report, updateRequestsWithInvalidBlocks 2 [2] PyDict.empty true
        (fun id => [[[1, 2], [1, 2]].getD id []]) [computedRequest 0 4, computedRequest 1 4] {} =
          .ok (results, report) ∧
      results.length = 2 ∧
      ∀ (position : Nat) (request : Request),
        [computedRequest 0 4, computedRequest 1 4][position]? = some request →
        ∃ result reqBlockIds, results[position]? = some result ∧
          Recovered 2 [2] PyDict.empty (fun id => [[[1, 2], [1, 2]].getD id []])
            (results.take position) request result reqBlockIds :=
  updateRequestsWithInvalidBlocks_recovered 2 [2] PyDict.empty true fun _ _ => ⟨_, rfl⟩

end InvalidBlocks

end DeepSpark
