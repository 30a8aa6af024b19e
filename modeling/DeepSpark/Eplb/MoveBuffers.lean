import DeepSpark.Lib.PyDict
import DeepSpark.Lib.PyError
import DeepSpark.Lib.Shares
import DeepSpark.Lib.SortedArrays

/-!
Expert weights moved between the ranks of an expert-parallel group
(`distributed/eplb/rebalance_execute.py`).

Owns what one rank does for one layer: the ranks that send and receive an expert, the rows it
copies itself, the sends and receives it posts, and the copies back from the buffers. A row of
weights is the rows of all the weight tensors of the layer; streams and events are left out.
-/

namespace DeepSpark

open Lib Function

/-- A physical-to-logical map: the expert in each slot, `-1` for none. -/
abbrev IndexMap (ranks numLocal : Nat) := Fin (ranks * numLocal) → Int

variable {ranks numLocal : Nat} {α : Type}

/-- `base + local_rows`: the position of a row of a rank. -/
def slot (rank : Fin ranks) (row : Fin numLocal) : Fin (ranks * numLocal) where
  val := rank.val * numLocal + row.val
  isLt := by
    have fits := Nat.mul_le_mul_right numLocal rank.isLt
    rw [Nat.succ_mul] at fits
    exact Nat.lt_of_lt_of_le (Nat.add_lt_add_left row.isLt _) fits

/-- `positions // num_local_experts`. -/
def slotRank (position : Fin (ranks * numLocal)) : Fin ranks := position.divNat

/-- The ranks with an expert, each where it appears first: the positions of the expert are the
group that `lexsort` leaves between two boundaries. -/
def ranksWith (indices : IndexMap ranks numLocal) (expert : Int) : List (Fin ranks) :=
  firstAppearances (((List.finRange (ranks * numLocal)).filter (indices · = expert)).map slotRank)

def ranksToSend (old : IndexMap ranks numLocal) (expert : Int) : List (Fin ranks) := ranksWith old expert

/-- An entry of `ranks_to_recv_map`: without the ranks that have a local copy. -/
def ranksToRecv (old new : IndexMap ranks numLocal) (expert : Int) : List (Fin ranks) :=
  (ranksWith new expert).filter (· ∉ ranksToSend old expert)

structure Send (ranks : Nat) (α : Type) where
  tensors : α
  dst : Fin ranks
  expertId : Int

/-- A receive posted with `add_recv`, into a row of the buffers. -/
structure Recv (ranks numLocal : Nat) where
  dstRow : Fin numLocal
  src : Fin ranks
  expertId : Int

structure TransferMetadata (numLocal : Nat) where
  isUnchanged : Fin numLocal → Bool
  isReceivedLocally : Fin numLocal → Bool
  recvPrimaryMask : Fin numLocal → Bool
  /-- `recv_expert_ids` and `recv_dst_rows`, up to `recv_count`. -/
  recvRows : List (Int × Fin numLocal)

/-- What a rank has done when it comes to `communicator.execute`. -/
structure Posted (ranks numLocal : Nat) (α : Type) where
  buffer : Fin numLocal → α
  sends : List (Send ranks α)
  recvs : List (Recv ranks numLocal)
  metadata : TransferMetadata numLocal

section Rank

variable (old new : IndexMap ranks numLocal) (epRank : Fin ranks)

def isUnchanged (row : Fin numLocal) : Bool := old (slot epRank row) = new (slot epRank row)

def isReceivedLocally (row : Fin numLocal) : Bool :=
  let canRecvLocal := (List.finRange numLocal).any fun other => old (slot epRank other) = new (slot epRank row)
  isUnchanged old new epRank row || (new (slot epRank row) ≠ -1 && canRecvLocal)

def sendRows : List (Int × Fin numLocal) :=
  firstRows ((List.finRange numLocal).filter fun row => old (slot epRank row) ≠ -1) fun row => old (slot epRank row)

def recvRows : List (Int × Fin numLocal) :=
  firstRows ((List.finRange numLocal).filter fun row =>
    !isReceivedLocally old new epRank row && new (slot epRank row) ≠ -1) fun row => new (slot epRank row)

def transferMetadata : TransferMetadata numLocal where
  isUnchanged := isUnchanged old new epRank
  isReceivedLocally := isReceivedLocally old new epRank
  recvPrimaryMask row := (recvRows old new epRank).any (·.2 = row)
  recvRows := recvRows old new epRank

def localMoves (weights buffer : Fin numLocal → α) : Fin numLocal → α :=
  let destIndices := (List.finRange numLocal).filter fun row =>
    !isUnchanged old new epRank row && isReceivedLocally old new epRank row
  if destIndices ≠ [] ∧ sendRows old epRank ≠ [] then
    destIndices.foldl (fun buffer dst =>
      match (sendRows old epRank).lookup (new (slot epRank dst)) with
      | some srcLocal => Function.update buffer dst (weights srcLocal)
      | none => buffer) buffer
  else buffer

end Rank

/-- The ranks a sender sends an expert to: its slice of the receivers, and one of the rest. -/
def recvRanks (senders receivers : List (Fin ranks)) (epRank : Fin ranks) : Except PyError (List (Fin ranks)) :=
  if senders = [] ∨ receivers = [] then .ok []
  else
    match senders.idxOf? epRank with
    | none => .error (.valueError s!"{epRank} is not in list")
    | some senderPos => .ok (share senders.length receivers senderPos)

def sourceRank (senders receivers : List (Fin ranks)) (epRank : Fin ranks) : Except PyError (Option (Fin ranks)) :=
  if senders = [] ∨ receivers = [] then .ok none
  else
    match receivers.idxOf? epRank with
    | none => .error (.valueError s!"{epRank} is not in list")
    | some recverPos =>
      match senders[shareOwner senders.length receivers.length recverPos]? with
      | none => .error (.indexError "list index out of range")
      | some src => .ok (some src)

def postSends (old new : IndexMap ranks numLocal) (weights : Fin numLocal → α) (epRank : Fin ranks) :
    Except PyError (List (Send ranks α)) := do
  let posted ← ((sendRows old epRank).insertionSort (·.1 ≤ ·.1)).mapM fun (expert, src) => do
    let recvRanks ← recvRanks (ranksToSend old expert) (ranksToRecv old new expert) epRank
    pure (recvRanks.map fun dst => ⟨weights src, dst, expert⟩)
  pure posted.flatten

def postRecvs (old new : IndexMap ranks numLocal) (epRank : Fin ranks) : Except PyError (List (Recv ranks numLocal)) := do
  let posted ← ((recvRows old new epRank).insertionSort (·.1 ≤ ·.1)).mapM fun (expert, dst) => do
    let source ← sourceRank (ranksToSend old expert) (ranksToRecv old new expert) epRank
    pure (source.toList.map fun src => ⟨dst, src, expert⟩)
  pure posted.flatten

def moveToBuffer (old new : IndexMap ranks numLocal) (weights buffer : Fin numLocal → α) (epRank : Fin ranks) :
    Except PyError (Posted ranks numLocal α) := do
  let sends ← postSends old new weights epRank
  let recvs ← postRecvs old new epRank
  pure ⟨localMoves old new epRank weights buffer, sends, recvs, transferMetadata old new epRank⟩

def matchedRows (recvRows : List (Int × Fin numLocal)) (dupDstRows : List (Fin numLocal)) (localExperts : Fin numLocal → Int) :
    List (Fin numLocal × Fin numLocal) :=
  let sorted := recvRows.insertionSort (·.1 ≤ ·.1)
  dupDstRows.filterMap fun dst =>
    sorted[searchSorted (sorted.map Prod.fst) (localExperts dst)]?.bind fun (expert, src) =>
      if expert = localExperts dst then some (dst, src) else none

def copyRows (pairs : List (Fin numLocal × Fin numLocal)) (weights : Fin numLocal → α) : Fin numLocal → α :=
  pairs.foldl (fun weights (dst, src) => Function.update weights dst (weights src)) weights

def copyBack (weights buffer : Fin numLocal → α) (metadata : TransferMetadata numLocal) : Fin numLocal → α :=
  let destIndices := (List.finRange numLocal).filter fun row =>
    !metadata.isUnchanged row && (metadata.isReceivedLocally row || metadata.recvPrimaryMask row)
  destIndices.foldl (fun weights dst => Function.update weights dst (buffer dst)) weights

/-- The rows of `duplicate_mask`. -/
def dupDstRows (metadata : TransferMetadata numLocal) (localExperts : Fin numLocal → Int) : List (Fin numLocal) :=
  (List.finRange numLocal).filter fun row =>
    !metadata.isUnchanged row && !metadata.isReceivedLocally row && !metadata.recvPrimaryMask row && localExperts row ≠ -1

def moveFromBuffer (weights buffer : Fin numLocal → α) (metadata : TransferMetadata numLocal)
    (new : IndexMap ranks numLocal) (epRank : Fin ranks) : Fin numLocal → α :=
  let copied := copyBack weights buffer metadata
  if metadata.recvRows = [] then copied
  else
    let localExperts (row : Fin numLocal) : Int := new (slot epRank row)
    copyRows (matchedRows metadata.recvRows (dupDstRows metadata localExperts) localExperts) copied

/-! ## What a rank has -/

theorem slotRank_slot (rank : Fin ranks) (row : Fin numLocal) : slotRank (slot rank row) = rank := by
  apply Fin.ext
  have positive : 0 < numLocal := Nat.zero_lt_of_lt row.isLt
  show (rank.val * numLocal + row.val) / numLocal = rank.val
  rw [Nat.mul_comm, Nat.mul_add_div positive, Nat.div_eq_of_lt row.isLt, Nat.add_zero]

theorem exists_slot (position : Fin (ranks * numLocal)) : ∃ row, slot (slotRank position) row = position := by
  have positive : 0 < numLocal := Nat.pos_of_mul_pos_left (Nat.zero_lt_of_lt position.isLt)
  refine ⟨⟨position.val % numLocal, Nat.mod_lt _ positive⟩, Fin.ext ?_⟩
  exact Nat.div_add_mod' position.val numLocal

variable {expert : Int}

theorem mem_ranksWith {indices : IndexMap ranks numLocal} {rank : Fin ranks} :
    rank ∈ ranksWith indices expert ↔ ∃ row, indices (slot rank row) = expert := by
  rw [ranksWith, mem_firstAppearances, List.mem_map]
  constructor
  · rintro ⟨position, isPosition, rfl⟩
    obtain ⟨row, isRow⟩ := exists_slot position
    refine ⟨row, ?_⟩
    rw [isRow]
    simpa using isPosition
  · rintro ⟨row, isExpert⟩
    exact ⟨slot rank row, by simpa using isExpert, slotRank_slot rank row⟩

variable {src dst : Fin numLocal}

section Rank

variable {old new : IndexMap ranks numLocal} {epRank : Fin ranks}

theorem nodup_ranksToSend (old : IndexMap ranks numLocal) (expert : Int) : (ranksToSend old expert).Nodup :=
  nodup_firstAppearances _

theorem nodup_ranksToRecv (old new : IndexMap ranks numLocal) (expert : Int) : (ranksToRecv old new expert).Nodup :=
  (nodup_firstAppearances _).filter _

theorem mem_ranksToSend : epRank ∈ ranksToSend old expert ↔ ∃ row, old (slot epRank row) = expert :=
  mem_ranksWith

theorem mem_ranksToRecv : epRank ∈ ranksToRecv old new expert ↔
    (∃ row, new (slot epRank row) = expert) ∧ ∀ row, old (slot epRank row) ≠ expert := by
  rw [ranksToRecv, List.mem_filter, decide_eq_true_iff, mem_ranksToSend, mem_ranksWith, not_exists]

theorem isReceivedLocally_iff {row : Fin numLocal} (valid : new (slot epRank row) ≠ -1) :
    isReceivedLocally old new epRank row = true ↔ ∃ other, old (slot epRank other) = new (slot epRank row) := by
  simp only [isReceivedLocally, isUnchanged, Bool.or_eq_true, Bool.and_eq_true, decide_eq_true_eq, List.any_eq_true,
    List.mem_finRange, true_and]
  exact ⟨fun either => either.elim (fun same => ⟨row, same⟩) And.right, fun has => .inr ⟨valid, has⟩⟩

theorem isReceivedLocally_of_unchanged {row : Fin numLocal} (same : isUnchanged old new epRank row = true) :
    isReceivedLocally old new epRank row = true := by
  simp only [isReceivedLocally, same, Bool.true_or]

theorem of_mem_sendRows (isRow : (expert, src) ∈ sendRows old epRank) :
    expert ≠ -1 ∧ old (slot epRank src) = expert := by
  obtain ⟨isValid, isExpert⟩ := mem_firstRows isRow
  have valid := (List.mem_filter.mp isValid).2
  rw [decide_eq_true_iff] at valid
  exact ⟨isExpert.symm.trans_ne valid, isExpert⟩

theorem exists_sendRow (valid : expert ≠ -1) (has : epRank ∈ ranksToSend old expert) :
    ∃ src, (expert, src) ∈ sendRows old epRank := by
  obtain ⟨row, rfl⟩ := mem_ranksToSend.mp has
  exact exists_firstRow (List.mem_filter.mpr ⟨List.mem_finRange row, decide_eq_true valid⟩)

theorem of_mem_recvRows (isRow : (expert, dst) ∈ recvRows old new epRank) :
    expert ≠ -1 ∧ new (slot epRank dst) = expert ∧ isReceivedLocally old new epRank dst = false := by
  obtain ⟨isNeeded, isExpert⟩ := mem_firstRows isRow
  have needed := (List.mem_filter.mp isNeeded).2
  rw [Bool.and_eq_true, Bool.not_eq_true', decide_eq_true_iff] at needed
  exact ⟨isExpert.symm.trans_ne needed.2, isExpert, needed.1⟩

theorem sorted_sendRows (old : IndexMap ranks numLocal) (epRank : Fin ranks) :
    ((sendRows old epRank).map Prod.fst).Pairwise (· < ·) :=
  sorted_firstRows _ _

theorem sorted_recvRows (old new : IndexMap ranks numLocal) (epRank : Fin ranks) :
    ((recvRows old new epRank).map Prod.fst).Pairwise (· < ·) :=
  sorted_firstRows _ _

theorem exists_recvRow {row : Fin numLocal} (valid : new (slot epRank row) ≠ -1)
    (notLocal : isReceivedLocally old new epRank row = false) :
    ∃ dst, (new (slot epRank row), dst) ∈ recvRows old new epRank := by
  apply exists_firstRow
  rw [List.mem_filter, notLocal]
  exact ⟨List.mem_finRange row, decide_eq_true valid⟩

theorem mem_ranksToRecv_iff (valid : expert ≠ -1) :
    epRank ∈ ranksToRecv old new expert ↔ ∃ dst, (expert, dst) ∈ recvRows old new epRank := by
  rw [mem_ranksToRecv]
  constructor
  · rintro ⟨⟨row, rfl⟩, notHere⟩
    apply exists_recvRow valid
    rw [Bool.eq_false_iff, Ne, isReceivedLocally_iff valid]
    exact fun ⟨other, same⟩ => notHere other same
  · rintro ⟨dst, isRow⟩
    obtain ⟨_, rfl, notLocal⟩ := of_mem_recvRows isRow
    refine ⟨⟨dst, rfl⟩, fun other same => ?_⟩
    rw [(isReceivedLocally_iff valid).mpr ⟨other, same⟩] at notLocal
    exact Bool.noConfusion notLocal

/-! ## Copies of rows -/

section

variable {step : (Fin numLocal → α) → Fin numLocal → Fin numLocal → α} {row : Fin numLocal}
  (frame : ∀ weights dst row, row ≠ dst → step weights dst row = weights row)

include frame

theorem foldl_rows_of_notMem {rows : List (Fin numLocal)}
    (notRow : row ∉ rows) (weights : Fin numLocal → α) : rows.foldl step weights row = weights row := by
  induction rows generalizing weights with
  | nil => rfl
  | cons first rest ih =>
    rw [List.mem_cons, not_or] at notRow
    rw [List.foldl_cons, ih notRow.2, frame _ _ _ notRow.1]

/-- A row that is assigned the same value at each of its turns has that value. -/
theorem foldl_rows_of_mem {rows : List (Fin numLocal)}
    {value : α} (sets : ∀ weights, step weights row row = value) (isRow : row ∈ rows)
    (weights : Fin numLocal → α) : rows.foldl step weights row = value := by
  induction rows generalizing weights with
  | nil => exact nomatch isRow
  | cons first rest ih =>
    rw [List.foldl_cons]
    by_cases inRest : row ∈ rest
    · exact ih inRest _
    · obtain rfl := (List.mem_cons.mp isRow).resolve_right inRest
      rw [foldl_rows_of_notMem frame inRest, sets]

end

theorem copyRows_of_notMem {pairs : List (Fin numLocal × Fin numLocal)} {row : Fin numLocal}
    (notDst : row ∉ pairs.map Prod.fst) (weights : Fin numLocal → α) : copyRows pairs weights row = weights row := by
  induction pairs generalizing weights with
  | nil => rfl
  | cons pair rest ih =>
    rw [List.map_cons, List.mem_cons, not_or] at notDst
    rw [copyRows, List.foldl_cons]
    refine (ih notDst.2 _).trans ?_
    exact update_of_ne notDst.1 ..

theorem copyRows_of_mem {pairs : List (Fin numLocal × Fin numLocal)} (distinct : (pairs.map Prod.fst).Nodup)
    (apart : ∀ pair ∈ pairs, pair.2 ∉ pairs.map Prod.fst) (isPair : (dst, src) ∈ pairs)
    (weights : Fin numLocal → α) : copyRows pairs weights dst = weights src := by
  induction pairs generalizing weights with
  | nil => exact nomatch isPair
  | cons pair rest ih =>
    rw [List.map_cons, List.nodup_cons] at distinct
    simp only [List.map_cons, List.mem_cons, not_or] at apart
    rw [copyRows, List.foldl_cons]
    obtain rfl | inRest := List.mem_cons.mp isPair
    · refine (copyRows_of_notMem distinct.1 _).trans ?_
      exact update_self ..
    · refine (ih distinct.2 (fun other isOther => (apart other (.inr isOther)).2) inRest _).trans ?_
      exact update_of_ne (apart _ (.inr inRest)).1 ..

theorem mem_matchedRows {recvRows : List (Int × Fin numLocal)} (sorted : (recvRows.map Prod.fst).Pairwise (· < ·))
    {dupDstRows : List (Fin numLocal)} {localExperts : Fin numLocal → Int} :
    (dst, src) ∈ matchedRows recvRows dupDstRows localExperts ↔ dst ∈ dupDstRows ∧ (localExperts dst, src) ∈ recvRows := by
  rw [matchedRows, insertionSort_of_sorted sorted, List.mem_filterMap]
  constructor
  · rintro ⟨row, isDup, isMatch⟩
    obtain ⟨entry, isAt, isPair⟩ := Option.bind_eq_some_iff.mp isMatch
    obtain ⟨isExpert, isSome⟩ := Option.ite_none_right_eq_some.mp isPair
    cases isSome
    exact ⟨isDup, isExpert ▸ List.mem_of_getElem? isAt⟩
  · rintro ⟨isDup, isEntry⟩
    refine ⟨dst, isDup, ?_⟩
    rw [getElem?_searchSorted sorted isEntry, Option.bind_some]
    exact if_pos rfl

theorem nodup_matchedRows {recvRows : List (Int × Fin numLocal)} {dupDstRows : List (Fin numLocal)}
    {localExperts : Fin numLocal → Int} (distinct : dupDstRows.Nodup) :
    ((matchedRows recvRows dupDstRows localExperts).map Prod.fst).Nodup := by
  rw [matchedRows, List.Nodup, List.pairwise_map, List.pairwise_filterMap]
  refine distinct.imp fun {first second} differ firstPair isFirst secondPair isSecond same => differ ?_
  obtain ⟨_, _, isFirstPair⟩ := Option.bind_eq_some_iff.mp isFirst
  obtain ⟨_, _, isSecondPair⟩ := Option.bind_eq_some_iff.mp isSecond
  cases (Option.ite_none_right_eq_some.mp isFirstPair).2
  cases (Option.ite_none_right_eq_some.mp isSecondPair).2
  exact same

/-! ## What a rank leaves in its rows -/

/-- A row that is filled on its rank takes its buffer from a row with its expert. -/
theorem localMoves_spec (weights buffer : Fin numLocal → α) {row : Fin numLocal}
    (changed : isUnchanged old new epRank row = false) (isLocal : isReceivedLocally old new epRank row = true) :
    ∃ src, old (slot epRank src) = new (slot epRank row) ∧
      localMoves old new epRank weights buffer row = weights src := by
  have valid : new (slot epRank row) ≠ -1 := by
    simp only [isReceivedLocally, changed, Bool.false_or, Bool.and_eq_true, decide_eq_true_eq] at isLocal
    exact isLocal.1
  obtain ⟨other, same⟩ := (isReceivedLocally_iff valid).mp isLocal
  obtain ⟨first, isFirst⟩ := exists_sendRow valid (mem_ranksToSend.mpr ⟨other, same⟩)
  obtain ⟨src, found⟩ : ∃ src, (sendRows old epRank).lookup (new (slot epRank row)) = some src := by
    rw [← Option.isSome_iff_exists, List.lookup_isSome_iff]
    exact ⟨_, isFirst, beq_self_eq_true _⟩
  obtain ⟨before, after, isSplit, _⟩ := List.lookup_eq_some_iff.mp found
  have isEntry : (new (slot epRank row), src) ∈ sendRows old epRank := by
    rw [isSplit]
    exact List.mem_append_right _ List.mem_cons_self
  have isDest : row ∈ (List.finRange numLocal).filter fun row =>
      !isUnchanged old new epRank row && isReceivedLocally old new epRank row := by
    rw [List.mem_filter, changed, isLocal]
    exact ⟨List.mem_finRange row, rfl⟩
  refine ⟨src, (of_mem_sendRows isEntry).2, ?_⟩
  rw [localMoves, if_pos ⟨List.ne_nil_of_mem isDest, List.ne_nil_of_mem isFirst⟩]
  apply foldl_rows_of_mem _ _ isDest
  · intro buffer dst row differ
    cases (sendRows old epRank).lookup (new (slot epRank dst)) with
    | none => rfl
    | some src => exact update_of_ne differ ..
  · intro buffer
    rw [found]
    exact update_self ..

theorem recvPrimaryMask_iff {row : Fin numLocal} :
    (transferMetadata old new epRank).recvPrimaryMask row = true ↔ ∃ expert, (expert, row) ∈ recvRows old new epRank := by
  simp [transferMetadata]

theorem copyBack_unchanged (weights buffer : Fin numLocal → α) {row : Fin numLocal}
    (same : isUnchanged old new epRank row = true) :
    copyBack weights buffer (transferMetadata old new epRank) row = weights row := by
  apply foldl_rows_of_notMem
  · exact fun weights dst row differ => update_of_ne differ ..
  · simp [transferMetadata, same]

theorem copyBack_copied (weights buffer : Fin numLocal → α) {row : Fin numLocal}
    (changed : isUnchanged old new epRank row = false)
    (isCopied : isReceivedLocally old new epRank row = true ∨ ∃ expert, (expert, row) ∈ recvRows old new epRank) :
    copyBack weights buffer (transferMetadata old new epRank) row = buffer row := by
  apply foldl_rows_of_mem
  · exact fun weights dst row differ => update_of_ne differ ..
  · exact fun weights => update_self ..
  · rw [List.mem_filter, Bool.and_eq_true, Bool.or_eq_true, recvPrimaryMask_iff]
    exact ⟨List.mem_finRange row, congrArg not changed, isCopied⟩

theorem nodup_dupDstRows (metadata : TransferMetadata numLocal) (localExperts : Fin numLocal → Int) :
    (dupDstRows metadata localExperts).Nodup :=
  (List.nodup_finRange numLocal).filter _

theorem mem_dupDstRows {row : Fin numLocal} :
    row ∈ dupDstRows (transferMetadata old new epRank) (fun row => new (slot epRank row)) ↔
      isReceivedLocally old new epRank row = false ∧ (∀ expert, (expert, row) ∉ recvRows old new epRank) ∧
        new (slot epRank row) ≠ -1 := by
  have notUnchanged (notLocal : isReceivedLocally old new epRank row = false) : isUnchanged old new epRank row = false :=
    Bool.eq_false_iff.mpr fun same => Bool.noConfusion (notLocal.symm.trans (isReceivedLocally_of_unchanged same))
  have notPrimary : (transferMetadata old new epRank).recvPrimaryMask row = false ↔
      ∀ expert, (expert, row) ∉ recvRows old new epRank := by
    rw [Bool.eq_false_iff, Ne, recvPrimaryMask_iff, not_exists]
  simp only [dupDstRows, List.mem_filter, List.mem_finRange, true_and, Bool.and_eq_true, Bool.not_eq_true',
    decide_eq_true_eq, notPrimary]
  exact ⟨fun ⟨⟨⟨_, notLocal⟩, noEntry⟩, valid⟩ => ⟨notLocal, noEntry, valid⟩,
    fun ⟨notLocal, noEntry, valid⟩ => ⟨⟨⟨notUnchanged notLocal, notLocal⟩, noEntry⟩, valid⟩⟩

section

variable (weights buffer : Fin numLocal → α)

include weights buffer

theorem moveFromBuffer_eq (old new : IndexMap ranks numLocal) (epRank : Fin ranks) :
    moveFromBuffer weights buffer (transferMetadata old new epRank) new epRank =
      copyRows (matchedRows (recvRows old new epRank)
        (dupDstRows (transferMetadata old new epRank) fun row => new (slot epRank row)) fun row => new (slot epRank row))
        (copyBack weights buffer (transferMetadata old new epRank)) := by
  rw [moveFromBuffer]
  split
  next noRecv =>
    have isEmpty : recvRows old new epRank = [] := noRecv
    simp [isEmpty, matchedRows, copyRows]
  next => rfl

theorem moveFromBuffer_of_notDup {row : Fin numLocal}
    (notDup : row ∉ dupDstRows (transferMetadata old new epRank) fun row => new (slot epRank row)) :
    moveFromBuffer weights buffer (transferMetadata old new epRank) new epRank row =
      copyBack weights buffer (transferMetadata old new epRank) row := by
  rw [moveFromBuffer_eq]
  apply copyRows_of_notMem
  rw [List.mem_map]
  rintro ⟨⟨dst, src⟩, isPair, rfl⟩
  exact notDup ((mem_matchedRows (sorted_recvRows old new epRank)).mp isPair).1

theorem moveFromBuffer_unchanged {row : Fin numLocal}
    (same : isUnchanged old new epRank row = true) :
    moveFromBuffer weights buffer (transferMetadata old new epRank) new epRank row = weights row := by
  rw [moveFromBuffer_of_notDup, copyBack_unchanged weights buffer same]
  rw [mem_dupDstRows, isReceivedLocally_of_unchanged same]
  exact fun isDup => Bool.noConfusion isDup.1

theorem moveFromBuffer_moved {row : Fin numLocal}
    (changed : isUnchanged old new epRank row = false) (isLocal : isReceivedLocally old new epRank row = true) :
    moveFromBuffer weights buffer (transferMetadata old new epRank) new epRank row = buffer row := by
  rw [moveFromBuffer_of_notDup, copyBack_copied weights buffer changed (.inl isLocal)]
  rw [mem_dupDstRows, isLocal]
  exact fun isDup => Bool.noConfusion isDup.1

/-- A row that is not filled on its rank takes the buffer of the primary row of its expert. -/
theorem moveFromBuffer_received {row : Fin numLocal}
    (notLocal : isReceivedLocally old new epRank row = false)
    (isPrimary : (new (slot epRank row), src) ∈ recvRows old new epRank) :
    moveFromBuffer weights buffer (transferMetadata old new epRank) new epRank row = buffer src := by
  have sorted := sorted_recvRows old new epRank
  have changedOf {row : Fin numLocal} (notLocal : isReceivedLocally old new epRank row = false) :
      isUnchanged old new epRank row = false :=
    Bool.eq_false_iff.mpr fun same => Bool.noConfusion (notLocal.symm.trans (isReceivedLocally_of_unchanged same))
  have primaryCopied {expert : Int} {dst : Fin numLocal} (isEntry : (expert, dst) ∈ recvRows old new epRank) :
      copyBack weights buffer (transferMetadata old new epRank) dst = buffer dst :=
    copyBack_copied weights buffer (changedOf (of_mem_recvRows isEntry).2.2) (.inr ⟨expert, isEntry⟩)
  obtain ⟨valid, _, _⟩ := of_mem_recvRows isPrimary
  by_cases isDup : row ∈ dupDstRows (transferMetadata old new epRank) fun row => new (slot epRank row)
  · rw [moveFromBuffer_eq]
    refine (copyRows_of_mem (nodup_matchedRows (nodup_dupDstRows _ _)) ?_
      ((mem_matchedRows sorted).mpr ⟨isDup, isPrimary⟩) _).trans (primaryCopied isPrimary)
    -- a primary row is no duplicate
    rintro ⟨dst, primary⟩ isPair inDups
    obtain ⟨other, isOther, rfl⟩ := List.mem_map.mp inDups
    have isEntry := ((mem_matchedRows sorted).mp isPair).2
    exact (mem_dupDstRows.mp ((mem_matchedRows sorted).mp isOther).1).2.1 _ isEntry
  · rw [moveFromBuffer_of_notDup weights buffer isDup]
    obtain ⟨expert, isEntry⟩ : ∃ expert, (expert, row) ∈ recvRows old new epRank := by
      by_contra noEntry
      exact isDup (mem_dupDstRows.mpr ⟨notLocal, not_exists.mp noEntry, valid⟩)
    have isExpert := (of_mem_recvRows isEntry).2.1
    rw [← isExpert] at isEntry
    have same := List.inj_on_of_nodup_map (sorted.imp ne_of_lt) isEntry isPrimary rfl
    cases same
    exact primaryCopied isEntry

end

end Rank

end DeepSpark
