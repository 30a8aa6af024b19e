import DeepSpark.Lib.LinkedQueue
import DeepSpark.Lib.PyError

/-!
`FreeKVCacheBlockQueue` of `v1/core/kv_cache_utils.py`.

Owns the queue operations as pointer edits on the links of the blocks and of
the two sentinels, with the exceptions the source raises on broken links, and
the refinement of each operation to the plain list the links represent. The
`prev_free_block` and `next_free_block` attributes of all blocks are kept in
one `Links`; a block is named by its id.
-/

namespace DeepSpark

open Lib Node Links

abbrev BlockId := Nat

structure FreeKVCacheBlockQueue where
  links : Links BlockId
  numFreeBlocks : Int

namespace FreeKVCacheBlockQueue

/-- `FreeKVCacheBlockQueue.__init__`: consecutive blocks are linked first, then
the sentinels. -/
def init (blocks : List BlockId) : FreeKVCacheBlockQueue :=
  match blocks with
  | [] => ⟨empty.join .head .tail, 0⟩
  | first :: rest =>
    let (links, last) := empty.joinAll (.item first) rest
    ⟨(links.join .head (.item first)).join last .tail, blocks.length⟩

def popleft (queue : FreeKVCacheBlockQueue) :
    Except PyError (BlockId × FreeKVCacheBlockQueue) :=
  match queue.links.next .head with
  | some (.item first) =>
    match queue.links.next (.item first) with
    | none => .error (.runtimeError
        "Invalid block found in popleft() which doesn't have a valid next_free_block")
    | some second => .ok (first,
        ⟨(queue.links.join .head second).detach (.item first), queue.numFreeBlocks - 1⟩)
  | _ => do
      let count := queue.numFreeBlocks
      pyAssert (queue.numFreeBlocks = 0)
        s!"num_free_blocks ({count}) is out of sync with the free list."
      .error (.valueError "No free blocks available")

/-- The loop of `popleft_n`, from `curr_block` on. A sentinel met here would be
handed out as a block by the source; `popleftN_represents` shows it is not met. -/
def popLoop (links : Links BlockId) : Nat → Option (Node BlockId) →
    Except PyError (List BlockId × Links BlockId × Option (Node BlockId))
  | 0, currBlock => .ok ([], links, currBlock)
  | count + 1, some (.item block) => do
      let (ret, links', currBlock) ←
        popLoop (links.detach (.item block)) count (links.next (.item block))
      .ok (block :: ret, links', currBlock)
  | _ + 1, none => .error (.assertionError "")
  | _ + 1, some _ => .error (.runtimeError "sentinel popped from the free list")

def popleftN (queue : FreeKVCacheBlockQueue) (n : Int) :
    Except PyError (List BlockId × FreeKVCacheBlockQueue) :=
  if n = 0 then .ok ([], queue)
  else do
    pyAssert (queue.numFreeBlocks ≥ n) ""
    let (ret, links, currBlock) ← popLoop queue.links n.toNat (queue.links.next .head)
    let links :=
      match currBlock with
      | none => links
      | some node => links.join .head node
    .ok (ret, ⟨links, queue.numFreeBlocks - n⟩)

def remove (queue : FreeKVCacheBlockQueue) (block : BlockId) :
    Except PyError FreeKVCacheBlockQueue :=
  match queue.links.prev (.item block), queue.links.next (.item block) with
  | some before, some after =>
    .ok ⟨(queue.links.join before after).detach (.item block), queue.numFreeBlocks - 1⟩
  | _, _ => .error (.runtimeError s!"remove() called on an invalid block: {block}")

def append (queue : FreeKVCacheBlockQueue) (block : BlockId) :
    Except PyError FreeKVCacheBlockQueue :=
  match queue.links.prev .tail with
  | none => .error (.runtimeError "prev_free_block of fake_free_list_tail should always exist")
  | some last =>
    .ok ⟨(queue.links.join last (.item block)).join (.item block) .tail,
      queue.numFreeBlocks + 1⟩

def prependN (queue : FreeKVCacheBlockQueue) (blocks : List BlockId) :
    Except PyError FreeKVCacheBlockQueue :=
  if blocks.isEmpty then .ok queue
  else
    match queue.links.next .head with
    | none => .error (.assertionError
        "next_free_block of fake_free_list_head should always exist")
    | some first =>
      let (links, prevBlock) := queue.links.joinAll .head blocks
      .ok ⟨links.join prevBlock first, queue.numFreeBlocks + blocks.length⟩

def appendN (queue : FreeKVCacheBlockQueue) (blocks : List BlockId) :
    Except PyError FreeKVCacheBlockQueue :=
  if blocks.isEmpty then .ok queue
  else
    match queue.links.prev .tail with
    | none => .error (.assertionError
        "prev_free_block of fake_free_list_tail should always exist")
    | some last =>
      let (links, lastBlock) := queue.links.joinAll last blocks
      .ok ⟨links.join lastBlock .tail, queue.numFreeBlocks + blocks.length⟩

def walk (links : Links BlockId) : Nat → Node BlockId → Except PyError (List (Node BlockId))
  | 0, _ => .error (.runtimeError "the walk did not end")
  | fuel + 1, currBlock =>
    match links.next currBlock with
    | none => .ok []
    | some after => do
        let ret ← walk links fuel after
        .ok (currBlock :: ret)

def getAllFreeBlocks (fuel : Nat) (queue : FreeKVCacheBlockQueue) : Except PyError (List (Node BlockId)) :=
  match queue.links.next .head with
  | none => .error (.runtimeError "next_free_block of fake_free_list_head should always exist")
  | some first => walk queue.links fuel first

/-! ## Refinement to a list -/

structure Holds (queue : FreeKVCacheBlockQueue) (free : List BlockId) : Prop where
  represents : queue.links.Represents free
  count : queue.numFreeBlocks = free.length

variable {queue : FreeKVCacheBlockQueue} {free : List BlockId}

theorem Holds.nodup (holds : queue.Holds free) : free.Nodup := holds.represents.nodup

private theorem empty_represents :
    (empty.join .head .tail : Links BlockId).Represents [] where
  nodup := List.nodup_nil
  chain := List.isChain_pair.mpr (join_joined _ _ _)
  headPrev := rfl
  tailNext := rfl
  detached := fun _ _ => ⟨rfl, rfl⟩

theorem init_holds {blocks : List BlockId} (nodup : blocks.Nodup) :
    (init blocks).Holds blocks := by
  cases blocks with
  | nil => exact ⟨empty_represents, rfl⟩
  | cons first rest =>
    set linked := empty.joinAll (item first) rest with linkedDef
    have pathNodup := path_nodup nodup
    have pathEq : path (first :: rest) =
        [head] ++ ([item first] ++ rest.map item) ++ [tail] := by
      simp [path]
    rw [pathEq] at pathNodup
    have innerNodup := (List.nodup_append.mp pathNodup).1
    have innerChain : ([] ++ [item first] ++ rest.map item).IsChain linked.1.Joined :=
      joinAll_chain (List.isChain_singleton _) (List.nodup_append.mp innerNodup).2.1
    have headChain : ([] ++ [head] ++ item first :: rest.map item).IsChain
        (linked.1.join .head (.item first)).Joined :=
      join_chain (List.isChain_singleton _) innerChain innerNodup
    have lastEq : linked.2 = (item first :: rest.map item).getLast (by simp) :=
      joinAll_last _ _ _
    obtain ⟨upTo, upToEq⟩ : ∃ upTo, head :: item first :: rest.map item =
        upTo ++ [linked.2] := by
      have regroup := List.dropLast_concat_getLast
        (show item first :: rest.map item ≠ [] by simp)
      refine ⟨head :: (item first :: rest.map item).dropLast, ?_⟩
      rw [lastEq, List.cons_append, regroup]
    have lastMember : linked.2 ∈ item first :: rest.map item := by
      rw [lastEq]
      exact List.getLast_mem _
    have lastNotTail : tail ≠ linked.2 := by
      intro equal
      rw [← equal] at lastMember
      simp at lastMember
    refine ⟨⟨nodup, ?_, ?_, ?_, ?_⟩, rfl⟩
    · have whole : (upTo ++ [linked.2] ++ [tail]).IsChain
          ((linked.1.join .head (.item first)).join linked.2 .tail).Joined := by
        refine join_chain ?_ (List.isChain_singleton _) ?_
        · rw [← upToEq]
          exact headChain
        · rw [← upToEq]
          exact pathNodup
      rw [← upToEq] at whole
      exact whole
    · change ((linked.1.join .head (.item first)).join linked.2 .tail).prev .head = none
      rw [join_prev_of_ne (by simp), join_prev_of_ne (by simp), linkedDef,
        joinAll_prev (by simp)]
      rfl
    · change ((linked.1.join .head (.item first)).join linked.2 .tail).next .tail = none
      rw [join_next_of_ne lastNotTail, join_next_of_ne (by simp), linkedDef,
        joinAll_next (by simp) (by simp)]
      rfl
    · intro value outside
      change ((linked.1.join .head (.item first)).join linked.2 .tail).prev _ = none ∧
        ((linked.1.join .head (.item first)).join linked.2 .tail).next _ = none
      simp only [List.mem_cons, not_or] at outside
      have notFirst : item value ≠ item first := by simpa using outside.1
      have notRest : ∀ other ∈ rest, item value ≠ item other := by
        intro other member equal
        exact outside.2 (item.inj equal ▸ member)
      have notLast : item value ≠ linked.2 := by
        intro equal
        rw [← equal] at lastMember
        simp [outside] at lastMember
      rw [join_prev_of_ne (by simp), join_prev_of_ne notFirst,
        join_next_of_ne notLast, join_next_of_ne (by simp), linkedDef,
        joinAll_prev notRest, joinAll_next notFirst notRest]
      exact ⟨rfl, rfl⟩

private theorem popLoop_eq {links : Links BlockId} (front rest : List BlockId)
    (chain : ((front ++ rest).map item ++ [tail]).IsChain links.Joined)
    (nodup : (front ++ rest).Nodup) :
    popLoop links front.length ((front ++ rest).map item ++ [tail]).head? =
      .ok (front, links.detachAll front, (rest.map item ++ [tail]).head?) := by
  induction front generalizing links with
  | nil => rfl
  | cons block front ih =>
    have blockNext : links.next (.item block) =
        ((front ++ rest).map item ++ [tail]).head? := by
      rw [List.cons_append, List.map_cons, List.cons_append, List.isChain_cons] at chain
      have nonempty : (front ++ rest).map item ++ [tail] ≠ [] := by simp
      rw [List.head?_eq_some_head nonempty]
      exact (chain.1 _ (List.head_mem_head? nonempty)).1
    have tailChain : ((front ++ rest).map item ++ [tail]).IsChain
        (links.detach (.item block)).Joined := by
      refine detach_chain (List.isChain_cons.mp chain).2 ?_
      have outside := (List.nodup_cons.mp nodup).1
      simpa using outside
    have popped := ih tailChain (List.nodup_cons.mp nodup).2
    simp only [List.cons_append, List.map_cons, List.length_cons, List.head?_cons, popLoop,
      blockNext, popped, bind, Except.bind]
    rfl

/-- `popleft_n` takes the front of the list. -/
theorem popleftN_holds (holds : queue.Holds free) {count : Nat} (enough : count ≤ free.length) :
    ∃ rest, queue.popleftN count = .ok (free.take count, rest) ∧ rest.Holds (free.drop count) := by
  by_cases isZero : count = 0
  · subst isZero
    exact ⟨queue, by simp [popleftN], by simpa using holds⟩
  · have notZero : (count : Int) ≠ 0 := by omega
    have counted : decide (queue.numFreeBlocks ≥ count) = true := by
      rw [holds.count]
      simpa using enough
    have chain := (List.isChain_cons.mp holds.represents.chain).2
    have split := List.take_append_drop count free
    have popped := popLoop_eq (free.take count) (free.drop count)
      (by rw [split]; exact chain) (by rw [split]; exact holds.nodup)
    rw [split, List.length_take, Nat.min_eq_left enough] at popped
    have nonempty : (free.drop count).map item ++ [tail] ≠ [] := by simp
    have isNext := List.head?_eq_some_head nonempty
    rw [isNext] at popped
    refine ⟨⟨(queue.links.detachAll (free.take count)).join .head
      (((free.drop count).map item ++ [tail]).head nonempty),
        queue.numFreeBlocks - count⟩, ?_, ?_, ?_⟩
    · simp only [popleftN, notZero, if_false, counted, pyAssert_true, holds.represents.first,
        Int.toNat_natCast, popped, bind, Except.bind]
    · exact holds.represents.excise [] (free.take count) (free.drop count) split.symm rfl isNext
    · have length := holds.count
      simp only [List.length_drop]
      omega

theorem popleft_holds {block : BlockId} {rest : List BlockId}
    (holds : queue.Holds (block :: rest)) :
    ∃ popped, queue.popleft = .ok (block, popped) ∧ popped.Holds rest := by
  have rightNonempty : rest.map item ++ [tail] ≠ [] := by simp
  have isRight := List.head?_eq_some_head rightNonempty
  obtain ⟨-, isNext⟩ := holds.represents.neighbours (List.nil_append (block :: rest)).symm
  have isFirst := holds.represents.first
  set right := (rest.map item ++ [tail]).head rightNonempty
  rw [isRight] at isNext
  have excised := holds.represents.excise [] [block] rest rfl rfl isRight
  have rightNot : right ≠ .item block := by
    intro isBlock
    have member := List.mem_of_head? isRight
    rw [isBlock] at member
    exact (List.nodup_cons.mp holds.nodup).1 (by simpa using member)
  refine ⟨⟨(queue.links.join .head right).detach (.item block), queue.numFreeBlocks - 1⟩,
    ?_, ?_, ?_⟩
  · rw [popleft, isFirst]
    simp only [List.map_cons, List.cons_append, List.head?_cons, isNext]
  · rw [join_detach_comm (by simp) rightNot]
    exact excised
  · have length := holds.count
    rw [List.length_cons] at length
    change queue.numFreeBlocks - 1 = _
    omega

section

variable (holds : queue.Holds free)

include holds

private theorem neighbours_ne {before after : List BlockId}
    {block : BlockId} {left right : Node BlockId} (isFree : free = before ++ block :: after)
    (isLeft : (head :: before.map item).getLast? = some left)
    (isRight : (after.map item ++ [tail]).head? = some right) :
    left ≠ .item block ∧ right ≠ .item block := by
  have nodup := holds.nodup
  rw [isFree] at nodup
  obtain ⟨-, backNodup, apart⟩ := List.nodup_append.mp nodup
  constructor
  · rintro rfl
    have member := List.mem_of_getLast? isLeft
    exact apart block (by simpa using member) block (by simp) rfl
  · rintro rfl
    have member := List.mem_of_head? isRight
    exact (List.nodup_cons.mp backNodup).1 (by simpa using member)

theorem remove_holds {block : BlockId} (member : block ∈ free) :
    ∃ rest, queue.remove block = .ok rest ∧ rest.Holds (free.erase block) := by
  obtain ⟨before, after, isFree⟩ := List.append_of_mem member
  have erased : free.erase block = before ++ after := by
    have notBefore : block ∉ before := by
      have nodup := holds.nodup
      rw [isFree] at nodup
      exact fun inBefore => (List.nodup_append.mp nodup).2.2 block inBefore block (by simp) rfl
    rw [isFree, List.erase_append_right _ notBefore, List.erase_cons_head]
  obtain ⟨isPrev, isNext⟩ := holds.represents.neighbours isFree
  have leftNonempty : (head :: before.map item) ≠ [] := by simp
  have rightNonempty : after.map item ++ [tail] ≠ [] := by simp
  have isLeft := List.getLast?_eq_some_getLast leftNonempty
  have isRight := List.head?_eq_some_head rightNonempty
  set left := (head :: before.map item).getLast leftNonempty
  set right := (after.map item ++ [tail]).head rightNonempty
  have excised := holds.represents.excise before [block] after (by simp [isFree]) isLeft isRight
  rw [isLeft] at isPrev
  rw [isRight] at isNext
  obtain ⟨leftNot, rightNot⟩ := neighbours_ne holds isFree isLeft isRight
  refine ⟨⟨(queue.links.join left right).detach (.item block), queue.numFreeBlocks - 1⟩,
    ?_, ?_, ?_⟩
  · simp only [remove, isPrev, isNext]
  · rw [join_detach_comm leftNot rightNot, erased]
    exact excised
  · have length := holds.count
    have positive : 0 < free.length := List.length_pos_of_mem member
    rw [List.length_erase_of_mem member]
    change queue.numFreeBlocks - 1 = _
    omega

theorem appendN_holds {blocks : List BlockId} (fresh : (free ++ blocks).Nodup) :
    ∃ grown, queue.appendN blocks = .ok grown ∧ grown.Holds (free ++ blocks) := by
  by_cases isEmpty : blocks = []
  · subst isEmpty
    exact ⟨queue, by simp [appendN], by simpa using holds⟩
  · have nonempty : (head :: free.map item) ≠ [] := by simp
    have isLast := List.getLast?_eq_some_getLast nonempty
    have spliced := holds.represents.splice free blocks [] (by simp) isLast rfl
      (by simpa using fresh)
    rw [List.append_nil] at spliced
    refine ⟨⟨_, queue.numFreeBlocks + blocks.length⟩, ?_, spliced, ?_⟩
    · simp only [appendN, isEmpty, List.isEmpty_iff, if_false, holds.represents.last, isLast]
      rfl
    · have length := holds.count
      simp only [List.length_append]
      omega

theorem prependN_holds {blocks : List BlockId} (fresh : (blocks ++ free).Nodup) :
    ∃ grown, queue.prependN blocks = .ok grown ∧ grown.Holds (blocks ++ free) := by
  by_cases isEmpty : blocks = []
  · subst isEmpty
    exact ⟨queue, by simp [prependN], by simpa using holds⟩
  · have nonempty : free.map item ++ [tail] ≠ [] := by simp
    have isFirst := List.head?_eq_some_head nonempty
    have spliced := holds.represents.splice [] blocks free rfl rfl isFirst (by simpa using fresh)
    refine ⟨⟨_, queue.numFreeBlocks + blocks.length⟩, ?_, spliced, ?_⟩
    · simp only [prependN, isEmpty, List.isEmpty_iff, if_false, holds.represents.first, isFirst]
      rfl
    · have length := holds.count
      simp only [List.length_append]
      omega

theorem Holds.append_eq (block : BlockId) : queue.append block = queue.appendN [block] := by
  have isLast := holds.represents.last.trans (List.getLast?_eq_some_getLast (by simp))
  rw [append, appendN, if_neg (by simp), isLast]
  rfl

end

theorem walk_eq {links : Links BlockId} (isLast : links.next .tail = none) (free : List BlockId) {fuel : Nat}
    (enough : free.length < fuel) {first : Node BlockId}
    (isFirst : first ∈ (free.map item ++ [tail]).head?)
    (chain : (free.map item ++ [tail]).IsChain links.Joined) :
    walk links fuel first = .ok (free.map item) := by
  induction free generalizing fuel first with
  | nil =>
    obtain ⟨fuel, rfl⟩ := Nat.exists_eq_succ_of_ne_zero enough.ne'
    cases isFirst
    rw [walk, isLast]
    rfl
  | cons block rest ih =>
    obtain ⟨fuel, rfl⟩ := Nat.exists_eq_succ_of_ne_zero (Nat.zero_lt_of_lt enough).ne'
    cases isFirst
    rw [List.map_cons, List.cons_append, List.isChain_cons] at chain
    obtain ⟨after, isAfter⟩ := Option.isSome_iff_exists.mp
      (show ((rest.map item ++ [tail]).head?).isSome = true by simp)
    have walked := ih (Nat.lt_of_succ_lt_succ enough) isAfter chain.2
    rw [walk, (chain.1 after isAfter).1]
    simp only [walked, bind, Except.bind, List.map_cons]

theorem Holds.getAllFreeBlocks_eq (holds : queue.Holds free) {fuel : Nat} (enough : free.length < fuel) :
    queue.getAllFreeBlocks fuel = .ok (free.map item) := by
  obtain ⟨first, isFirst⟩ := Option.isSome_iff_exists.mp
    (show ((free.map item ++ [tail]).head?).isSome = true by simp)
  rw [getAllFreeBlocks, holds.represents.first, isFirst]
  exact walk_eq holds.represents.tailNext free enough isFirst (List.isChain_cons.mp holds.represents.chain).2

/-! ## Runs -/

inductive Call where
  | popleft
  | popleftN (n : Nat)
  | remove (block : BlockId)
  | append (block : BlockId)
  | appendN (blocks : List BlockId)
  | prependN (blocks : List BlockId)

/-- The blocks a call returns, and the queue behind it. -/
def Call.run (queue : FreeKVCacheBlockQueue) : Call → Except PyError (List BlockId × FreeKVCacheBlockQueue)
  | popleft => queue.popleft.map fun (block, queue) => ([block], queue)
  | popleftN n => queue.popleftN n
  | remove block => (queue.remove block).map fun queue => ([], queue)
  | append block => (queue.append block).map fun queue => ([], queue)
  | appendN blocks => (queue.appendN blocks).map fun queue => ([], queue)
  | prependN blocks => (queue.prependN blocks).map fun queue => ([], queue)

/-- The same call on a sequence of blocks; one that takes too many blocks fails. -/
def Call.onList (free : List BlockId) : Call → Option (List BlockId × List BlockId)
  | popleft => free.head?.map fun block => ([block], free.tail)
  | popleftN n => if n ≤ free.length then some (free.take n, free.drop n) else none
  | remove block => some ([], free.erase block)
  | append block => some ([], free ++ [block])
  | appendN blocks => some ([], free ++ blocks)
  | prependN blocks => some ([], blocks ++ free)

/-- A removed block is in the queue, and added blocks are not, nor repeated. -/
def Call.Allowed (free : List BlockId) : Call → Prop
  | popleft | popleftN _ => True
  | remove block => block ∈ free
  | append block => block ∉ free
  | appendN blocks | prependN blocks => blocks.Nodup ∧ ∀ block ∈ blocks, block ∉ free

/-- The queue and the sequence after calls that returned on the sequence. -/
inductive Runs (blocks : List BlockId) : FreeKVCacheBlockQueue → List BlockId → Prop
  | init : Runs blocks (init blocks) blocks
  | step {queue next : FreeKVCacheBlockQueue} {free rest popped popped' : List BlockId} {call : Call}
      (runs : Runs blocks queue free) (allowed : call.Allowed free)
      (ran : call.run queue = .ok (popped, next)) (onList : call.onList free = some (popped', rest)) :
      Runs blocks next rest

theorem Holds.popleft_nil (holds : queue.Holds []) : queue.popleft = .error (.valueError "No free blocks available") := by
  rw [popleft, holds.represents.first]
  simp [holds.count, pyAssert, bind, Except.bind]

/-- A call returns what it returns on the sequence and fails where that fails. -/
theorem Holds.call (holds : queue.Holds free) {call : Call} (allowed : call.Allowed free) :
    match call.onList free with
    | some (popped, rest) => ∃ next, call.run queue = .ok (popped, next) ∧ next.Holds rest
    | none => ∃ failure, call.run queue = .error failure := by
  cases call with
  | popleft =>
    cases free with
    | nil => exact ⟨_, by rw [Call.run, holds.popleft_nil]; rfl⟩
    | cons block rest =>
      obtain ⟨next, ran, nextHolds⟩ := popleft_holds holds
      exact ⟨next, by rw [Call.run, ran]; rfl, nextHolds⟩
  | popleftN n =>
    by_cases enough : n ≤ free.length
    · simp only [Call.onList, if_pos enough]
      exact popleftN_holds holds enough
    · simp only [Call.onList, if_neg enough]
      have notZero : n ≠ 0 := by omega
      exact ⟨.assertionError "", by simp [Call.run, popleftN, notZero, holds.count, enough, pyAssert, bind, Except.bind]⟩
  | remove block =>
    obtain ⟨next, ran, nextHolds⟩ := remove_holds holds allowed
    exact ⟨next, by rw [Call.run, ran]; rfl, nextHolds⟩
  | append block =>
    obtain ⟨next, ran, nextHolds⟩ := appendN_holds holds (List.nodup_append.mpr
      ⟨holds.nodup, List.nodup_singleton block, fun other isFree _ isBlock => by
        rw [List.mem_singleton.mp isBlock]
        exact fun same => allowed (same ▸ isFree)⟩)
    exact ⟨next, by rw [Call.run, holds.append_eq, ran]; rfl, nextHolds⟩
  | appendN blocks =>
    obtain ⟨next, ran, nextHolds⟩ := appendN_holds holds (List.nodup_append.mpr
      ⟨holds.nodup, allowed.1, fun other isFree _ isNew same => allowed.2 _ isNew (same ▸ isFree)⟩)
    exact ⟨next, by rw [Call.run, ran]; rfl, nextHolds⟩
  | prependN blocks =>
    obtain ⟨next, ran, nextHolds⟩ := prependN_holds holds (List.nodup_append.mpr
      ⟨allowed.1, holds.nodup, fun other isNew _ isFree same => allowed.2 _ isNew (same ▸ isFree)⟩)
    exact ⟨next, by rw [Call.run, ran]; rfl, nextHolds⟩

theorem Runs.holds {blocks : List BlockId} (nodup : blocks.Nodup) (runs : Runs blocks queue free) :
    queue.Holds free := by
  induction runs with
  | init => exact init_holds nodup
  | step runs allowed ran onList ih =>
    have called := ih.call allowed
    rw [onList] at called
    obtain ⟨next, ran', nextHolds⟩ := called
    cases ran.symm.trans ran'
    exact nextHolds

/-- In every run the queue is the sequence: its listing, its count, its links and its answers. -/
theorem freeQueue_refines {blocks : List BlockId} (nodup : blocks.Nodup) (runs : Runs blocks queue free) :
    (∀ fuel, free.length < fuel → queue.getAllFreeBlocks fuel = .ok (free.map item)) ∧
      queue.numFreeBlocks = free.length ∧
      (∀ left right, queue.links.next left = some right ↔ queue.links.prev right = some left) ∧
      queue.links.prev .head = none ∧ queue.links.next .tail = none ∧
      (∀ block ∉ free, queue.links.prev (.item block) = none ∧ queue.links.next (.item block) = none) ∧
      ((∃ failure, queue.popleft = .error failure) ↔ free = []) ∧
      ∀ call : Call, call.Allowed free → match call.onList free with
        | some (popped, rest) => ∃ next, call.run queue = .ok (popped, next) ∧ Runs blocks next rest
        | none => ∃ failure, call.run queue = .error failure := by
  have holds := runs.holds nodup
  refine ⟨fun fuel enough => holds.getAllFreeBlocks_eq enough, holds.count, holds.represents.inverse,
    holds.represents.headPrev, holds.represents.tailNext, holds.represents.detached, ⟨?_, ?_⟩, fun call allowed => ?_⟩
  · rintro ⟨failure, failed⟩
    cases free with
    | nil => rfl
    | cons block rest =>
      obtain ⟨next, ran, -⟩ := popleft_holds holds
      cases failed.symm.trans ran
  · rintro rfl
    exact ⟨_, holds.popleft_nil⟩
  · have called := holds.call allowed
    cases onList : call.onList free with
    | none =>
      rw [onList] at called
      exact called
    | some answer =>
      rw [onList] at called
      obtain ⟨next, ran, -⟩ := called
      exact ⟨next, ran, runs.step allowed ran onList⟩

/-- A queue of three blocks whose first is popped and put back behind the others. -/
theorem freeQueue_refines_three : ∃ queue, Runs [0, 1, 2] queue [1, 2, 0] ∧
    queue.getAllFreeBlocks 4 = .ok [.item 1, .item 2, .item 0] := by
  have isAbsent : 0 ∉ [1, 2] := by decide
  have popped := @Runs.step [0, 1, 2] _ _ _ _ _ _ .popleft .init trivial rfl rfl
  have runs := @Runs.step [0, 1, 2] _ _ _ _ _ _ (.append 0) popped isAbsent rfl rfl
  exact ⟨_, runs, (freeQueue_refines (by decide) runs).1 4 (by decide)⟩

end FreeKVCacheBlockQueue

end DeepSpark
