import DeepSpark.Lib.PyDict
import DeepSpark.Lib.PyError

/-!
The cache policies of `v1/kv_offload/cpu/policies/`.

Owns `BlockStatus`, `LRUCachePolicy` and `ARCCachePolicy` with all their
operations, and what each operation does to `get`: the two policies differ in
the order of their entries and in which entry they evict, never in the mapping
from keys to blocks.

A block is held by value here, so the assignments of the manager to
`block.ref_cnt` are an operation of the policy (`setRefCnt`).
-/

namespace DeepSpark

open Lib Function PyDict

/-- `BlockStatus`. `refCnt` is a `c_int32` field: assignments wrap around. -/
structure BlockStatus where
  blockId : Nat
  refCnt : Int := -1
deriving DecidableEq, Repr

/-- The value a `c_int32` field holds after an assignment. -/
def cInt32 (value : Int) : Int := value.bmod (2 ^ 32)

theorem cInt32_eq {value : Int} (low : -2 ^ 31 ≤ value) (high : value < 2 ^ 31) :
    cInt32 value = value := by
  rw [cInt32, Int.bmod_eq_of_le (by omega) (by omega)]

def BlockStatus.isReady (block : BlockStatus) : Bool := decide (0 ≤ block.refCnt)

/-- The arithmetic of the floats that hold `target_t1_size`. Which blocks ARC
evicts depends on its rounding; that the policy is sound does not. -/
class PyFloat (F : Type) where
  ofNat : Nat → F
  add : F → F → F
  sub : F → F → F
  /-- `a / b` for integers. -/
  quotient : Nat → Nat → F
  max : F → F → F
  min : F → F → F
  /-- `int(x)`. -/
  toInt : F → Int

variable {κ F : Type} [DecidableEq κ]

/-! ## `LRUCachePolicy` -/

structure LRUCachePolicy (κ : Type) where
  blocks : PyDict κ BlockStatus

namespace LRUCachePolicy

def init : LRUCachePolicy κ := ⟨.empty⟩

def get (policy : LRUCachePolicy κ) (key : κ) : Option BlockStatus := policy.blocks.get? key

def insert (policy : LRUCachePolicy κ) (key : κ) (block : BlockStatus) : LRUCachePolicy κ :=
  ⟨policy.blocks.set key block⟩

/-- `remove`: `del self.blocks[key]`. -/
def remove (policy : LRUCachePolicy κ) (key : κ) : Except PyError (LRUCachePolicy κ) :=
  match policy.blocks.get? key with
  | some _ => .ok ⟨policy.blocks.erase key⟩
  | none => .error (.keyError "")

/-- The body of the loop of `touch`. -/
def touchKey (policy : LRUCachePolicy κ) (key : κ) : LRUCachePolicy κ :=
  if key ∈ policy.blocks.keys then ⟨policy.blocks.moveToEnd key⟩ else policy

def touch (policy : LRUCachePolicy κ) (keys : List κ) : LRUCachePolicy κ :=
  keys.reverse.foldl touchKey policy

def clear (_ : LRUCachePolicy κ) : LRUCachePolicy κ := ⟨.empty⟩

/-- `evict`, of which `n` candidates at the cold end are deleted. -/
def evict (policy : LRUCachePolicy κ) (n : Nat) (isProtected : List κ) :
    Option (List (κ × BlockStatus) × LRUCachePolicy κ) :=
  if n = 0 then some ([], policy)
  else
    let candidates :=
      (policy.blocks.entries.filter fun entry =>
        entry.2.refCnt = 0 ∧ entry.1 ∉ isProtected).take n
    if candidates.length < n then none
    else some (candidates, ⟨(candidates.map Prod.fst).foldl PyDict.erase policy.blocks⟩)

def setRefCnt (policy : LRUCachePolicy κ) (key : κ) (count : Int) : LRUCachePolicy κ :=
  match policy.blocks.get? key with
  | some block => ⟨policy.blocks.set key { block with refCnt := cInt32 count }⟩
  | none => policy

end LRUCachePolicy

/-! ## `ARCCachePolicy` -/

structure ARCCachePolicy (κ F : Type) where
  cacheCapacity : Nat
  targetT1Size : F
  t1 : PyDict κ BlockStatus
  t2 : PyDict κ BlockStatus
  b1 : PyDict κ Unit
  b2 : PyDict κ Unit

namespace ARCCachePolicy

def init [PyFloat F] (cacheCapacity : Nat) : ARCCachePolicy κ F :=
  { cacheCapacity, targetT1Size := PyFloat.ofNat 0, t1 := .empty, t2 := .empty, b1 := .empty
    b2 := .empty }

/-- `get`: a block is truthy, so `t2` is read only for keys that are not in `t1`. -/
def get (policy : ARCCachePolicy κ F) (key : κ) : Option BlockStatus :=
  (policy.t1.get? key).or (policy.t2.get? key)

def insert (policy : ARCCachePolicy κ F) (key : κ) (block : BlockStatus) : ARCCachePolicy κ F :=
  { policy with
    t1 := policy.t1.set key block, b1 := policy.b1.erase key, b2 := policy.b2.erase key }

def remove (policy : ARCCachePolicy κ F) (key : κ) : ARCCachePolicy κ F :=
  match policy.t1.get? key with
  | some _ => { policy with t1 := policy.t1.erase key }
  | none => { policy with t2 := policy.t2.erase key }

/-- The body of the loop of `touch`. -/
def touchKey [PyFloat F] (policy : ARCCachePolicy κ F) (key : κ) : ARCCachePolicy κ F :=
  match policy.t1.get? key with
  | some block =>
    if block.isReady then
      { policy with t1 := policy.t1.erase key, t2 := policy.t2.set key block }
    else
      -- prepared to be stored, not touched twice: most recent of `t1`
      { policy with t1 := (policy.t1.erase key).set key block }
  | none =>
    if key ∈ policy.t2.keys then { policy with t2 := policy.t2.moveToEnd key }
    else if key ∈ policy.b1.keys then
      let delta :=
        PyFloat.max (PyFloat.ofNat 1)
          (PyFloat.quotient policy.b2.entries.length policy.b1.entries.length)
      { policy with
        targetT1Size :=
          PyFloat.min (PyFloat.add policy.targetT1Size delta) (PyFloat.ofNat policy.cacheCapacity)
        b1 := policy.b1.moveToEnd key }
    else if key ∈ policy.b2.keys then
      let delta :=
        PyFloat.max (PyFloat.ofNat 1)
          (PyFloat.quotient policy.b1.entries.length policy.b2.entries.length)
      { policy with
        targetT1Size := PyFloat.max (PyFloat.sub policy.targetT1Size delta) (PyFloat.ofNat 0)
        b2 := policy.b2.moveToEnd key }
    else policy

def touch [PyFloat F] (policy : ARCCachePolicy κ F) (keys : List κ) : ARCCachePolicy κ F :=
  keys.reverse.foldl touchKey policy

def clear [PyFloat F] (policy : ARCCachePolicy κ F) : ARCCachePolicy κ F :=
  { policy with
    t1 := .empty, t2 := .empty, b1 := .empty, b2 := .empty, targetT1Size := PyFloat.ofNat 0 }

/-- An eviction that `evict` has decided on: key, block and `from_t1`. -/
structure Candidate (κ : Type) where
  key : κ
  block : BlockStatus
  fromT1 : Bool

def firstEvictable (isProtected alreadySelected : List κ) (fromT1 : Bool)
    (blocks : PyDict κ BlockStatus) : Option (Candidate κ) :=
  (blocks.entries.find? fun entry =>
    entry.2.refCnt = 0 ∧ entry.1 ∉ isProtected ∧ entry.1 ∉ alreadySelected).map
    fun entry => ⟨entry.1, entry.2, fromT1⟩

/-- One round of the selection loop of `evict`. -/
def nextCandidate [PyFloat F] (policy : ARCCachePolicy κ F) (isProtected alreadySelected : List κ)
    (virtualT1Size : Int) : Option (Candidate κ) :=
  let fromT1 :=
    if PyFloat.toInt policy.targetT1Size ≤ virtualT1Size then
      firstEvictable isProtected alreadySelected true policy.t1
    else none
  fromT1.or (firstEvictable isProtected alreadySelected false policy.t2)

/-- The selection loop of `evict`, with `n` rounds to go. -/
def selectCandidates [PyFloat F] (policy : ARCCachePolicy κ F) (isProtected : List κ) :
    Nat → List (Candidate κ) → Int → Option (List (Candidate κ))
  | 0, candidates, _ => some candidates
  | n + 1, candidates, virtualT1Size =>
    match policy.nextCandidate isProtected (candidates.map Candidate.key) virtualT1Size with
    | none => none
    | some candidate =>
      selectCandidates policy isProtected n (candidates ++ [candidate])
        (if candidate.fromT1 then virtualT1Size - 1 else virtualT1Size)

def applyEviction (policy : ARCCachePolicy κ F) (candidate : Candidate κ) : ARCCachePolicy κ F :=
  if candidate.fromT1 then
    { policy with t1 := policy.t1.erase candidate.key, b1 := policy.b1.set candidate.key () }
  else { policy with t2 := policy.t2.erase candidate.key, b2 := policy.b2.set candidate.key () }

/-- Trim the ghost lists to `cache_capacity`. -/
def trimGhosts (policy : ARCCachePolicy κ F) : ARCCachePolicy κ F :=
  { policy with
    b1 := policy.b1.popOldest (policy.b1.entries.length - policy.cacheCapacity)
    b2 := policy.b2.popOldest (policy.b2.entries.length - policy.cacheCapacity) }

def evict [PyFloat F] (policy : ARCCachePolicy κ F) (n : Nat) (isProtected : List κ) :
    Option (List (κ × BlockStatus) × ARCCachePolicy κ F) :=
  if n = 0 then some ([], policy)
  else
    match policy.selectCandidates isProtected n [] policy.t1.entries.length with
    | none => none
    | some candidates =>
      some (candidates.map fun candidate => (candidate.key, candidate.block),
        (candidates.foldl applyEviction policy).trimGhosts)

def setRefCnt (policy : ARCCachePolicy κ F) (key : κ) (count : Int) : ARCCachePolicy κ F :=
  match policy.t1.get? key, policy.t2.get? key with
  | some block, _ => { policy with t1 := policy.t1.set key { block with refCnt := cInt32 count } }
  | none, some block => { policy with t2 := policy.t2.set key { block with refCnt := cInt32 count } }
  | none, none => policy

end ARCCachePolicy

/-! ## `CachePolicy` -/

inductive CachePolicy (κ F : Type) where
  | lru (policy : LRUCachePolicy κ)
  | arc (policy : ARCCachePolicy κ F)

inductive CachePolicyName where
  | lru
  | arc
deriving DecidableEq, Repr

namespace CachePolicy

/-- `policy_cls(cache_capacity=cacheCapacity)`. -/
def init [PyFloat F] (cacheCapacity : Nat) : CachePolicyName → CachePolicy κ F
  | .lru => .lru .init
  | .arc => .arc (.init cacheCapacity)

def get : CachePolicy κ F → κ → Option BlockStatus
  | .lru policy, key => policy.get key
  | .arc policy, key => policy.get key

def insert : CachePolicy κ F → κ → BlockStatus → CachePolicy κ F
  | .lru policy, key, block => .lru (policy.insert key block)
  | .arc policy, key, block => .arc (policy.insert key block)

def remove : CachePolicy κ F → κ → Except PyError (CachePolicy κ F)
  | .lru policy, key => policy.remove key >>= fun policy => .ok (.lru policy)
  | .arc policy, key => .ok (.arc (policy.remove key))

def touch [PyFloat F] : CachePolicy κ F → List κ → CachePolicy κ F
  | .lru policy, keys => .lru (policy.touch keys)
  | .arc policy, keys => .arc (policy.touch keys)

def clear [PyFloat F] : CachePolicy κ F → CachePolicy κ F
  | .lru policy => .lru policy.clear
  | .arc policy => .arc policy.clear

def evict [PyFloat F] : CachePolicy κ F → Nat → List κ → Option (List (κ × BlockStatus) × CachePolicy κ F)
  | .lru policy, n, isProtected =>
    (policy.evict n isProtected).map fun (evicted, policy) => (evicted, .lru policy)
  | .arc policy, n, isProtected =>
    (policy.evict n isProtected).map fun (evicted, policy) => (evicted, .arc policy)

def setRefCnt : CachePolicy κ F → κ → Int → CachePolicy κ F
  | .lru policy, key, count => .lru (policy.setRefCnt key count)
  | .arc policy, key, count => .arc (policy.setRefCnt key count)

/-! ## What the operations do to `get` -/

end CachePolicy

structure Evicts (get getAfter : κ → Option BlockStatus) (isProtected : List κ)
    (evicted : List (κ × BlockStatus)) : Prop where
  nodup : (evicted.map Prod.fst).Nodup
  wasHeld : ∀ entry ∈ evicted, get entry.1 = some entry.2
  wasIdle : ∀ entry ∈ evicted, entry.2.refCnt = 0
  unprotected : ∀ entry ∈ evicted, entry.1 ∉ isProtected
  getAfter_eq : ∀ key, getAfter key = if key ∈ evicted.map Prod.fst then none else get key

variable {n : Nat} {isProtected : List κ} {evicted : List (κ × BlockStatus)}

namespace LRUCachePolicy

theorem get_touch (policy : LRUCachePolicy κ) (keys : List κ) (key : κ) :
    (policy.touch keys).get key = policy.get key := by
  apply foldl_preserves (P := fun after : LRUCachePolicy κ => after.get key = policy.get key) _ rfl
  intro after touched same
  unfold touchKey
  split
  · exact (get?_moveToEnd _ _ _).trans same
  · exact same

theorem evict_spec {policy after : LRUCachePolicy κ}
    (ran : policy.evict n isProtected = some (evicted, after)) :
    evicted.length = n ∧ Evicts policy.get after.get isProtected evicted := by
  unfold evict at ran
  split at ran
  next isZero =>
    cases ran
    exact ⟨isZero.symm, List.nodup_nil, by simp, by simp, by simp, by simp⟩
  next =>
    dsimp only at ran
    split at ran
    · cases ran
    next enough =>
      cases ran
      have evictable : ∀ entry ∈ (policy.blocks.entries.filter fun entry =>
          decide (entry.2.refCnt = 0 ∧ entry.1 ∉ isProtected)).take n,
          entry ∈ policy.blocks.entries ∧ entry.2.refCnt = 0 ∧ entry.1 ∉ isProtected := by
        intro entry member
        simpa using List.mem_filter.mp (List.mem_of_mem_take member)
      constructor
      · have := List.length_take_le n (policy.blocks.entries.filter fun entry =>
          decide (entry.2.refCnt = 0 ∧ entry.1 ∉ isProtected))
        omega
      constructor
      · exact policy.blocks.nodup.sublist
          (((List.take_sublist _ _).trans List.filter_sublist).map Prod.fst)
      · exact fun entry member => mem_entries.mp (evictable entry member).1
      · exact fun entry member => (evictable entry member).2.1
      · exact fun entry member => (evictable entry member).2.2
      · exact fun key => get?_foldl_erase _ _ _

end LRUCachePolicy

variable {policy : ARCCachePolicy κ F}

namespace ARCCachePolicy

def Disjoint (policy : ARCCachePolicy κ F) : Prop :=
  ∀ key, policy.t1.get? key = none ∨ policy.t2.get? key = none

theorem insert_disjoint (disjoint : policy.Disjoint) {key : κ}
    (isNew : policy.get key = none) (block : BlockStatus) : (policy.insert key block).Disjoint := by
  intro other
  show (policy.t1.set key block).get? other = none ∨ policy.t2.get? other = none
  rw [get?_set]
  split
  next isKey =>
    rw [get, Option.or_eq_none_iff] at isNew
    exact .inr (isKey ▸ isNew.2)
  next => exact disjoint other

theorem get_insert {key : κ} (block : BlockStatus) (other : κ) :
    (policy.insert key block).get other = if other = key then some block else policy.get other := by
  show ((policy.t1.set key block).get? other).or (policy.t2.get? other) = _
  rw [get?_set]
  split
  · rfl
  · rfl

theorem remove_disjoint (disjoint : policy.Disjoint) (key : κ) :
    (policy.remove key).Disjoint := by
  intro other
  unfold remove
  cases policy.t1.get? key with
  | some _ =>
    rw [get?_erase]
    split
    · exact .inl rfl
    · exact disjoint other
  | none =>
    show policy.t1.get? other = none ∨ (policy.t2.erase key).get? other = none
    rw [get?_erase]
    split
    · exact .inr rfl
    · exact disjoint other

theorem get_remove (disjoint : policy.Disjoint) (key other : κ) :
    (policy.remove key).get other = if other = key then none else policy.get other := by
  unfold remove
  cases read : policy.t1.get? key with
  | some _ =>
    show ((policy.t1.erase key).get? other).or (policy.t2.get? other) = _
    rw [get?_erase]
    split
    next isKey =>
      have absent := (disjoint key).resolve_left (by simp [read])
      rw [isKey, absent]
      rfl
    next => rfl
  | none =>
    show (policy.t1.get? other).or ((policy.t2.erase key).get? other) = _
    rw [get?_erase]
    split
    next isKey => rw [isKey, read]; rfl
    next => rfl

/-- Moving a block between the lists, or within one, keeps every block under its key. -/
theorem touchKey_spec [PyFloat F] (disjoint : policy.Disjoint)
    (key : κ) : (policy.touchKey key).Disjoint ∧ (policy.touchKey key).get = policy.get := by
  unfold touchKey
  split
  next block read =>
    split
    · constructor
      · intro other
        rw [get?_erase, get?_set]
        split
        · exact .inl rfl
        · exact disjoint other
      · funext other
        show ((policy.t1.erase key).get? other).or ((policy.t2.set key block).get? other) = _
        rw [get?_erase, get?_set]
        split
        next isKey => simp [get, isKey, read]
        next => rfl
    · have same (other : κ) : ((policy.t1.erase key).set key block).get? other = policy.t1.get? other := by
        rw [get?_set, get?_erase]
        split
        next isKey => rw [isKey, read]
        next => rfl
      constructor
      · intro other
        rw [same]
        exact disjoint other
      · funext other
        show (((policy.t1.erase key).set key block).get? other).or (policy.t2.get? other) = _
        rw [same]
        rfl
  next =>
    split
    · constructor
      · intro other
        rw [get?_moveToEnd]
        exact disjoint other
      · funext other
        show (policy.t1.get? other).or ((policy.t2.moveToEnd key).get? other) = _
        rw [get?_moveToEnd]
        rfl
    split
    · exact ⟨disjoint, rfl⟩
    split
    · exact ⟨disjoint, rfl⟩
    · exact ⟨disjoint, rfl⟩

theorem touch_spec [PyFloat F] (disjoint : policy.Disjoint)
    (keys : List κ) : (policy.touch keys).Disjoint ∧ (policy.touch keys).get = policy.get := by
  apply foldl_preserves (P := fun after : ARCCachePolicy κ F =>
    after.Disjoint ∧ after.get = policy.get) _ ⟨disjoint, rfl⟩
  intro after key holds
  obtain ⟨stillDisjoint, same⟩ := touchKey_spec holds.1 key
  exact ⟨stillDisjoint, same.trans holds.2⟩

/-- What `evict` has decided on so far: idle, unprotected blocks of the list they name. -/
structure Selected (policy : ARCCachePolicy κ F) (isProtected : List κ)
    (candidates : List (Candidate κ)) : Prop where
  nodup : (candidates.map Candidate.key).Nodup
  located : ∀ candidate ∈ candidates,
    (if candidate.fromT1 then policy.t1 else policy.t2).get? candidate.key = some candidate.block
  idle : ∀ candidate ∈ candidates, candidate.block.refCnt = 0
  unprotected : ∀ candidate ∈ candidates, candidate.key ∉ isProtected

private theorem firstEvictable_spec {alreadySelected : List κ} {fromT1 : Bool}
    {blocks : PyDict κ BlockStatus} {candidate : Candidate κ}
    (found : firstEvictable isProtected alreadySelected fromT1 blocks = some candidate) :
    candidate.fromT1 = fromT1 ∧ blocks.get? candidate.key = some candidate.block ∧
      candidate.block.refCnt = 0 ∧ candidate.key ∉ isProtected ∧
      candidate.key ∉ alreadySelected := by
  rw [firstEvictable, Option.map_eq_some_iff] at found
  obtain ⟨entry, first, rfl⟩ := found
  have evictable := List.find?_some first
  rw [decide_eq_true_iff] at evictable
  exact ⟨rfl, mem_entries.mp (List.mem_of_find?_eq_some first), evictable⟩

theorem nextCandidate_spec [PyFloat F]
    {alreadySelected : List κ} {virtualT1Size : Int} {candidate : Candidate κ}
    (found : policy.nextCandidate isProtected alreadySelected virtualT1Size = some candidate) :
    (if candidate.fromT1 then policy.t1 else policy.t2).get? candidate.key = some candidate.block ∧
      candidate.block.refCnt = 0 ∧ candidate.key ∉ isProtected ∧
      candidate.key ∉ alreadySelected := by
  rw [nextCandidate, Option.or_eq_some_iff] at found
  rcases found with inT1 | ⟨-, inT2⟩
  · split at inT1
    · obtain ⟨isT1, rest⟩ := firstEvictable_spec inT1
      simpa [isT1] using rest
    · cases inT1
  · obtain ⟨isT2, rest⟩ := firstEvictable_spec inT2
    simpa [isT2] using rest

theorem selectCandidates_spec [PyFloat F]
    {before candidates : List (Candidate κ)} {virtualT1Size : Int}
    (selected : policy.Selected isProtected before)
    (ran : policy.selectCandidates isProtected n before virtualT1Size = some candidates) :
    policy.Selected isProtected candidates ∧ candidates.length = before.length + n := by
  induction n generalizing before virtualT1Size with
  | zero =>
    cases ran
    exact ⟨selected, rfl⟩
  | succ n ih =>
    rw [selectCandidates] at ran
    split at ran
    · cases ran
    next candidate found =>
      obtain ⟨located, idle, unprotected, isNew⟩ := nextCandidate_spec found
      have extended : policy.Selected isProtected (before ++ [candidate]) := by
        constructor
        · rw [List.map_append, List.map_singleton, List.nodup_append]
          refine ⟨selected.nodup, List.nodup_singleton _, ?_⟩
          intro left inBefore right isCandidate same
          rw [List.mem_singleton] at isCandidate
          subst same isCandidate
          exact isNew inBefore
        · simpa [List.mem_append, or_imp, forall_and] using ⟨selected.located, located⟩
        · simpa [List.mem_append, or_imp, forall_and] using ⟨selected.idle, idle⟩
        · simpa [List.mem_append, or_imp, forall_and] using ⟨selected.unprotected, unprotected⟩
      have result := ih extended ran
      rw [List.length_append, List.length_singleton] at result
      exact ⟨result.1, by omega⟩

private theorem foldl_applyEviction {candidates : List (Candidate κ)} (disjoint : policy.Disjoint)
    (otherList : ∀ candidate ∈ candidates,
      (if candidate.fromT1 then policy.t2 else policy.t1).get? candidate.key = none) :
    (candidates.foldl applyEviction policy).Disjoint ∧
      ∀ key, (candidates.foldl applyEviction policy).get key =
        if key ∈ candidates.map Candidate.key then none else policy.get key := by
  induction candidates generalizing policy with
  | nil => exact ⟨disjoint, by simp⟩
  | cons candidate rest ih =>
    have otherHead := otherList candidate List.mem_cons_self
    have otherRest := fun other member => otherList other (List.mem_cons_of_mem candidate member)
    -- one eviction erases the key from its list and nothing else
    have evicted : (policy.applyEviction candidate).Disjoint ∧
        (∀ key, (policy.applyEviction candidate).get key =
          if key = candidate.key then none else policy.get key) ∧
        ∀ key, (policy.t1.get? key = none → (policy.applyEviction candidate).t1.get? key = none) ∧
          (policy.t2.get? key = none → (policy.applyEviction candidate).t2.get? key = none) := by
      unfold applyEviction
      cases isT1 : candidate.fromT1 with
      | true =>
        rw [isT1, if_pos rfl] at otherHead
        rw [if_pos rfl]
        refine ⟨fun key => ?_, fun key => ?_, fun key => ⟨fun absent => ?_, id⟩⟩
        · show (policy.t1.erase candidate.key).get? key = none ∨ policy.t2.get? key = none
          rw [get?_erase]
          split
          · exact .inl rfl
          · exact disjoint key
        · show ((policy.t1.erase candidate.key).get? key).or (policy.t2.get? key) = _
          rw [get?_erase]
          split
          next isKey => rw [isKey, otherHead]; rfl
          next => rfl
        · show (policy.t1.erase candidate.key).get? key = none
          rw [get?_erase, absent, ite_self]
      | false =>
        rw [isT1, if_neg Bool.false_ne_true] at otherHead
        rw [if_neg Bool.false_ne_true]
        refine ⟨fun key => ?_, fun key => ?_, fun key => ⟨id, fun absent => ?_⟩⟩
        · show policy.t1.get? key = none ∨ (policy.t2.erase candidate.key).get? key = none
          rw [get?_erase]
          split
          · exact .inr rfl
          · exact disjoint key
        · show (policy.t1.get? key).or ((policy.t2.erase candidate.key).get? key) = _
          rw [get?_erase]
          split
          next isKey => rw [isKey, otherHead]; rfl
          next => rfl
        · show (policy.t2.erase candidate.key).get? key = none
          rw [get?_erase, absent, ite_self]
    obtain ⟨stillDisjoint, getHead, stillAbsent⟩ := evicted
    have restKept : ∀ other ∈ rest, (if other.fromT1 then (policy.applyEviction candidate).t2
        else (policy.applyEviction candidate).t1).get? other.key = none := by
      intro other member
      have absent := otherRest other member
      cases isT1 : other.fromT1 with
      | true =>
        rw [isT1, if_pos rfl] at absent
        exact (stillAbsent other.key).2 absent
      | false =>
        rw [isT1, if_neg Bool.false_ne_true] at absent
        exact (stillAbsent other.key).1 absent
    have result := ih stillDisjoint restKept
    refine ⟨result.1, fun key => ?_⟩
    rw [List.foldl_cons, result.2 key, getHead key]
    by_cases inRest : key ∈ rest.map Candidate.key
    · simp [inRest]
    · by_cases isHead : key = candidate.key <;> simp [isHead, inRest]

theorem evict_spec [PyFloat F] {after : ARCCachePolicy κ F} (disjoint : policy.Disjoint)
    (ran : policy.evict n isProtected = some (evicted, after)) :
    after.Disjoint ∧ evicted.length = n ∧ Evicts policy.get after.get isProtected evicted := by
  unfold evict at ran
  split at ran
  next isZero =>
    cases ran
    exact ⟨disjoint, isZero.symm, List.nodup_nil, by simp, by simp, by simp, by simp⟩
  next =>
    split at ran
    · cases ran
    next candidates chosen =>
      cases ran
      have nothing : policy.Selected isProtected [] := ⟨List.nodup_nil, by simp, by simp, by simp⟩
      obtain ⟨selected, count⟩ := selectCandidates_spec nothing chosen
      have keysEq : (candidates.map fun candidate => (candidate.key, candidate.block)).map Prod.fst =
          candidates.map Candidate.key := by
        rw [List.map_map]
        rfl
      have otherList : ∀ candidate ∈ candidates,
          (if candidate.fromT1 then policy.t2 else policy.t1).get? candidate.key = none := by
        intro candidate member
        have located := selected.located candidate member
        cases isT1 : candidate.fromT1 with
        | true =>
          rw [isT1, if_pos rfl] at located
          exact (disjoint candidate.key).resolve_left (by simp [located])
        | false =>
          rw [isT1, if_neg Bool.false_ne_true] at located
          exact (disjoint candidate.key).resolve_right (by simp [located])
      obtain ⟨stillDisjoint, getAfter⟩ := foldl_applyEviction disjoint otherList
      refine ⟨stillDisjoint, by simpa using count, ?_⟩
      constructor
      · rw [keysEq]
        exact selected.nodup
      · intro entry member
        obtain ⟨candidate, isCandidate, rfl⟩ := List.mem_map.mp member
        have located := selected.located candidate isCandidate
        have absent := otherList candidate isCandidate
        show (policy.t1.get? candidate.key).or (policy.t2.get? candidate.key) = some candidate.block
        cases isT1 : candidate.fromT1 with
        | true => simp_all
        | false => simp_all
      · intro entry member
        obtain ⟨candidate, isCandidate, rfl⟩ := List.mem_map.mp member
        exact selected.idle candidate isCandidate
      · intro entry member
        obtain ⟨candidate, isCandidate, rfl⟩ := List.mem_map.mp member
        exact selected.unprotected candidate isCandidate
      · rw [keysEq]
        exact getAfter

theorem setRefCnt_spec (disjoint : policy.Disjoint) (key : κ) (count : Int) :
    (policy.setRefCnt key count).Disjoint ∧ ∀ other, (policy.setRefCnt key count).get other =
      if other = key then (policy.get key).map fun block => { block with refCnt := cInt32 count }
      else policy.get other := by
  unfold setRefCnt
  split
  next block _ inT1 =>
    have absent := (disjoint key).resolve_left (by simp [inT1])
    constructor
    · intro other
      rw [get?_set]
      split
      next isKey => exact .inr (isKey ▸ absent)
      next => exact disjoint other
    · intro other
      show ((policy.t1.set key _).get? other).or (policy.t2.get? other) = _
      rw [get?_set]
      split
      next => simp [get, inT1]
      next => rfl
  next block notT1 inT2 =>
    constructor
    · intro other
      rw [get?_set]
      split
      next isKey => exact .inl (isKey ▸ notT1)
      next => exact disjoint other
    · intro other
      show (policy.t1.get? other).or ((policy.t2.set key _).get? other) = _
      rw [get?_set]
      split
      next isKey => simp [get, isKey, notT1, inT2]
      next => rfl
  next notT1 notT2 =>
    refine ⟨disjoint, fun other => ?_⟩
    split
    next isKey => simp [get, isKey, notT1, notT2]
    next => rfl

end ARCCachePolicy

namespace CachePolicy

/-- What ARC keeps between its operations; LRU has one list only. -/
def WellFormed : CachePolicy κ F → Prop
  | .lru _ => True
  | .arc policy => policy.Disjoint

theorem init_spec [PyFloat F] (cacheCapacity : Nat) (name : CachePolicyName) :
    (init cacheCapacity name : CachePolicy κ F).WellFormed ∧
      (init cacheCapacity name : CachePolicy κ F).get = fun _ => none := by
  cases name with
  | lru => exact ⟨trivial, rfl⟩
  | arc => exact ⟨fun _ => .inl rfl, rfl⟩

section

variable {policy : CachePolicy κ F} (wellFormed : policy.WellFormed)

include wellFormed

theorem insert_spec {key : κ} (isNew : policy.get key = none) (block : BlockStatus) :
    (policy.insert key block).WellFormed ∧
      (policy.insert key block).get = update policy.get key (some block) := by
  cases policy with
  | lru policy =>
    refine ⟨trivial, funext fun other => ?_⟩
    rw [update_apply]
    exact get?_set _ _ _ _
  | arc policy =>
    refine ⟨policy.insert_disjoint wellFormed isNew block, funext fun other => ?_⟩
    rw [update_apply]
    exact ARCCachePolicy.get_insert block other

theorem remove_spec {key : κ} {block : BlockStatus} (isHeld : policy.get key = some block) :
    ∃ after, policy.remove key = .ok after ∧ after.WellFormed ∧
      after.get = update policy.get key none := by
  cases policy with
  | lru policy =>
    refine ⟨.lru ⟨policy.blocks.erase key⟩, ?_, trivial, funext fun other => ?_⟩
    · have read : policy.blocks.get? key = some block := isHeld
      simp [remove, LRUCachePolicy.remove, read, bind, Except.bind]
    · rw [update_apply]
      exact get?_erase _ _ _
  | arc policy =>
    refine ⟨.arc (policy.remove key), rfl, policy.remove_disjoint wellFormed key,
      funext fun other => ?_⟩
    rw [update_apply]
    exact ARCCachePolicy.get_remove wellFormed key other

theorem touch_spec [PyFloat F]
    (keys : List κ) : (policy.touch keys).WellFormed ∧ (policy.touch keys).get = policy.get := by
  cases policy with
  | lru policy => exact ⟨trivial, funext fun key => policy.get_touch keys key⟩
  | arc policy => exact ARCCachePolicy.touch_spec wellFormed keys

end

theorem clear_spec [PyFloat F] (policy : CachePolicy κ F) :
    policy.clear.WellFormed ∧ policy.clear.get = fun _ => none := by
  cases policy with
  | lru policy => exact ⟨trivial, rfl⟩
  | arc policy => exact ⟨fun _ => .inl rfl, rfl⟩

theorem evict_spec [PyFloat F] {policy after : CachePolicy κ F} (wellFormed : policy.WellFormed)
    (ran : policy.evict n isProtected = some (evicted, after)) :
    after.WellFormed ∧ evicted.length = n ∧ Evicts policy.get after.get isProtected evicted := by
  cases policy with
  | lru policy =>
    obtain ⟨⟨_, _⟩, inner, same⟩ := Option.map_eq_some_iff.mp ran
    cases same
    exact ⟨trivial, LRUCachePolicy.evict_spec inner⟩
  | arc policy =>
    obtain ⟨⟨_, _⟩, inner, same⟩ := Option.map_eq_some_iff.mp ran
    cases same
    exact ARCCachePolicy.evict_spec wellFormed inner

theorem setRefCnt_spec {policy : CachePolicy κ F} (wellFormed : policy.WellFormed) {key : κ}
    {block : BlockStatus} (isHeld : policy.get key = some block) {count : Int}
    (low : -2 ^ 31 ≤ count) (high : count < 2 ^ 31) :
    (policy.setRefCnt key count).WellFormed ∧ (policy.setRefCnt key count).get =
      update policy.get key (some { block with refCnt := count }) := by
  cases policy with
  | lru policy =>
    refine ⟨trivial, funext fun other => ?_⟩
    have read : policy.blocks.get? key = some block := isHeld
    rw [update_apply]
    show (policy.setRefCnt key count).blocks.get? other = _
    rw [LRUCachePolicy.setRefCnt, read]
    rw [get?_set, cInt32_eq low high]
    rfl
  | arc policy =>
    obtain ⟨stillDisjoint, getAfter⟩ := ARCCachePolicy.setRefCnt_spec wellFormed key count
    refine ⟨stillDisjoint, funext fun other => ?_⟩
    have read : policy.get key = some block := isHeld
    rw [update_apply]
    show (policy.setRefCnt key count).get other = _
    rw [getAfter other, read, cInt32_eq low high]
    rfl

end CachePolicy

end DeepSpark
