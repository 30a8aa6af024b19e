import DeepSpark.Offload.Policies

/-!
When a cache policy can evict (`v1/kv_offload/cpu/policies/`).

Owns the states a policy reaches, what holds in all of them of ARC's target and ghost lists,
and when `evict` finds its victims: LRU whenever there are enough idle blocks, ARC only while
its target lets it take them from `t1`.
-/

namespace DeepSpark

open Lib PyDict ARCCachePolicy

variable {κ F : Type} [DecidableEq κ]

/-- What rounding does not change in the arithmetic of floats. -/
class LawfulPyFloat (F : Type) [PyFloat F] [LinearOrder F] : Prop where
  max_eq : ∀ x y : F, PyFloat.max x y = max x y
  min_eq : ∀ x y : F, PyFloat.min x y = min x y
  ofNat_mono : ∀ {m n : Nat}, m ≤ n → (PyFloat.ofNat m : F) ≤ PyFloat.ofNat n
  add_nonneg : ∀ {x y : F}, PyFloat.ofNat 0 ≤ x → PyFloat.ofNat 0 ≤ y → PyFloat.ofNat 0 ≤ PyFloat.add x y
  sub_le : ∀ {x y : F}, PyFloat.ofNat 0 ≤ y → PyFloat.sub x y ≤ x

/-- Exact arithmetic. -/
local instance : PyFloat ℚ where
  ofNat n := n
  add := (· + ·)
  sub := (· - ·)
  quotient m n := m / n
  max := max
  min := min
  toInt x := x.floor

local instance : LawfulPyFloat ℚ where
  max_eq _ _ := rfl
  min_eq _ _ := rfl
  ofNat_mono := Nat.cast_le.mpr
  add_nonneg low high := add_nonneg (by exact_mod_cast low) (by exact_mod_cast high)
  sub_le low := sub_le_self _ (by exact_mod_cast low)

def isEvictable (isProtected : List κ) (entry : κ × BlockStatus) : Bool :=
  entry.2.refCnt = 0 ∧ entry.1 ∉ isProtected

def CachePolicy.tracked : CachePolicy κ F → List (κ × BlockStatus)
  | .lru policy => policy.blocks.entries
  | .arc policy => policy.t1.entries ++ policy.t2.entries

/-- The blocks that `evict` may return. -/
def CachePolicy.evictable (policy : CachePolicy κ F) (isProtected : List κ) : List (κ × BlockStatus) :=
  policy.tracked.filter (isEvictable isProtected)

variable {n : Nat} {α : Type} {dict : PyDict κ α} {other : κ}

/-! ## How many victims ARC finds -/

namespace ARCCachePolicy

variable {policy : ARCCachePolicy κ F} {isProtected : List κ}

def leftIn (isProtected alreadySelected : List κ) (blocks : PyDict κ BlockStatus) : List (κ × BlockStatus) :=
  (blocks.entries.filter (isEvictable isProtected)).filter fun entry => entry.1 ∉ alreadySelected

theorem firstEvictable_eq (isProtected alreadySelected : List κ) (fromT1 : Bool) (blocks : PyDict κ BlockStatus) :
    firstEvictable isProtected alreadySelected fromT1 blocks =
      (leftIn isProtected alreadySelected blocks).head?.map fun entry => ⟨entry.1, entry.2, fromT1⟩ := by
  rw [firstEvictable, leftIn, List.filter_filter, ← List.head?_filter]
  congr 3
  funext entry
  rw [isEvictable, ← Bool.decide_and, decide_eq_decide]
  constructor
  · intro evictable
    exact ⟨evictable.2.2, evictable.1, evictable.2.1⟩
  · intro isLeft
    exact ⟨isLeft.2.1, isLeft.2.2, isLeft.1⟩

theorem leftIn_nodup (isProtected alreadySelected : List κ) (blocks : PyDict κ BlockStatus) :
    ((leftIn isProtected alreadySelected blocks).map Prod.fst).Nodup :=
  blocks.nodup.sublist ((List.filter_sublist.trans List.filter_sublist).map Prod.fst)

theorem leftIn_select {alreadySelected : List κ} {blocks : PyDict κ BlockStatus} {entry : κ × BlockStatus}
    (isFirst : (leftIn isProtected alreadySelected blocks).head? = some entry) :
    (leftIn isProtected (alreadySelected ++ [entry.1]) blocks).length + 1 =
      (leftIn isProtected alreadySelected blocks).length := by
  have isNext : leftIn isProtected (alreadySelected ++ [entry.1]) blocks =
      (leftIn isProtected alreadySelected blocks).filter fun other => other.1 ≠ entry.1 := by
    rw [leftIn, leftIn, List.filter_filter, List.filter_filter, List.filter_filter]
    refine List.filter_congr fun other _ => ?_
    congr 1
    simp [and_comm]
  obtain ⟨rest, isLeft⟩ := List.head?_eq_some_iff.mp isFirst
  have distinct := leftIn_nodup isProtected alreadySelected blocks
  rw [isLeft, List.map_cons, List.nodup_cons] at distinct
  have restKept : rest.filter (fun other => other.1 ≠ entry.1) = rest :=
    List.filter_eq_self.mpr fun other isOther => by
      simpa using fun same => distinct.1 (List.mem_map.mpr ⟨other, isOther, same⟩)
  rw [isNext, isLeft, List.filter_cons_of_neg (by simp), restKept, List.length_cons]

theorem leftIn_other {alreadySelected : List κ} {blocks : PyDict κ BlockStatus} {key : κ} (isOut : blocks.get? key = none) :
    leftIn isProtected (alreadySelected ++ [key]) blocks = leftIn isProtected alreadySelected blocks := by
  refine List.filter_congr fun entry isEntry => ?_
  have differ : entry.1 ≠ key := fun same => by
    have held := mem_entries.mp (List.mem_filter.mp isEntry).1
    rw [same, isOut] at held
    cases held
  simp [differ]

/-- The victims that `t1` gives up before it falls below the target. -/
def fromT1 [PyFloat F] (policy : ARCCachePolicy κ F) (left : Nat) (virtualT1Size : Int) : Nat :=
  min left (virtualT1Size + 1 - PyFloat.toInt policy.targetT1Size).toNat

theorem selectCandidates_eq_none [PyFloat F] (disjoint : policy.Disjoint) {n : Nat} {before : List (Candidate κ)}
    {virtualT1Size : Int} :
    policy.selectCandidates isProtected n before virtualT1Size = none ↔
      policy.fromT1 (leftIn isProtected (before.map Candidate.key) policy.t1).length virtualT1Size +
        (leftIn isProtected (before.map Candidate.key) policy.t2).length < n := by
  induction n generalizing before virtualT1Size with
  | zero => simp [selectCandidates]
  | succ n ih =>
    have isHeld : ∀ {blocks : PyDict κ BlockStatus} {entry},
        (leftIn isProtected (before.map Candidate.key) blocks).head? = some entry → blocks.get? entry.1 = some entry.2 :=
      fun isFirst => mem_entries.mp (List.mem_filter.mp (List.mem_filter.mp (List.mem_of_head? isFirst)).1).1
    have selects : ∀ candidate : Candidate κ, (before ++ [candidate]).map Candidate.key =
        before.map Candidate.key ++ [candidate.key] := fun candidate => List.map_append
    rw [selectCandidates, nextCandidate, firstEvictable_eq, firstEvictable_eq]
    by_cases fromFirst : PyFloat.toInt policy.targetT1Size ≤ virtualT1Size ∧
        (leftIn isProtected (before.map Candidate.key) policy.t1).head?.isSome
    · obtain ⟨high, some⟩ := fromFirst
      obtain ⟨entry, isFirst⟩ := Option.isSome_iff_exists.mp some
      have absent : policy.t2.get? entry.1 = none := (disjoint entry.1).resolve_left (by simp [isHeld isFirst])
      have isLeft := leftIn_select isFirst
      rw [if_pos high, isFirst]
      dsimp only [Option.map_some, Option.some_or]
      rw [if_pos rfl, ih, selects, leftIn_other absent, fromT1, fromT1]
      dsimp only
      omega
    · have noneFirst : policy.fromT1 (leftIn isProtected (before.map Candidate.key) policy.t1).length virtualT1Size = 0 := by
        rw [fromT1]
        by_cases high : PyFloat.toInt policy.targetT1Size ≤ virtualT1Size
        · have isEmpty : leftIn isProtected (before.map Candidate.key) policy.t1 = [] := by
            simpa [high] using fromFirst
          rw [isEmpty, List.length_nil, Nat.zero_min]
        · omega
      have skips : (if PyFloat.toInt policy.targetT1Size ≤ virtualT1Size then
          (leftIn isProtected (before.map Candidate.key) policy.t1).head?.map
            fun entry => (⟨entry.1, entry.2, true⟩ : Candidate κ) else none) = none := by
        split
        next high => simpa [high] using fromFirst
        next => rfl
      rw [skips, Option.none_or, noneFirst]
      cases isFirst : (leftIn isProtected (before.map Candidate.key) policy.t2).head? with
      | none =>
        rw [List.head?_eq_none_iff.mp isFirst]
        simp
      | some entry =>
        have absent : policy.t1.get? entry.1 = none := (disjoint entry.1).resolve_right (by simp [isHeld isFirst])
        have isLeft := leftIn_select isFirst
        dsimp only [Option.map_some]
        rw [if_neg Bool.false_ne_true, ih, selects, leftIn_other absent, noneFirst]
        dsimp only
        omega

/-- ARC fails exactly when the blocks it may take from `t1` and the evictable ones of `t2` are
too few. -/
theorem evict_eq_none [PyFloat F] (disjoint : policy.Disjoint) :
    policy.evict n isProtected = none ↔
      policy.fromT1 (policy.t1.entries.filter (isEvictable isProtected)).length policy.t1.entries.length +
        (policy.t2.entries.filter (isEvictable isProtected)).length < n := by
  have isAll : ∀ blocks : PyDict κ BlockStatus, leftIn isProtected [] blocks = blocks.entries.filter (isEvictable isProtected) :=
    fun blocks => List.filter_eq_self.mpr fun _ _ => by simp
  have selects := @selectCandidates_eq_none κ F _ policy isProtected _ disjoint n [] policy.t1.entries.length
  rw [List.map_nil, isAll, isAll] at selects
  rw [← selects, evict]
  split
  next isZero => simp [isZero, selectCandidates]
  next => cases policy.selectCandidates isProtected n [] policy.t1.entries.length <;> simp

/-! ## What holds in every state -/

/-- `target_t1_size` in its range, ghost lists within the capacity, and no tracked key in them. -/
structure Bounded [PyFloat F] [LinearOrder F] (policy : ARCCachePolicy κ F) : Prop where
  disjoint : policy.Disjoint
  target_nonneg : PyFloat.ofNat 0 ≤ policy.targetT1Size
  target_le : policy.targetT1Size ≤ PyFloat.ofNat policy.cacheCapacity
  b1_le : policy.b1.entries.length ≤ policy.cacheCapacity
  b2_le : policy.b2.entries.length ≤ policy.cacheCapacity
  notGhost : ∀ key, policy.get key ≠ none → key ∉ policy.b1.keys ∧ key ∉ policy.b2.keys

variable [PyFloat F] [LinearOrder F]

theorem init_bounded [LawfulPyFloat F] (cacheCapacity : Nat) : (init cacheCapacity : ARCCachePolicy κ F).Bounded where
  disjoint _ := .inl rfl
  target_nonneg := le_refl _
  target_le := LawfulPyFloat.ofNat_mono (Nat.zero_le _)
  b1_le := Nat.zero_le _
  b2_le := Nat.zero_le _
  notGhost _ isTracked := absurd rfl isTracked

theorem clear_bounded [LawfulPyFloat F] (policy : ARCCachePolicy κ F) : policy.clear.Bounded where
  disjoint _ := .inl rfl
  target_nonneg := le_refl _
  target_le := LawfulPyFloat.ofNat_mono (Nat.zero_le _)
  b1_le := Nat.zero_le _
  b2_le := Nat.zero_le _
  notGhost _ isTracked := absurd rfl isTracked

theorem length_erase_le (dict : PyDict κ α) (key : κ) :
    (dict.erase key).entries.length ≤ dict.entries.length :=
  List.length_filter_le _ _

theorem mem_keys_erase {key : κ} :
    other ∈ (dict.erase key).keys ↔ other ≠ key ∧ other ∈ dict.keys := by
  rw [mem_keys, mem_keys, get?_erase]
  split
  next same => simp [same]
  next differ => simp [differ]

theorem mem_keys_set {key : κ} {value : α} :
    other ∈ (dict.set key value).keys ↔ other ∈ dict.keys ∨ other = key := by
  rw [mem_keys, mem_keys, get?_set]
  split
  next same => simp [same]
  next differ => simp [differ]

section

variable {policy : ARCCachePolicy κ F} (bounded : policy.Bounded)

include bounded

theorem insert_bounded {key : κ}
    (notT2 : policy.t2.get? key = none) (block : BlockStatus) : (policy.insert key block).Bounded where
  disjoint other := by
    show (policy.t1.set key block).get? other = none ∨ policy.t2.get? other = none
    rw [get?_set]
    split
    next isKey => exact .inr (isKey ▸ notT2)
    next => exact bounded.disjoint other
  target_nonneg := bounded.target_nonneg
  target_le := bounded.target_le
  b1_le := (length_erase_le _ _).trans bounded.b1_le
  b2_le := (length_erase_le _ _).trans bounded.b2_le
  notGhost other isTracked := by
    show other ∉ (policy.b1.erase key).keys ∧ other ∉ (policy.b2.erase key).keys
    rw [mem_keys_erase, mem_keys_erase]
    rw [get_insert] at isTracked
    split at isTracked
    next isKey => exact ⟨fun inGhost => inGhost.1 isKey, fun inGhost => inGhost.1 isKey⟩
    next =>
      have absent := bounded.notGhost other isTracked
      exact ⟨fun inGhost => absent.1 inGhost.2, fun inGhost => absent.2 inGhost.2⟩

theorem remove_bounded (key : κ) :
    (policy.remove key).Bounded := by
  have kept : (policy.remove key).cacheCapacity = policy.cacheCapacity ∧
      (policy.remove key).targetT1Size = policy.targetT1Size ∧
      (policy.remove key).b1 = policy.b1 ∧ (policy.remove key).b2 = policy.b2 := by
    unfold remove
    split <;> exact ⟨rfl, rfl, rfl, rfl⟩
  obtain ⟨capacity, target, sameB1, sameB2⟩ := kept
  constructor
  · exact remove_disjoint bounded.disjoint key
  · exact target ▸ bounded.target_nonneg
  · exact target ▸ capacity ▸ bounded.target_le
  · exact sameB1 ▸ capacity ▸ bounded.b1_le
  · exact sameB2 ▸ capacity ▸ bounded.b2_le
  · intro other isTracked
    rw [get_remove bounded.disjoint] at isTracked
    split at isTracked
    · cases isTracked rfl
    · exact sameB1 ▸ sameB2 ▸ bounded.notGhost other isTracked

theorem setRefCnt_bounded (key : κ) (count : Int) :
    (policy.setRefCnt key count).Bounded := by
  have kept : (policy.setRefCnt key count).cacheCapacity = policy.cacheCapacity ∧
      (policy.setRefCnt key count).targetT1Size = policy.targetT1Size ∧
      (policy.setRefCnt key count).b1 = policy.b1 ∧ (policy.setRefCnt key count).b2 = policy.b2 := by
    unfold setRefCnt
    split <;> exact ⟨rfl, rfl, rfl, rfl⟩
  obtain ⟨capacity, target, sameB1, sameB2⟩ := kept
  obtain ⟨stillDisjoint, getAfter⟩ := setRefCnt_spec bounded.disjoint key count
  constructor
  · exact stillDisjoint
  · exact target ▸ bounded.target_nonneg
  · exact target ▸ capacity ▸ bounded.target_le
  · exact sameB1 ▸ capacity ▸ bounded.b1_le
  · exact sameB2 ▸ capacity ▸ bounded.b2_le
  · intro other isTracked
    rw [sameB1, sameB2]
    refine bounded.notGhost other fun absent => isTracked ?_
    rw [getAfter]
    split
    next isKey => rw [← isKey, absent]; rfl
    next => exact absent

end

theorem mem_keys_moveToEnd {key : κ} :
    other ∈ (dict.moveToEnd key).keys ↔ other ∈ dict.keys := by
  rw [mem_keys, mem_keys, get?_moveToEnd]

theorem keys_moveToEnd (dict : PyDict κ α) (key : κ) : (dict.moveToEnd key).keys.Perm dict.keys :=
  (List.perm_ext_iff_of_nodup (keys_nodup _) (keys_nodup _)).mpr fun _ => mem_keys_moveToEnd

variable [LawfulPyFloat F]

/-- What a hit in a ghost list adds to the target, or takes from it, is not negative. -/
theorem delta_nonneg (ratio : F) : (PyFloat.ofNat 0 : F) ≤ PyFloat.max (PyFloat.ofNat 1) ratio := by
  rw [LawfulPyFloat.max_eq]
  exact (LawfulPyFloat.ofNat_mono (Nat.zero_le 1)).trans (le_max_left _ _)

theorem touchKey_target {policy : ARCCachePolicy κ F} (bounded : policy.Bounded) (key : κ) :
    PyFloat.ofNat 0 ≤ (policy.touchKey key).targetT1Size ∧
      (policy.touchKey key).targetT1Size ≤ PyFloat.ofNat policy.cacheCapacity := by
  have same := And.intro bounded.target_nonneg bounded.target_le
  unfold touchKey
  split
  · split <;> exact same
  split
  · exact same
  split
  · have raised := LawfulPyFloat.add_nonneg bounded.target_nonneg
      (delta_nonneg (PyFloat.quotient policy.b2.entries.length policy.b1.entries.length : F))
    dsimp only
    rw [LawfulPyFloat.min_eq]
    exact ⟨le_min raised (LawfulPyFloat.ofNat_mono (Nat.zero_le _)), min_le_right _ _⟩
  split
  · have lowered := LawfulPyFloat.sub_le (x := policy.targetT1Size)
      (delta_nonneg (PyFloat.quotient policy.b1.entries.length policy.b2.entries.length : F))
    dsimp only
    rw [LawfulPyFloat.max_eq]
    exact ⟨le_max_right _ _, max_le (lowered.trans bounded.target_le) (LawfulPyFloat.ofNat_mono (Nat.zero_le _))⟩
  · exact same

omit [LinearOrder F] [LawfulPyFloat F] in
theorem touchKey_ghosts (policy : ARCCachePolicy κ F) (key : κ) :
    (policy.touchKey key).b1.keys.Perm policy.b1.keys ∧ (policy.touchKey key).b2.keys.Perm policy.b2.keys ∧
      (policy.touchKey key).cacheCapacity = policy.cacheCapacity := by
  unfold touchKey
  split
  · split <;> exact ⟨.refl _, .refl _, rfl⟩
  split
  · exact ⟨.refl _, .refl _, rfl⟩
  split
  · exact ⟨keys_moveToEnd _ _, .refl _, rfl⟩
  split
  · exact ⟨.refl _, keys_moveToEnd _ _, rfl⟩
  · exact ⟨.refl _, .refl _, rfl⟩

theorem touchKey_bounded {policy : ARCCachePolicy κ F} (bounded : policy.Bounded) (key : κ) :
    (policy.touchKey key).Bounded := by
  obtain ⟨stillDisjoint, sameGet⟩ := touchKey_spec bounded.disjoint key
  obtain ⟨nonneg, inCapacity⟩ := touchKey_target bounded key
  obtain ⟨sameB1, sameB2, capacity⟩ := touchKey_ghosts policy key
  constructor
  · exact stillDisjoint
  · exact nonneg
  · exact capacity ▸ inCapacity
  · have sameLength : (policy.touchKey key).b1.entries.length = policy.b1.entries.length := by
      simpa [keys] using sameB1.length_eq
    exact sameLength ▸ capacity ▸ bounded.b1_le
  · have sameLength : (policy.touchKey key).b2.entries.length = policy.b2.entries.length := by
      simpa [keys] using sameB2.length_eq
    exact sameLength ▸ capacity ▸ bounded.b2_le
  · intro other isTracked
    rw [sameB1.mem_iff, sameB2.mem_iff]
    exact bounded.notGhost other (sameGet ▸ isTracked)

theorem touch_bounded {policy : ARCCachePolicy κ F} (bounded : policy.Bounded) (keys : List κ) :
    (policy.touch keys).Bounded :=
  foldl_preserves (P := Bounded) (fun _ key holds => touchKey_bounded holds key) bounded

omit [LawfulPyFloat F] [PyFloat F] [LinearOrder F] in
theorem foldl_applyEviction_ghosts (candidates : List (Candidate κ)) (policy : ARCCachePolicy κ F) :
    (candidates.foldl applyEviction policy).cacheCapacity = policy.cacheCapacity ∧
      (candidates.foldl applyEviction policy).targetT1Size = policy.targetT1Size ∧
      (∀ key ∈ (candidates.foldl applyEviction policy).b1.keys, key ∈ policy.b1.keys ∨ key ∈ candidates.map Candidate.key) ∧
      ∀ key ∈ (candidates.foldl applyEviction policy).b2.keys, key ∈ policy.b2.keys ∨ key ∈ candidates.map Candidate.key := by
  induction candidates generalizing policy with
  | nil => exact ⟨rfl, rfl, fun _ => .inl, fun _ => .inl⟩
  | cons candidate rest ih =>
    obtain ⟨capacity, target, inB1, inB2⟩ := ih (policy.applyEviction candidate)
    have one : (policy.applyEviction candidate).cacheCapacity = policy.cacheCapacity ∧
        (policy.applyEviction candidate).targetT1Size = policy.targetT1Size ∧
        (∀ key ∈ (policy.applyEviction candidate).b1.keys, key ∈ policy.b1.keys ∨ key = candidate.key) ∧
        ∀ key ∈ (policy.applyEviction candidate).b2.keys, key ∈ policy.b2.keys ∨ key = candidate.key := by
      unfold applyEviction
      split
      · exact ⟨rfl, rfl, fun _ => mem_keys_set.mp, fun _ => .inl⟩
      · exact ⟨rfl, rfl, fun _ => .inl, fun _ => mem_keys_set.mp⟩
    obtain ⟨sameCapacity, sameTarget, headB1, headB2⟩ := one
    rw [List.foldl_cons, List.map_cons]
    refine ⟨capacity.trans sameCapacity, target.trans sameTarget, fun key isGhost => ?_, fun key isGhost => ?_⟩
    · rcases inB1 key isGhost with before | isVictim
      · rcases headB1 key before with old | isHead
        · exact .inl old
        · exact .inr (isHead ▸ List.mem_cons_self)
      · exact .inr (List.mem_cons_of_mem _ isVictim)
    · rcases inB2 key isGhost with before | isVictim
      · rcases headB2 key before with old | isHead
        · exact .inl old
        · exact .inr (isHead ▸ List.mem_cons_self)
      · exact .inr (List.mem_cons_of_mem _ isVictim)

omit [DecidableEq κ] in
theorem mem_keys_popOldest {count : Nat} {key : κ}
    (isGhost : key ∈ (dict.popOldest count).keys) : key ∈ dict.keys := by
  obtain ⟨entry, isEntry, rfl⟩ := List.mem_map.mp isGhost
  exact List.mem_map.mpr ⟨entry, List.mem_of_mem_drop isEntry, rfl⟩

omit [DecidableEq κ] in
theorem length_popOldest_le (dict : PyDict κ α) (capacity : Nat) :
    (dict.popOldest (dict.entries.length - capacity)).entries.length ≤ capacity := by
  show (dict.entries.drop _).length ≤ capacity
  rw [List.length_drop]
  omega

omit [LawfulPyFloat F] in
theorem evict_bounded {policy after : ARCCachePolicy κ F} (bounded : policy.Bounded)
    {isProtected : List κ} {evicted : List (κ × BlockStatus)}
    (ran : policy.evict n isProtected = some (evicted, after)) : after.Bounded := by
  obtain ⟨stillDisjoint, -, evicts⟩ := evict_spec bounded.disjoint ran
  unfold evict at ran
  split at ran
  next => cases ran; exact bounded
  next =>
    split at ran
    · cases ran
    next candidates _ =>
      cases ran
      obtain ⟨capacity, target, inB1, inB2⟩ := foldl_applyEviction_ghosts candidates policy
      constructor
      · exact stillDisjoint
      · exact target ▸ bounded.target_nonneg
      · exact target ▸ capacity ▸ bounded.target_le
      · exact length_popOldest_le _ _
      · exact length_popOldest_le _ _
      · intro key isTracked
        rw [evicts.getAfter_eq, List.map_map] at isTracked
        split at isTracked
        · cases isTracked rfl
        next notVictim =>
          have absent := bounded.notGhost key isTracked
          exact ⟨fun isGhost => (inB1 key (mem_keys_popOldest isGhost)).elim absent.1 notVictim,
            fun isGhost => (inB2 key (mem_keys_popOldest isGhost)).elim absent.2 notVictim⟩

end ARCCachePolicy

/-! ## Every reachable state -/

/-- `evict` of LRU fails exactly when the evictable blocks are too few. -/
theorem LRUCachePolicy.evict_eq_none {policy : LRUCachePolicy κ} {isProtected : List κ} :
    policy.evict n isProtected = none ↔ (policy.blocks.entries.filter (isEvictable isProtected)).length < n := by
  rw [evict]
  split
  next isZero => simp [isZero]
  next =>
    show (if ((policy.blocks.entries.filter (isEvictable isProtected)).take n).length < n then _ else _) = none ↔ _
    rw [List.length_take]
    split
    next few => simp; omega
    next enough => simp; omega

variable {cacheCapacity : Nat} {name : CachePolicyName}

namespace CachePolicy

section

variable [PyFloat F] [LinearOrder F]

def Bounded : CachePolicy κ F → Prop
  | .lru _ => True
  | .arc policy => policy.Bounded

/-- The keys that the manager may insert: it has not found them in the policy, or inserted them
just now. -/
def MayInsert : CachePolicy κ F → κ → Prop
  | .lru _, _ => True
  | .arc policy, key => policy.t2.get? key = none

instance (policy : CachePolicy κ F) (key : κ) : Decidable (policy.MayInsert key) :=
  match policy with
  | .lru _ => inferInstanceAs (Decidable True)
  | .arc policy => inferInstanceAs (Decidable (policy.t2.get? key = none))

/-- A call of the policy that returns, or an assignment to the `ref_cnt` of one of its blocks. -/
inductive Step : CachePolicy κ F → CachePolicy κ F → Prop
  | insert {policy} {key} (allowed : policy.MayInsert key) (block : BlockStatus) : Step policy (policy.insert key block)
  | remove {policy after} {key} (ran : policy.remove key = .ok after) : Step policy after
  | touch (policy) (keys : List κ) : Step policy (policy.touch keys)
  | clear (policy) : Step policy policy.clear
  | evict {policy after} {n} {isProtected evicted} (ran : policy.evict n isProtected = some (evicted, after)) :
      Step policy after
  | setRefCnt (policy) (key : κ) (count : Int) : Step policy (policy.setRefCnt key count)

def Reachable (cacheCapacity : Nat) (name : CachePolicyName) (policy : CachePolicy κ F) : Prop :=
  Relation.ReflTransGen Step (init cacheCapacity name) policy

variable [LawfulPyFloat F]

theorem Step.bounded {policy after : CachePolicy κ F} (step : Step policy after) (bounded : policy.Bounded) :
    after.Bounded := by
  cases step with
  | insert allowed block =>
    cases policy with
    | lru => trivial
    | arc policy => exact insert_bounded bounded allowed block
  | remove ran =>
    cases policy with
    | lru policy =>
      obtain ⟨_, _, same⟩ := bind_eq_ok.mp ran
      cases same
      trivial
    | arc policy =>
      cases ran
      exact remove_bounded bounded _
  | touch keys =>
    cases policy with
    | lru => trivial
    | arc policy => exact touch_bounded bounded keys
  | clear =>
    cases policy with
    | lru => trivial
    | arc policy => exact policy.clear_bounded
  | evict ran =>
    cases policy with
    | lru policy =>
      obtain ⟨_, _, same⟩ := Option.map_eq_some_iff.mp ran
      cases same
      trivial
    | arc policy =>
      obtain ⟨⟨_, _⟩, inner, same⟩ := Option.map_eq_some_iff.mp ran
      cases same
      exact evict_bounded bounded inner
  | setRefCnt key count =>
    cases policy with
    | lru => trivial
    | arc policy => exact setRefCnt_bounded bounded key count

theorem Reachable.bounded {policy : CachePolicy κ F}
    (reachable : Reachable cacheCapacity name policy) : policy.Bounded := by
  induction reachable with
  | refl =>
    cases name with
    | lru => trivial
    | arc => exact init_bounded cacheCapacity
  | tail _ step bounded => exact step.bounded bounded

/-- What `evict` promises: the victims, exactly when there are enough of them, and none of the
state changed otherwise. -/
structure EvictsExactly (policy : CachePolicy κ F) (n : Nat) (isProtected : List κ) : Prop where
  none_iff : policy.evict n isProtected = none ↔ (policy.evictable isProtected).length < n
  evicts : ∀ evicted after, policy.evict n isProtected = some (evicted, after) →
    evicted.length = n ∧ Evicts policy.get after.get isProtected evicted ∧ after.Bounded

/-- ARC may take enough from `t1`, or there is not enough to take. -/
def FindsEnough : CachePolicy κ F → Nat → List κ → Prop
  | .lru _, _, _ => True
  | .arc policy, n, isProtected =>
    n ≤ policy.fromT1 (policy.t1.entries.filter (isEvictable isProtected)).length policy.t1.entries.length +
        (policy.t2.entries.filter (isEvictable isProtected)).length ∨
      ((CachePolicy.arc policy).evictable isProtected).length < n

theorem Reachable.wellFormed {policy : CachePolicy κ F}
    (reachable : Reachable cacheCapacity name policy) : policy.WellFormed := by
  have bounded := reachable.bounded
  cases policy with
  | lru => trivial
  | arc => exact bounded.disjoint

/-- In every reachable state, `evict` does what it promises exactly when the source of the victims
lets it. -/
theorem evictsExactly_iff {cacheCapacity : Nat} {name : CachePolicyName} {policy : CachePolicy κ F}
    (reachable : Reachable cacheCapacity name policy) (n : Nat) (isProtected : List κ) :
    policy.EvictsExactly n isProtected ↔ policy.FindsEnough n isProtected := by
  have evicts : ∀ evicted after, policy.evict n isProtected = some (evicted, after) →
      evicted.length = n ∧ Evicts policy.get after.get isProtected evicted ∧ after.Bounded := by
    intro evicted after ran
    obtain ⟨-, count, taken⟩ := evict_spec reachable.wellFormed ran
    exact ⟨count, taken, (Step.evict ran).bounded reachable.bounded⟩
  have reduces : policy.EvictsExactly n isProtected ↔
      (policy.evict n isProtected = none ↔ (policy.evictable isProtected).length < n) :=
    ⟨EvictsExactly.none_iff, fun none_iff => ⟨none_iff, evicts⟩⟩
  rw [reduces]
  cases policy with
  | lru policy =>
    have fails : (CachePolicy.lru policy : CachePolicy κ F).evict n isProtected = none ↔
        policy.evict n isProtected = none := Option.map_eq_none_iff
    rw [fails, LRUCachePolicy.evict_eq_none]
    exact iff_of_true Iff.rfl trivial
  | arc policy =>
    have fails : (CachePolicy.arc policy).evict n isProtected = none ↔ policy.evict n isProtected = none :=
      Option.map_eq_none_iff
    have all : ((CachePolicy.arc policy).evictable isProtected).length =
        (policy.t1.entries.filter (isEvictable isProtected)).length +
          (policy.t2.entries.filter (isEvictable isProtected)).length := by
      rw [evictable, tracked, List.filter_append, List.length_append]
    have atMost : policy.fromT1 (policy.t1.entries.filter (isEvictable isProtected)).length
        policy.t1.entries.length ≤ (policy.t1.entries.filter (isEvictable isProtected)).length :=
      Nat.min_le_left _ _
    rw [fails, evict_eq_none reachable.bounded.disjoint, FindsEnough]
    omega

end

theorem Reachable.evictOrStay {policy : CachePolicy κ F} [PyFloat F]
    (reachable : Reachable cacheCapacity name policy) (n : Nat) (isProtected : List κ) :
    Reachable cacheCapacity name ((policy.evict n isProtected).elim policy Prod.snd) := by
  cases ran : policy.evict n isProtected with
  | none => exact reachable
  | some => exact reachable.tail (.evict ran)

/-- `b` is the only block of `t1`, and `a` was evicted. -/
def afterEviction : CachePolicy Char ℚ :=
  let stored := (((init 2 .arc).insert 'a' ⟨0, -1⟩).insert 'b' ⟨1, -1⟩).setRefCnt 'a' 0 |>.setRefCnt 'b' 0
  (stored.evict 1 ['c']).elim stored Prod.snd

/-- Two lookups of `a` raise the target to 2. Then `c`, stored for `a`, is touched and loaded. -/
def afterGhostHits : CachePolicy Char ℚ :=
  ((((afterEviction.insert 'c' ⟨0, -1⟩).setRefCnt 'c' 0).touch ['a']).touch ['a'] |>.touch ['c']).setRefCnt 'c' 1

theorem reachable_afterEviction : Reachable 2 .arc afterEviction := by
  have first : Reachable 2 .arc ((init 2 .arc : CachePolicy Char ℚ).insert 'a' ⟨0, -1⟩) :=
    .single (.insert (show (init 2 .arc : CachePolicy Char ℚ).MayInsert 'a' from rfl) _)
  have stored := first.tail (.insert (show (insert (init 2 .arc : CachePolicy Char ℚ) 'a' _).MayInsert 'b' from rfl) ⟨1, -1⟩)
    |>.tail (.setRefCnt _ 'a' 0) |>.tail (.setRefCnt _ 'b' 0)
  exact Reachable.evictOrStay stored 1 ['c']

theorem reachable_afterGhostHits : Reachable 2 .arc afterGhostHits := by
  have inserted := reachable_afterEviction.tail (.insert (show afterEviction.MayInsert 'c' by decide +kernel) ⟨0, -1⟩)
  exact inserted |>.tail (.setRefCnt _ 'c' 0) |>.tail (.touch _ ['a']) |>.tail (.touch _ ['a'])
    |>.tail (.touch _ ['c']) |>.tail (.setRefCnt _ 'c' 1)

theorem evictsExactly_beforeGhostHits : afterEviction.EvictsExactly 1 ['c'] :=
  (evictsExactly_iff reachable_afterEviction 1 ['c']).mpr (.inl (by decide +kernel))

/-- `b` could be evicted, and ARC gives up. -/
theorem evictsExactly_fails : Reachable 2 .arc afterGhostHits ∧ ¬ afterGhostHits.EvictsExactly 1 ['d'] := by
  refine ⟨reachable_afterGhostHits, fun exactly => ?_⟩
  have givesUp : afterGhostHits.evict 1 ['d'] = none := Option.isNone_iff_eq_none.mp (by decide +kernel)
  exact absurd (exactly.none_iff.mp givesUp) (by decide +kernel)

end CachePolicy

end DeepSpark
