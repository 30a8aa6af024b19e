import DeepSpark.Coordinator.Consistency

/-!
The EAGLE look-ahead of the hybrid coordinator's cache hit.

Owns the lookups of one spec group from a candidate length, the pools on which no
drop of one group undoes the look-ahead of another, and the invariant of the
fixed-point loop: a verified sliding window has the block behind the candidate, or
the drop of another group has brought the candidate there.
-/

namespace DeepSpark

open Lib KVCacheSpec

/-- `isinstance(spec, SlidingWindowSpec)`. -/
def KVCacheSpec.isSlidingWindow (spec : KVCacheSpec) : Bool :=
  match spec.kind with
  | .slidingWindow _ => true
  | _ => false

def KVCacheSpec.dropsEagleBlock (spec : KVCacheSpec) : Bool :=
  spec.isFullAttention || spec.isSlidingWindow

variable {spec : KVCacheSpec}

theorem KVCacheSpec.dropsEagleBlock_kind (drops : spec.dropsEagleBlock = true) :
    spec.isMamba = false ∧ ∀ chunk, spec.kind ≠ .chunkedLocal chunk := by
  simp only [dropsEagleBlock, isFullAttention, isSlidingWindow] at drops
  cases isKind : spec.kind with
  | fullAttention => simp [isMamba, isKind]
  | slidingWindow => simp [isMamba, isKind]
  | chunkedLocal =>
    rw [isKind] at drops
    cases drops
  | mamba =>
    rw [isKind] at drops
    cases drops

theorem KVCacheSpec.notWindow_of_full (isFull : spec.isFullAttention = true) :
    spec.isSlidingWindow = false := by
  unfold isFullAttention at isFull
  split at isFull
  next isKind => simp [isSlidingWindow, isKind]
  next => cases isFull

theorem KVCacheSpec.findLongestCacheHit_lookAhead {blockHashes : BlockHashList}
    {kvCacheGroupIds : List Nat} {pool : BlockPool}
    {maxLength alignmentTokens : Nat} {rows : List HitRow} (positive : 0 < spec.blockSize)
    (drops : spec.dropsEagleBlock = true) (nonempty : rows ≠ [])
    (ran : spec.findLongestCacheHit blockHashes kvCacheGroupIds pool maxLength true
      alignmentTokens = .ok rows) :
    ∀ index ≤ rows.length, index = rows.length ∨ spec.isFullAttention = true →
      ∃ row, cachedAt blockHashes kvCacheGroupIds pool index = .ok (some row) := by
  obtain ⟨notMamba, notChunked⟩ := dropsEagleBlock_kind drops
  have lookup := findLongestCacheHit_spec positive notChunked ran
  intro index le reason
  by_cases isLast : index = rows.length
  · rw [isLast]
    exact lookup.lookAhead rfl notMamba nonempty
  · obtain ⟨row, -, cached⟩ :=
      lookup.allHits (reason.resolve_left isLast) index (lt_of_le_of_ne le isLast)
    exact ⟨row, cached⟩

theorem KVCacheSpec.findLongestCacheHit_aligned {blockHashes : BlockHashList}
    {kvCacheGroupIds : List Nat} {pool : BlockPool}
    {maxLength alignmentTokens : Nat} {dropEagleBlock : Bool} {rows : List HitRow}
    (positive : 0 < spec.blockSize)
    (ran : spec.findLongestCacheHit blockHashes kvCacheGroupIds pool maxLength dropEagleBlock
      alignmentTokens = .ok rows) :
    alignmentTokens ∣ rows.length * spec.blockSize := by
  cases isKind : spec.kind with
  | chunkedLocal chunk =>
    rw [findLongestCacheHit, isKind] at ran
    obtain ⟨_, -, ran⟩ := bind_eq_ok.mp ran
    obtain ⟨_, sameSize, -⟩ := bind_eq_ok.mp ran
    rw [pyAssert_eq_ok, decide_eq_true_iff] at sameSize
    rw [sameSize]
    exact Nat.dvd_mul_left _ _
  | fullAttention =>
    exact (findLongestCacheHit_spec positive (by simp [isKind]) ran).aligned
  | slidingWindow window =>
    exact (findLongestCacheHit_spec positive (by simp [isKind]) ran).aligned
  | mamba mode numSpeculativeBlocks =>
    exact (findLongestCacheHit_spec positive (by simp [isKind]) ran).aligned

namespace HybridKVCacheCoordinator

section

variable (coordinator : HybridKVCacheCoordinator) (pool : BlockPool)
  (blockHashes : List BlockHash) (maxCacheHitLength : Nat)

/-- A length that the search may look a group up from. -/
def IsCandidate (candidate : Nat) : Prop :=
  candidate = maxCacheHitLength ∨ coordinator.schedulerBlockSize ∣ candidate

def Finds (group : SpecGroup) (dropEagleBlock : Bool) (candidate hit : Nat) : Prop :=
  ∃ hashes rows, BlockHashList.atBlockSize blockHashes coordinator.hashBlockSize group.spec.blockSize = .ok hashes ∧
    group.spec.findLongestCacheHit hashes group.groupIds pool
      (if dropEagleBlock then min (candidate + group.spec.blockSize) maxCacheHitLength else candidate)
      dropEagleBlock coordinator.schedulerBlockSize = .ok rows ∧
    rows.length * group.spec.blockSize = hit

/-- No EAGLE-flagged Mamba group, which has no use for the drop, finds a state behind
its candidate. -/
def MambaStays : Prop :=
  ∀ group ∈ coordinator.attentionGroups, group.useEagle = true → group.spec.isMamba = true →
    ∀ candidate hit, coordinator.IsCandidate maxCacheHitLength candidate →
      coordinator.Finds pool blockHashes maxCacheHitLength group true candidate hit → hit ≤ candidate

/-- From a candidate up to where a sliding window found its look-ahead, the drop of
another EAGLE-flagged group ends at `hit`. -/
def Overtaken (idx : Nat) (window : SpecGroup) (hit : Nat) : Prop :=
  ∃ start before candidate otherIdx other, coordinator.IsCandidate maxCacheHitLength start ∧
    coordinator.Finds pool blockHashes maxCacheHitLength window true start before ∧
    otherIdx ≠ idx ∧ coordinator.attentionGroups[otherIdx]? = some other ∧ other.useEagle = true ∧
    other.spec.isFullAttention = false ∧ coordinator.IsCandidate maxCacheHitLength candidate ∧
    hit < candidate ∧ candidate ≤ before ∧
    coordinator.Finds pool blockHashes maxCacheHitLength other true candidate hit

def CachedIn (group : SpecGroup) (index : Nat) : Prop :=
  ∃ hashes row, BlockHashList.atBlockSize blockHashes coordinator.hashBlockSize
      group.spec.blockSize = .ok hashes ∧
    cachedAt hashes group.groupIds pool index = .ok (some row)

/-- Wherever another group can overtake a sliding window, and the window is found
again without its drop, its block behind is cached. -/
def WindowsStay : Prop :=
  ∀ idx window hit, coordinator.attentionGroups[idx]? = some window → window.useEagle = true →
    window.spec.isSlidingWindow = true → 0 < hit →
    coordinator.Overtaken pool blockHashes maxCacheHitLength idx window hit →
    coordinator.Finds pool blockHashes maxCacheHitLength window false hit hit →
      coordinator.CachedIn pool blockHashes window (hit / window.spec.blockSize)

/-- What holds between two visits: a length that some group returned is aligned;
an EAGLE-flagged full-attention group that was looked up has every block up to the
one behind the candidate, and a verified sliding window has that one or is
overtaken. -/
structure LookedAhead (state : SearchState) : Prop where
  candidate : coordinator.IsCandidate maxCacheHitLength state.currHitLength
  aligned : (∃ (idx : Nat) (rows : List HitRow), state.hitRows[idx]? = some (some rows)) →
    coordinator.schedulerBlockSize ∣ state.currHitLength
  verified : ∀ idx ∈ state.eagleVerified, ∃ rows, state.hitRows[idx]? = some (some rows)
  full : ∀ (idx : Nat) (group : SpecGroup) (rows : List HitRow), coordinator.attentionGroups[idx]? = some group →
    group.useEagle = true → group.spec.isFullAttention = true →
    state.hitRows[idx]? = some (some rows) → 0 < state.currHitLength →
    ∀ index, index * group.spec.blockSize ≤ state.currHitLength →
      coordinator.CachedIn pool blockHashes group index
  fullFirst : ∀ idx ∈ state.eagleVerified, ∀ group, coordinator.attentionGroups[idx]? = some group →
    group.spec.isFullAttention = false → ∀ (other : Nat) (otherGroup : SpecGroup),
      coordinator.attentionGroups[other]? = some otherGroup → otherGroup.spec.isFullAttention = true →
      ∃ rows, state.hitRows[other]? = some (some rows)
  window : ∀ idx ∈ state.eagleVerified, ∀ group, coordinator.attentionGroups[idx]? = some group →
    group.spec.isSlidingWindow = true → 0 < state.currHitLength →
    ∃ start before, coordinator.IsCandidate maxCacheHitLength start ∧
      coordinator.Finds pool blockHashes maxCacheHitLength group true start before ∧
      state.currHitLength ≤ before ∧
      (coordinator.CachedIn pool blockHashes group (state.currHitLength / group.spec.blockSize) ∨
        coordinator.Overtaken pool blockHashes maxCacheHitLength idx group state.currHitLength)

end

variable {coordinator : HybridKVCacheCoordinator} {pool : BlockPool}
  {blockHashes : List BlockHash} {maxCacheHitLength : Nat}

def LookAheadCached (coordinator : HybridKVCacheCoordinator) (pool : BlockPool)
    (blockHashes : List BlockHash) (hitLength : Nat) : Prop :=
  0 < hitLength → ∀ group ∈ coordinator.attentionGroups, group.useEagle = true →
    group.spec.dropsEagleBlock = true →
      coordinator.CachedIn pool blockHashes group (hitLength / group.spec.blockSize)

/-- The invariant at the end of a search in which every sliding window has its
look-ahead. -/
theorem LookedAhead.lookAheadCached {state : SearchState}
    (lookedAhead : coordinator.LookedAhead pool blockHashes maxCacheHitLength state)
    (looked : ∀ other < coordinator.attentionGroups.length,
      ∃ rows, state.hitRows[other]? = some (some rows))
    (windows : ∀ (idx : Nat) (group : SpecGroup), coordinator.attentionGroups[idx]? = some group →
      group.useEagle = true → group.spec.isSlidingWindow = true → 0 < state.currHitLength →
      coordinator.CachedIn pool blockHashes group (state.currHitLength / group.spec.blockSize)) :
    coordinator.LookAheadCached pool blockHashes state.currHitLength := by
  intro isPositive group member useEagle drops
  obtain ⟨idx, read⟩ := List.mem_iff_getElem?.mp member
  rcases Bool.or_eq_true_iff.mp drops with isFull | isWindow
  · obtain ⟨rows, isRows⟩ := looked idx (List.getElem?_eq_some_iff.mp read).1
    exact lookedAhead.full idx group rows read useEagle isFull isRows isPositive _
      (Nat.div_mul_le_self _ _)
  · exact windows idx group read useEagle isWindow isPositive

section

variable (positive : ∀ group ∈ coordinator.attentionGroups,
    0 < group.spec.blockSize ∧ group.spec.blockSize ∣ coordinator.schedulerBlockSize)
  (sorted : ∀ (earlier later : Nat) (first second : SpecGroup), earlier ≤ later →
    coordinator.attentionGroups[earlier]? = some first → coordinator.attentionGroups[later]? = some second →
    second.spec.isFullAttention = true → first.spec.isFullAttention = true)
  (stays : coordinator.MambaStays pool blockHashes maxCacheHitLength)

include positive sorted stays

/-- One visit keeps the invariant, and verifies an EAGLE-flagged group or shortens
the candidate. -/
theorem visitGroup_lookedAhead
    {group : SpecGroup} {idx : Nat} (readGroup : coordinator.attentionGroups[idx]? = some group)
    {state next : SearchState} (inRange : idx < state.hitRows.length)
    (wereLooked : ∀ other < idx, ∃ rows, state.hitRows[other]? = some (some rows))
    (lookedAhead : coordinator.LookedAhead pool blockHashes maxCacheHitLength state)
    (ran : coordinator.visitGroup pool blockHashes maxCacheHitLength state group idx = .ok next) :
    coordinator.LookedAhead pool blockHashes maxCacheHitLength next ∧ next.currHitLength ≤ state.currHitLength ∧
      next.hitRows.length = state.hitRows.length ∧
      (∃ rows, next.hitRows[idx]? = some (some rows)) ∧
      (∀ other, other ≠ idx → next.hitRows[other]? = state.hitRows[other]?) ∧
      (group.useEagle = true → group.spec.isSlidingWindow = true →
        (idx ∉ state.eagleVerified → 0 < next.currHitLength →
          coordinator.CachedIn pool blockHashes group (next.currHitLength / group.spec.blockSize)) ∧
        (idx ∈ state.eagleVerified →
          coordinator.Finds pool blockHashes maxCacheHitLength group false state.currHitLength next.currHitLength) ∧
        (idx ∈ next.eagleVerified ∨ next.currHitLength < state.currHitLength)) ∧
      ∀ other ∈ state.eagleVerified, other ∈ next.eagleVerified ∨ next.currHitLength < state.currHitLength := by
  obtain ⟨positiveSize, divides⟩ := positive group (List.mem_of_getElem? readGroup)
  unfold visitGroup at ran
  split at ran
  next cached =>
    cases ran
    obtain ⟨isFull, wasLooked⟩ := cached
    obtain ⟨rows, isRows⟩ : ∃ rows, state.hitRows[idx]? = some (some rows) := by
      obtain ⟨rows, isRows⟩ := Option.isSome_iff_exists.mp wasLooked
      exact ⟨rows, Option.join_eq_some_iff.mp isRows⟩
    have kept : state.currHitLength / group.spec.blockSize * group.spec.blockSize =
        state.currHitLength :=
      Nat.div_mul_cancel (divides.trans (lookedAhead.aligned ⟨idx, rows, isRows⟩))
    rw [kept]
    refine ⟨lookedAhead, le_rfl, rfl, ⟨rows, isRows⟩, fun _ _ => rfl, fun _ isWindow => ?_,
      fun other isVerified => .inl isVerified⟩
    rw [notWindow_of_full isFull] at isWindow
    cases isWindow
  next notCached =>
    generalize dropEq : (group.useEagle && !state.eagleVerified.contains idx) = drop at ran
    obtain ⟨hashes, hashesEq, ran⟩ := bind_eq_ok.mp ran
    obtain ⟨rows, looked, ran⟩ := bind_eq_ok.mp ran
    cases ran
    have finds : coordinator.Finds pool blockHashes maxCacheHitLength group drop state.currHitLength
        (rows.length * group.spec.blockSize) := ⟨hashes, rows, hashesEq, looked, rfl⟩
    have shorter : rows.length * group.spec.blockSize ≤ state.currHitLength := by
      by_cases isMamba : drop = true ∧ group.spec.isMamba = true
      · have useEagle : group.useEagle = true := (Bool.and_eq_true_iff.mp (dropEq.trans isMamba.1)).1
        rw [isMamba.1] at finds
        exact stays group (List.mem_of_getElem? readGroup) useEagle isMamba.2 _ _ lookedAhead.candidate finds
      · exact findLongestCacheHit_le positiveSize (fun isDrop =>
          Bool.eq_false_iff.mpr fun isKind => isMamba ⟨isDrop, isKind⟩) looked
    have aligned := findLongestCacheHit_aligned positiveSize looked
    -- what the drop of a sliding window leaves behind
    have cachedBehind : drop = true → group.spec.dropsEagleBlock = true →
        0 < rows.length * group.spec.blockSize → ∀ index ≤ rows.length, index = rows.length ∨
          group.spec.isFullAttention = true → coordinator.CachedIn pool blockHashes group index := by
      rintro rfl drops isPositive index le reason
      obtain ⟨row, cached⟩ := findLongestCacheHit_lookAhead positiveSize drops
        (List.length_pos_iff.mp (Nat.pos_of_mul_pos_right isPositive)) looked index le reason
      exact ⟨hashes, row, hashesEq, cached⟩
    have isPending : drop = true ↔ group.useEagle = true ∧ idx ∉ state.eagleVerified := by
      rw [← dropEq, Bool.and_eq_true, Bool.not_eq_true', List.contains_eq_mem, decide_eq_false_iff_not]
    set verified := if drop = true then idx :: state.eagleVerified
      else if rows.length * group.spec.blockSize < state.currHitLength then []
      else state.eagleVerified with isVerified
    have verifiedCases : ∀ other ∈ verified, drop = true ∧ other = idx ∨ other ∈ state.eagleVerified ∧
        (drop = true ∨ ¬ rows.length * group.spec.blockSize < state.currHitLength) := by
      intro other member
      rw [isVerified] at member
      split at member
      next isDrop =>
        rcases List.mem_cons.mp member with isIdx | isOld
        · exact .inl ⟨isDrop, isIdx⟩
        · exact .inr ⟨isOld, .inl isDrop⟩
      next =>
        split at member
        next => cases member
        next notShorter => exact .inr ⟨member, .inr notShorter⟩
    have staysVerified : ∀ other ∈ state.eagleVerified,
        other ∈ verified ∨ rows.length * group.spec.blockSize < state.currHitLength := by
      intro other isOld
      rw [isVerified]
      split
      next => exact .inl (List.mem_cons_of_mem _ isOld)
      next =>
        split
        next isShorter => exact .inr isShorter
        next => exact .inl isOld
    have readIdx : (state.hitRows.set idx (some rows))[idx]? = some (some rows) :=
      List.getElem?_set_self inRange
    have readOther : ∀ other, other ≠ idx →
        (state.hitRows.set idx (some rows))[other]? = state.hitRows[other]? :=
      fun other differs => List.getElem?_set_ne (Ne.symm differs)
    have keepsRows : ∀ other : Nat, (∃ old, state.hitRows[other]? = some (some old)) →
        ∃ old, (state.hitRows.set idx (some rows))[other]? = some (some old) := by
      rintro other ⟨old, isOld⟩
      by_cases isIdx : other = idx
      · exact ⟨rows, isIdx ▸ readIdx⟩
      · exact ⟨old, (readOther other isIdx).trans isOld⟩
    have wasUnlooked : group.spec.isFullAttention = true → ∀ old, state.hitRows[idx]? ≠ some (some old) :=
      fun isFull old isOld => notCached ⟨isFull, by rw [isOld]; rfl⟩
    refine ⟨⟨.inr aligned, fun _ => aligned, ?_, ?_, ?_, ?_⟩, shorter, List.length_set, ⟨rows, readIdx⟩, readOther,
      fun useEagle isWindow => ⟨fun isNew isPositive => ?_, fun isOld => ?_, ?_⟩, staysVerified⟩
    · intro other member
      rcases verifiedCases other member with ⟨-, rfl⟩ | ⟨isOld, -⟩
      · exact ⟨rows, readIdx⟩
      · exact keepsRows other (lookedAhead.verified other isOld)
    · intro other otherGroup otherRows readOtherGroup useEagle isFull isRows isPositive index le
      by_cases isIdx : other = idx
      · subst isIdx
        rw [readGroup] at readOtherGroup
        cases readOtherGroup
        have isDrop := isPending.mpr ⟨useEagle, fun member => by
          obtain ⟨old, isOld⟩ := lookedAhead.verified other member
          exact wasUnlooked isFull old isOld⟩
        exact cachedBehind isDrop (by rw [dropsEagleBlock, isFull]; rfl) isPositive index
          (Nat.le_of_mul_le_mul_right le positiveSize) (.inr isFull)
      · rw [readOther other isIdx] at isRows
        exact lookedAhead.full other otherGroup otherRows readOtherGroup useEagle isFull isRows
          (isPositive.trans_le shorter) index (le.trans shorter)
    · intro other member otherGroup readOtherGroup notFull fullIdx full readFull isFull
      rcases verifiedCases other member with ⟨-, rfl⟩ | ⟨isOld, -⟩
      · refine keepsRows fullIdx (wereLooked fullIdx (not_le.mp fun behind => ?_))
        rw [sorted other fullIdx otherGroup full behind readOtherGroup readFull isFull] at notFull
        cases notFull
      · exact keepsRows fullIdx (lookedAhead.fullFirst other isOld otherGroup readOtherGroup notFull fullIdx full
          readFull isFull)
    · intro other member otherGroup readOtherGroup isWindow isPositive
      have notFull : otherGroup.spec.isFullAttention = false := by
        by_contra isFull
        rw [notWindow_of_full (by simpa using isFull)] at isWindow
        cases isWindow
      rcases verifiedCases other member with ⟨isDrop, rfl⟩ | ⟨isOld, notShorter⟩
      · rw [readGroup] at readOtherGroup
        cases readOtherGroup
        refine ⟨_, _, lookedAhead.candidate, isDrop ▸ finds, le_rfl, .inl ?_⟩
        rw [Nat.mul_div_cancel _ positiveSize]
        exact cachedBehind isDrop (by rw [dropsEagleBlock, isWindow, Bool.or_true]) isPositive
          rows.length le_rfl (.inl rfl)
      · obtain ⟨start, before, isCandidate, found, below, isBehind⟩ :=
          lookedAhead.window other isOld otherGroup readOtherGroup isWindow (isPositive.trans_le shorter)
        refine ⟨start, before, isCandidate, found, shorter.trans below, ?_⟩
        rcases Nat.lt_or_eq_of_le shorter with isShorter | same
        · -- only a drop shortens the candidate and keeps what was verified
          have isDrop := notShorter.resolve_right (not_not_intro isShorter)
          obtain ⟨useEagle, isNew⟩ := isPending.mp isDrop
          have differs : idx ≠ other := fun same => isNew (same ▸ isOld)
          have groupNotFull : group.spec.isFullAttention = false := by
            by_contra isFull
            obtain ⟨old, isRows⟩ := lookedAhead.fullFirst other isOld otherGroup readOtherGroup notFull idx group
              readGroup (by simpa using isFull)
            exact wasUnlooked (by simpa using isFull) old isRows
          exact .inr ⟨start, before, _, idx, group, isCandidate, found, differs, readGroup, useEagle, groupNotFull,
            lookedAhead.candidate, isShorter, below, isDrop ▸ finds⟩
        · rw [same]
          exact isBehind
    · rw [Nat.mul_div_cancel _ positiveSize]
      exact cachedBehind (isPending.mpr ⟨useEagle, isNew⟩)
        (by rw [dropsEagleBlock, isWindow, Bool.or_true]) isPositive rows.length le_rfl (.inl rfl)
    · have undropped : drop = false := Bool.eq_false_iff.mpr fun isDrop => (isPending.mp isDrop).2 isOld
      exact undropped ▸ finds
    · by_cases isOld : idx ∈ state.eagleVerified
      · exact staysVerified idx isOld
      · rw [isVerified, if_pos (isPending.mpr ⟨useEagle, isOld⟩)]
        exact .inl List.mem_cons_self

/-- One pass keeps the invariant and looks every group up. Unless it shortens the
candidate, it verifies every EAGLE-flagged sliding window, with its look-ahead or by
finding it again without. -/
theorem visitGroups_lookedAhead
    {rest : List SpecGroup} {idx : Nat} (isRest : coordinator.attentionGroups.drop idx = rest)
    {state final : SearchState} (length : state.hitRows.length = coordinator.attentionGroups.length)
    (lookedAhead : coordinator.LookedAhead pool blockHashes maxCacheHitLength state)
    (looked : ∀ other < idx, ∃ rows, state.hitRows[other]? = some (some rows))
    (ran : coordinator.visitGroups pool blockHashes maxCacheHitLength idx rest state = .ok final) :
    coordinator.LookedAhead pool blockHashes maxCacheHitLength final ∧ final.currHitLength ≤ state.currHitLength ∧
      final.hitRows.length = coordinator.attentionGroups.length ∧
      (∀ other < coordinator.attentionGroups.length,
        ∃ rows, final.hitRows[other]? = some (some rows)) ∧
      (∀ other ∈ state.eagleVerified,
        other ∈ final.eagleVerified ∨ final.currHitLength < state.currHitLength) ∧
      (∀ other group, idx ≤ other → coordinator.attentionGroups[other]? = some group →
        group.useEagle = true → group.spec.isSlidingWindow = true →
        final.currHitLength < state.currHitLength ∨ other ∈ final.eagleVerified ∧ (0 < final.currHitLength →
          coordinator.CachedIn pool blockHashes group (final.currHitLength / group.spec.blockSize) ∨
          coordinator.Finds pool blockHashes maxCacheHitLength group false final.currHitLength
            final.currHitLength)) := by
  induction rest generalizing idx state with
  | nil =>
    cases ran
    have past : coordinator.attentionGroups.length ≤ idx := List.drop_eq_nil_iff.mp isRest
    refine ⟨lookedAhead, le_rfl, length, fun other below => looked other (by omega),
      fun other isOld => .inl isOld, fun other group above read => ?_⟩
    have below := (List.getElem?_eq_some_iff.mp read).1
    omega
  | cons group rest ih =>
    rw [visitGroups] at ran
    obtain ⟨next, visit, ranRest⟩ := bind_eq_ok.mp ran
    obtain ⟨read, tail⟩ := of_drop_eq_cons isRest
    have inRange : idx < state.hitRows.length := by
      rw [length]
      exact (List.getElem?_eq_some_iff.mp read).1
    obtain ⟨nextAhead, nextLe, nextLength, ⟨rows, isRows⟩, others, atWindow, kept⟩ :=
      visitGroup_lookedAhead positive sorted stays read inRange looked lookedAhead visit
    have nextLooked : ∀ other < idx + 1, ∃ rows, next.hitRows[other]? = some (some rows) := by
      intro other below
      by_cases isIdx : other = idx
      · exact ⟨rows, isIdx ▸ isRows⟩
      · rw [others other isIdx]
        exact looked other (by omega)
    obtain ⟨finalAhead, finalLe, finalLength, finalLooked, finalKept, finalVerified⟩ :=
      ih tail (nextLength.trans length) nextAhead nextLooked ranRest
    have staysVerified : ∀ other, other ∈ next.eagleVerified →
        other ∈ final.eagleVerified ∨ final.currHitLength < state.currHitLength := by
      intro other isVerified
      rcases finalKept other isVerified with stays | shorter
      · exact .inl stays
      · exact .inr (shorter.trans_le nextLe)
    refine ⟨finalAhead, finalLe.trans nextLe, finalLength, finalLooked, ?_, ?_⟩
    · intro other isOld
      rcases kept other isOld with stays | shorter
      · exact staysVerified other stays
      · exact .inr (finalLe.trans_lt shorter)
    · intro other otherGroup above otherRead useEagle isWindow
      by_cases isIdx : other = idx
      · subst isIdx
        rw [read] at otherRead
        cases otherRead
        obtain ⟨behind, again, isVerified⟩ := atWindow useEagle isWindow
        rcases Nat.lt_or_eq_of_le (finalLe.trans nextLe) with shorter | same
        · exact .inl shorter
        · have sameNext : next.currHitLength = final.currHitLength := by omega
          have sameState : state.currHitLength = final.currHitLength := same.symm
          have verified := (isVerified.resolve_right (by omega))
          refine .inr ⟨(staysVerified other verified).resolve_right (by omega), fun isPositive => ?_⟩
          by_cases isOld : other ∈ state.eagleVerified
          · have found := again isOld
            rw [sameNext, sameState] at found
            exact .inr found
          · rw [← sameNext] at isPositive ⊢
            exact .inl (behind isOld isPositive)
      · rcases finalVerified other otherGroup (by omega) otherRead useEagle isWindow with shorter | verified
        · exact .inl (shorter.trans_le nextLe)
        · exact .inr verified

/-- A simple hybrid looks its second group up once, with the drop pending. -/
theorem simpleHybrid_cached (isSimple : coordinator.isSimpleHybrid = true) {state final : SearchState}
    (length : state.hitRows.length = coordinator.attentionGroups.length)
    (fresh : ∀ (idx : Nat) (rows : List HitRow), state.hitRows[idx]? ≠ some (some rows))
    (lookedAhead : coordinator.LookedAhead pool blockHashes maxCacheHitLength state)
    (ran : coordinator.visitGroups pool blockHashes maxCacheHitLength 0
      coordinator.attentionGroups state = .ok final) :
    ∀ (idx : Nat) (group : SpecGroup), coordinator.attentionGroups[idx]? = some group → group.useEagle = true →
      group.spec.isSlidingWindow = true → 0 < final.currHitLength →
      coordinator.CachedIn pool blockHashes group (final.currHitLength / group.spec.blockSize) := by
  rw [isSimpleHybrid, Bool.and_eq_true, beq_iff_eq] at isSimple
  obtain ⟨two, firstFull⟩ := isSimple
  obtain ⟨first, second, groups⟩ := List.length_eq_two.mp two
  rw [groups] at firstFull ran
  have isFull : first.spec.isFullAttention = true := firstFull
  have readFirst : coordinator.attentionGroups[0]? = some first := by rw [groups]; rfl
  have readSecond : coordinator.attentionGroups[1]? = some second := by rw [groups]; rfl
  rw [visitGroups] at ran
  obtain ⟨next, visitFirst, ran⟩ := bind_eq_ok.mp ran
  rw [visitGroups] at ran
  obtain ⟨last, visitSecond, ran⟩ := bind_eq_ok.mp ran
  cases ran
  obtain ⟨nextAhead, -, nextLength, isLooked, others, -, -⟩ :=
    visitGroup_lookedAhead positive sorted stays readFirst (by omega) (fun _ below => absurd below (Nat.not_lt_zero _))
      lookedAhead visitFirst
  obtain ⟨-, -, -, -, -, atWindow, -⟩ :=
    visitGroup_lookedAhead positive sorted stays readSecond (by omega)
      (fun other below => Nat.lt_one_iff.mp below ▸ isLooked) nextAhead visitSecond
  intro idx group read useEagle isWindow isPositive
  have below := (List.getElem?_eq_some_iff.mp read).1
  have isIdx : idx = 0 ∨ idx = 1 := by omega
  rcases isIdx with rfl | rfl
  · rw [readFirst] at read
    cases read
    rw [notWindow_of_full isFull] at isWindow
    cases isWindow
  · rw [readSecond] at read
    cases read
    refine (atWindow useEagle isWindow).1 (fun wasVerified => ?_) isPositive
    -- before its only visit the group has no rows, so it cannot be verified
    obtain ⟨rows, isRows⟩ := nextAhead.verified 1 wasVerified
    rw [others 1 (by omega)] at isRows
    exact fresh 1 rows isRows

/-- The search answers with a length behind which every EAGLE-flagged group has its
block cached. -/
theorem searchLoop_lookAheadCached {fuel hitLength result : Nat} {state final : SearchState}
    (windows : coordinator.WindowsStay pool blockHashes maxCacheHitLength)
    (current : state.currHitLength = hitLength)
    (length : state.hitRows.length = coordinator.attentionGroups.length)
    (fresh : coordinator.isSimpleHybrid = true →
      ∀ (idx : Nat) (rows : List HitRow), state.hitRows[idx]? ≠ some (some rows))
    (lookedAhead : coordinator.LookedAhead pool blockHashes maxCacheHitLength state)
    (ran : coordinator.searchLoop pool blockHashes maxCacheHitLength fuel hitLength state =
      .ok (result, final)) :
    coordinator.LookAheadCached pool blockHashes result := by
  induction fuel generalizing hitLength state with
  | zero => cases ran
  | succ fuel ih =>
    have start : { state with currHitLength := hitLength } = state := by rw [← current]
    rw [searchLoop, start] at ran
    obtain ⟨next, visits, ran⟩ := bind_eq_ok.mp ran
    obtain ⟨nextAhead, nextLe, nextLength, nextLooked, -, nextVerified⟩ :=
      visitGroups_lookedAhead positive sorted stays rfl length lookedAhead (fun other below => by omega) visits
    split at ran
    next reached =>
      have same : hitLength = next.currHitLength := by omega
      cases ran
      rw [same]
      apply nextAhead.lookAheadCached nextLooked
      intro idx group read useEagle isWindow isPositive
      obtain ⟨verified, settled⟩ :=
        (nextVerified idx group (Nat.zero_le idx) read useEagle isWindow).resolve_left (by omega)
      rcases settled isPositive with cached | again
      · exact cached
      · obtain ⟨-, -, -, -, -, cached | overtaken⟩ :=
          nextAhead.window idx verified group read isWindow isPositive
        · exact cached
        · exact windows idx group _ read useEagle isWindow isPositive overtaken again
    next notReached =>
      split at ran
      next isSimple =>
        cases ran
        exact nextAhead.lookAheadCached nextLooked
          (simpleHybrid_cached positive sorted stays isSimple length (fresh isSimple) lookedAhead visits)
      next notSimple =>
        exact ih rfl nextLength (fun isSimple => absurd isSimple notSimple) nextAhead ran

end

/-! ## The answer -/

/-- For every EAGLE-flagged spec group whose manager implements the drop, and every
KV cache group of it, the block the drop discarded is in the pool under the
request's hash for its index. -/
def LookAheadStored (coordinator : HybridKVCacheCoordinator) (pool : BlockPool)
    (blockHashes : List BlockHash) (hitLength : Nat) : Prop :=
  0 < hitLength → ∀ group ∈ coordinator.attentionGroups, group.useEagle = true →
    group.spec.dropsEagleBlock = true → ∀ groupId ∈ group.groupIds,
      ∃ hashes blockHash key block, BlockHashList.atBlockSize blockHashes
          coordinator.hashBlockSize group.spec.blockSize = .ok hashes ∧
        hashes.getItem (hitLength / group.spec.blockSize) = .ok blockHash ∧
        makeBlockHashWithGroupId blockHash groupId = .ok key ∧
        block ∈ pool.cachedBlockHashToBlock.stored key

theorem LookAheadCached.stored (wellFormed : pool.cachedBlockHashToBlock.WellFormed)
    {hitLength : Nat} (cached : coordinator.LookAheadCached pool blockHashes hitLength) :
    coordinator.LookAheadStored pool blockHashes hitLength := by
  intro isPositive group member useEagle drops groupId inGroup
  obtain ⟨hashes, row, hashesEq, found⟩ := cached isPositive group member useEagle drops
  obtain ⟨blockHash, itemEq, looked⟩ := bind_eq_ok.mp found
  obtain ⟨block, -, key, made, inMap⟩ :=
    getElem?_of_forall₂ (getCachedBlock_stored wellFormed looked) (List.getElem?_idxOf inGroup)
  exact ⟨hashes, blockHash, key, block, hashesEq, itemEq, made, inMap⟩

theorem initialState_fresh (idx : Nat) (rows : List HitRow) :
    (coordinator.initialState maxCacheHitLength).hitRows[idx]? ≠ some (some rows) := by
  intro isRows
  rw [initialState, List.getElem?_replicate] at isRows
  split at isRows
  next => cases isRows
  next => cases isRows

theorem initialState_lookedAhead : coordinator.LookedAhead pool blockHashes maxCacheHitLength
    (coordinator.initialState maxCacheHitLength) where
  candidate := .inl rfl
  aligned := fun ⟨idx, rows, isRows⟩ => absurd isRows (initialState_fresh idx rows)
  verified := nofun
  full := fun idx _ rows _ _ _ isRows => absurd isRows (initialState_fresh idx rows)
  fullFirst := nofun
  window := nofun

/-- The pools, hashes and configurations on which no drop undoes a look-ahead:
prefix caching is off for the group mix, no flagged group implements the drop, or
neither a Mamba group nor another group's drop gets in the way. -/
def KeepsLookAhead (coordinator : HybridKVCacheCoordinator) (pool : BlockPool)
    (blockHashes : List BlockHash) (maxCacheHitLength : Nat) : Prop :=
  coordinator.disablePrefixCacheForDsv4Dcp = true ∨
    (∀ group ∈ coordinator.attentionGroups, group.useEagle = true → group.spec.dropsEagleBlock = false) ∨
    coordinator.MambaStays pool blockHashes maxCacheHitLength ∧
      coordinator.WindowsStay pool blockHashes maxCacheHitLength

def eagleTwoWindows : HybridConfig where
  kvCacheGroups := [⟨⟨.slidingWindow 2, 1, false, 0⟩, true⟩, ⟨⟨.slidingWindow 2, 1, false, 1⟩, true⟩]
  useEagle := true
  enableCaching := true
  dcpWorldSize := 1
  pcpWorldSize := 1
  schedulerBlockSize := 1
  hashBlockSize := 1
  isDeepseekV4Hybrid := false

private def fourHashes : Request where
  requestId := 0
  samplingParams := { maxTokens := 1 }
  maxTokens := 1
  promptTokenIds := [5, 6, 5, 6]
  numPromptTokens := 4
  allTokenIds := [5, 6, 5, 6]
  blockHashes := [[7], [8], [9], [10]]

end HybridKVCacheCoordinator

end DeepSpark
