import DeepSpark.Coordinator.Hybrid

/-!
One answer for all groups: when the hybrid coordinator's cache hit is
consistent.

Owns the grouping facts of the constructor, the invariant of the fixed-point
search, and the consistency of its answer for the configurations in which the
search never lengthens a hit and the final truncation reaches every
full-attention list.
-/

namespace DeepSpark

open Lib BlockHashList List

variable {groupId : Nat} {group : SpecGroup}

theorem of_drop_eq_cons {α : Type} {items rest : List α} {item : α} {index : Nat}
    (isRest : items.drop index = item :: rest) : items[index]? = some item ∧ items.drop (index + 1) = rest := by
  rw [← head?_drop, ← drop_drop, isRest]
  exact ⟨rfl, rfl⟩

/-! ## Grouping by spec -/

namespace HybridConfig

variable {config : HybridConfig}

/-- The spec groups hold the ids below `upTo`, each under its own spec. -/
structure Grouped (config : HybridConfig) (upTo : Nat) (groups : List SpecGroup) : Prop where
  specs : ∀ group ∈ groups, ∀ groupId ∈ group.groupIds,
    (config.kvCacheGroups[groupId]?.map fun member => member.kvCacheSpec) = some group.spec
  covers : ∀ groupId < upTo, ∃ group ∈ groups, groupId ∈ group.groupIds

private theorem addGroup_covers (spec : KVCacheSpec) (groupId : Nat) (useEagle : Bool)
    (groups : List SpecGroup) :
    (∃ group ∈ addGroup spec groupId useEagle groups, groupId ∈ group.groupIds) ∧
      ∀ old ∈ groups, ∀ oldId ∈ old.groupIds,
        ∃ group ∈ addGroup spec groupId useEagle groups, oldId ∈ group.groupIds := by
  induction groups with
  | nil => simp [addGroup]
  | cons first rest ih =>
    obtain ⟨⟨group, member, isNew⟩, olds⟩ := ih
    rw [addGroup]
    split
    next =>
      refine ⟨⟨_, mem_cons_self, by simp⟩, ?_⟩
      intro old oldMember oldId inOld
      rcases mem_cons.mp oldMember with rfl | inRest
      · exact ⟨_, mem_cons_self, by simp [inOld]⟩
      · exact ⟨old, mem_cons_of_mem _ inRest, inOld⟩
    next =>
      refine ⟨⟨group, mem_cons_of_mem _ member, isNew⟩, ?_⟩
      intro old oldMember oldId inOld
      rcases mem_cons.mp oldMember with rfl | inRest
      · exact ⟨old, mem_cons_self, inOld⟩
      · obtain ⟨other, otherMember, inOther⟩ := olds old inRest oldId inOld
        exact ⟨other, mem_cons_of_mem _ otherMember, inOther⟩

variable {groups : List SpecGroup}

private theorem addGroup_specs {P : Nat → KVCacheSpec → Prop} {spec : KVCacheSpec}
    {useEagle : Bool} (isNew : P groupId spec)
    (olds : ∀ group ∈ groups, ∀ oldId ∈ group.groupIds, P oldId group.spec) :
    ∀ group ∈ addGroup spec groupId useEagle groups, ∀ oldId ∈ group.groupIds,
      P oldId group.spec := by
  induction groups with
  | nil => simpa [addGroup] using isNew
  | cons first rest ih =>
    have restSpecs := ih fun group member => olds group (by simp [member])
    rw [addGroup]
    split
    next same =>
      intro group member oldId inGroup
      rcases mem_cons.mp member with rfl | inRest
      · rcases mem_append.mp inGroup with inFirst | isId
        · exact olds first mem_cons_self oldId inFirst
        · rw [mem_singleton] at isId
          subst isId
          rw [same]
          exact isNew
      · exact olds group (mem_cons_of_mem _ inRest) oldId inGroup
    next =>
      intro group member oldId inGroup
      rcases mem_cons.mp member with rfl | inRest
      · exact olds group mem_cons_self oldId inGroup
      · exact restSpecs group inRest oldId inGroup

private theorem splitGroups_grouped {rest : List KVCacheGroupSpec} (isRest : config.kvCacheGroups.drop groupId = rest)
    (grouped : Grouped config groupId groups) :
    Grouped config (groupId + rest.length) (config.splitGroups groupId rest groups) := by
  induction rest generalizing groupId groups with
  | nil => simpa [splitGroups] using grouped
  | cons group rest ih =>
    obtain ⟨read, tail⟩ := of_drop_eq_cons isRest
    have step : Grouped config (groupId + 1)
        (addGroup group.kvCacheSpec groupId (config.isEagleGroupId groupId) groups) := by
      obtain ⟨newCovered, oldCovered⟩ := addGroup_covers group.kvCacheSpec groupId
        (config.isEagleGroupId groupId) groups
      refine ⟨addGroup_specs (P := fun otherId spec =>
        (config.kvCacheGroups[otherId]?.map fun member => member.kvCacheSpec) = some spec)
        (by rw [read]; rfl) grouped.specs, ?_⟩
      intro other below
      by_cases isNew : other = groupId
      · rw [isNew]
        exact newCovered
      · obtain ⟨old, oldMember, inOld⟩ := grouped.covers other (by omega)
        exact oldCovered old oldMember other inOld
    have rest := ih tail step
    rw [splitGroups, length_cons]
    rwa [Nat.add_right_comm, Nat.add_assoc] at rest

private theorem mem_fullAttentionFirst :
    group ∈ fullAttentionFirst groups ↔ group ∈ groups := by
  simp only [fullAttentionFirst, mem_append, mem_filter]
  cases group.spec.isFullAttention <;> simp

theorem attentionGroups_grouped (config : HybridConfig) :
    Grouped config config.kvCacheGroups.length config.attentionGroups := by
  have split : Grouped config (0 + config.kvCacheGroups.length)
      (config.splitGroups 0 config.kvCacheGroups []) :=
    splitGroups_grouped rfl ⟨by simp, by simp⟩
  rw [Nat.zero_add] at split
  refine ⟨fun group member => split.specs group (mem_fullAttentionFirst.mp member), ?_⟩
  intro groupId below
  obtain ⟨group, member, inGroup⟩ := split.covers groupId below
  exact ⟨group, mem_fullAttentionFirst.mpr member, inGroup⟩

private theorem addGroup_nonempty {spec : KVCacheSpec} {useEagle : Bool} (olds : ∀ group ∈ groups, group.groupIds ≠ []) :
    ∀ group ∈ addGroup spec groupId useEagle groups, group.groupIds ≠ [] := by
  induction groups with
  | nil => simp [addGroup]
  | cons first rest ih =>
    have restNonempty := ih fun group member => olds group (by simp [member])
    rw [addGroup]
    split
    next =>
      intro group member
      rcases mem_cons.mp member with rfl | inRest
      · simp
      · exact olds group (mem_cons_of_mem _ inRest)
    next =>
      intro group member
      rcases mem_cons.mp member with rfl | inRest
      · exact olds group mem_cons_self
      · exact restNonempty group inRest

theorem attentionGroups_nonempty (config : HybridConfig) :
    ∀ group ∈ config.attentionGroups, ∃ groupId, groupId ∈ group.groupIds := by
  have split : ∀ (rest : List KVCacheGroupSpec) (groupId : Nat) (groups : List SpecGroup),
      (∀ group ∈ groups, group.groupIds ≠ []) →
        ∀ group ∈ config.splitGroups groupId rest groups, group.groupIds ≠ [] := by
    intro rest
    induction rest with
    | nil => exact fun groupId groups nonempty => nonempty
    | cons first rest ih =>
      exact fun groupId groups nonempty =>
        ih (groupId + 1) _ (addGroup_nonempty nonempty)
  intro group member
  have nonempty := split config.kvCacheGroups 0 [] (by simp) group (mem_fullAttentionFirst.mp member)
  exact exists_mem_of_ne_nil _ nonempty

theorem attentionGroups_sorted (config : HybridConfig) {earlier later : Nat}
    {first second : SpecGroup} (le : earlier ≤ later)
    (readFirst : config.attentionGroups[earlier]? = some first)
    (readSecond : config.attentionGroups[later]? = some second)
    (isFull : second.spec.isFullAttention = true) : first.spec.isFullAttention = true := by
  set groups := config.splitGroups 0 config.kvCacheGroups [] with groupsDef
  set full := groups.filter fun group => group.spec.isFullAttention with fullDef
  have shape : config.attentionGroups =
      full ++ groups.filter fun group => !group.spec.isFullAttention := rfl
  rw [shape] at readFirst readSecond
  have laterInFull : later < full.length := by
    by_contra outside
    rw [getElem?_append_right (by omega)] at readSecond
    have member := mem_of_getElem? readSecond
    simp [isFull] at member
  rw [getElem?_append_left (by omega)] at readFirst
  have member := mem_of_getElem? readFirst
  rw [fullDef, mem_filter] at member
  exact member.2

/-- Positive block sizes, and only full-attention, sliding-window and Mamba
groups. -/
structure Supported (config : HybridConfig) : Prop where
  schedulerPositive : 0 < config.schedulerBlockSize
  notChunked : ∀ group ∈ config.kvCacheGroups, ∀ chunk,
    group.kvCacheSpec.kind ≠ .chunkedLocal chunk

end HybridConfig

variable {idx hitLength fuel : Nat} {final : SearchState}

/-! ## The search -/

namespace HybridKVCacheCoordinator

/-- The configurations in which the search only ever shortens a hit, and in
which the final truncation reaches every full-attention list: no EAGLE-flagged
Mamba group has the scheduler's block size, and no full-attention spec group
other than the first is followed by another group. -/
structure SafeGroups (coordinator : HybridKVCacheCoordinator) : Prop where
  eagleMamba : ∀ group ∈ coordinator.attentionGroups, group.useEagle = true →
    group.spec.isMamba = true → group.spec.blockSize ≠ coordinator.schedulerBlockSize
  fullFollowed : ∀ idx group, 0 < idx → coordinator.attentionGroups[idx]? = some group →
    idx + 1 < coordinator.attentionGroups.length → group.spec.isFullAttention = false

/-- What the constructor checked of the spec groups, for the kinds the search
supports together. -/
structure Lawful (coordinator : HybridKVCacheCoordinator) : Prop where
  schedulerPositive : 0 < coordinator.schedulerBlockSize
  positive : ∀ group ∈ coordinator.attentionGroups, 0 < group.spec.blockSize
  divides : ∀ group ∈ coordinator.attentionGroups,
    group.spec.blockSize ∣ coordinator.schedulerBlockSize
  notChunked : ∀ group ∈ coordinator.attentionGroups, ∀ chunk,
    group.spec.kind ≠ .chunkedLocal chunk
  sorted : ∀ (earlier later : Nat) (first second : SpecGroup), earlier ≤ later →
    coordinator.attentionGroups[earlier]? = some first →
    coordinator.attentionGroups[later]? = some second →
    second.spec.isFullAttention = true → first.spec.isFullAttention = true

variable {coordinator : HybridKVCacheCoordinator} {pool : BlockPool}
  {blockHashes : List BlockHash} {maxCacheHitLength : Nat}

/-- Rows a lookup for a group returned: aligned, with every block the next token
needs found in the pool. -/
structure RowsFor (coordinator : HybridKVCacheCoordinator) (pool : BlockPool)
    (blockHashes : List BlockHash) (group : SpecGroup) (rows : List HitRow) : Prop where
  aligned : coordinator.schedulerBlockSize ∣ rows.length * group.spec.blockSize
  found : ∃ hashes, atBlockSize blockHashes coordinator.hashBlockSize
      group.spec.blockSize = .ok hashes ∧
    (∀ index < rows.length,
      group.spec.kind.getNumSkippedTokens (rows.length * group.spec.blockSize : Nat) /
        group.spec.blockSize ≤ index → Hit hashes group.groupIds pool rows index) ∧
    (group.spec.isFullAttention = true →
      ∀ index < rows.length, Hit hashes group.groupIds pool rows index)

variable {state next : SearchState}

/-- A visit keeps the rows of a full-attention group that was looked up before,
or looks the group up; it never lengthens the hit. -/
theorem visitGroup_spec (lawful : coordinator.Lawful) (safe : coordinator.SafeGroups)
    (member : group ∈ coordinator.attentionGroups) (aligned : state.currHitLength = maxCacheHitLength ∨
      coordinator.schedulerBlockSize ∣ state.currHitLength)
    (ran : coordinator.visitGroup pool blockHashes maxCacheHitLength state group idx = .ok next) :
    (group.spec.isFullAttention = true ∧ (state.hitRows[idx]?.join).isSome = true ∧
      next.hitRows = state.hitRows ∧
      next.currHitLength = state.currHitLength / group.spec.blockSize * group.spec.blockSize) ∨
    (∃ rows, next.hitRows = state.hitRows.set idx (some rows) ∧
      RowsFor coordinator pool blockHashes group rows ∧
      next.currHitLength = rows.length * group.spec.blockSize ∧
      next.currHitLength ≤ state.currHitLength) := by
  unfold visitGroup at ran
  split at ran
  next cached =>
    cases ran
    exact Or.inl ⟨cached.1, cached.2, rfl, rfl⟩
  next =>
    generalize dropEq : (group.useEagle && !state.eagleVerified.contains idx) = drop at ran
    obtain ⟨hashes, hashesEq, ran⟩ := bind_eq_ok.mp ran
    obtain ⟨rows, looked, ran⟩ := bind_eq_ok.mp ran
    cases ran
    have spec := KVCacheSpec.findLongestCacheHit_spec (lawful.positive group member)
      (lawful.notChunked group member) looked
    refine Or.inr ⟨rows, rfl, ⟨spec.aligned, hashes, hashesEq, spec.hits, spec.allHits⟩, rfl, ?_⟩
    by_cases isMamba : drop = true ∧ group.spec.isMamba = true
    · have useEagle : group.useEagle = true := (Bool.and_eq_true_iff.mp (dropEq.trans isMamba.1)).1
      have bound := spec.bound
      rw [if_pos isMamba.1] at bound
      have smaller : group.spec.blockSize < coordinator.schedulerBlockSize :=
        lt_of_le_of_ne (Nat.le_of_dvd lawful.schedulerPositive (lawful.divides group member))
          (safe.eagleMamba group member useEagle isMamba.2)
      change rows.length * group.spec.blockSize ≤ state.currHitLength
      rcases aligned with isMax | divides
      · omega
      · by_contra longer
        have gap := Nat.le_of_dvd (by omega) (Nat.dvd_sub spec.aligned divides)
        omega
    · exact KVCacheSpec.findLongestCacheHit_le (lawful.positive group member) (fun isDrop =>
        Bool.eq_false_iff.mpr fun isKind => isMamba ⟨isDrop, isKind⟩) looked

section Pass

variable (coordinator pool blockHashes)

/-- The rows of a group once it was visited in a pass that started at
`hitLength`: at least as long as the current hit, and fresh unless the group is
full attention. -/
def Visited (hitLength : Nat) (state : SearchState) (idx : Nat) (group : SpecGroup) : Prop :=
  ∃ rows, state.hitRows[idx]? = some (some rows) ∧
    RowsFor coordinator pool blockHashes group rows ∧
    state.currHitLength ≤ rows.length * group.spec.blockSize ∧
    (group.spec.isFullAttention = false → rows.length * group.spec.blockSize ≤ hitLength)

/-- The rows of a group before its visit in a pass: none in the first pass,
later at least as long as the hit length the pass starts at. -/
def Unvisited (hitLength : Nat) (state : SearchState) (idx : Nat) (group : SpecGroup) : Prop :=
  state.hitRows[idx]? = some none ∨
    coordinator.schedulerBlockSize ∣ hitLength ∧
      ∃ rows, state.hitRows[idx]? = some (some rows) ∧
        RowsFor coordinator pool blockHashes group rows ∧
        hitLength ≤ rows.length * group.spec.blockSize

end Pass

theorem Visited.mono (visited : Visited coordinator pool blockHashes hitLength state idx group)
    (same : next.hitRows[idx]? = state.hitRows[idx]?)
    (le : next.currHitLength ≤ state.currHitLength) :
    Visited coordinator pool blockHashes hitLength next idx group := by
  obtain ⟨rows, read, rowsFor, long, fresh⟩ := visited
  exact ⟨rows, by rw [same, read], rowsFor, le.trans long, fresh⟩

/-- One visit: the group becomes visited, the others keep their rows, and the
hit stays aligned and does not grow. -/
theorem visitGroup_visited (lawful : coordinator.Lawful) (safe : coordinator.SafeGroups)
    (member : group ∈ coordinator.attentionGroups) (bounded : state.currHitLength ≤ hitLength)
    (hitBounded : hitLength ≤ maxCacheHitLength)
    (aligned : state.currHitLength = maxCacheHitLength ∨
      coordinator.schedulerBlockSize ∣ state.currHitLength)
    (unvisited : Unvisited coordinator pool blockHashes hitLength state idx group)
    (ran : coordinator.visitGroup pool blockHashes maxCacheHitLength state group idx = .ok next) :
    Visited coordinator pool blockHashes hitLength next idx group ∧
      next.currHitLength ≤ state.currHitLength ∧
      coordinator.schedulerBlockSize ∣ next.currHitLength ∧
      next.hitRows.length = state.hitRows.length ∧
      (∀ other, other ≠ idx → next.hitRows[other]? = state.hitRows[other]?) ∧
      (state.hitRows[idx]? = some none → ∃ rows, next.hitRows[idx]? = some (some rows) ∧
        next.currHitLength = rows.length * group.spec.blockSize) := by
  have inRange : idx < state.hitRows.length := by
    rcases unvisited with fresh | ⟨-, rows, read, -⟩
    · exact (List.getElem?_eq_some_iff.mp fresh).1
    · exact (List.getElem?_eq_some_iff.mp read).1
  rcases visitGroup_spec lawful safe member aligned ran with
    ⟨isFull, cached, sameRows, trimmed⟩ | ⟨rows, newRows, rowsFor, newLength, le⟩
  · rcases unvisited with fresh | ⟨hitAligned, rows, read, rowsFor, long⟩
    · simp [fresh] at cached
    · have currAligned : coordinator.schedulerBlockSize ∣ state.currHitLength := by
        rcases aligned with isMax | currAligned
        · have isHit : state.currHitLength = hitLength := by omega
          rwa [isHit]
        · exact currAligned
      have kept : next.currHitLength = state.currHitLength := by
        rw [trimmed, Nat.div_mul_cancel ((lawful.divides group member).trans currAligned)]
      refine ⟨⟨rows, by rw [sameRows, read], rowsFor, ?_, ?_⟩, kept.le, by rwa [kept], ?_, ?_, ?_⟩
      · rw [kept]
        exact bounded.trans long
      · rw [isFull]
        exact fun isFalse => absurd isFalse (by simp)
      · rw [sameRows]
      · exact fun other _ => by rw [sameRows]
      · rw [read]
        exact fun isNone => absurd isNone (by simp)
  · have read : next.hitRows[idx]? = some (some rows) := by
      rw [newRows, getElem?_set_self inRange]
    refine ⟨⟨rows, read, rowsFor, newLength.le, fun _ => ?_⟩, le, ?_, ?_, ?_, fun _ => ⟨rows, read, newLength⟩⟩
    · rw [← newLength]
      exact le.trans bounded
    · rw [newLength]
      exact rowsFor.aligned
    · rw [newRows, length_set]
    · intro other different
      rw [newRows, getElem?_set_ne (Ne.symm different)]

/-- A whole pass: every group is visited. In the first pass the last group's
rows have exactly the length the pass ends with. -/
theorem visitGroups_visited (lawful : coordinator.Lawful) (safe : coordinator.SafeGroups)
    (hitBounded : hitLength ≤ maxCacheHitLength) {rest : List SpecGroup}
    (isRest : coordinator.attentionGroups.drop idx = rest) {state : SearchState}
    (ran : coordinator.visitGroups pool blockHashes maxCacheHitLength idx rest state = .ok final)
    (bounded : state.currHitLength ≤ hitLength)
    (aligned : state.currHitLength = maxCacheHitLength ∨
      coordinator.schedulerBlockSize ∣ state.currHitLength)
    (visited : ∀ other group, other < idx → coordinator.attentionGroups[other]? = some group →
      Visited coordinator pool blockHashes hitLength state other group)
    (unvisited : ∀ other group, idx ≤ other → coordinator.attentionGroups[other]? = some group →
      Unvisited coordinator pool blockHashes hitLength state other group) :
    (∀ other group, coordinator.attentionGroups[other]? = some group →
      Visited coordinator pool blockHashes hitLength final other group) ∧
    final.currHitLength ≤ state.currHitLength ∧
    (rest ≠ [] → coordinator.schedulerBlockSize ∣ final.currHitLength) ∧
    (∀ last group, last + 1 = coordinator.attentionGroups.length → idx ≤ last →
      coordinator.attentionGroups[last]? = some group → state.hitRows[last]? = some none →
        ∃ rows, final.hitRows[last]? = some (some rows) ∧
          final.currHitLength = rows.length * group.spec.blockSize) := by
  induction rest generalizing idx state with
  | nil =>
    cases ran
    have past : coordinator.attentionGroups.length ≤ idx := drop_eq_nil_iff.mp isRest
    refine ⟨fun other group read => visited other group ?_ read, le_rfl, by simp, ?_⟩
    · exact ((List.getElem?_eq_some_iff.mp read).1).trans_le past
    · exact fun last group isLast below => absurd below (by omega)
  | cons group rest ih =>
    rw [visitGroups] at ran
    obtain ⟨next, visit, ranRest⟩ := bind_eq_ok.mp ran
    obtain ⟨read, tail⟩ := of_drop_eq_cons isRest
    obtain ⟨groupVisited, le, nextAligned, -, others, freshLength⟩ :=
      visitGroup_visited lawful safe (mem_of_getElem? read) bounded hitBounded aligned
        (unvisited idx group le_rfl read) visit
    have nextVisited : ∀ other otherGroup, other < idx + 1 →
        coordinator.attentionGroups[other]? = some otherGroup →
          Visited coordinator pool blockHashes hitLength next other otherGroup := by
      intro other otherGroup below otherRead
      by_cases isIdx : other = idx
      · subst isIdx
        rw [read] at otherRead
        cases otherRead
        exact groupVisited
      · exact (visited other otherGroup (by omega) otherRead).mono (others other isIdx) le
    have nextUnvisited : ∀ other otherGroup, idx + 1 ≤ other →
        coordinator.attentionGroups[other]? = some otherGroup →
          Unvisited coordinator pool blockHashes hitLength next other otherGroup := by
      intro other otherGroup above otherRead
      have same := others other (by omega)
      unfold Unvisited
      rw [same]
      exact unvisited other otherGroup (by omega) otherRead
    obtain ⟨allVisited, finalLe, finalAligned, lastLength⟩ := ih tail
      ranRest (le.trans bounded) (Or.inr nextAligned) nextVisited nextUnvisited
    refine ⟨allVisited, finalLe.trans le, fun _ => ?_, ?_⟩
    · by_cases isEmpty : rest = []
      · subst isEmpty
        cases ranRest
        exact nextAligned
      · exact finalAligned isEmpty
    · intro last lastGroup isLast above lastRead isFresh
      by_cases isIdx : last = idx
      · subst isIdx
        rw [read] at lastRead
        cases lastRead
        have noMore : rest = [] := by
          rw [← tail]
          exact drop_eq_nil_iff.mpr (by omega)
        subst noMore
        cases ranRest
        exact freshLength isFresh
      · refine lastLength last lastGroup isLast (by omega) lastRead ?_
        rw [others last isIdx, isFresh]

/-- The rows at the end of the search: exactly the hit length, except for a
full-attention group in front, whose list is truncated afterwards. -/
def Settled (coordinator : HybridKVCacheCoordinator) (pool : BlockPool)
    (blockHashes : List BlockHash) (hitLength : Nat) (state : SearchState) : Prop :=
  ∀ idx group, coordinator.attentionGroups[idx]? = some group →
    ∃ rows, state.hitRows[idx]? = some (some rows) ∧
      RowsFor coordinator pool blockHashes group rows ∧
      hitLength ≤ rows.length * group.spec.blockSize ∧
      (idx = 0 ∧ group.spec.isFullAttention = true ∨
        rows.length * group.spec.blockSize = hitLength)

section

variable (lawful : coordinator.Lawful) (safe : coordinator.SafeGroups)

include lawful safe

private theorem full_is_first (notSimple : coordinator.isSimpleHybrid = false)
    (read : coordinator.attentionGroups[idx]? = some group)
    (isFull : group.spec.isFullAttention = true) : idx = 0 := by
  by_contra notFirst
  have inRange := (List.getElem?_eq_some_iff.mp read).1
  have isLast : ¬ idx + 1 < coordinator.attentionGroups.length := by
    intro followed
    rw [safe.fullFollowed idx group (by omega) read followed] at isFull
    cases isFull
  obtain ⟨before, readBefore⟩ : ∃ before, coordinator.attentionGroups[idx - 1]? = some before :=
    ⟨_, getElem?_eq_getElem (by omega)⟩
  have beforeFull := lawful.sorted (idx - 1) idx before group (by omega) readBefore read isFull
  have isSecond : idx = 1 := by
    by_contra notSecond
    rw [safe.fullFollowed (idx - 1) before (by omega) readBefore (by omega)] at beforeFull
    cases beforeFull
  subst isSecond
  have twoGroups : coordinator.attentionGroups.length = 2 := by omega
  rw [Nat.sub_self, ← head?_eq_getElem?] at readBefore
  simp [isSimpleHybrid, twoGroups, readBefore, beforeFull] at notSimple

theorem searchLoop_settled (nonempty : coordinator.attentionGroups ≠ [])
    (notSimple : coordinator.isSimpleHybrid = false)
    {state : SearchState} (bounded : hitLength ≤ maxCacheHitLength)
    (aligned : hitLength = maxCacheHitLength ∨ coordinator.schedulerBlockSize ∣ hitLength)
    (unvisited : ∀ idx group, coordinator.attentionGroups[idx]? = some group →
      Unvisited coordinator pool blockHashes hitLength state idx group)
    {result : Nat} (ran : coordinator.searchLoop pool blockHashes maxCacheHitLength fuel hitLength
      state = .ok (result, final)) :
    result ≤ maxCacheHitLength ∧ Settled coordinator pool blockHashes result final := by
  induction fuel generalizing hitLength state with
  | zero => cases ran
  | succ fuel ih =>
    rw [searchLoop] at ran
    obtain ⟨next, pass, ran⟩ := bind_eq_ok.mp ran
    obtain ⟨visited, le, nextAligned, -⟩ := visitGroups_visited lawful safe bounded rfl
      pass (le_refl hitLength) aligned (fun _ _ below => absurd below (Nat.not_lt_zero _))
      (fun other group _ read => unvisited other group read)
    split at ran
    next reached =>
      cases ran
      refine ⟨bounded, fun idx group read => ?_⟩
      obtain ⟨rows, rowsRead, rowsFor, long, fresh⟩ := visited idx group read
      refine ⟨rows, rowsRead, rowsFor, reached.trans long, ?_⟩
      cases isFull : group.spec.isFullAttention with
      | true => exact Or.inl ⟨full_is_first lawful safe notSimple read isFull, rfl⟩
      | false => exact Or.inr (le_antisymm (fresh isFull) (reached.trans long))
    next =>
      rw [notSimple, if_neg (by simp)] at ran
      refine ih (le.trans bounded) (Or.inr (nextAligned nonempty)) ?_ ran
      intro idx group read
      obtain ⟨rows, rowsRead, rowsFor, long, -⟩ := visited idx group read
      exact Or.inr ⟨nextAligned nonempty, rows, rowsRead, rowsFor, long⟩

theorem searchLoop_simple_settled (simple : coordinator.isSimpleHybrid = true)
    {state : SearchState} (isMax : hitLength = maxCacheHitLength)
    (fresh : ∀ (idx : Nat) (group : SpecGroup), coordinator.attentionGroups[idx]? = some group →
      state.hitRows[idx]? = some none)
    {result : Nat} (ran : coordinator.searchLoop pool blockHashes maxCacheHitLength fuel hitLength
      state = .ok (result, final)) :
    result ≤ maxCacheHitLength ∧ Settled coordinator pool blockHashes result final := by
  cases fuel with
  | zero => cases ran
  | succ fuel =>
    obtain ⟨twoGroups, firstFull⟩ := Bool.and_eq_true_iff.mp simple
    rw [beq_iff_eq] at twoGroups
    rw [searchLoop] at ran
    obtain ⟨next, pass, ran⟩ := bind_eq_ok.mp ran
    obtain ⟨visited, le, -, last⟩ := visitGroups_visited lawful safe isMax.le rfl
      pass (le_refl hitLength) (Or.inl isMax)
      (fun _ _ below => absurd below (Nat.not_lt_zero _))
      (fun other group _ read => Or.inl (fresh other group read))
    have isResult : result = next.currHitLength ∧ final = next := by
      split at ran
      next reached =>
        cases ran
        exact ⟨le_antisymm reached le, rfl⟩
      next =>
        cases ran
        exact ⟨rfl, rfl⟩
    obtain ⟨rfl, rfl⟩ := isResult
    refine ⟨le.trans isMax.le, fun idx group read => ?_⟩
    obtain ⟨rows, rowsRead, rowsFor, long, -⟩ := visited idx group read
    refine ⟨rows, rowsRead, rowsFor, long, ?_⟩
    have inRange := (List.getElem?_eq_some_iff.mp read).1
    by_cases isFirst : idx = 0
    · subst isFirst
      rw [head?_eq_getElem?, read] at firstFull
      exact Or.inl ⟨rfl, firstFull⟩
    · obtain ⟨lastRows, lastRead, lastLength⟩ := last idx group (by omega) (Nat.zero_le _) read
        (fresh idx group read)
      rw [rowsRead] at lastRead
      cases lastRead
      exact Or.inr lastLength.symm

end

theorem truncateFirst_settled (lawful : coordinator.Lawful) {state : SearchState}
    (settled : Settled coordinator pool blockHashes hitLength state)
    (read : coordinator.attentionGroups[idx]? = some group) :
    ∃ rows, (truncateFirst hitLength coordinator.attentionGroups state.hitRows)[idx]? =
        some (some rows) ∧
      rows.length = hitLength / group.spec.blockSize ∧
      ∃ hashes, atBlockSize blockHashes coordinator.hashBlockSize
          group.spec.blockSize = .ok hashes ∧
        ∀ index < rows.length, group.spec.kind.getNumSkippedTokens hitLength /
          group.spec.blockSize ≤ index → Hit hashes group.groupIds pool rows index := by
  obtain ⟨rows, rowsRead, rowsFor, long, exact⟩ := settled idx group read
  obtain ⟨hashes, hashesEq, hits, allHits⟩ := rowsFor.found
  have positive := lawful.positive group (mem_of_getElem? read)
  obtain ⟨first, others, groupsEq⟩ : ∃ first others,
      coordinator.attentionGroups = first :: others := by
    cases shape : coordinator.attentionGroups with
    | nil => simp [shape] at read
    | cons first others => exact ⟨first, others, rfl⟩
  obtain ⟨firstRows, firstRead, -⟩ := settled 0 first (by rw [groupsEq]; rfl)
  obtain ⟨otherRows, rowsEq⟩ : ∃ otherRows, state.hitRows = some firstRows :: otherRows := by
    cases shape : state.hitRows with
    | nil => simp [shape] at firstRead
    | cons head otherRows =>
      rw [shape] at firstRead
      exact ⟨otherRows, by simpa using firstRead⟩
  rw [groupsEq] at read
  by_cases isTruncated : idx = 0 ∧ group.spec.isFullAttention = true
  · obtain ⟨rfl, isFull⟩ := isTruncated
    cases read
    rw [rowsEq] at rowsRead
    cases rowsRead
    refine ⟨rows.take (hitLength / group.spec.blockSize), ?_, ?_, hashes, hashesEq, ?_⟩
    · rw [groupsEq, rowsEq, truncateFirst, if_pos isFull]
      rfl
    · rw [length_take, Nat.min_eq_left]
      exact Nat.div_le_of_le_mul (by rw [Nat.mul_comm]; exact long)
    · intro index below _
      rw [length_take] at below
      exact Hit.take (by omega) (allHits isFull index (by omega))
  · have isExact : rows.length * group.spec.blockSize = hitLength := exact.resolve_left isTruncated
    have kept : (truncateFirst hitLength coordinator.attentionGroups state.hitRows)[idx]? =
        some (some rows) := by
      rw [groupsEq, rowsEq, truncateFirst]
      rw [rowsEq] at rowsRead
      split
      next firstFull =>
        cases idx with
        | zero =>
          cases read
          exact absurd ⟨rfl, firstFull⟩ isTruncated
        | succ idx => exact rowsRead
      next => exact rowsRead
    refine ⟨rows, kept, ?_, hashes, hashesEq, ?_⟩
    · rw [← isExact, Nat.mul_div_cancel _ positive]
    · rw [← isExact]
      exact hits

/-! ## The answer -/

/-- A row found in the pool holds, for every group, a block stored under the
group's key. -/
theorem getCachedBlock_stored (wellFormed : pool.cachedBlockHashToBlock.WellFormed)
    {blockHash : BlockHash} {groupIds : List Nat} {row : List BlockId}
    (ran : pool.getCachedBlock blockHash groupIds = .ok (some row)) :
    List.Forall₂ (fun groupId block => ∃ key, makeBlockHashWithGroupId blockHash groupId = .ok key ∧
      block ∈ pool.cachedBlockHashToBlock.stored key) groupIds row := by
  induction groupIds generalizing row with
  | nil =>
    cases ran
    exact .nil
  | cons first rest ih =>
    rw [BlockPool.getCachedBlock] at ran
    obtain ⟨key, made, ran⟩ := bind_eq_ok.mp ran
    obtain ⟨found, looked, ran⟩ := bind_eq_ok.mp ran
    rw [BlockHashToBlockMap.getOneBlock_of_wellFormed wellFormed] at looked
    cases found with
    | none => cases ran
    | some block =>
      obtain ⟨others, ranRest, ran⟩ := bind_eq_ok.mp ran
      cases others with
      | none => cases ran
      | some blocks =>
        cases ran
        exact .cons ⟨key, made, mem_of_head? (Except.ok.inj looked)⟩ (ih ranRest)

/-- One consistent answer: the hit is within the bound, every group's list has
exactly the blocks of the hit, and every block the token at the hit length needs
is a non-null block the pool stores under the request's hash for that index and
group. -/
structure Consistent (config : HybridConfig) (pool : BlockPool) (blockHashes : List BlockHash)
    (maxCacheHitLength : Nat) (hit : CacheHit) : Prop where
  bounded : hit.hitLength ≤ maxCacheHitLength
  groups : ∀ (groupId : Nat) (group : KVCacheGroupSpec),
    config.kvCacheGroups[groupId]? = some group → ∃ blocks, hit.blocks[groupId]? = some blocks ∧
      blocks.length = hit.hitLength / group.kvCacheSpec.blockSize ∧
      ∀ (index : Nat) (block : BlockId), blocks[index]? = some block →
        group.kvCacheSpec.kind.getNumSkippedTokens hit.hitLength / group.kvCacheSpec.blockSize ≤
          (index : Int) →
        (pool.blocks block).isNull = false ∧
        ∃ hashes blockHash key, atBlockSize blockHashes config.hashBlockSize
            group.kvCacheSpec.blockSize = .ok hashes ∧
          hashes.getItem index = .ok blockHash ∧
          makeBlockHashWithGroupId blockHash groupId = .ok key ∧
          block ∈ pool.cachedBlockHashToBlock.stored key

/-- What `__init__` checked, read off a coordinator it returned. -/
theorem init_eq_ok {config : HybridConfig} (ran : init config = .ok coordinator) :
    coordinator.numGroups = config.kvCacheGroups.length ∧
    coordinator.attentionGroups = config.attentionGroups ∧
    coordinator.schedulerBlockSize = config.schedulerBlockSize ∧
    coordinator.hashBlockSize = config.hashBlockSize ∧
    coordinator.disablePrefixCacheForDsv4Dcp = config.disablePrefixCacheForDsv4Dcp ∧
    (∀ group ∈ config.kvCacheGroups, config.schedulerBlockSize % group.kvCacheSpec.blockSize = 0) ∧
    1 < config.attentionGroups.length ∧
    (coordinator.disablePrefixCacheForDsv4Dcp = false → ∀ group ∈ config.kvCacheGroups,
      config.hashBlockSize ∣ group.kvCacheSpec.blockSize) := by
  obtain ⟨_, sizes, ran⟩ := bind_eq_ok.mp ran
  obtain ⟨_, hashSizes, ran⟩ := bind_eq_ok.mp ran
  obtain ⟨_, -, ran⟩ := bind_eq_ok.mp ran
  obtain ⟨_, -, ran⟩ := bind_eq_ok.mp ran
  obtain ⟨_, twoGroups, ran⟩ := bind_eq_ok.mp ran
  cases ran
  rw [pyAssert_eq_ok] at sizes hashSizes twoGroups
  simp only [Bool.and_eq_true, all_eq_true, beq_iff_eq] at sizes
  refine ⟨rfl, rfl, rfl, rfl, rfl, sizes.2, by simpa using twoGroups, ?_⟩
  intro enabled group member
  change config.disablePrefixCacheForDsv4Dcp = false at enabled
  rw [enabled, Bool.false_or, all_eq_true] at hashSizes
  exact Nat.dvd_of_mod_eq_zero (by simpa using hashSizes group member)

theorem init_memberSpec {config : HybridConfig} (ran : init config = .ok coordinator) :
    ∀ group ∈ coordinator.attentionGroups, ∃ source ∈ config.kvCacheGroups,
      source.kvCacheSpec = group.spec := by
  intro group member
  rw [(init_eq_ok ran).2.1] at member
  obtain ⟨groupId, inGroup⟩ := HybridConfig.attentionGroups_nonempty config group member
  have spec := (HybridConfig.attentionGroups_grouped config).specs group member groupId inGroup
  obtain ⟨source, read, same⟩ := Option.map_eq_some_iff.mp spec
  exact ⟨source, mem_of_getElem? read, same⟩

theorem init_sizes {config : HybridConfig} (schedulerPositive : 0 < config.schedulerBlockSize)
    (ran : init config = .ok coordinator) : ∀ group ∈ coordinator.attentionGroups,
      0 < group.spec.blockSize ∧ group.spec.blockSize ∣ coordinator.schedulerBlockSize := by
  intro group member
  obtain ⟨-, -, schedulerEq, -, -, sizes, -, -⟩ := init_eq_ok ran
  obtain ⟨source, sourceMember, same⟩ := init_memberSpec ran group member
  have divides := Nat.dvd_of_mod_eq_zero (sizes source sourceMember)
  rw [same] at divides
  rw [schedulerEq]
  exact ⟨Nat.pos_of_dvd_of_pos divides schedulerPositive, divides⟩

theorem init_lawful {config : HybridConfig} (supported : config.Supported)
    (ran : init config = .ok coordinator) : coordinator.Lawful := by
  obtain ⟨-, groupsEq, schedulerEq, -, -, -, -, -⟩ := init_eq_ok ran
  have sizes := init_sizes supported.schedulerPositive ran
  refine ⟨by rw [schedulerEq]; exact supported.schedulerPositive, fun group member =>
    (sizes group member).1, fun group member => (sizes group member).2, ?_, ?_⟩
  · intro group member
    obtain ⟨source, sourceMember, same⟩ := init_memberSpec ran group member
    rw [← same]
    exact supported.notChunked source sourceMember
  · rw [groupsEq]
    exact fun earlier later first second le readFirst readSecond =>
      HybridConfig.attentionGroups_sorted config le readFirst readSecond

private theorem hitBlocksOf_eq (lawful : coordinator.Lawful) {state : SearchState}
    (settled : Settled coordinator pool blockHashes hitLength state)
    (covered : ∃ group ∈ coordinator.attentionGroups, groupId ∈ group.groupIds) :
    ∃ (idx : Nat) (group : SpecGroup) (rows : List HitRow),
      coordinator.attentionGroups[idx]? = some group ∧ groupId ∈ group.groupIds ∧
      (truncateFirst hitLength coordinator.attentionGroups state.hitRows)[idx]? =
        some (some rows) ∧
      hitBlocksOf pool.nullBlock coordinator.attentionGroups
          (truncateFirst hitLength coordinator.attentionGroups state.hitRows) groupId =
        groupBlocks pool.nullBlock (group.groupIds.idxOf groupId) rows := by
  set hitRows := truncateFirst hitLength coordinator.attentionGroups state.hitRows with hitRowsDef
  have zipRead : ∀ (idx : Nat) (group : SpecGroup),
      coordinator.attentionGroups[idx]? = some group → ∃ rows, hitRows[idx]? = some (some rows) ∧
        (coordinator.attentionGroups.zip hitRows)[idx]? = some (group, some rows) := by
    intro idx group read
    obtain ⟨rows, rowsRead, -⟩ := truncateFirst_settled lawful settled read
    exact ⟨rows, rowsRead, getElem?_zip_eq_some.mpr ⟨read, rowsRead⟩⟩
  have isFound : ((coordinator.attentionGroups.zip hitRows).find? fun entry =>
      entry.1.groupIds.contains groupId).isSome := by
    obtain ⟨group, member, inGroup⟩ := covered
    obtain ⟨idx, read⟩ := mem_iff_getElem?.mp member
    obtain ⟨rows, -, entryRead⟩ := zipRead idx group read
    rw [find?_isSome]
    exact ⟨(group, some rows), mem_of_getElem? entryRead, by simpa using inGroup⟩
  obtain ⟨⟨group, groupRows⟩, found⟩ := Option.isSome_iff_exists.mp isFound
  have inGroup : groupId ∈ group.groupIds := by simpa using find?_some found
  obtain ⟨idx, entryRead⟩ := mem_iff_getElem?.mp (mem_of_find?_eq_some found)
  obtain ⟨read, rowsRead⟩ := getElem?_zip_eq_some.mp entryRead
  obtain ⟨rows, someRead, -⟩ := zipRead idx group read
  rw [someRead] at rowsRead
  cases rowsRead
  refine ⟨idx, group, rows, read, inGroup, someRead, ?_⟩
  rw [hitBlocksOf, found]

theorem findLongestCacheHit_consistent {config : HybridConfig} (supported : config.Supported)
    (made : init config = .ok coordinator)
    (safe : coordinator.disablePrefixCacheForDsv4Dcp = true ∨ coordinator.SafeGroups) {free : List BlockId}
    (sound : pool.Sound free) {hit : CacheHit}
    (ran : coordinator.findLongestCacheHit pool blockHashes maxCacheHitLength = .ok hit) :
    Consistent config pool blockHashes maxCacheHitLength hit := by
  obtain ⟨numEq, groupsEq, -, hashEq, -, -, twoGroups, -⟩ := init_eq_ok made
  have lawful := init_lawful supported made
  have grouped := HybridConfig.attentionGroups_grouped config
  unfold findLongestCacheHit at ran
  split at ran
  next =>
    cases ran
    refine ⟨Nat.zero_le _, fun groupId group read => ⟨[], ?_, by simp, by simp⟩⟩
    have below := (List.getElem?_eq_some_iff.mp read).1
    rw [List.getElem?_replicate, if_pos (by omega)]
  next enabled =>
    have safe := safe.resolve_left enabled
    obtain ⟨⟨hitLength, state⟩, searched, ran⟩ := bind_eq_ok.mp ran
    cases ran
    have fresh : ∀ (idx : Nat) (group : SpecGroup),
        coordinator.attentionGroups[idx]? = some group →
          (coordinator.initialState maxCacheHitLength).hitRows[idx]? = some none := by
      intro idx group read
      rw [initialState, List.getElem?_replicate, if_pos (List.getElem?_eq_some_iff.mp read).1]
    have nonempty : coordinator.attentionGroups ≠ [] := by
      rw [groupsEq]
      exact ne_nil_of_length_pos (by omega)
    have settled : hitLength ≤ maxCacheHitLength ∧
        Settled coordinator pool blockHashes hitLength state := by
      cases simple : coordinator.isSimpleHybrid with
      | true => exact searchLoop_simple_settled lawful safe simple rfl fresh searched
      | false =>
        exact searchLoop_settled lawful safe nonempty simple le_rfl (Or.inl rfl)
          (fun idx group read => Or.inl (fresh idx group read)) searched
    refine ⟨settled.1, fun groupId group read => ?_⟩
    have below := (List.getElem?_eq_some_iff.mp read).1
    obtain ⟨idx, specGroup, rows, specRead, inGroup, rowsRead, blocksEq⟩ :=
      hitBlocksOf_eq lawful settled.2 (by rw [groupsEq]; exact grouped.covers groupId below)
    obtain ⟨settledRows, settledRead, length, hashes, hashesEq, hits⟩ :=
      truncateFirst_settled lawful settled.2 specRead
    rw [rowsRead] at settledRead
    cases settledRead
    have specMember : specGroup ∈ config.attentionGroups := by
      rw [← groupsEq]
      exact mem_of_getElem? specRead
    have sameSpec : group.kvCacheSpec = specGroup.spec := by
      have spec := grouped.specs specGroup specMember groupId inGroup
      rw [read] at spec
      exact Option.some.inj spec
    rw [sameSpec]
    refine ⟨groupBlocks pool.nullBlock (specGroup.groupIds.idxOf groupId) rows, ?_, ?_, ?_⟩
    · rw [getElem?_map, getElem?_range (by omega), Option.map_some, blocksEq]
    · rw [groupBlocks, length_map, length]
    · intro index block blockRead needed
      rw [groupBlocks, getElem?_map] at blockRead
      obtain ⟨row, rowRead, blockEq⟩ := Option.map_eq_some_iff.mp blockRead
      obtain ⟨found, foundRead, cached⟩ := hits index (List.getElem?_eq_some_iff.mp rowRead).1 needed
      obtain ⟨blockHash, itemEq, looked⟩ := bind_eq_ok.mp cached
      rw [rowRead] at foundRead
      cases foundRead
      obtain ⟨stored, storedRead, key, made, inMap⟩ :=
        getElem?_of_forall₂ (getCachedBlock_stored sound.map looked) (getElem?_idxOf inGroup)
      have isStored : block = stored := by
        rw [← blockEq, Option.bind_some, storedRead, Option.getD_some]
      subst isStored
      have hashed := (sound.hash_iff block key).mpr inMap
      rw [← hashEq]
      exact ⟨(sound.hashInRange block key hashed).2, hashes, blockHash, key, hashesEq, itemEq, made,
        inMap⟩

/-! ## The search returns -/

/-- The request's hashes reach the longest hit asked for, and group ids fit into
a key. -/
structure Covered (coordinator : HybridKVCacheCoordinator) (blockHashes : List BlockHash)
    (maxCacheHitLength : Nat) : Prop where
  hashes : maxCacheHitLength / coordinator.hashBlockSize ≤ blockHashes.length
  groupIds : ∀ group ∈ coordinator.attentionGroups, ∀ groupId ∈ group.groupIds, groupId < 2 ^ 32
  divides : ∀ group ∈ coordinator.attentionGroups,
    coordinator.hashBlockSize ∣ group.spec.blockSize

private theorem readable_of_covered (wellFormed : pool.cachedBlockHashToBlock.WellFormed)
    (covered : coordinator.Covered blockHashes maxCacheHitLength)
    (member : group ∈ coordinator.attentionGroups) {hashes : BlockHashList}
    (hashesEq : atBlockSize blockHashes coordinator.hashBlockSize
      group.spec.blockSize = .ok hashes) {maxLength : Nat} (le : maxLength ≤ maxCacheHitLength) :
    Readable hashes group.groupIds pool (maxLength / group.spec.blockSize) := by
  intro index below
  have itemRead : ∃ blockHash, hashes.getItem index = .ok blockHash := by
    unfold atBlockSize at hashesEq
    split at hashesEq
    next same =>
      cases hashesEq
      refine getItem_of_lt (lt_of_lt_of_le below ?_)
      rw [same]
      exact (Nat.div_le_div_right le).trans covered.hashes
    next =>
      split at hashesEq
      next =>
        cases hashesEq
        exact ⟨_, rfl⟩
      next => cases hashesEq
  obtain ⟨blockHash, itemEq⟩ := itemRead
  obtain ⟨found, looked⟩ := getCachedBlock_ok wellFormed blockHash (covered.groupIds group member)
  exact ⟨found, by simp only [cachedAt, itemEq, bind, Except.bind]; exact looked⟩

section

variable (lawful : coordinator.Lawful) (wellFormed : pool.cachedBlockHashToBlock.WellFormed)
  (covered : coordinator.Covered blockHashes maxCacheHitLength)

include lawful wellFormed covered

theorem visitGroup_ok (member : group ∈ coordinator.attentionGroups) (idx : Nat) {state : SearchState}
    (bounded : state.currHitLength ≤ maxCacheHitLength) :
    ∃ next, coordinator.visitGroup pool blockHashes maxCacheHitLength state group idx = .ok next ∧
      next.currHitLength ≤ maxCacheHitLength := by
  obtain ⟨hashes, hashesEq⟩ := atBlockSize_of_dvd blockHashes
    (covered.divides group member)
  unfold visitGroup
  split
  next =>
    refine ⟨_, rfl, ?_⟩
    exact (Nat.div_mul_le_self _ _).trans bounded
  next =>
    generalize (group.useEagle && !state.eagleVerified.contains idx) = drop
    have lengthLe : (if drop = true then
        min (state.currHitLength + group.spec.blockSize) maxCacheHitLength
        else state.currHitLength) ≤ maxCacheHitLength := by
      split <;> omega
    obtain ⟨rows, looked⟩ := KVCacheSpec.findLongestCacheHit_ok drop
      coordinator.schedulerBlockSize (lawful.notChunked group member)
      (readable_of_covered wellFormed covered member hashesEq lengthLe)
    have spec := KVCacheSpec.findLongestCacheHit_spec (lawful.positive group member)
      (lawful.notChunked group member) looked
    simp only [hashesEq, looked, bind, Except.bind]
    exact ⟨_, rfl, spec.bound.trans lengthLe⟩

theorem visitGroups_ok {rest : List SpecGroup}
    (members : ∀ group ∈ rest, group ∈ coordinator.attentionGroups) (idx : Nat)
    (state : SearchState) (bounded : state.currHitLength ≤ maxCacheHitLength) :
    ∃ final, coordinator.visitGroups pool blockHashes maxCacheHitLength idx rest state = .ok final ∧
      final.currHitLength ≤ maxCacheHitLength := by
  induction rest generalizing idx state with
  | nil => exact ⟨state, rfl, bounded⟩
  | cons group rest ih =>
    obtain ⟨next, visited, nextBounded⟩ := visitGroup_ok lawful wellFormed covered
      (members group mem_cons_self) idx bounded
    obtain ⟨final, ranRest, finalBounded⟩ := ih
      (fun other member => members other (mem_cons_of_mem _ member)) (idx + 1) next
      nextBounded
    refine ⟨final, ?_, finalBounded⟩
    simp only [visitGroups, visited, bind, Except.bind]
    exact ranRest

theorem searchLoop_ok
    (state : SearchState) (enough : hitLength < fuel) (bounded : hitLength ≤ maxCacheHitLength) :
    ∃ result, coordinator.searchLoop pool blockHashes maxCacheHitLength fuel hitLength state =
      .ok result := by
  induction fuel generalizing hitLength state with
  | zero => omega
  | succ fuel ih =>
    obtain ⟨next, visited, nextBounded⟩ := visitGroups_ok lawful wellFormed covered
      (fun _ member => member) 0 { state with currHitLength := hitLength } bounded
    simp only [searchLoop, visited, bind, Except.bind]
    split
    next => exact ⟨_, rfl⟩
    next shorter =>
      split
      next => exact ⟨_, rfl⟩
      next => exact ih next (by omega) nextBounded

theorem findLongestCacheHit_ok :
    ∃ hit, coordinator.findLongestCacheHit pool blockHashes maxCacheHitLength = .ok hit := by
  unfold findLongestCacheHit
  split
  next => exact ⟨_, rfl⟩
  next =>
    obtain ⟨result, searched⟩ := searchLoop_ok lawful wellFormed covered
      (coordinator.initialState maxCacheHitLength) (Nat.lt_succ_self maxCacheHitLength) le_rfl
    simp only [searched, bind, Except.bind]
    exact ⟨_, rfl⟩

end

/-- On every pool, for every list of hashes and every bound, a disabled lookup and the
search over safe groups answer consistently, and they do answer when the hashes reach
the bound. -/
theorem findLongestCacheHit_of_safeGroups {config : HybridConfig} (supported : config.Supported)
    (made : init config = .ok coordinator)
    (safe : coordinator.disablePrefixCacheForDsv4Dcp = true ∨ coordinator.SafeGroups) (reachable : pool.Reachable)
    (blockHashes : List BlockHash) (maxCacheHitLength : Nat) :
    (∀ hit, coordinator.findLongestCacheHit pool blockHashes maxCacheHitLength = .ok hit →
      Consistent config pool blockHashes maxCacheHitLength hit) ∧
    (maxCacheHitLength / config.hashBlockSize ≤ blockHashes.length →
      config.kvCacheGroups.length ≤ 2 ^ 32 →
      ∃ hit, coordinator.findLongestCacheHit pool blockHashes maxCacheHitLength = .ok hit) := by
  obtain ⟨free, sound⟩ := reachable.sound
  refine ⟨fun hit ran => findLongestCacheHit_consistent supported made safe sound ran, ?_⟩
  intro reached fewGroups
  obtain ⟨-, groupsEq, -, hashEq, -, -, -, hashDivides⟩ := init_eq_ok made
  have grouped := HybridConfig.attentionGroups_grouped config
  by_cases disabled : coordinator.disablePrefixCacheForDsv4Dcp = true
  · exact ⟨_, by rw [findLongestCacheHit, if_pos disabled]⟩
  · refine findLongestCacheHit_ok (init_lawful supported made) sound.map
      ⟨by rw [hashEq]; exact reached, ?_, ?_⟩
    · intro group member groupId inGroup
      rw [groupsEq] at member
      obtain ⟨source, read, -⟩ := Option.map_eq_some_iff.mp
        (grouped.specs group member groupId inGroup)
      exact (List.getElem?_eq_some_iff.mp read).1.trans_le fewGroups
    · intro group member
      rw [groupsEq] at member
      obtain ⟨groupId, inGroup⟩ := HybridConfig.attentionGroups_nonempty config group member
      obtain ⟨source, read, sameSpec⟩ := Option.map_eq_some_iff.mp
        (grouped.specs group member groupId inGroup)
      rw [hashEq, ← sameSpec]
      exact hashDivides (by simpa using disabled) source (mem_of_getElem? read)

/-- One full-attention group before a sliding window, all of block size one. -/
def fullAndWindow : HybridConfig where
  kvCacheGroups := [⟨⟨.fullAttention, 1, false, 0⟩, false⟩, ⟨⟨.slidingWindow 2, 1, false, 0⟩, false⟩]
  useEagle := false
  enableCaching := true
  dcpWorldSize := 1
  pcpWorldSize := 1
  schedulerBlockSize := 1
  hashBlockSize := 1
  isDeepseekV4Hybrid := false

def twoFullAndWindow : HybridConfig where
  kvCacheGroups := [⟨⟨.fullAttention, 1, false, 0⟩, false⟩, ⟨⟨.fullAttention, 1, false, 1⟩, false⟩,
    ⟨⟨.slidingWindow 2, 1, false, 0⟩, false⟩]
  useEagle := false
  enableCaching := true
  dcpWorldSize := 1
  pcpWorldSize := 1
  schedulerBlockSize := 1
  hashBlockSize := 1
  isDeepseekV4Hybrid := false

private def hashedRequest : Request where
  requestId := 0
  samplingParams := { maxTokens := 1 }
  maxTokens := 1
  promptTokenIds := [5, 6]
  numPromptTokens := 2
  allTokenIds := [5, 6]
  blockHashes := [[7], [8]]

/-- A block both groups stored under the first hash is the common hit. -/
theorem findLongestCacheHit_fullAndWindow : ∃ pool coordinator hit, pool.Reachable ∧
    fullAndWindow.Supported ∧ init fullAndWindow = .ok coordinator ∧ coordinator.SafeGroups ∧
    coordinator.findLongestCacheHit pool [[7], [8]] 1 = .ok hit ∧ hit.hitLength = 1 ∧
    Consistent fullAndWindow pool [[7], [8]] 1 hit := by
  have reachable : BlockPool.Reachable _ :=
    ⟨3, true, 1, false, false, _, rfl, ((Relation.ReflTransGen.single (.getNewBlocks 2 rfl)).tail
      (.cacheFullBlocks hashedRequest [1] 0 1 1 0 none (by decide) rfl)).tail
      (.cacheFullBlocks hashedRequest [2] 0 1 1 1 none (by decide) rfl)⟩
  have supported : fullAndWindow.Supported := ⟨by decide, by simp [fullAndWindow]⟩
  have safe : SafeGroups ⟨2, fullAndWindow.attentionGroups, 1, 1, false⟩ := by
    refine ⟨by decide, fun idx group positive _ followed => ?_⟩
    change idx + 1 < 2 at followed
    omega
  refine ⟨_, ⟨2, fullAndWindow.attentionGroups, 1, 1, false⟩, _, reachable, supported, rfl, safe,
    rfl, rfl, ?_⟩
  exact (findLongestCacheHit_of_safeGroups supported rfl (.inr safe) reachable [[7], [8]] 1).1 _ rfl

/-- The truncation misses the second full-attention group: its list keeps a
block at hit length zero. -/
theorem findLongestCacheHit_secondFullAttention : ∃ pool coordinator hit, pool.Reachable ∧
    twoFullAndWindow.Supported ∧ init twoFullAndWindow = .ok coordinator ∧
    coordinator.findLongestCacheHit pool [[7], [8]] 1 = .ok hit ∧ hit.hitLength = 0 ∧
    hit.blocks = [[], [2], []] ∧ ¬ Consistent twoFullAndWindow pool [[7], [8]] 1 hit := by
  have reachable : BlockPool.Reachable _ :=
    ⟨3, true, 1, false, false, _, rfl, ((Relation.ReflTransGen.single (.getNewBlocks 2 rfl)).tail
      (.cacheFullBlocks hashedRequest [1] 0 1 1 0 none (by decide) rfl)).tail
      (.cacheFullBlocks hashedRequest [2] 0 1 1 1 none (by decide) rfl)⟩
  have supported : twoFullAndWindow.Supported :=
    ⟨by decide, by simp [twoFullAndWindow]⟩
  refine ⟨_, _, _, reachable, supported, rfl, rfl, rfl, rfl, fun consistent => ?_⟩
  obtain ⟨blocks, read, length, -⟩ := consistent.groups 1 _ rfl
  cases read
  cases length

end HybridKVCacheCoordinator

end DeepSpark
