import DeepSpark.Eplb.Replication

/-!
Experts packed into nodes and GPUs of fixed size.

Owns that `balanced_packing` gives each group a place of its own, that `inverse` inverts such a
placement, and that the hierarchical policy places every expert, those of one group on one node.
-/

namespace DeepSpark

open Lib Function

variable {W : Type} [LinearOrder W] [LoadArithmetic W] {argsort : Argsort Wᵒᵈ} {weight : Nat → W}

theorem assertDivides_eq_ok {divisor value : Nat} {result : Unit} :
    assertDivides divisor value = .ok result ↔ 0 < divisor ∧ divisor ∣ value := by
  unfold assertDivides
  split
  next isZero => simp [isZero]
  next nonzero => simp [Nat.pos_of_ne_zero nonzero, Nat.dvd_iff_mod_eq_zero]

/-! ## One place for each group -/

/-- Every group below a bound has a pack and a rank in it, and no two groups have the same. -/
structure Packing.Placed (numGroups numPacks groupsPerPack : Nat) (packing : Packing W) : Prop where
  inRange : ∀ group < numGroups, ∃ pack < numPacks, ∃ rank < groupsPerPack,
    packing.packIndex group = pack ∧ packing.rankInPack group = rank
  apart : ∀ group < numGroups, ∀ other < numGroups, packing.packIndex group = packing.packIndex other →
    packing.rankInPack group = packing.rankInPack other → group = other

structure Packing.Filling (numPacks groupsPerPack : Nat) (placed : List Nat) (packing : Packing W) : Prop where
  items : ∀ pack < numPacks, packing.packItems pack ≤ groupsPerPack
  total : ∑ pack ∈ Finset.range numPacks, packing.packItems pack = placed.length
  full : ∀ pack < numPacks, packing.packWeights pack = ⊤ ↔ packing.packItems pack = groupsPerPack
  inRange : ∀ group ∈ placed, ∃ pack < numPacks, ∃ rank < packing.packItems pack,
    packing.packIndex group = pack ∧ packing.rankInPack group = rank
  apart : ∀ group ∈ placed, ∀ other ∈ placed, packing.packIndex group = packing.packIndex other →
    packing.rankInPack group = packing.rankInPack other → group = other

variable {numGroups numPacks groupsPerPack : Nat} {packing : Packing W} {placed : List Nat}

omit [LoadArithmetic W] in
theorem Packing.Filling.argmin (filling : packing.Filling numPacks groupsPerPack placed)
    (left : placed.length < numPacks * groupsPerPack) :
    argminBelow packing.packWeights numPacks < numPacks ∧
      packing.packItems (argminBelow packing.packWeights numPacks) < groupsPerPack := by
  have somePack : 0 < numPacks := Nat.pos_of_ne_zero fun isZero => by simp [isZero] at left
  obtain ⟨isPack, lightest⟩ := argminBelow_spec packing.packWeights somePack
  refine ⟨isPack, lt_of_le_of_ne (filling.items _ isPack) fun isFull => ?_⟩
  have allFull : ∀ pack ∈ Finset.range numPacks, packing.packItems pack = groupsPerPack := by
    intro pack isOther
    have below := Finset.mem_range.mp isOther
    apply (filling.full pack below).mp
    have heavier := lightest pack below
    rwa [(filling.full _ isPack).mpr isFull, top_le_iff] at heavier
  have total := filling.total
  rw [Finset.sum_const_nat allFull, Finset.card_range] at total
  omega

variable (weight) in
theorem Packing.Filling.place (filling : packing.Filling numPacks groupsPerPack placed) {group : Nat}
    (isNew : group ∉ placed) (left : placed.length < numPacks * groupsPerPack) :
    (packing.place weight numPacks groupsPerPack group).Filling numPacks groupsPerPack (placed ++ [group]) := by
  obtain ⟨isPack, notFull⟩ := filling.argmin left
  unfold Packing.place
  generalize argminBelow packing.packWeights numPacks = chosen at isPack notFull ⊢
  have sameIndex : ∀ earlier ∈ placed, update packing.packIndex group (chosen : Int) earlier =
      packing.packIndex earlier ∧ update packing.rankInPack group (packing.packItems chosen : Int) earlier =
      packing.rankInPack earlier := by
    intro earlier isEarlier
    have differ : earlier ≠ group := fun same => isNew (same ▸ isEarlier)
    exact ⟨update_of_ne differ _ _, update_of_ne differ _ _⟩
  have grows : ∀ pack, packing.packItems pack ≤
      update packing.packItems chosen (packing.packItems chosen + 1) pack := by
    intro pack
    by_cases same : pack = chosen
    · subst same
      rw [update_self]
      omega
    · rw [update_of_ne same]
  -- the new group's rank is not taken in its pack
  have fresh : ∀ earlier ∈ placed, packing.packIndex earlier = chosen →
      packing.rankInPack earlier ≠ packing.packItems chosen := by
    intro earlier isEarlier isSamePack isSameRank
    obtain ⟨pack, _, rank, below, isIndex, isRank⟩ := filling.inRange earlier isEarlier
    have samePack : pack = chosen := by omega
    subst samePack
    omega
  refine ⟨fun pack below => ?_, ?_, fun pack below => ?_, fun member isPlaced => ?_, ?_⟩
  · dsimp only
    by_cases same : pack = chosen
    · subst same
      rw [update_self]
      omega
    · rw [update_of_ne same]
      exact filling.items pack below
  · rw [List.length_append, List.length_singleton, ← filling.total]
    exact sum_giveOne (Finset.mem_range.mpr isPack)
  · dsimp only
    by_cases same : pack = chosen
    · subst same
      rw [update_self, update_self]
      split
      next isFull => simp [isFull]
      next stillOpen =>
        have finite : packing.packWeights pack ≠ ⊤ := fun isTop => by
          have isFull := (filling.full pack below).mp isTop
          omega
        obtain ⟨load, isLoad⟩ := WithTop.ne_top_iff_exists.mp finite
        rw [← isLoad]
        simp [stillOpen]
    · rw [update_of_ne same, update_of_ne same]
      exact filling.full pack below
  · dsimp only
    rcases List.mem_append.mp isPlaced with isEarlier | isLast
    · obtain ⟨pack, below, rank, inPack, isIndex, isRank⟩ := filling.inRange member isEarlier
      rw [(sameIndex member isEarlier).1, (sameIndex member isEarlier).2]
      exact ⟨pack, below, rank, inPack.trans_le (grows pack), isIndex, isRank⟩
    · rw [List.mem_singleton.mp isLast, update_self, update_self]
      refine ⟨chosen, isPack, packing.packItems chosen, ?_, rfl, rfl⟩
      rw [update_self]
      omega
  · intro first isFirst second isSecond
    dsimp only
    rcases List.mem_append.mp isFirst with isEarlier | isLast
    · rw [(sameIndex first isEarlier).1, (sameIndex first isEarlier).2]
      rcases List.mem_append.mp isSecond with isEarlier' | isLast'
      · rw [(sameIndex second isEarlier').1, (sameIndex second isEarlier').2]
        exact filling.apart first isEarlier second isEarlier'
      · rw [List.mem_singleton.mp isLast', update_self, update_self]
        exact fun samePack sameRank => absurd sameRank (fresh first isEarlier samePack)
    · rw [List.mem_singleton.mp isLast, update_self, update_self]
      rcases List.mem_append.mp isSecond with isEarlier' | isLast'
      · rw [(sameIndex second isEarlier').1, (sameIndex second isEarlier').2]
        exact fun samePack sameRank => absurd sameRank.symm (fresh second isEarlier' samePack.symm)
      · exact fun _ _ => (List.mem_singleton.mp isLast').symm

variable (weight) in
theorem Packing.Filling.foldl (filling : packing.Filling numPacks groupsPerPack placed) {groups : List Nat}
    (distinct : (placed ++ groups).Nodup) (fits : (placed ++ groups).length ≤ numPacks * groupsPerPack) :
    (groups.foldl (Packing.place weight numPacks groupsPerPack) packing).Filling numPacks groupsPerPack
      (placed ++ groups) := by
  induction groups generalizing packing placed with
  | nil =>
    rw [List.append_nil]
    exact filling
  | cons group rest ih =>
    have isNew : group ∉ placed := fun isPlaced => (List.nodup_append.mp distinct).2.2 group isPlaced group
      List.mem_cons_self rfl
    rw [List.length_append, List.length_cons] at fits
    have next := filling.place weight isNew (by omega)
    rw [List.append_cons] at distinct ⊢
    exact ih next distinct (by simp; omega)

theorem balancedPacking_placed (ran : balancedPacking argsort weight numGroups numPacks = .ok packing) :
    packing.Placed numGroups numPacks (numGroups / numPacks) := by
  obtain ⟨_, divides, ran⟩ := bind_eq_ok.mp ran
  obtain ⟨somePack, divides⟩ := assertDivides_eq_ok.mp divides
  have isProduct : numPacks * (numGroups / numPacks) = numGroups := Nat.mul_div_cancel' divides
  dsimp only at ran
  split at ran
  next isOne =>
    cases ran
    rw [isOne, Nat.mul_one] at isProduct
    refine ⟨fun group below => ⟨group, by omega, 0, by omega, rfl, rfl⟩, fun group _ other _ same _ => ?_⟩
    exact Int.ofNat.inj same
  next =>
    cases ran
    by_cases isEmpty : numGroups = 0
    · exact ⟨fun group below => absurd below (by omega), fun group below => absurd below (by omega)⟩
    have someGroup : 0 < numGroups / numPacks := Nat.pos_of_ne_zero fun isZero => by
      rw [isZero] at isProduct
      omega
    have isOrder := argsort.perm (fun group => OrderDual.toDual (weight group)) numGroups
    have begun : Packing.Filling numPacks (numGroups / numPacks) []
        { packWeights := fun _ => (LoadArithmetic.sum [] : W) : Packing W } :=
      ⟨fun _ _ => Nat.zero_le _, by simp, fun pack _ => by simp; omega, nofun, nofun⟩
    have filled := begun.foldl weight (isOrder.nodup_iff.mpr List.nodup_range)
      (by rw [List.nil_append, isOrder.length_eq, List.length_range, isProduct])
    have isPlaced : ∀ group < numGroups, group ∈ [] ++ argsort.order (fun group => OrderDual.toDual (weight group)) numGroups :=
      fun group below => isOrder.mem_iff.mpr (List.mem_range.mpr below)
    refine ⟨fun group below => ?_, fun group below other isOther =>
      filled.apart group (isPlaced group below) other (isPlaced other isOther)⟩
    obtain ⟨pack, isPack, rank, inPack, isIndex, isRank⟩ := filled.inRange group (isPlaced group below)
    exact ⟨pack, isPack, rank, inPack.trans_le (filled.items pack isPack), isIndex, isRank⟩

theorem balancedPacking_returns (argsort : Argsort Wᵒᵈ) (weight : Nat → W) (positive : 0 < numPacks)
    (divides : numPacks ∣ numGroups) : ∃ packing, balancedPacking argsort weight numGroups numPacks = .ok packing := by
  rw [balancedPacking, (@assertDivides_eq_ok numPacks numGroups ()).mpr ⟨positive, divides⟩]
  dsimp only [bind, Except.bind]
  split
  next => exact ⟨_, rfl⟩
  next => exact ⟨_, rfl⟩

/-! ## Places and their inverse -/

structure Permutes (perm : Nat → Int) (length : Nat) : Prop where
  inRange : ∀ index < length, ∃ value < length, perm index = value
  apart : ∀ index < length, ∀ other < length, perm index = perm other → index = other

namespace Permutes

variable {perm : Nat → Int} {length : Nat}

section

variable (permutes : Permutes perm length)

include permutes

theorem onto {value : Nat} (below : value < length) :
    ∃ index < length, perm index = value := by
  have maps : Set.MapsTo (fun index => (perm index).toNat) (Finset.range length : Set Nat) (Finset.range length) := by
    intro index isIndex
    obtain ⟨value, isValue, same⟩ := permutes.inRange index (by simpa using isIndex)
    simpa [same] using isValue
  have injective : Set.InjOn (fun index => (perm index).toNat) (Finset.range length : Set Nat) := by
    intro index isIndex other isOther same
    have isIndex : index < length := by simpa using isIndex
    have isOther : other < length := by simpa using isOther
    obtain ⟨first, _, isFirst⟩ := permutes.inRange index isIndex
    obtain ⟨second, _, isSecond⟩ := permutes.inRange other isOther
    dsimp only at same
    exact permutes.apart index isIndex other isOther (by omega)
  obtain ⟨index, isIndex, same⟩ := Finset.surjOn_of_injOn_of_card_le _ maps injective (Nat.le_refl _)
    (Finset.mem_coe.mpr (Finset.mem_range.mpr below))
  have isIndex : index < length := by simpa using isIndex
  obtain ⟨found, _, isFound⟩ := permutes.inRange index isIndex
  dsimp only at same
  exact ⟨index, isIndex, by omega⟩

theorem inverse_spec {value : Nat} (below : value < length) :
    inverse perm length value < length ∧ perm (inverse perm length value) = value := by
  obtain ⟨index, isIndex, isValue⟩ := permutes.onto below
  unfold inverse
  cases found : (List.range length).find? fun index => perm index = value with
  | none => exact absurd isValue (by simpa using List.find?_eq_none.mp found index (List.mem_range.mpr isIndex))
  | some first =>
    exact ⟨List.mem_range.mp (List.mem_of_find?_eq_some found), by simpa using List.find?_some found⟩

theorem inverse_eq {index value : Nat} (isIndex : index < length)
    (isValue : perm index = value) : inverse perm length value = index := by
  obtain ⟨_, below, same⟩ := permutes.inRange index isIndex
  obtain ⟨inRange, isInverse⟩ := permutes.inverse_spec (show value < _ by omega)
  exact permutes.apart _ inRange _ isIndex (isInverse.trans isValue.symm)

theorem blocks (size : Nat) :
    Permutes (fun index => perm (index / size) * size + (index % size : Nat)) (length * size) := by
  have isBlock : ∀ {index}, index < length * size → 0 < size ∧ index / size < length := by
    intro index below
    have positive : 0 < size := Nat.pos_of_ne_zero fun isZero => by simp [isZero] at below
    exact ⟨positive, Nat.div_lt_of_lt_mul (Nat.mul_comm length size ▸ below)⟩
  constructor
  · intro index below
    obtain ⟨positive, inRange⟩ := isBlock below
    obtain ⟨block, isBlock, same⟩ := permutes.inRange _ inRange
    refine ⟨block * size + index % size, flat_lt isBlock (Nat.mod_lt _ positive), ?_⟩
    rw [same]
    rfl
  · intro index below other isOther same
    obtain ⟨positive, inRange⟩ := isBlock below
    obtain ⟨_, otherInRange⟩ := isBlock isOther
    obtain ⟨block, _, isValue⟩ := permutes.inRange _ inRange
    obtain ⟨otherBlock, _, isOtherValue⟩ := permutes.inRange _ otherInRange
    rw [isValue, isOtherValue] at same
    obtain ⟨sameBlock, sameOffset⟩ := flat_inj (Nat.mod_lt index positive) (Nat.mod_lt other positive)
      (by exact_mod_cast same)
    have sameQuotient := permutes.apart _ inRange _ otherInRange (by rw [isValue, isOtherValue, sameBlock])
    rw [← Nat.div_add_mod index size, ← Nat.div_add_mod other size, sameQuotient, sameOffset]

end

end Permutes

omit [LinearOrder W] [LoadArithmetic W] in
theorem Packing.Placed.permutes (placed : packing.Placed (numPacks * groupsPerPack) numPacks groupsPerPack) :
    Permutes (fun group => packing.packIndex group * groupsPerPack + packing.rankInPack group) (numPacks * groupsPerPack) := by
  constructor
  · intro group below
    obtain ⟨pack, isPack, rank, inPack, isIndex, isRank⟩ := placed.inRange group below
    refine ⟨pack * groupsPerPack + rank, flat_lt isPack inPack, ?_⟩
    rw [isIndex, isRank]
    rfl
  · intro group below other isOther same
    obtain ⟨pack, _, rank, inPack, isIndex, isRank⟩ := placed.inRange group below
    obtain ⟨otherPack, _, otherRank, inOther, isOtherIndex, isOtherRank⟩ := placed.inRange other isOther
    rw [isIndex, isRank, isOtherIndex, isOtherRank] at same
    obtain ⟨samePack, sameRank⟩ := flat_inj inPack inOther (by exact_mod_cast same)
    exact placed.apart group below other isOther (by rw [isIndex, isOtherIndex, samePack])
      (by rw [isRank, isOtherRank, sameRank])

/-! ## The hierarchical policy -/

theorem packNode_spec {numMlog numGpus phyExpertsPerGpu : Nat} {node : Nat → Nat}
    (ran : packNode argsort weight numMlog (numGpus * phyExpertsPerGpu) numGpus phyExpertsPerGpu = .ok node) :
    (∀ pphy < numGpus * phyExpertsPerGpu, node pphy < numMlog) ∧
      ∀ mlog < numMlog, ∃ pphy < numGpus * phyExpertsPerGpu, node pphy = mlog := by
  obtain ⟨replication, replicated, ran⟩ := bind_eq_ok.mp ran
  obtain ⟨packing, packed, isNode⟩ := bind_eq_ok.mp ran
  cases isNode
  obtain ⟨counted, length⟩ := replicateExperts_counted replicated
  have placed := balancedPacking_placed packed
  obtain ⟨_, divides, _⟩ := bind_eq_ok.mp packed
  rw [Nat.mul_div_cancel_left _ (assertDivides_eq_ok.mp divides).1] at placed
  have permutes := placed.permutes
  have isPhy : ∀ phy < numGpus * phyExpertsPerGpu, replication.phy2log.getD phy 0 ∈ replication.phy2log := by
    intro phy below
    rw [← length] at below
    show replication.phy2log[phy]?.getD 0 ∈ replication.phy2log
    rw [List.getElem?_eq_getElem below]
    exact List.getElem_mem below
  constructor
  · intro pphy below
    exact counted.inRange _ (isPhy _ (permutes.inverse_spec below).1)
  · intro mlog isLog
    have isReplica : mlog ∈ replication.phy2log := by
      apply List.count_pos_iff.mp
      rw [counted.count mlog isLog]
      exact counted.positive mlog isLog
    obtain ⟨phy, below, isMlog⟩ := List.mem_iff_getElem.mp isReplica
    have inRange := below
    rw [length] at inRange
    obtain ⟨pphy, isPphy, isPlace⟩ := permutes.inRange phy inRange
    refine ⟨pphy, isPphy, ?_⟩
    show replication.phy2log.getD (inverse _ _ pphy) 0 = mlog
    rw [permutes.inverse_eq inRange isPlace]
    show replication.phy2log[phy]?.getD 0 = mlog
    rw [List.getElem?_eq_getElem below, isMlog]
    rfl

structure PlacesExperts (numLogicalExperts numPhysicalExperts groupSize phyPerNode : Nat) (row : List Nat) : Prop where
  length : row.length = numPhysicalExperts
  inRange : ∀ log ∈ row, log < numLogicalExperts
  complete : ∀ log < numLogicalExperts, log ∈ row
  together : ∀ pphy other log otherLog, row[pphy]? = some log → row[other]? = some otherLog →
    log / groupSize = otherLog / groupSize → pphy / phyPerNode = other / phyPerNode

theorem placesExperts_of_nodes {numNodes mlogPerNode phyPerNode groupSize : Nat} {log2mlog : Nat → Int}
    (nodeOf : Nat → Nat) {node : Nat → Nat → Nat} (permutes : Permutes log2mlog (numNodes * mlogPerNode))
    (inNode : ∀ log < numNodes * mlogPerNode, ∃ mlog < mlogPerNode,
      log2mlog log = (nodeOf (log / groupSize) * mlogPerNode + mlog : Nat))
    (inRange : ∀ index < numNodes, ∀ pphy < phyPerNode, node index pphy < mlogPerNode)
    (onto : ∀ index < numNodes, ∀ mlog < mlogPerNode, ∃ pphy < phyPerNode, node index pphy = mlog) :
    PlacesExperts (numNodes * mlogPerNode) (numNodes * phyPerNode) groupSize phyPerNode
      ((List.range (numNodes * phyPerNode)).map fun pphy => inverse log2mlog (numNodes * mlogPerNode)
        (node (pphy / phyPerNode) (pphy % phyPerNode) + pphy / phyPerNode * mlogPerNode)) := by
  have isEntry : ∀ pphy < numNodes * phyPerNode, ∀ log,
      inverse log2mlog (numNodes * mlogPerNode)
        (node (pphy / phyPerNode) (pphy % phyPerNode) + pphy / phyPerNode * mlogPerNode) = log →
      log < numNodes * mlogPerNode ∧ pphy / phyPerNode = nodeOf (log / groupSize) := by
    rintro pphy below log rfl
    have positive : 0 < phyPerNode := Nat.pos_of_ne_zero fun isZero => by simp [isZero] at below
    have isNode : pphy / phyPerNode < numNodes := Nat.div_lt_of_lt_mul (Nat.mul_comm numNodes phyPerNode ▸ below)
    have isMlog := inRange _ isNode _ (Nat.mod_lt pphy positive)
    rw [Nat.add_comm]
    obtain ⟨isLog, isInverse⟩ := permutes.inverse_spec (flat_lt isNode isMlog)
    obtain ⟨mlog, isOther, isPlace⟩ := inNode _ isLog
    rw [isInverse] at isPlace
    exact ⟨isLog, (flat_inj isMlog isOther (Int.ofNat.inj isPlace)).1⟩
  refine ⟨by simp, fun log isLog => ?_, fun log isLog => ?_, fun pphy other log otherLog isPphy isOther sameGroup => ?_⟩
  · obtain ⟨pphy, below, isValue⟩ := List.mem_map.mp isLog
    exact (isEntry pphy (List.mem_range.mp below) log isValue).1
  · obtain ⟨mlog, isMlog, isPlace⟩ := inNode log isLog
    obtain ⟨value, isValue, same⟩ := permutes.inRange log isLog
    rw [isPlace] at same
    have isNode : nodeOf (log / groupSize) < numNodes := by
      by_contra outside
      have tooFar := Nat.mul_le_mul_right mlogPerNode (Nat.le_of_not_lt outside)
      omega
    obtain ⟨pphy, isPphy, isMlogOf⟩ := onto _ isNode mlog isMlog
    refine List.mem_map.mpr ⟨nodeOf (log / groupSize) * phyPerNode + pphy, List.mem_range.mpr (flat_lt isNode isPphy), ?_⟩
    have positive : 0 < phyPerNode := Nat.zero_lt_of_lt isPphy
    have isQuotient : (nodeOf (log / groupSize) * phyPerNode + pphy) / phyPerNode = nodeOf (log / groupSize) := by
      rw [Nat.mul_comm, Nat.mul_add_div positive, Nat.div_eq_of_lt isPphy, Nat.add_zero]
    have isRemainder : (nodeOf (log / groupSize) * phyPerNode + pphy) % phyPerNode = pphy := by
      rw [Nat.mul_comm, Nat.mul_add_mod, Nat.mod_eq_of_lt isPphy]
    rw [isQuotient, isRemainder, isMlogOf, Nat.add_comm mlog]
    exact permutes.inverse_eq isLog isPlace
  · obtain ⟨below, isValue⟩ := List.getElem?_eq_some_iff.mp isPphy
    obtain ⟨otherBelow, isOtherValue⟩ := List.getElem?_eq_some_iff.mp isOther
    rw [List.getElem_map, List.getElem_range] at isValue isOtherValue
    rw [List.length_map, List.length_range] at below otherBelow
    rw [(isEntry pphy below log isValue).2, (isEntry other otherBelow otherLog isOtherValue).2, sameGroup]

theorem rebalanceExpertsHierarchical_places {numLogicalExperts numPhysicalExperts numGroups numNodes numGpus : Nat}
    {row : List Nat} (ran : rebalanceExpertsHierarchical argsort weight numLogicalExperts numPhysicalExperts numGroups
      numNodes numGpus = .ok row) :
    PlacesExperts numLogicalExperts numPhysicalExperts (numLogicalExperts / numGroups) (numPhysicalExperts / numNodes) row := by
  obtain ⟨_, groupsDivide, ran⟩ := bind_eq_ok.mp ran
  obtain ⟨_, nodesDivide, ran⟩ := bind_eq_ok.mp ran
  obtain ⟨_, gpusDivide, ran⟩ := bind_eq_ok.mp ran
  obtain ⟨_, physicalDivide, ran⟩ := bind_eq_ok.mp ran
  obtain ⟨groups, packed, ran⟩ := bind_eq_ok.mp ran
  obtain ⟨nodes, packedNodes, isRow⟩ := bind_eq_ok.mp ran
  obtain ⟨someGroup, groupSize, rfl⟩ := assertDivides_eq_ok.mp groupsDivide
  obtain ⟨someNode, groupsPerNode, rfl⟩ := assertDivides_eq_ok.mp nodesDivide
  obtain ⟨_, gpusPerNode, rfl⟩ := assertDivides_eq_ok.mp gpusDivide
  obtain ⟨someGpu, phyPerGpu, rfl⟩ := assertDivides_eq_ok.mp physicalDivide
  -- the sizes that the code computes by division
  have isGroupSize : numNodes * groupsPerNode * groupSize / (numNodes * groupsPerNode) = groupSize :=
    Nat.mul_div_cancel_left _ someGroup
  have isMlogPerNode : numNodes * groupsPerNode * groupSize / numNodes = groupsPerNode * groupSize := by
    rw [Nat.mul_assoc, Nat.mul_div_cancel_left _ someNode]
  have isPhyPerNode : numNodes * gpusPerNode * phyPerGpu / numNodes = gpusPerNode * phyPerGpu := by
    rw [Nat.mul_assoc, Nat.mul_div_cancel_left _ someNode]
  rw [isGroupSize] at packed packedNodes isRow ⊢
  rw [isMlogPerNode, isPhyPerNode, Nat.mul_div_cancel_left _ someGpu, Nat.mul_div_cancel_left _ someNode,
    Nat.mul_div_cancel_left _ someNode] at packedNodes
  rw [isMlogPerNode, isPhyPerNode, Nat.mul_div_cancel_left _ someNode] at isRow
  rw [isPhyPerNode]
  have placed := balancedPacking_placed packed
  rw [Nat.mul_div_cancel_left _ someNode] at placed
  split at isRow
  · cases isRow
  next nonempty =>
    cases isRow
    have permutes := placed.permutes.blocks groupSize
    have isNode : ∀ node < numNodes,
        (∀ pphy < gpusPerNode * phyPerGpu, nodes.getD node id pphy < groupsPerNode * groupSize) ∧
          ∀ mlog < groupsPerNode * groupSize, ∃ pphy < gpusPerNode * phyPerGpu, nodes.getD node id pphy = mlog := by
      intro node below
      obtain ⟨packed, isPacked, ran⟩ := getElem?_of_mapM packedNodes (List.getElem?_range below)
      rw [List.getD_eq_getElem?_getD, isPacked]
      exact packNode_spec ran
    have positive : 0 < groupSize := Nat.pos_of_ne_zero fun isZero => nonempty (by rw [isZero, Nat.mul_zero])
    rw [Nat.mul_assoc numNodes groupsPerNode] at permutes ⊢
    rw [Nat.mul_assoc numNodes gpusPerNode]
    refine placesExperts_of_nodes (fun group => (groups.packIndex group).toNat) permutes (fun log below => ?_)
      (fun node below => (isNode node below).1) fun node below => (isNode node below).2
    have isGroup : log / groupSize < numNodes * groupsPerNode := by
      apply Nat.div_lt_of_lt_mul
      rw [Nat.mul_comm, Nat.mul_assoc]
      exact below
    obtain ⟨pack, _, rank, inPack, isIndex, isRank⟩ := placed.inRange _ isGroup
    refine ⟨rank * groupSize + log % groupSize, flat_lt inPack (Nat.mod_lt log positive), ?_⟩
    rw [isIndex, isRank, Int.toNat_natCast]
    push_cast
    ring

theorem packNode_returns (argsort : Argsort Wᵒᵈ) (weight : Nat → W) {numMlog numPhy phyExpertsPerGpu : Nat}
    (someLog : 0 < numMlog) (enough : numMlog ≤ numPhy) (somePack : 0 < numPacks) (divides : numPacks ∣ numPhy) :
    ∃ node, packNode argsort weight numMlog numPhy numPacks phyExpertsPerGpu = .ok node := by
  obtain ⟨replication, replicated⟩ := replicateExperts_returns weight someLog enough
  obtain ⟨packing, packed⟩ := balancedPacking_returns argsort
    (fun phy => LoadArithmetic.perReplica (weight (replication.phy2log.getD phy 0))
      (replication.logcnt (replication.phy2log.getD phy 0))) somePack divides
  rw [packNode, replicated]
  dsimp only [bind, Except.bind]
  rw [packed]
  exact ⟨_, rfl⟩

structure SizesAccepted (numLogicalExperts numPhysicalExperts numGroups numNodes numGpus : Nat) : Prop where
  someLog : 0 < numLogicalExperts
  enough : numLogicalExperts ≤ numPhysicalExperts
  someNode : 0 < numNodes
  someGpu : 0 < numGpus
  groups : numGroups ∣ numLogicalExperts
  nodes : numNodes ∣ numGroups
  gpus : numNodes ∣ numGpus
  physical : numGpus ∣ numPhysicalExperts

theorem rebalanceExpertsHierarchical_returns (argsort : Argsort Wᵒᵈ) (weight : Nat → W)
    {numLogicalExperts numPhysicalExperts numGroups numNodes numGpus : Nat}
    (accepted : SizesAccepted numLogicalExperts numPhysicalExperts numGroups numNodes numGpus) :
    ∃ row, rebalanceExpertsHierarchical argsort weight numLogicalExperts numPhysicalExperts numGroups numNodes numGpus =
      .ok row := by
  obtain ⟨someLog, enough, someNode, someGpu, groups, nodes, gpus, physical⟩ := accepted
  have someGroup : 0 < numGroups := Nat.pos_of_dvd_of_pos groups someLog
  have divides : ∀ {divisor value}, 0 < divisor → divisor ∣ value → assertDivides divisor value = .ok () :=
    fun positive isDivisor => assertDivides_eq_ok.mpr ⟨positive, isDivisor⟩
  obtain ⟨packing, packed⟩ := balancedPacking_returns argsort (fun group => LoadArithmetic.sum
    ((List.range (numLogicalExperts / numGroups)).map fun index =>
      weight (group * (numLogicalExperts / numGroups) + index))) someNode nodes
  have someMlog : 0 < numLogicalExperts / numNodes := Nat.div_pos (Nat.le_of_dvd someLog (nodes.trans groups)) someNode
  rw [rebalanceExpertsHierarchical, divides someGroup groups, divides someNode nodes, divides someNode gpus,
    divides someGpu physical]
  dsimp only [bind, Except.bind]
  rw [packed]
  dsimp only
  have packs : ∀ tokens : Nat → Nat → W, ∃ rows, (List.range numNodes).mapM (fun node => packNode argsort (tokens node)
      (numLogicalExperts / numNodes) (numPhysicalExperts / numNodes) (numGpus / numNodes)
      (numPhysicalExperts / numGpus)) = .ok rows := by
    intro tokens
    have returns : ∀ node, ∃ row, packNode argsort (tokens node) (numLogicalExperts / numNodes)
        (numPhysicalExperts / numNodes) (numGpus / numNodes) (numPhysicalExperts / numGpus) = .ok row := fun node =>
      packNode_returns argsort _ someMlog (Nat.div_le_div_right enough)
        (Nat.div_pos (Nat.le_of_dvd someGpu gpus) someNode) (Nat.div_dvd_div gpus physical)
    exact ⟨_, @mapM_ok _ _ _ (fun node => (returns node).choose) _ fun node _ => (returns node).choose_spec⟩
  obtain ⟨rows, packedRows⟩ := packs fun node mlog => weight (inverse _ numLogicalExperts
    (node * (numLogicalExperts / numNodes) + mlog))
  rw [packedRows]
  dsimp only
  rw [if_neg (Nat.ne_of_gt someMlog)]
  exact ⟨_, rfl⟩

end DeepSpark
