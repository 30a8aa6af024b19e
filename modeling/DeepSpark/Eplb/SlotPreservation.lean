import DeepSpark.Eplb.Packing

/-!
The slots that keep their expert.

Owns that `preserve_intragpu_slots` permutes the experts of each rank and keeps as many slots as
any permutation could, and with it what `rebalance_experts` returns.
-/

namespace DeepSpark

open Lib Function List

variable {E : Type} [DecidableEq E]

def keptSlots (old new : List E) : Nat := (old.zip new).countP fun (before, after) => before = after

theorem keptSlots_le_card_inter {old new : List E} (sameLength : old.length = new.length) :
    keptSlots old new ≤ ((old : Multiset E) ∩ new).card := by
  set kept := (old.zip new).filter fun (before, after) => before = after with isKept
  have sameExperts : kept.map Prod.fst = kept.map Prod.snd :=
    map_congr_left fun entry isEntry => by simpa using (mem_filter.mp isEntry).2
  have fromOld : (kept.map Prod.fst : Multiset E) ≤ old := by
    have sublist := (filter_sublist (p := fun (before, after) => decide (before = after)) (l := old.zip new)).map Prod.fst
    rw [map_fst_zip sameLength.le] at sublist
    exact Multiset.coe_le.mpr sublist.subperm
  have fromNew : (kept.map Prod.fst : Multiset E) ≤ new := by
    have sublist := (filter_sublist (p := fun (before, after) => decide (before = after)) (l := old.zip new)).map Prod.snd
    rw [map_snd_zip sameLength.ge] at sublist
    rw [sameExperts]
    exact Multiset.coe_le.mpr sublist.subperm
  have inBoth := Multiset.card_le_card (Multiset.le_inter fromOld fromNew)
  rw [Multiset.coe_card, length_map, isKept, ← countP_eq_length_filter] at inBoth
  exact inBoth

/-! ## The first pass -/

theorem filter_update_true_perm {count index : Nat} (mask : Nat → Bool) (below : index < count) (isOut : mask index = false) :
    ((List.range count).filter (update mask index true)).Perm (index :: (List.range count).filter mask) := by
  have notIn : index ∉ (List.range count).filter mask := by simp [isOut]
  refine (perm_ext_iff_of_nodup (nodup_range.filter _)
    (nodup_cons.mpr ⟨notIn, nodup_range.filter _⟩)).mpr fun other => ?_
  by_cases same : other = index
  · simp [same, below]
  · simp [same]

/-- After the slots below a bound: the preserved slots hold the used experts, and with the old
experts still to come there are as many as the old and new experts have in common. -/
structure SlotMatching.Matched (slotsPerGpu : Nat) (oldLocal newLocal : Nat → E) (done : Nat)
    (matching : SlotMatching E) : Prop where
  kept : ∀ slot, matching.preservedPositions slot = true → slot < done ∧ matching.postLocal slot = oldLocal slot
  moved : (((List.range slotsPerGpu).filter matching.preservedPositions).map matching.postLocal).Perm
    (((List.range slotsPerGpu).filter matching.usedNewIndices).map newLocal)
  count : (List.range slotsPerGpu).countP matching.preservedPositions +
      ((((List.range' done (slotsPerGpu - done)).map oldLocal : List E) : Multiset E) ∩
        ((List.range slotsPerGpu).filter fun index => !matching.usedNewIndices index).map newLocal).card =
    ((((List.range slotsPerGpu).map oldLocal : List E) : Multiset E) ∩ (List.range slotsPerGpu).map newLocal).card

variable {slotsPerGpu : Nat} {oldLocal newLocal : Nat → E} {done : Nat} {matching : SlotMatching E}

theorem SlotMatching.Matched.preserve (matched : matching.Matched slotsPerGpu oldLocal newLocal done)
    (isSlot : done < slotsPerGpu) :
    (matching.preserve slotsPerGpu oldLocal newLocal done).Matched slotsPerGpu oldLocal newLocal (done + 1) := by
  have notYet : matching.preservedPositions done = false := by
    by_contra isPreserved
    exact absurd (matched.kept done (by simpa using isPreserved)).1 (Nat.lt_irrefl done)
  have isCount := matched.count
  obtain ⟨left, isLeft⟩ : ∃ left, slotsPerGpu - done = left + 1 := ⟨slotsPerGpu - done - 1, by omega⟩
  have isLeft' : slotsPerGpu - (done + 1) = left := by omega
  rw [isLeft, range'_succ, map_cons, ← Multiset.cons_coe] at isCount
  unfold SlotMatching.preserve
  dsimp only
  split
  next index found =>
    have isIndex := mem_range.mp (mem_of_find?_eq_some found)
    obtain ⟨sameExpert, unused⟩ : newLocal index = oldLocal done ∧ matching.usedNewIndices index = false := by
      simpa using find?_some found
    have moreKept := filter_update_true_perm _ isSlot notYet
    have moreUsed := filter_update_true_perm _ isIndex unused
    have fewerUnused : ((List.range slotsPerGpu).filter fun other => !matching.usedNewIndices other).Perm
        (index :: (List.range slotsPerGpu).filter fun other => !update matching.usedNewIndices index true other) := by
      have isOut : (!update matching.usedNewIndices index true index) = false := by simp
      have back := filter_update_true_perm (fun other => !update matching.usedNewIndices index true other)
        isIndex isOut
      refine List.Perm.trans (List.Perm.of_eq (filter_congr fun other _ => ?_)) back
      by_cases same : other = index
      · simp [same, unused]
      · simp [update_of_ne same]
    refine ⟨fun slot isKept => ?_, ?_, ?_⟩
    · dsimp only at isKept ⊢
      by_cases same : slot = done
      · subst same
        rw [update_self, sameExpert]
        exact ⟨Nat.lt_succ_self _, rfl⟩
      · rw [update_of_ne same] at isKept ⊢
        exact ⟨Nat.lt_succ_of_lt (matched.kept slot isKept).1, (matched.kept slot isKept).2⟩
    · -- one more slot holds one more expert
      have others : ((List.range slotsPerGpu).filter matching.preservedPositions).map
          (update matching.postLocal done (newLocal index)) =
          ((List.range slotsPerGpu).filter matching.preservedPositions).map matching.postLocal := by
        refine map_congr_left fun slot isKept => update_of_ne (fun same => ?_) _ _
        have isPreserved := (mem_filter.mp isKept).2
        rw [same, notYet] at isPreserved
        exact Bool.noConfusion isPreserved
      refine (moreKept.map _).trans (.trans ?_ (moreUsed.map newLocal).symm)
      dsimp only
      rw [map_cons, map_cons, update_self, others]
      exact matched.moved.cons _
    · have isUnused : (((List.range slotsPerGpu).filter fun other => !matching.usedNewIndices other).map newLocal : Multiset E) =
          oldLocal done ::ₘ (((List.range slotsPerGpu).filter fun other =>
            !update matching.usedNewIndices index true other).map newLocal : List E) := by
        rw [Multiset.cons_coe, ← sameExpert, ← map_cons]
        exact Multiset.coe_eq_coe.mpr (fewerUnused.map newLocal)
      rw [isUnused, Multiset.cons_inter_of_pos _ (Multiset.mem_cons_self _ _), Multiset.erase_cons_head,
        Multiset.card_cons] at isCount
      have isOneMore : (List.range slotsPerGpu).countP (update matching.preservedPositions done true) =
          (List.range slotsPerGpu).countP matching.preservedPositions + 1 := by
        rw [countP_eq_length_filter, countP_eq_length_filter, moreKept.length_eq, length_cons]
      rw [isLeft', ← isCount]
      dsimp only
      rw [isOneMore]
      omega
  next notFound =>
    have notUnused : oldLocal done ∉
        (((List.range slotsPerGpu).filter fun other => !matching.usedNewIndices other).map newLocal : Multiset E) := by
      rw [Multiset.mem_coe, mem_map]
      rintro ⟨index, isIndex, isExpert⟩
      have isOther := find?_eq_none.mp notFound index (mem_filter.mp isIndex).1
      have unused := (mem_filter.mp isIndex).2
      simp [isExpert, unused] at isOther
    rw [Multiset.cons_inter_of_neg _ notUnused] at isCount
    refine ⟨fun slot isKept => ?_, matched.moved, ?_⟩
    · exact ⟨Nat.lt_succ_of_lt (matched.kept slot isKept).1, (matched.kept slot isKept).2⟩
    · rw [isLeft']
      exact isCount

theorem SlotMatching.matched (oldLocal newLocal : Nat → E) (slotsPerGpu : Nat) {bound : Nat} (below : bound ≤ slotsPerGpu) :
    ((List.range bound).foldl (SlotMatching.preserve slotsPerGpu oldLocal newLocal) { postLocal := newLocal }).Matched
      slotsPerGpu oldLocal newLocal bound := by
  induction bound with
  | zero =>
    refine ⟨nofun, by simp, ?_⟩
    simp [range_eq_range']
  | succ bound ih =>
    rw [range_succ, foldl_append]
    exact (ih (by omega)).preserve (by omega)

/-! ## The second pass -/

omit [DecidableEq E] in
theorem foldl_update (newLocal : Nat → E) {sources places : List Nat} (sameLength : sources.length = places.length)
    (distinct : places.Nodup) (post : Nat → E) :
    (∀ slot ∉ places, ((sources.zip places).foldl (fun post (src, dst) => update post dst (newLocal src)) post) slot =
        post slot) ∧
      places.map ((sources.zip places).foldl (fun post (src, dst) => update post dst (newLocal src)) post) =
        sources.map newLocal := by
  induction places generalizing sources post with
  | nil =>
    rw [length_nil, length_eq_zero_iff] at sameLength
    rw [sameLength]
    exact ⟨fun _ _ => rfl, rfl⟩
  | cons place places ih =>
    cases sources with
    | nil => cases sameLength
    | cons source sources =>
      obtain ⟨notLater, distinct⟩ := nodup_cons.mp distinct
      obtain ⟨untouched, filled⟩ := ih (Nat.succ.inj sameLength) distinct
        (update post place (newLocal source))
      rw [zip_cons_cons, foldl_cons]
      refine ⟨fun slot notIn => ?_, ?_⟩
      · obtain ⟨notHere, notLater⟩ := ne_and_not_mem_of_not_mem_cons notIn
        rw [untouched slot notLater, update_of_ne notHere]
      · rw [map_cons, filled, untouched place notLater, update_self, map_cons]

theorem take_maskedFirst (argsort : Argsort Nat) (slotsPerGpu : Nat) (mask : Nat → Bool) {count : Nat}
    (isCount : count = (List.range slotsPerGpu).countP mask) :
    (maskedFirst argsort slotsPerGpu mask).take count = (List.range slotsPerGpu).filter mask := by
  obtain ⟨rest, isOrder⟩ := argsort.order_masked mask (Nat.lt_succ_self slotsPerGpu)
  rw [maskedFirst, isOrder, isCount, countP_eq_length_filter]
  exact take_left

theorem SlotMatching.Matched.fill (matched : matching.Matched slotsPerGpu oldLocal newLocal done) (argsort : Argsort Nat) :
    (∀ slot, matching.preservedPositions slot = true →
        matching.fill argsort slotsPerGpu newLocal slot = matching.postLocal slot) ∧
      ((List.range slotsPerGpu).map (matching.fill argsort slotsPerGpu newLocal)).Perm
        ((List.range slotsPerGpu).map newLocal) := by
  have complement : ∀ mask : Nat → Bool, (List.range slotsPerGpu).countP mask +
      (List.range slotsPerGpu).countP (fun slot => !mask slot) = slotsPerGpu := by
    intro mask
    have total := (filter_append_perm mask (List.range slotsPerGpu)).length_eq
    rwa [length_append, length_range, ← countP_eq_length_filter, ← countP_eq_length_filter] at total
  have sameCount : (List.range slotsPerGpu).countP matching.preservedPositions =
      (List.range slotsPerGpu).countP matching.usedNewIndices := by
    have moved := matched.moved.length_eq
    rwa [length_map, length_map, ← countP_eq_length_filter, ← countP_eq_length_filter] at moved
  have sameLeft : (List.range slotsPerGpu).countP (fun slot => !matching.usedNewIndices slot) =
      (List.range slotsPerGpu).countP fun slot => !matching.preservedPositions slot := by
    have kept := complement matching.preservedPositions
    have used := complement matching.usedNewIndices
    omega
  set sources := (List.range slotsPerGpu).filter fun slot => !matching.usedNewIndices slot with isSources
  set places := (List.range slotsPerGpu).filter fun slot => !matching.preservedPositions slot with isPlaces
  have isFill : matching.fill argsort slotsPerGpu newLocal = (sources.zip places).foldl
      (fun post (src, dst) => update post dst (newLocal src)) matching.postLocal := by
    unfold SlotMatching.fill
    dsimp only
    rw [← sameLeft, Nat.min_self, take_maskedFirst argsort slotsPerGpu _ rfl, take_maskedFirst argsort slotsPerGpu _ sameLeft]
  have sameLength : sources.length = places.length := by
    rw [isSources, isPlaces, ← countP_eq_length_filter, ← countP_eq_length_filter, sameLeft]
  obtain ⟨untouched, filled⟩ := foldl_update newLocal sameLength (nodup_range.filter _) matching.postLocal
  rw [← isFill] at untouched filled
  have stays : ∀ slot, matching.preservedPositions slot = true →
      matching.fill argsort slotsPerGpu newLocal slot = matching.postLocal slot :=
    fun slot isKept => untouched slot (by simp [isPlaces, isKept])
  refine ⟨stays, ?_⟩
  -- the preserved slots and the filled ones
  have keptPart : ((List.range slotsPerGpu).filter matching.preservedPositions).map
      (matching.fill argsort slotsPerGpu newLocal) =
      ((List.range slotsPerGpu).filter matching.preservedPositions).map matching.postLocal :=
    map_congr_left fun slot isKept => stays slot (mem_filter.mp isKept).2
  have split := (filter_append_perm matching.preservedPositions (List.range slotsPerGpu)).map
    (matching.fill argsort slotsPerGpu newLocal)
  have join := (filter_append_perm matching.usedNewIndices (List.range slotsPerGpu)).map newLocal
  rw [map_append, keptPart, filled] at split
  rw [map_append] at join
  exact split.symm.trans ((matched.moved.append_right _).trans join)

/-- On one rank: a permutation of its experts that keeps as many slots as any other. -/
theorem preserveRank_spec (argsort : Argsort Nat) (slotsPerGpu : Nat) (oldLocal newLocal : Nat → E) :
    ((List.range slotsPerGpu).map (preserveRank argsort slotsPerGpu oldLocal newLocal)).Perm
        ((List.range slotsPerGpu).map newLocal) ∧
      ∀ other : List E, other.Perm ((List.range slotsPerGpu).map newLocal) →
        keptSlots ((List.range slotsPerGpu).map oldLocal) other ≤ keptSlots ((List.range slotsPerGpu).map oldLocal)
          ((List.range slotsPerGpu).map (preserveRank argsort slotsPerGpu oldLocal newLocal)) := by
  have matched := SlotMatching.matched oldLocal newLocal slotsPerGpu (Nat.le_refl slotsPerGpu)
  unfold preserveRank
  dsimp only
  generalize (List.range slotsPerGpu).foldl (SlotMatching.preserve slotsPerGpu oldLocal newLocal)
    { postLocal := newLocal } = matching at matched ⊢
  obtain ⟨stays, perm⟩ := matched.fill argsort
  refine ⟨perm, fun other isPermutation => ?_⟩
  have isCount := matched.count
  rw [Nat.sub_self, range'_zero, map_nil, Multiset.coe_nil, Multiset.zero_inter, Multiset.card_zero,
    Nat.add_zero] at isCount
  have sameNew : (other : Multiset E) = ((List.range slotsPerGpu).map newLocal : List E) :=
    Multiset.coe_eq_coe.mpr isPermutation
  calc keptSlots ((List.range slotsPerGpu).map oldLocal) other
      ≤ ((((List.range slotsPerGpu).map oldLocal : List E) : Multiset E) ∩ other).card :=
        keptSlots_le_card_inter (by rw [isPermutation.length_eq, length_map, length_map])
    _ = (List.range slotsPerGpu).countP matching.preservedPositions := by rw [sameNew, isCount]
    _ ≤ keptSlots ((List.range slotsPerGpu).map oldLocal)
          ((List.range slotsPerGpu).map (matching.fill argsort slotsPerGpu newLocal)) := by
        rw [keptSlots, zip_map', countP_map]
        refine countP_mono_left fun slot _ isKept => ?_
        simpa using ((stays slot isKept).trans (matched.kept slot isKept).2).symm

/-! ## All ranks -/

def rankExperts (slotsPerGpu rank : Nat) (row : Nat → E) : List E :=
  (List.range slotsPerGpu).map fun slot => row (rank * slotsPerGpu + slot)

omit [DecidableEq E] in
theorem mem_rankExperts {rank : Nat} {row : Nat → E} {expert : E} :
    expert ∈ rankExperts slotsPerGpu rank row ↔ ∃ slot < slotsPerGpu, row (rank * slotsPerGpu + slot) = expert := by
  simp [rankExperts]

theorem preserveIntragpuSlots_spec (argsort : Argsort Nat) {numRanks numPhyExperts : Nat} (divides : numRanks ∣ numPhyExperts)
    (phy2log oldPhy2log : Nat → E) {rank : Nat} (isRank : rank < numRanks) :
    (rankExperts (numPhyExperts / numRanks) rank
        (preserveIntragpuSlots argsort numRanks numPhyExperts phy2log oldPhy2log)).Perm
      (rankExperts (numPhyExperts / numRanks) rank phy2log) ∧
    ∀ other : List E, other.Perm (rankExperts (numPhyExperts / numRanks) rank phy2log) →
      keptSlots (rankExperts (numPhyExperts / numRanks) rank oldPhy2log) other ≤
        keptSlots (rankExperts (numPhyExperts / numRanks) rank oldPhy2log)
          (rankExperts (numPhyExperts / numRanks) rank
            (preserveIntragpuSlots argsort numRanks numPhyExperts phy2log oldPhy2log)) := by
  have spec := preserveRank_spec argsort (numPhyExperts / numRanks)
    (fun slot => oldPhy2log (rank * (numPhyExperts / numRanks) + slot))
    fun slot => phy2log (rank * (numPhyExperts / numRanks) + slot)
  have isAfter : rankExperts (numPhyExperts / numRanks) rank
      (preserveIntragpuSlots argsort numRanks numPhyExperts phy2log oldPhy2log) =
      (List.range (numPhyExperts / numRanks)).map (preserveRank argsort (numPhyExperts / numRanks)
        (fun slot => oldPhy2log (rank * (numPhyExperts / numRanks) + slot))
        fun slot => phy2log (rank * (numPhyExperts / numRanks) + slot)) := by
    refine map_congr_left fun slot isSlot => ?_
    have inSlots := mem_range.mp isSlot
    have isQuotient : (rank * (numPhyExperts / numRanks) + slot) / (numPhyExperts / numRanks) = rank := by
      rw [Nat.mul_comm, Nat.mul_add_div (Nat.zero_lt_of_lt inSlots), Nat.div_eq_of_lt inSlots, Nat.add_zero]
    have isRemainder : (rank * (numPhyExperts / numRanks) + slot) % (numPhyExperts / numRanks) = slot := by
      rw [Nat.mul_comm, Nat.mul_add_mod, Nat.mod_eq_of_lt inSlots]
    rw [preserveIntragpuSlots, if_neg]
    · dsimp only
      rw [isQuotient, isRemainder]
    · rintro (noRank | notDivides)
      · omega
      · exact notDivides (Nat.mod_eq_zero_of_dvd divides)
  rw [isAfter]
  exact spec

/-- Each position holds the expert of a position of its rank, and each expert is held in its rank. -/
theorem preserveIntragpuSlots_sameRank (argsort : Argsort Nat) {numRanks numPhyExperts : Nat}
    (divides : numRanks ∣ numPhyExperts) (phy2log oldPhy2log : Nat → E) {position : Nat} (below : position < numPhyExperts) :
    (∃ other < numPhyExperts, other / (numPhyExperts / numRanks) = position / (numPhyExperts / numRanks) ∧
      preserveIntragpuSlots argsort numRanks numPhyExperts phy2log oldPhy2log position = phy2log other) ∧
    ∃ other < numPhyExperts, other / (numPhyExperts / numRanks) = position / (numPhyExperts / numRanks) ∧
      preserveIntragpuSlots argsort numRanks numPhyExperts phy2log oldPhy2log other = phy2log position := by
  obtain ⟨slots, rfl⟩ := divides
  have someRank : 0 < numRanks := Nat.pos_of_ne_zero fun isZero => by simp [isZero] at below
  have someSlot : 0 < slots := Nat.pos_of_ne_zero fun isZero => by simp [isZero] at below
  have isRank : position / slots < numRanks := Nat.div_lt_of_lt_mul (Nat.mul_comm numRanks slots ▸ below)
  have perm := (preserveIntragpuSlots_spec argsort ⟨slots, rfl⟩ phy2log oldPhy2log isRank).1
  rw [Nat.mul_div_cancel_left _ someRank] at perm ⊢
  have isPosition : position / slots * slots + position % slots = position := Nat.div_add_mod' position slots
  have inRank : ∀ slot < slots, position / slots * slots + slot < numRanks * slots ∧
      (position / slots * slots + slot) / slots = position / slots := by
    intro slot isSlot
    refine ⟨flat_lt isRank isSlot, ?_⟩
    rw [Nat.mul_comm, Nat.mul_add_div someSlot, Nat.div_eq_of_lt isSlot, Nat.add_zero]
  constructor
  · obtain ⟨slot, isSlot, isExpert⟩ := mem_rankExperts.mp (perm.mem_iff.mp
      (mem_rankExperts.mpr ⟨position % slots, Nat.mod_lt position someSlot, rfl⟩))
    rw [isPosition] at isExpert
    exact ⟨_, (inRank slot isSlot).1, (inRank slot isSlot).2, isExpert.symm⟩
  · obtain ⟨slot, isSlot, isExpert⟩ := mem_rankExperts.mp (perm.mem_iff.mpr
      (mem_rankExperts.mpr ⟨position % slots, Nat.mod_lt position someSlot, rfl⟩))
    rw [isPosition] at isExpert
    exact ⟨_, (inRank slot isSlot).1, (inRank slot isSlot).2, isExpert⟩

/-! ## `rebalance_experts` -/

def RebalanceAccepted (numLogicalExperts numReplicas numGroups numNodes numRanks : Nat) : Prop :=
  0 < numNodes ∧
    if numNodes ∣ numGroups then SizesAccepted numLogicalExperts numReplicas numGroups numNodes numRanks
    else SizesAccepted numLogicalExperts numReplicas 1 1 numRanks

section Rebalance

variable {W : Type} [LinearOrder W] [LoadArithmetic W] {numLogicalExperts numReplicas numGroups numNodes numRanks : Nat}

theorem rebalanceExperts_base (argsort : Argsort Wᵒᵈ) (argsortSlots : Argsort Nat) (weight : Nat → W)
    (accepted : RebalanceAccepted numLogicalExperts numReplicas numGroups numNodes numRanks) :
    ∃ (groupSize phyPerNode : Nat) (row : List Nat),
      PlacesExperts numLogicalExperts numReplicas groupSize phyPerNode row ∧ numRanks ∣ numReplicas ∧
      numReplicas / numRanks ∣ phyPerNode ∧
      (numNodes ∣ numGroups → groupSize = numLogicalExperts / numGroups ∧ phyPerNode = numReplicas / numNodes) ∧
      ∀ old, rebalanceExperts argsort argsortSlots weight numLogicalExperts numReplicas numGroups numNodes numRanks old =
        .ok (old.elim (row.map Int.ofNat) fun old =>
          (List.range numReplicas).map (preserveIntragpuSlots argsortSlots numRanks numReplicas
            (fun position => (row.map Int.ofNat).getD position (-1)) fun position => old.getD position (-1))) := by
  obtain ⟨someNode, accepted⟩ := accepted
  have perNode : ∀ {groups nodes : Nat}, SizesAccepted numLogicalExperts numReplicas groups nodes numRanks →
      numReplicas / numRanks ∣ numReplicas / nodes := by
    rintro groups nodes ⟨_, _, someNode, someGpu, _, _, ⟨gpus, rfl⟩, ⟨slots, rfl⟩⟩
    rw [Nat.mul_div_cancel_left _ someGpu, Nat.mul_assoc, Nat.mul_div_cancel_left _ someNode]
    exact Nat.dvd_mul_left slots gpus
  by_cases isHierarchical : numNodes ∣ numGroups
  · rw [if_pos isHierarchical] at accepted
    obtain ⟨row, ran⟩ := rebalanceExpertsHierarchical_returns argsort weight accepted
    refine ⟨_, _, row, rebalanceExpertsHierarchical_places ran, accepted.physical, perNode accepted,
      fun _ => ⟨rfl, rfl⟩, fun old => ?_⟩
    rw [rebalanceExperts, if_neg (Nat.ne_of_gt someNode), decide_eq_true (Nat.mod_eq_zero_of_dvd isHierarchical)]
    dsimp only [bind, Except.bind]
    rw [if_pos rfl, ran]
    cases old <;> rfl
  · rw [if_neg isHierarchical] at accepted
    obtain ⟨row, ran⟩ := rebalanceExpertsHierarchical_returns argsort weight accepted
    refine ⟨_, _, row, rebalanceExpertsHierarchical_places ran, accepted.physical, perNode accepted,
      fun divides => absurd divides isHierarchical, fun old => ?_⟩
    rw [rebalanceExperts, if_neg (Nat.ne_of_gt someNode),
      decide_eq_false fun isZero => isHierarchical (Nat.dvd_of_mod_eq_zero isZero)]
    dsimp only [bind, Except.bind]
    rw [if_neg Bool.false_ne_true, ran]
    cases old <;> rfl

/-- The hierarchical policy: the experts of one group are on one node. -/
def GroupsTogether (groupSize phyPerNode : Nat) (row : List Int) : Prop :=
  ∀ position other log otherLog : Nat, row[position]? = some (log : Int) → row[other]? = some (otherLog : Int) →
    log / groupSize = otherLog / groupSize → position / phyPerNode = other / phyPerNode

omit [LinearOrder W] [LoadArithmetic W] in
theorem PlacesExperts.preserved {groupSize phyPerNode slots : Nat} {row : List Nat}
    (places : PlacesExperts numLogicalExperts numReplicas groupSize phyPerNode row) (divides : slots ∣ phyPerNode)
    {after : Nat → Int}
    (fromRank : ∀ position < numReplicas, ∃ other < numReplicas, other / slots = position / slots ∧
      after position = (row.map Int.ofNat).getD other (-1))
    (toRank : ∀ position < numReplicas, ∃ other < numReplicas, other / slots = position / slots ∧
      after other = (row.map Int.ofNat).getD position (-1)) :
    (∀ expert ∈ (List.range numReplicas).map after, ∃ log < numLogicalExperts, expert = (log : Int)) ∧
      (∀ log < numLogicalExperts, (log : Int) ∈ (List.range numReplicas).map after) ∧
      GroupsTogether groupSize phyPerNode ((List.range numReplicas).map after) := by
  have isEntry : ∀ position < numReplicas, ∃ log, row[position]? = some log ∧
      (row.map Int.ofNat).getD position (-1) = (log : Int) := by
    intro position below
    rw [← places.length] at below
    refine ⟨row[position], getElem?_eq_getElem below, ?_⟩
    rw [getD_eq_getElem?_getD, getElem?_map, getElem?_eq_getElem below]
    rfl
  refine ⟨fun expert isExpert => ?_, fun log isLog => ?_, fun position other log otherLog isLog isOtherLog sameGroup => ?_⟩
  · obtain ⟨position, below, rfl⟩ := mem_map.mp isExpert
    obtain ⟨other, isOther, _, same⟩ := fromRank position (mem_range.mp below)
    obtain ⟨log, isAt, isValue⟩ := isEntry other isOther
    exact ⟨log, places.inRange log (mem_of_getElem? isAt), same.trans isValue⟩
  · obtain ⟨position, isAt⟩ := mem_iff_getElem?.mp (places.complete log isLog)
    have below := (List.getElem?_eq_some_iff.mp isAt).1
    rw [places.length] at below
    obtain ⟨other, isOther, _, same⟩ := toRank position below
    obtain ⟨found, isFound, isValue⟩ := isEntry position below
    rw [isAt] at isFound
    cases isFound
    exact mem_map.mpr ⟨other, mem_range.mpr isOther, same.trans isValue⟩
  · have onNode : ∀ position log, ((List.range numReplicas).map after)[position]? = some ((log : Nat) : Int) →
        ∃ base, row[base]? = some log ∧ base / phyPerNode = position / phyPerNode := by
      intro position log isLog
      obtain ⟨inRow, isValue⟩ := List.getElem?_eq_some_iff.mp isLog
      rw [getElem_map, getElem_range] at isValue
      rw [length_map, length_range] at inRow
      obtain ⟨base, isBase, sameRank, same⟩ := fromRank position inRow
      obtain ⟨found, isFound, isFoundValue⟩ := isEntry base isBase
      rw [isValue, isFoundValue] at same
      obtain ⟨ranks, rfl⟩ := divides
      refine ⟨base, isFound.trans (congrArg some (Int.ofNat.inj same).symm), ?_⟩
      rw [← Nat.div_div_eq_div_mul, ← Nat.div_div_eq_div_mul, sameRank]
    obtain ⟨base, isBase, sameNode⟩ := onNode position log isLog
    obtain ⟨otherBase, isOtherBase, sameOtherNode⟩ := onNode other otherLog isOtherLog
    rw [← sameNode, ← sameOtherNode]
    exact places.together base otherBase log otherLog isBase isOtherBase sameGroup

/-- `rebalance_experts` gives every expert a replica, with the hierarchical policy those of a
group on one node; and the preserved slots are a permutation of each rank's new experts that
keeps as many old experts in their slots as any other. -/
theorem rebalanceExperts_complete (argsort : Argsort Wᵒᵈ) (argsortSlots : Argsort Nat) (weight : Nat → W)
    (accepted : RebalanceAccepted numLogicalExperts numReplicas numGroups numNodes numRanks) :
    (∀ old, ∃ row, rebalanceExperts argsort argsortSlots weight numLogicalExperts numReplicas numGroups numNodes numRanks old =
        .ok row ∧ row.length = numReplicas ∧ (∀ expert ∈ row, ∃ log < numLogicalExperts, expert = (log : Int)) ∧
      (∀ log < numLogicalExperts, (log : Int) ∈ row) ∧
      (numNodes ∣ numGroups → GroupsTogether (numLogicalExperts / numGroups) (numReplicas / numNodes) row)) ∧
    ∀ (phy2log oldPhy2log : Nat → Int), ∀ rank < numRanks,
      let experts := rankExperts (numReplicas / numRanks) rank
      let after := preserveIntragpuSlots argsortSlots numRanks numReplicas phy2log oldPhy2log
      (experts after).Perm (experts phy2log) ∧ ∀ other : List Int, other.Perm (experts phy2log) →
        keptSlots (experts oldPhy2log) other ≤ keptSlots (experts oldPhy2log) (experts after) := by
  obtain ⟨groupSize, phyPerNode, row, places, divides, inNode, isHierarchical, ran⟩ :=
    rebalanceExperts_base argsort argsortSlots weight accepted
  refine ⟨fun old => ⟨_, ran old, ?_⟩, fun phy2log oldPhy2log rank isRank =>
    preserveIntragpuSlots_spec argsortSlots divides phy2log oldPhy2log isRank⟩
  cases old with
  | none =>
    have isRow : row.map Int.ofNat = (List.range numReplicas).map fun position => (row.map Int.ofNat).getD position (-1) := by
      refine ext_getElem (by simp [places.length]) fun position below _ => ?_
      rw [getElem_map _, getElem_map _, getElem_range, getD_eq_getElem?_getD, getElem?_map,
        getElem?_eq_getElem (by simpa using below)]
      rfl
    obtain ⟨inRange, complete, together⟩ := places.preserved inNode
      (fun position below => ⟨position, below, rfl, rfl⟩) fun position below => ⟨position, below, rfl, rfl⟩
    rw [← isRow] at inRange complete together
    refine ⟨by simp [places.length], inRange, complete, fun isNodes => ?_⟩
    obtain ⟨rfl, rfl⟩ := isHierarchical isNodes
    exact together
  | some old =>
    obtain ⟨inRange, complete, together⟩ := places.preserved inNode
      (fun position below => (preserveIntragpuSlots_sameRank argsortSlots divides _
        (fun position => old.getD position (-1)) below).1)
      fun position below => (preserveIntragpuSlots_sameRank argsortSlots divides _
        (fun position => old.getD position (-1)) below).2
    refine ⟨by simp, inRange, complete, fun isNodes => ?_⟩
    obtain ⟨rfl, rfl⟩ := isHierarchical isNodes
    exact together

/-- Four experts in two groups, eight replicas on two nodes. -/
theorem rebalanceExperts_twoNodes : ∃ row,
    rebalanceExperts (.stable ℚᵒᵈ) (.stable Nat) (fun log => ([6, 3, 1, 2] : List ℚ).getD log 0) 4 8 2 2 4
      (some [0, 1, 2, 3, 0, 1, 2, 3]) = .ok row ∧ row.length = 8 ∧ ∀ log : Nat, log < 4 → (log : Int) ∈ row := by
  have accepted : RebalanceAccepted 4 8 2 2 4 :=
    ⟨by decide, ⟨by decide, by decide, by decide, by decide, by decide, by decide, by decide, by decide⟩⟩
  obtain ⟨row, ran, length, _, complete, _⟩ := (rebalanceExperts_complete (.stable ℚᵒᵈ) (.stable Nat)
    (fun log => ([6, 3, 1, 2] : List ℚ).getD log 0) accepted).1 (some [0, 1, 2, 3, 0, 1, 2, 3])
  exact ⟨row, ran, length, complete⟩

end Rebalance

end DeepSpark
