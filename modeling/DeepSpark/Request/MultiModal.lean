import DeepSpark.Request.Hasher

/-!
The multi-modal items of a block.

Owns what the cursor of `_gen_mm_extra_hash_keys` stands for, and the extra keys
of a block as a function of the request alone: with items in prompt order and a
cursor that has passed only items that end before the block, the scan returns the
items that overlap the block, and a cursor of that kind for the next block.
-/

namespace DeepSpark

open Lib

def MultiModalFeatureSpec.overlaps (feature : MultiModalFeatureSpec)
    (startTokenIdx endTokenIdx : Nat) : Bool :=
  feature.offset < endTokenIdx ∧ startTokenIdx < feature.offset + feature.length

/-- Items sorted by offset, none inside another: each ends before the next. -/
def InPromptOrder (features : List MultiModalFeatureSpec) : Prop :=
  features.Pairwise fun earlier later => earlier.offset + earlier.length ≤ later.offset

def MultiModalFeatureSpec.key (startTokenIdx : Nat) (feature : MultiModalFeatureSpec) : ExtraKey :=
  .mm feature.identifier ((feature.offset : Int) - startTokenIdx)

def itemsIn (startTokenIdx endTokenIdx : Nat) (features : List MultiModalFeatureSpec) :
    List MultiModalFeatureSpec :=
  features.filter fun feature => feature.overlaps startTokenIdx endTokenIdx

section Scan

variable {startTokenIdx endTokenIdx : Nat} {features : List MultiModalFeatureSpec}

theorem itemsIn_eq_nil_of_passed
    (passed : ∀ feature ∈ features, feature.offset + feature.length ≤ startTokenIdx) :
    itemsIn startTokenIdx endTokenIdx features = [] := by
  apply List.filter_eq_nil_iff.mpr
  intro feature member
  simp only [MultiModalFeatureSpec.overlaps, decide_eq_true_eq, not_and, not_lt]
  exact fun _ => passed feature member

theorem itemsIn_eq_nil_of_ahead
    (ahead : ∀ feature ∈ features, endTokenIdx ≤ feature.offset) :
    itemsIn startTokenIdx endTokenIdx features = [] := by
  apply List.filter_eq_nil_iff.mpr
  intro feature member
  simp only [MultiModalFeatureSpec.overlaps, decide_eq_true_eq, not_and]
  exact fun before => absurd (ahead feature member) (Nat.not_le_of_lt before)

theorem itemsIn_cons_of_overlaps {feature : MultiModalFeatureSpec}
    (isIn : feature.overlaps startTokenIdx endTokenIdx = true) :
    itemsIn startTokenIdx endTokenIdx (feature :: features) =
      feature :: itemsIn startTokenIdx endTokenIdx features :=
  List.filter_cons_of_pos isIn

theorem itemsIn_cons_of_not_overlaps {feature : MultiModalFeatureSpec}
    (notIn : feature.overlaps startTokenIdx endTokenIdx = false) :
    itemsIn startTokenIdx endTokenIdx (feature :: features) =
      itemsIn startTokenIdx endTokenIdx features :=
  List.filter_cons_of_neg (by simp [notIn])

/-- The scan finds the overlapping items and moves past those that end in the
block. -/
theorem mmExtraKeysFrom_spec (inOrder : InPromptOrder features)
    (nonempty : startTokenIdx < endTokenIdx) (currMmIdx : Int) :
    ∃ passed : Nat,
      mmExtraKeysFrom startTokenIdx endTokenIdx features currMmIdx =
        ((itemsIn startTokenIdx endTokenIdx features).map (·.key startTokenIdx),
          currMmIdx + passed) ∧
      ∀ feature ∈ features.take passed, feature.offset + feature.length ≤ endTokenIdx := by
  induction features generalizing currMmIdx with
  | nil => exact ⟨0, by simp [mmExtraKeysFrom, itemsIn], nofun⟩
  | cons feature rest ih =>
    obtain ⟨before, restInOrder⟩ := List.pairwise_cons.mp inOrder
    obtain ⟨passed, scanned, ends⟩ := ih restInOrder (currMmIdx + 1)
    have nextCursor : currMmIdx + 1 + (passed : Int) = currMmIdx + (passed + 1 : Nat) := by
      omega
    have withHead : feature.offset + feature.length ≤ endTokenIdx →
        ∀ item ∈ (feature :: rest).take (passed + 1), item.offset + item.length ≤ endTokenIdx := by
      intro headEnds item member
      rw [List.take_succ_cons, List.mem_cons] at member
      rcases member with rfl | inRest
      · exact headEnds
      · exact ends item inRest
    rw [mmExtraKeysFrom]
    by_cases reached : endTokenIdx > feature.offset
    · rw [if_pos reached]
      by_cases behind : startTokenIdx ≥ feature.offset + feature.length
      · have notIn : feature.overlaps startTokenIdx endTokenIdx = false := by
          simp [MultiModalFeatureSpec.overlaps, behind]
        rw [if_pos behind, scanned, nextCursor, itemsIn_cons_of_not_overlaps notIn]
        exact ⟨passed + 1, rfl, withHead (by omega)⟩
      · have isIn : feature.overlaps startTokenIdx endTokenIdx = true := by
          simp only [MultiModalFeatureSpec.overlaps, decide_eq_true_eq]
          omega
        rw [if_neg behind, itemsIn_cons_of_overlaps isIn, List.map_cons]
        by_cases ending : endTokenIdx ≥ feature.offset + feature.length
        · rw [if_pos ending, scanned, nextCursor]
          exact ⟨passed + 1, rfl, withHead ending⟩
        · have noneAfter : itemsIn startTokenIdx endTokenIdx rest = [] :=
            itemsIn_eq_nil_of_ahead fun item member => by
              have := before item member
              omega
          rw [if_neg ending]
          exact ⟨0, by rw [noneAfter]; simp [MultiModalFeatureSpec.key], nofun⟩
    · have noneAfter : itemsIn startTokenIdx endTokenIdx (feature :: rest) = [] :=
        itemsIn_eq_nil_of_ahead fun item member => by
          rcases List.mem_cons.mp member with rfl | inRest
          · omega
          · have := before item inRest
            omega
      rw [if_neg reached, noneAfter]
      exact ⟨0, by simp, nofun⟩

end Scan

def keyTuple (keys : List ExtraKey) : Option (List ExtraKey) :=
  if keys.isEmpty then none else some keys

theorem keyTuple_injective : Function.Injective keyTuple := by
  intro left right same
  cases left with
  | nil =>
    cases right with
    | nil => rfl
    | cons => cases same
  | cons =>
    cases right with
    | nil => cases same
    | cons => exact Option.some.inj same

namespace Request

variable (request : Request)

/-- The item a cursor stands for; a negative cursor counts from the last item. -/
def itemIndex (currMmIdx : Int) : Nat :=
  (if currMmIdx < 0 then request.mmFeatures.length + currMmIdx else currMmIdx).toNat

/-- A cursor that stands for the items from `origin` on: those it skips end before
the block. -/
structure ReadsFrom (origin startTokenIdx : Nat) (currMmIdx : Int) : Prop where
  inRange : request.mmFeatures ≠ [] → -(request.mmFeatures.length : Int) ≤ currMmIdx
  reached : origin ≤ request.itemIndex currMmIdx
  passed : ∀ feature ∈ (request.mmFeatures.drop origin).take (request.itemIndex currMmIdx - origin),
    feature.offset + feature.length ≤ startTokenIdx

def keysWith (items : List MultiModalFeatureSpec) (startTokenIdx endTokenIdx : Nat) :
    List ExtraKey :=
  genLoraExtraHashKeys request ++ items.map (·.key startTokenIdx) ++
    cacheSaltKeys request startTokenIdx ++
    genPromptEmbedsExtraHashKeys request startTokenIdx endTokenIdx

def blockKeysFrom (origin startTokenIdx endTokenIdx : Nat) : Option (List ExtraKey) :=
  keyTuple (request.keysWith
    (itemsIn startTokenIdx endTokenIdx (request.mmFeatures.drop origin)) startTokenIdx endTokenIdx)

variable {request} {origin startTokenIdx endTokenIdx : Nat} {currMmIdx : Int}

theorem readsFrom_zero (request : Request) : request.ReadsFrom 0 0 0 := by
  refine ⟨fun _ => by omega, Nat.zero_le _, ?_⟩
  simp [itemIndex]

theorem readsFrom_last (request : Request) (startTokenIdx : Nat) :
    request.ReadsFrom (request.mmFeatures.length - 1) startTokenIdx (-1) := by
  have index : request.itemIndex (-1) = request.mmFeatures.length - 1 := by
    rw [itemIndex, if_pos (by omega)]
    omega
  refine ⟨fun hasItems => ?_, index.ge, ?_⟩
  · have := List.length_pos_iff.mpr hasItems
    omega
  · rw [index, Nat.sub_self]
    exact nofun

section

variable (inOrder : InPromptOrder request.mmFeatures) (nonempty : startTokenIdx < endTokenIdx)
  (reads : request.ReadsFrom origin startTokenIdx currMmIdx)

include inOrder nonempty reads

theorem genMmExtraHashKeys_spec :
    ∃ next, genMmExtraHashKeys request startTokenIdx endTokenIdx currMmIdx =
        .ok ((itemsIn startTokenIdx endTokenIdx (request.mmFeatures.drop origin)).map
          (·.key startTokenIdx), next) ∧
      request.ReadsFrom origin endTokenIdx next := by
  have later : request.ReadsFrom origin endTokenIdx currMmIdx :=
    ⟨reads.inRange, reads.reached,
      fun feature member => (reads.passed feature member).trans nonempty.le⟩
  cases isLast : request.mmFeatures.getLast? with
  | none =>
    have noItems := List.getLast?_eq_none_iff.mp isLast
    rw [genMmExtraHashKeys, isLast, noItems, List.drop_nil]
    exact ⟨currMmIdx, rfl, later⟩
  | some last =>
    obtain ⟨front, isSplit⟩ := List.getLast?_eq_some_iff.mp isLast
    rw [genMmExtraHashKeys, isLast]
    dsimp only
    by_cases behind : last.offset + last.length ≤ startTokenIdx
    · have passed : itemsIn startTokenIdx endTokenIdx (request.mmFeatures.drop origin) = [] := by
        apply itemsIn_eq_nil_of_passed
        intro feature member
        have member := List.mem_of_mem_drop member
        rw [isSplit, List.mem_append, List.mem_singleton] at member
        rcases member with inFront | rfl
        · rw [isSplit, InPromptOrder, List.pairwise_append] at inOrder
          have := inOrder.2.2 feature inFront last (List.mem_singleton_self _)
          omega
        · exact behind
      rw [if_pos behind, passed]
      exact ⟨currMmIdx, rfl, later⟩
    · have inRange := reads.inRange (by rw [isSplit]; simp)
      have reached := reads.reached
      have asserted : pyAssert (currMmIdx ≥ 0 || -currMmIdx ≤ request.mmFeatures.length) "" =
          .ok () := by
        apply if_pos
        simp only [Bool.or_eq_true, decide_eq_true_eq]
        omega
      have restInOrder : InPromptOrder (request.mmFeatures.drop (request.itemIndex currMmIdx)) :=
        inOrder.sublist (List.drop_sublist _ _)
      obtain ⟨passed, scanned, ends⟩ := mmExtraKeysFrom_spec restInOrder nonempty
        (if currMmIdx < 0 then request.mmFeatures.length + currMmIdx else currMmIdx)
      have isRest : request.mmFeatures.drop (request.itemIndex currMmIdx) =
          (request.mmFeatures.drop origin).drop (request.itemIndex currMmIdx - origin) := by
        rw [List.drop_drop, Nat.add_sub_cancel' reached]
      have allItems : itemsIn startTokenIdx endTokenIdx (request.mmFeatures.drop origin) =
          itemsIn startTokenIdx endTokenIdx
            (request.mmFeatures.drop (request.itemIndex currMmIdx)) := by
        rw [isRest]
        conv_lhs =>
          rw [← List.take_append_drop (request.itemIndex currMmIdx - origin)
            (request.mmFeatures.drop origin)]
        rw [itemsIn, List.filter_append, ← itemsIn, itemsIn_eq_nil_of_passed reads.passed]
        rfl
      rw [if_neg behind, asserted, allItems]
      have nonnegative :
          0 ≤ if currMmIdx < 0 then request.mmFeatures.length + currMmIdx else currMmIdx := by
        split <;> omega
      have nextIndex : request.itemIndex
          ((if currMmIdx < 0 then request.mmFeatures.length + currMmIdx else currMmIdx) + passed) =
            request.itemIndex currMmIdx + passed := by
        rw [itemIndex, if_neg (by omega), itemIndex]
        omega
      refine ⟨_, congrArg Except.ok scanned, fun _ => by omega, by omega, ?_⟩
      rw [nextIndex, Nat.sub_add_comm reached, List.take_add, ← isRest]
      intro feature member
      rcases List.mem_append.mp member with inOld | inNew
      · exact (reads.passed feature inOld).trans nonempty.le
      · exact ends feature inNew

theorem generateBlockHashExtraKeys_spec :
    ∃ next, generateBlockHashExtraKeys request startTokenIdx endTokenIdx currMmIdx =
        .ok (request.blockKeysFrom origin startTokenIdx endTokenIdx, next) ∧
      request.ReadsFrom origin endTokenIdx next := by
  obtain ⟨next, items, goesOn⟩ := genMmExtraHashKeys_spec inOrder nonempty reads
  refine ⟨next, ?_, goesOn⟩
  rw [generateBlockHashExtraKeys, items]
  show (if (request.keysWith _ _ _).isEmpty then _ else _) = _
  rw [blockKeysFrom, keyTuple]
  split
  · rfl
  · rfl

end

/-- Whatever the cursor, the scan finds the items it stands for. -/
theorem genMmExtraHashKeys_items (inOrder : InPromptOrder request.mmFeatures) (nonempty : startTokenIdx < endTokenIdx)
    {keys : List ExtraKey} {next : Int}
    (ran : genMmExtraHashKeys request startTokenIdx endTokenIdx currMmIdx = .ok (keys, next)) :
    keys = (itemsIn startTokenIdx endTokenIdx (request.mmFeatures.drop (request.itemIndex currMmIdx))).map
      (·.key startTokenIdx) := by
  by_cases inRange : request.mmFeatures ≠ [] → -(request.mmFeatures.length : Int) ≤ currMmIdx
  · have reads : request.ReadsFrom (request.itemIndex currMmIdx) startTokenIdx currMmIdx :=
      ⟨inRange, le_rfl, by rw [Nat.sub_self]; exact nofun⟩
    obtain ⟨_, scanned, -⟩ := genMmExtraHashKeys_spec inOrder nonempty reads
    exact congrArg Prod.fst (Except.ok.inj (ran.symm.trans scanned))
  · -- in front of all items the assertion fails, unless the block is behind them
    obtain ⟨hasItems, below⟩ := Classical.not_imp.mp inRange
    have isFirst : request.itemIndex currMmIdx = 0 := by
      rw [itemIndex, if_pos (by omega)]
      omega
    have reads : request.ReadsFrom 0 startTokenIdx 0 := ⟨fun _ => by omega, Nat.zero_le _, nofun⟩
    obtain ⟨_, scanned, -⟩ := genMmExtraHashKeys_spec inOrder nonempty reads
    rw [genMmExtraHashKeys, List.getLast?_eq_some_getLast hasItems] at ran scanned
    dsimp only at ran scanned
    split at ran
    next behind =>
      rw [if_pos behind] at scanned
      rw [isFirst]
      exact (Prod.mk.inj (Except.ok.inj ran)).1.symm.trans (Prod.mk.inj (Except.ok.inj scanned)).1
    next =>
      obtain ⟨_, asserted, -⟩ := bind_eq_ok.mp ran
      rw [pyAssert_eq_ok, Bool.or_eq_true, decide_eq_true_eq, decide_eq_true_eq] at asserted
      omega

theorem generateBlockHashExtraKeys_keys (inOrder : InPromptOrder request.mmFeatures)
    (nonempty : startTokenIdx < endTokenIdx) {extraKeys : Option (List ExtraKey)} {next : Int}
    (ran : generateBlockHashExtraKeys request startTokenIdx endTokenIdx currMmIdx = .ok (extraKeys, next)) :
    extraKeys = request.blockKeysFrom (request.itemIndex currMmIdx) startTokenIdx endTokenIdx := by
  obtain ⟨⟨keys, _⟩, scanned, ran⟩ := bind_eq_ok.mp ran
  rw [blockKeysFrom, keysWith, ← genMmExtraHashKeys_items inOrder nonempty scanned, keyTuple]
  dsimp only at ran
  split at ran
  next isEmpty =>
    rw [if_pos isEmpty]
    exact (congrArg Prod.fst (Except.ok.inj ran)).symm
  next notEmpty =>
    rw [if_neg notEmpty]
    exact (congrArg Prod.fst (Except.ok.inj ran)).symm

end Request

namespace BlockHasher

variable {hasher : BlockHasher} {request : Request}

def keysFrom (hasher : BlockHasher) (request : Request) (origin index : Nat) :
    Option (List ExtraKey) :=
  request.blockKeysFrom origin (index * hasher.blockSize) (index * hasher.blockSize + hasher.blockSize)

theorem keysFrom_congr {left right : Request} (lora : left.loraRequest = right.loraRequest)
    (salt : left.cacheSalt = right.cacheSalt) (items : left.mmFeatures = right.mmFeatures)
    (embeds : left.promptEmbeds = right.promptEmbeds) :
    hasher.keysFrom left = hasher.keysFrom right := by
  funext origin index
  simp only [keysFrom, Request.blockKeysFrom, Request.keysWith, genLoraExtraHashKeys, cacheSaltKeys,
    genPromptEmbedsExtraHashKeys, lora, salt, items, embeds]

theorem readsKeys_from (inOrder : InPromptOrder request.mmFeatures) (positive : 0 < hasher.blockSize)
    (origin : Nat) : ReadsKeys hasher request (hasher.keysFrom request origin)
      fun index => request.ReadsFrom origin (index * hasher.blockSize) := by
  intro index cursor reads
  obtain ⟨next, keys, goesOn⟩ :=
    Request.generateBlockHashExtraKeys_spec inOrder (Nat.lt_add_of_pos_right positive) reads
  refine ⟨next, keys, ?_⟩
  show request.ReadsFrom origin ((index + 1) * hasher.blockSize) next
  rw [Nat.succ_mul]
  exact goesOn

/-- A request that was never hashed gets the chain of its blocks with all their
items. -/
theorem requestBlockHasher_fresh (inOrder : InPromptOrder request.mmFeatures)
    (positive : 0 < hasher.blockSize) (fresh : request.blockHashes = []) :
    hasher.requestBlockHasher request =
      .ok (hasher.keyedChain (hasher.keysFrom request 0) request.allTokenIds) := by
  obtain ⟨newHashes, hashed, whole⟩ := requestBlockHasher_keyed
    (readsKeys_from inOrder positive 0) positive
    (by simpa [fresh] using request.readsFrom_zero) (by simp [fresh])
  rw [fresh, List.nil_append] at whole
  rw [hashed, whole]

end BlockHasher

end DeepSpark
