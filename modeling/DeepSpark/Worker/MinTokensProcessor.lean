import DeepSpark.Lib.PyDict

/-!
`MinTokensLogitsProcessor` and `process_dict_updates` of
`v1/sample/logits_processor/builtin.py`.

Owns the updates of a dictionary by batch index, the state of the processor over its steps, the
pairs of rows and tokens it masks without and with drafts, and which requests they belong to. An
output list is known by a reference to it; its length at a step is a function of the reference.
-/

namespace DeepSpark

open Lib PyDict

inductive MoveDirectionality where
  | unidirectional
  | swap
deriving DecidableEq, Repr

/-- The changes of a batch: removed indices, added requests by index, moves. -/
structure BatchUpdate (α : Type) where
  removed : List Nat
  added : List (Nat × α)
  moved : List (Nat × Nat × MoveDirectionality)

section

variable {α T : Type}

/-! ## The updates of a dictionary -/

/-- One added request of `process_dict_updates`; the flag is `updated`. -/
def addEntry (newState : α → Option T) (entries : PyDict Nat T × Bool) (item : Nat × α) : PyDict Nat T × Bool :=
  match newState item.2 with
  | some state => (entries.1.set item.1 state, true)
  | none => if (entries.1.get? item.1).isSome then (entries.1.erase item.1, true) else entries

def removeEntry (entries : PyDict Nat T × Bool) (index : Nat) : PyDict Nat T × Bool :=
  if (entries.1.get? index).isSome then (entries.1.erase index, true) else entries

def moveEntry (entries : PyDict Nat T × Bool) (move : Nat × Nat × MoveDirectionality) : PyDict Nat T × Bool :=
  let aIndex := move.1
  let bIndex := move.2.1
  let aEntry := entries.1.get? aIndex
  let bEntry := (entries.1.erase aIndex).get? bIndex
  let popped := (entries.1.erase aIndex).erase bIndex
  let moved := match aEntry with
    | some entry => (popped.set bIndex entry, true)
    | none => (popped, entries.2)
  match bEntry with
  | some entry => (if move.2.2 = .swap then moved.1.set aIndex entry else moved.1, true)
  | none => moved

def processDictUpdates (reqEntries : PyDict Nat T) (batchUpdate : Option (BatchUpdate α)) (newState : α → Option T) :
    PyDict Nat T × Bool :=
  match batchUpdate with
  | none => (reqEntries, false)
  | some update =>
    let added := update.added.foldl (addEntry newState) (reqEntries, false)
    if added.1.entries.isEmpty then added
    else update.moved.foldl moveEntry (update.removed.foldl removeEntry added)

theorem get?_addEntry (newState : α → Option T) (entries : PyDict Nat T × Bool) (item : Nat × α) (index : Nat) :
    (addEntry newState entries item).1.get? index =
      if index = item.1 then newState item.2 else entries.1.get? index := by
  rw [addEntry]
  split
  next state isState => rw [get?_set, isState]
  next isNone =>
    rw [isNone]
    split
    next => rw [get?_erase]
    next absent =>
      split_ifs with same
      · rw [same]
        exact Option.not_isSome_iff_eq_none.mp absent
      · rfl

theorem get?_removeEntry (entries : PyDict Nat T × Bool) (removed index : Nat) :
    (removeEntry entries removed).1.get? index = if index = removed then none else entries.1.get? index := by
  rw [removeEntry]
  split
  next => rw [get?_erase]
  next absent =>
    split_ifs with same
    · rw [same]
      exact Option.not_isSome_iff_eq_none.mp absent
    · rfl

/-- What a move leaves at an index: the one moved there, the one swapped against it, or what was
there. -/
theorem get?_moveEntry (entries : PyDict Nat T × Bool) (move : Nat × Nat × MoveDirectionality) (index : Nat) :
    (moveEntry entries move).1.get? index =
      if index = move.2.1 then entries.1.get? move.1
      else if index = move.1 then (if move.2.2 = .swap then entries.1.get? move.2.1 else none)
      else entries.1.get? index := by
  obtain ⟨aIndex, bIndex, direct⟩ := move
  have isMoved : ∀ index, (match entries.1.get? aIndex with
      | some entry => (((entries.1.erase aIndex).erase bIndex).set bIndex entry, true)
      | none => ((entries.1.erase aIndex).erase bIndex, entries.2)).1.get? index =
        if index = bIndex then entries.1.get? aIndex else if index = aIndex then none else entries.1.get? index := by
    intro index
    cases isA : entries.1.get? aIndex with
    | some entry =>
      rw [get?_set, get?_erase, get?_erase]
      split_ifs <;> rfl
    | none =>
      rw [get?_erase, get?_erase]
  rw [moveEntry]
  rw [get?_erase]
  by_cases same : bIndex = aIndex
  · rw [if_pos same]
    rw [isMoved]
    split_ifs with isB isA
    · rfl
    · exact absurd (isA.trans same.symm) isB
    · exact absurd (isA.trans same.symm) isB
    · rfl
  · rw [if_neg same]
    cases isB : entries.1.get? bIndex with
    | some entry =>
      dsimp only
      by_cases isSwap : direct = .swap
      · rw [if_pos isSwap, get?_set, isMoved, if_pos isSwap]
        by_cases isA : index = aIndex
        · rw [if_pos isA, if_neg (fun same' => same (same'.symm.trans isA)), if_pos isA]
        · simp only [if_neg isA]
      · rw [if_neg isSwap, isMoved, if_neg isSwap]
    | none =>
      rw [isMoved]
      split_ifs <;> rfl

/-! Every change sets the flag. -/

theorem addEntry_unchanged {newState : α → Option T} {entries : PyDict Nat T × Bool} {item : Nat × α}
    (isFalse : (addEntry newState entries item).2 = false) : addEntry newState entries item = entries := by
  rw [addEntry] at isFalse ⊢
  split at isFalse
  next => cases isFalse
  next =>
    split at isFalse
    next => cases isFalse
    next absent => exact if_neg absent

theorem removeEntry_unchanged {entries : PyDict Nat T × Bool} {index : Nat}
    (isFalse : (removeEntry entries index).2 = false) : removeEntry entries index = entries := by
  rw [removeEntry] at isFalse ⊢
  split at isFalse
  next => cases isFalse
  next absent => exact if_neg absent

theorem erase_absent {dict : PyDict Nat T} {key : Nat} (absent : dict.get? key = none) : dict.erase key = dict := by
  have notKey := get?_eq_none.mp absent
  obtain ⟨entries, nodup⟩ := dict
  have kept : entries.filter (fun entry => entry.1 ≠ key) = entries := by
    rw [List.filter_eq_self]
    intro entry member
    rw [decide_eq_true_eq]
    rintro rfl
    exact notKey (List.mem_map_of_mem member)
  simp only [erase, kept]

theorem moveEntry_unchanged {entries : PyDict Nat T × Bool} {move : Nat × Nat × MoveDirectionality}
    (isFalse : (moveEntry entries move).2 = false) : moveEntry entries move = entries := by
  unfold moveEntry at isFalse ⊢
  dsimp only at isFalse ⊢
  cases isB : (entries.1.erase move.1).get? move.2.1 with
  | some entry =>
    rw [isB] at isFalse
    exact nomatch isFalse
  | none =>
    rw [isB] at isFalse
    cases isA : entries.1.get? move.1 with
    | some entry =>
      rw [isA] at isFalse
      exact nomatch isFalse
    | none =>
      rw [erase_absent isA] at isB ⊢
      rw [erase_absent isB]

theorem foldl_unchanged {ι : Type} {op : PyDict Nat T × Bool → ι → PyDict Nat T × Bool}
    (unchanged : ∀ entries item, (op entries item).2 = false → op entries item = entries) {items : List ι}
    {entries : PyDict Nat T × Bool} (isFalse : (items.foldl op entries).2 = false) : items.foldl op entries = entries := by
  induction items generalizing entries with
  | nil => rfl
  | cons item rest ih =>
    have isRest : rest.foldl op (op entries item) = op entries item := ih isFalse
    have isHead : (op entries item).2 = false := by
      rw [← isRest]
      exact isFalse
    exact isRest.trans (unchanged _ _ isHead)

theorem processDictUpdates_unchanged {reqEntries : PyDict Nat T} {batchUpdate : Option (BatchUpdate α)}
    {newState : α → Option T} (isFalse : (processDictUpdates reqEntries batchUpdate newState).2 = false) :
    (processDictUpdates reqEntries batchUpdate newState).1 = reqEntries := by
  cases batchUpdate with
  | none => rfl
  | some update =>
    rw [processDictUpdates] at isFalse ⊢
    split at isFalse
    next isEmpty =>
      rw [if_pos isEmpty, foldl_unchanged (fun _ _ => addEntry_unchanged) isFalse]
    next notEmpty =>
      have moved := foldl_unchanged (fun _ _ => moveEntry_unchanged) isFalse
      rw [moved] at isFalse
      have removed := foldl_unchanged (fun _ _ => removeEntry_unchanged) isFalse
      rw [removed] at isFalse
      have added := foldl_unchanged (fun _ _ => addEntry_unchanged) isFalse
      rw [if_neg notEmpty, moved, removed, added]

end

/-! ## The processor -/

/-- A request with minimum tokens; `request` stands for the reference to its output list. -/
structure MinTok (ρ : Type) where
  minTokens : Nat
  request : ρ
  allStopTokenIds : List Int

structure MinTokensLogitsProcessor (ρ : Type) where
  minToks : PyDict Nat (MinTok ρ)
  logitsSlice : List (Nat × Int)

namespace MinTokensLogitsProcessor

variable {ρ : Type}

def init : MinTokensLogitsProcessor ρ := ⟨.empty, []⟩

/-- `add_request`; `outputLen` is the length of the output lists at the step. -/
def addRequest (outputLen : ρ → Nat) (params : MinTok ρ) : Option (MinTok ρ) :=
  if params.minTokens = 0 ∨ outputLen params.request ≥ params.minTokens then none else some params

def slicePairs (minToks : PyDict Nat (MinTok ρ)) : List (Nat × Int) :=
  minToks.entries.flatMap fun entry => entry.2.allStopTokenIds.map (entry.1, ·)

/-- `to_remove`: the indices of requests that have attained their minimum. -/
def toRemove (outputLen : ρ → Nat) (minToks : PyDict Nat (MinTok ρ)) : List Nat :=
  (minToks.entries.filter fun entry => outputLen entry.2.request ≥ entry.2.minTokens).map Prod.fst

def updateState (self : MinTokensLogitsProcessor ρ) (outputLen : ρ → Nat) (batchUpdate : Option (BatchUpdate (MinTok ρ))) :
    MinTokensLogitsProcessor ρ :=
  let processed := processDictUpdates self.minToks batchUpdate (addRequest outputLen)
  let removed := toRemove outputLen processed.1
  let minToks := removed.foldl PyDict.erase processed.1
  let needsUpdate := processed.2 || !removed.isEmpty
  ⟨minToks, if needsUpdate then slicePairs minToks else self.logitsSlice⟩

/-- The pairs that `apply` sets. -/
def applyMask (self : MinTokensLogitsProcessor ρ) : List (Nat × Int) :=
  if self.minToks.entries.isEmpty then [] else self.logitsSlice

def applyWithSpecDecodeMask (self : MinTokensLogitsProcessor ρ) (outputLen : ρ → Nat) (numDraftTokens : List Nat) :
    List (Nat × Int) :=
  self.minToks.entries.flatMap fun (reqIdx, entry) =>
    let remaining : Int := (entry.minTokens : Int) - outputLen entry.request
    let nMask := (min (max remaining 0) (numDraftTokens.getD reqIdx 0)).toNat
    let offset := (numDraftTokens.take reqIdx).sum
    (List.range nMask).flatMap fun row => entry.allStopTokenIds.map (offset + row, ·)

/-- The steps of a processor, with the requests that sit at the indices of the batch: they
follow the same updates. -/
inductive Runs : MinTokensLogitsProcessor ρ → PyDict Nat (MinTok ρ) → (ρ → Nat) → Prop
  | init (outputLen : ρ → Nat) : Runs init .empty outputLen
  | step {self : MinTokensLogitsProcessor ρ} {seats : PyDict Nat (MinTok ρ)} {outputLen : ρ → Nat}
      (runs : Runs self seats outputLen) {laterLen : ρ → Nat} (grows : ∀ request, outputLen request ≤ laterLen request)
      (batchUpdate : Option (BatchUpdate (MinTok ρ))) :
      Runs (self.updateState laterLen batchUpdate) (processDictUpdates seats batchUpdate some).1 laterLen

def Reached (outputLen : ρ → Nat) (seat : MinTok ρ) : Prop := seat.minTokens ≤ outputLen seat.request

/-- Each index shows the request that sits there, or nothing for one that has attained its
minimum. -/
def Between (outputLen : ρ → Nat) (entries seats : PyDict Nat (MinTok ρ)) : Prop :=
  ∀ index, entries.get? index = seats.get? index ∨
    entries.get? index = none ∧ ∀ seat, seats.get? index = some seat → Reached outputLen seat

def AllReached (outputLen : ρ → Nat) (seats : PyDict Nat (MinTok ρ)) : Prop :=
  ∀ index seat, seats.get? index = some seat → Reached outputLen seat

variable {outputLen : ρ → Nat} {entries seats : PyDict Nat (MinTok ρ) × Bool}

theorem Between.addEntry (between : Between outputLen entries.1 seats.1) (item : Nat × MinTok ρ) :
    Between outputLen (addEntry (addRequest outputLen) entries item).1 (addEntry some seats item).1 := by
  intro index
  rw [get?_addEntry, get?_addEntry]
  by_cases same : index = item.1
  · rw [if_pos same, if_pos same, addRequest]
    split_ifs with reached
    · refine Or.inr ⟨rfl, fun seat isSeat => ?_⟩
      cases isSeat
      rcases reached with isZero | reached
      · exact le_of_eq_of_le isZero (Nat.zero_le _)
      · exact reached
    · exact Or.inl rfl
  · rw [if_neg same, if_neg same]
    exact between index

theorem Between.removeEntry (between : Between outputLen entries.1 seats.1) (removed : Nat) :
    Between outputLen (removeEntry entries removed).1 (removeEntry seats removed).1 := by
  intro index
  rw [get?_removeEntry, get?_removeEntry]
  split_ifs
  · exact Or.inl rfl
  · exact between index

theorem Between.moveEntry (between : Between outputLen entries.1 seats.1) (move : Nat × Nat × MoveDirectionality) :
    Between outputLen (moveEntry entries move).1 (moveEntry seats move).1 := by
  intro index
  rw [get?_moveEntry, get?_moveEntry]
  split_ifs
  · exact between _
  · exact between _
  · exact Or.inl rfl
  · exact between _

theorem AllReached.removeEntry (all : AllReached outputLen seats.1) (removed : Nat) :
    AllReached outputLen (removeEntry seats removed).1 := by
  intro index seat isSeat
  rw [get?_removeEntry] at isSeat
  split_ifs at isSeat
  exact all _ _ isSeat

theorem AllReached.moveEntry (all : AllReached outputLen seats.1) (move : Nat × Nat × MoveDirectionality) :
    AllReached outputLen (moveEntry seats move).1 := by
  intro index seat isSeat
  rw [get?_moveEntry] at isSeat
  split_ifs at isSeat
  · exact all _ _ isSeat
  · exact all _ _ isSeat
  · exact all _ _ isSeat

theorem Between.foldl {ι : Type} {op other : PyDict Nat (MinTok ρ) × Bool → ι → PyDict Nat (MinTok ρ) × Bool}
    (keeps : ∀ entries seats item, Between outputLen entries.1 seats.1 →
      Between outputLen (op entries item).1 (other seats item).1) {items : List ι}
    (between : Between outputLen entries.1 seats.1) :
    Between outputLen (items.foldl op entries).1 (items.foldl other seats).1 := by
  induction items generalizing entries seats with
  | nil => exact between
  | cons item rest ih => exact ih (keeps _ _ item between)

theorem AllReached.foldl {ι : Type} {op : PyDict Nat (MinTok ρ) × Bool → ι → PyDict Nat (MinTok ρ) × Bool}
    (keeps : ∀ seats item, AllReached outputLen seats.1 → AllReached outputLen (op seats item).1) {items : List ι}
    (all : AllReached outputLen seats.1) : AllReached outputLen (items.foldl op seats).1 := by
  induction items generalizing seats with
  | nil => exact all
  | cons item rest ih => exact ih (keeps _ item all)

variable {dict : PyDict Nat (MinTok ρ)}

theorem get?_of_isEmpty (isEmpty : dict.entries.isEmpty = true) (index : Nat) :
    dict.get? index = none := by
  rw [get?, List.isEmpty_iff.mp isEmpty]
  rfl

theorem Between.processed {entries seats : PyDict Nat (MinTok ρ)} (between : Between outputLen entries seats)
    (batchUpdate : Option (BatchUpdate (MinTok ρ))) :
    Between outputLen (processDictUpdates entries batchUpdate (addRequest outputLen)).1
      (processDictUpdates seats batchUpdate some).1 := by
  cases batchUpdate with
  | none => exact between
  | some update =>
    have added : Between outputLen (update.added.foldl (DeepSpark.addEntry (addRequest outputLen)) (entries, false)).1
        (update.added.foldl (DeepSpark.addEntry some) (seats, false)).1 :=
      Between.foldl (fun _ _ item between => between.addEntry item) between
    rw [processDictUpdates, processDictUpdates]
    split
    next noEntries =>
      -- the processor skips the removals and moves; all who sit in the batch have attained their minimum
      have all : AllReached outputLen (update.added.foldl (DeepSpark.addEntry some) (seats, false)).1 := by
        intro index seat isSeat
        rcases added index with same | ⟨-, reached⟩
        · rw [get?_of_isEmpty noEntries, isSeat] at same
          exact nomatch same
        · exact reached seat isSeat
      have allAfter : AllReached outputLen (if (update.added.foldl (DeepSpark.addEntry some) (seats, false)).1.entries.isEmpty
          then update.added.foldl (DeepSpark.addEntry some) (seats, false)
          else update.moved.foldl DeepSpark.moveEntry (update.removed.foldl DeepSpark.removeEntry
            (update.added.foldl (DeepSpark.addEntry some) (seats, false)))).1 := by
        split
        next => exact all
        next =>
          exact AllReached.foldl (fun _ move all => all.moveEntry move)
            (AllReached.foldl (fun _ removed all => all.removeEntry removed) all)
      exact fun index => Or.inr ⟨get?_of_isEmpty noEntries index, allAfter index⟩
    next someEntry =>
      have someSeat : ¬ (update.added.foldl (DeepSpark.addEntry some) (seats, false)).1.entries.isEmpty = true := by
        intro noSeats
        apply someEntry
        rw [List.isEmpty_iff, List.eq_nil_iff_forall_not_mem]
        rintro ⟨index, entry⟩ member
        have isEntry := mem_entries.mp member
        rcases added index with same | ⟨isNone, -⟩
        · rw [isEntry, get?_of_isEmpty noSeats] at same
          exact nomatch same
        · rw [isEntry] at isNone
          exact nomatch isNone
      rw [if_neg someSeat]
      exact Between.foldl (fun _ _ move between => between.moveEntry move)
        (Between.foldl (fun _ _ removed between => between.removeEntry removed) added)

theorem mem_toRemove {index : Nat} :
    index ∈ toRemove outputLen dict ↔ ∃ entry, dict.get? index = some entry ∧ Reached outputLen entry := by
  rw [toRemove, List.mem_map]
  constructor
  · rintro ⟨⟨_, entry⟩, member, rfl⟩
    obtain ⟨isEntry, reached⟩ := List.mem_filter.mp member
    have isReached : outputLen entry.request ≥ entry.minTokens := of_decide_eq_true reached
    exact ⟨entry, mem_entries.mp isEntry, isReached⟩
  · rintro ⟨entry, isEntry, reached⟩
    have isReached : outputLen entry.request ≥ entry.minTokens := reached
    exact ⟨(index, entry), List.mem_filter.mpr ⟨mem_entries.mpr isEntry, decide_eq_true isReached⟩, rfl⟩

/-- What holds of a processor after each step: its entries are the requests of the batch below
their minimum, and its slice is theirs. -/
structure Tracking (processor : MinTokensLogitsProcessor ρ) (seats : PyDict Nat (MinTok ρ)) (outputLen : ρ → Nat) : Prop where
  entry : ∀ index, processor.minToks.get? index =
    (seats.get? index).filter fun seat => outputLen seat.request < seat.minTokens
  slice : processor.logitsSlice = slicePairs processor.minToks

section

variable {processor : MinTokensLogitsProcessor ρ} {seats : PyDict Nat (MinTok ρ)}
  {laterLen : ρ → Nat} (tracking : Tracking processor seats outputLen)
  (grows : ∀ request, outputLen request ≤ laterLen request)

include tracking grows

theorem Tracking.between :
    Between laterLen processor.minToks seats := by
  intro index
  rw [tracking.entry]
  cases isSeat : seats.get? index with
  | none => exact Or.inl rfl
  | some seat =>
    by_cases below : outputLen seat.request < seat.minTokens
    · left
      rw [Option.filter_some, decide_eq_true below]
      rfl
    · right
      rw [Option.filter_some, decide_eq_false below]
      refine ⟨rfl, fun other isOther => ?_⟩
      cases isOther
      exact (not_lt.mp below).trans (grows seat.request)

theorem Tracking.updateState (batchUpdate : Option (BatchUpdate (MinTok ρ))) :
    Tracking (processor.updateState laterLen batchUpdate) (processDictUpdates seats batchUpdate some).1 laterLen where
  entry := by
    intro index
    have between := (tracking.between grows).processed batchUpdate index
    show ((toRemove laterLen _).foldl PyDict.erase _).get? index = _
    rw [get?_foldl_erase]
    by_cases isRemoved : index ∈ toRemove laterLen
        (processDictUpdates processor.minToks batchUpdate (addRequest laterLen)).1
    · obtain ⟨entry, isEntry, reached⟩ := mem_toRemove.mp isRemoved
      rcases between with same | ⟨isNone, -⟩
      · have notBelow : ¬ laterLen entry.request < entry.minTokens := not_lt.mpr reached
        rw [if_pos isRemoved, ← same, isEntry, Option.filter_some, decide_eq_false notBelow]
        rfl
      · rw [isEntry] at isNone
        exact nomatch isNone
    · rw [if_neg isRemoved]
      rcases between with same | ⟨isNone, reached⟩
      · cases isSeat : (processDictUpdates seats batchUpdate some).1.get? index with
        | none => rw [same, isSeat, Option.filter_none]
        | some seat =>
          have below : laterLen seat.request < seat.minTokens :=
            not_le.mp fun reached => isRemoved (mem_toRemove.mpr ⟨seat, same.trans isSeat, reached⟩)
          rw [same, isSeat, Option.filter_some, decide_eq_true below]
          rfl
      · rw [isNone]
        cases isSeat : (processDictUpdates seats batchUpdate some).1.get? index with
        | none => rfl
        | some seat =>
          have notBelow : ¬ laterLen seat.request < seat.minTokens := not_lt.mpr (reached seat isSeat)
          rw [Option.filter_some, decide_eq_false notBelow]
          rfl
  slice := by
    unfold MinTokensLogitsProcessor.updateState
    dsimp only
    split
    next => rfl
    next unchanged =>
      rw [Bool.or_eq_true, not_or, Bool.not_eq_true, Bool.not_eq_true, Bool.not_eq_false', List.isEmpty_iff] at unchanged
      rw [unchanged.2, List.foldl_nil, processDictUpdates_unchanged unchanged.1]
      exact tracking.slice

end

/-- Along every run the entries are the requests of the batch below their minimum. -/
theorem Runs.tracking {processor : MinTokensLogitsProcessor ρ} {seats : PyDict Nat (MinTok ρ)}
    (runs : Runs processor seats outputLen) : Tracking processor seats outputLen := by
  induction runs with
  | init => exact ⟨fun _ => rfl, rfl⟩
  | step _ grows batchUpdate ih => exact ih.updateState grows batchUpdate

section

variable {processor : MinTokensLogitsProcessor ρ} {seats : PyDict Nat (MinTok ρ)} {index : Nat}

theorem Tracking.get?_eq_some (tracking : Tracking processor seats outputLen) {entry : MinTok ρ} :
    processor.minToks.get? index = some entry ↔
      seats.get? index = some entry ∧ outputLen entry.request < entry.minTokens := by
  rw [tracking.entry, Option.filter_eq_some_iff, decide_eq_true_eq]

/-- `apply` masks the stop tokens of the requests below their minimum. -/
theorem Tracking.mem_applyMask (tracking : Tracking processor seats outputLen) {token : Int} :
    (index, token) ∈ processor.applyMask ↔ ∃ seat, seats.get? index = some seat ∧
      outputLen seat.request < seat.minTokens ∧ token ∈ seat.allStopTokenIds := by
  have isSlice : processor.applyMask = slicePairs processor.minToks := by
    rw [applyMask, tracking.slice]
    split
    next isEmpty => rw [slicePairs, List.isEmpty_iff.mp isEmpty, List.flatMap_nil]
    next => rfl
  rw [isSlice, slicePairs, List.mem_flatMap]
  constructor
  · rintro ⟨⟨_, entry⟩, member, isPair⟩
    obtain ⟨_, isStop, same⟩ := List.mem_map.mp isPair
    cases same
    obtain ⟨isSeat, below⟩ := tracking.get?_eq_some.mp (mem_entries.mp member)
    exact ⟨entry, isSeat, below, isStop⟩
  · rintro ⟨seat, isSeat, below, isStop⟩
    exact ⟨(index, seat), mem_entries.mpr (tracking.get?_eq_some.mpr ⟨isSeat, below⟩),
      List.mem_map_of_mem isStop⟩

theorem draftRow_unique {numDraftTokens : List Nat} {other row otherRow : Nat}
    (isDraft : row < numDraftTokens.getD index 0) (otherDraft : otherRow < numDraftTokens.getD other 0)
    (same : (numDraftTokens.take other).sum + otherRow = (numDraftTokens.take index).sum + row) :
    other = index ∧ otherRow = row := by
  have monotone : ∀ first second, first < second →
      (numDraftTokens.take first).sum + numDraftTokens.getD first 0 ≤ (numDraftTokens.take second).sum := by
    intro first second below
    induction second with
    | zero => exact absurd below (Nat.not_lt_zero _)
    | succ second ih =>
      have isNext : (numDraftTokens.take (second + 1)).sum =
          (numDraftTokens.take second).sum + numDraftTokens.getD second 0 := by
        rw [List.take_add_one, List.sum_append, List.getD_eq_getElem?_getD]
        cases numDraftTokens[second]? <;> rfl
      rw [isNext]
      rcases Nat.lt_succ_iff_lt_or_eq.mp below with earlier | rfl
      · exact (ih earlier).trans (Nat.le_add_right _ _)
      · exact le_refl _
  rcases lt_trichotomy other index with below | rfl | above
  · have ordered := monotone other index below
    omega
  · exact ⟨rfl, Nat.add_left_cancel same⟩
  · have ordered := monotone index other above
    omega

theorem Tracking.mem_applyWithSpecDecodeMask (tracking : Tracking processor seats outputLen) {numDraftTokens : List Nat}
    {row : Nat} (isDraft : row < numDraftTokens.getD index 0) {token : Int} :
    ((numDraftTokens.take index).sum + row, token) ∈ processor.applyWithSpecDecodeMask outputLen numDraftTokens ↔
      ∃ seat, seats.get? index = some seat ∧ outputLen seat.request + row < seat.minTokens ∧
        token ∈ seat.allStopTokenIds := by
  rw [applyWithSpecDecodeMask, List.mem_flatMap]
  constructor
  · rintro ⟨⟨other, entry⟩, member, isPair⟩
    obtain ⟨otherRow, inMask, isPair⟩ := List.mem_flatMap.mp isPair
    obtain ⟨_, isStop, same⟩ := List.mem_map.mp isPair
    have within := List.mem_range.mp inMask
    obtain ⟨sameRow, rfl⟩ := Prod.mk.inj same
    obtain ⟨rfl, rfl⟩ := draftRow_unique isDraft (by omega) sameRow
    obtain ⟨isSeat, -⟩ := tracking.get?_eq_some.mp (mem_entries.mp member)
    exact ⟨entry, isSeat, by omega, isStop⟩
  · rintro ⟨seat, isSeat, below, isStop⟩
    have isEntry := tracking.get?_eq_some.mpr ⟨isSeat, (Nat.le_add_right _ row).trans_lt below⟩
    refine ⟨(index, seat), mem_entries.mpr isEntry, List.mem_flatMap.mpr ⟨row, List.mem_range.mpr ?_, ?_⟩⟩
    · omega
    · exact List.mem_map_of_mem isStop

end

end MinTokensLogitsProcessor

end DeepSpark
