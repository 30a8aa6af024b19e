import Mathlib

/-!
Occurrences of patterns in a text, by where they end.

Owns the ends of a pattern, the search for a pattern from a position on, the first end
after a position, two ways to choose among several patterns (the first that ends at all, and
the one that ends first), and what follows the first occurrence of an item.
-/

namespace DeepSpark.Lib

open List

section Occurrences

variable {α : Type} {text more pattern : List α} {patterns : List (List α)} {stop after : Nat}

def EndsAt (text pattern : List α) (stop : Nat) : Prop :=
  stop ≤ text.length ∧ pattern <:+ text.take stop

instance [DecidableEq α] (text pattern : List α) (stop : Nat) : Decidable (EndsAt text pattern stop) := by
  unfold EndsAt
  infer_instance

theorem EndsAt.length_le (ends : EndsAt text pattern stop) : pattern.length ≤ stop := by
  have short := ends.2.length_le
  rw [length_take] at short
  omega

/-- Later text does not change what ends in the earlier one. -/
theorem endsAt_append (inside : stop ≤ text.length) :
    EndsAt (text ++ more) pattern stop ↔ EndsAt text pattern stop := by
  unfold EndsAt
  rw [take_append_of_le_length inside, length_append]
  simp [inside, Nat.le_add_right_of_le inside]

theorem endsAt_of_grown (isPrefix : text <+: more) (inside : stop ≤ text.length) :
    EndsAt more pattern stop ↔ EndsAt text pattern stop := by
  obtain ⟨rest, rfl⟩ := isPrefix
  exact endsAt_append inside

theorem endsAt_add_length {index : Nat} (inside : index ≤ text.length) :
    EndsAt text pattern (index + pattern.length) ↔ pattern <+: text.drop index := by
  rw [prefix_iff_eq_take]
  constructor
  · rintro ⟨fits, isSuffix⟩
    rw [suffix_iff_eq_drop, length_take, Nat.min_eq_left fits, Nat.add_sub_cancel,
      drop_take, Nat.add_sub_cancel_left] at isSuffix
    exact isSuffix
  · intro isPrefix
    have short := congrArg List.length isPrefix
    rw [length_take, length_drop] at short
    have fits : index + pattern.length ≤ text.length := by omega
    refine ⟨fits, ?_⟩
    rw [suffix_iff_eq_drop, length_take, Nat.min_eq_left fits, Nat.add_sub_cancel,
      drop_take, Nat.add_sub_cancel_left]
    exact isPrefix

/-! ## Search -/

variable [DecidableEq α]

/-- `text.find(pattern, start)`. -/
def find (text pattern : List α) (start : Nat) : Option Nat :=
  (List.range (text.length + 1)).find? fun index => start ≤ index ∧ pattern <+: text.drop index

def firstEnd (text : List α) (after : Nat) (pattern : List α) : Option Nat :=
  (List.range (text.length + 1)).find? fun stop => after < stop ∧ EndsAt text pattern stop

theorem firstEnd_eq_some : firstEnd text after pattern = some stop ↔
    after < stop ∧ EndsAt text pattern stop ∧
      ∀ earlier, after < earlier → earlier < stop → ¬ EndsAt text pattern earlier := by
  rw [firstEnd, find?_range_eq_some]
  simp only [decide_eq_true_eq, mem_range, Bool.not_eq_true', decide_eq_false_iff_not, not_and]
  constructor
  · rintro ⟨⟨later, ends⟩, _, first⟩
    exact ⟨later, ends, fun earlier isLater before => first earlier before isLater⟩
  · rintro ⟨later, ends, first⟩
    have inside := ends.1
    exact ⟨⟨later, ends⟩, by omega, fun earlier before isLater => first earlier isLater before⟩

theorem firstEnd_eq_none : firstEnd text after pattern = none ↔
    ∀ stop, after < stop → ¬ EndsAt text pattern stop := by
  rw [firstEnd, find?_range_eq_none]
  simp only [Bool.not_eq_true', decide_eq_false_iff_not, not_and]
  constructor
  · intro none stop later ends
    have inside := ends.1
    exact none stop (by omega) later ends
  · intro none stop _ later
    exact none stop later

theorem find_eq_firstEnd (nonempty : pattern ≠ []) :
    find text pattern (after + 1 - pattern.length) =
      (firstEnd text after pattern).map (· - pattern.length) := by
  have positive := length_pos_iff.mpr nonempty
  have starts (index : Nat) (isIndex : index ≤ text.length) :
      (after + 1 - pattern.length ≤ index ∧ pattern <+: text.drop index) ↔
        after < index + pattern.length ∧ EndsAt text pattern (index + pattern.length) := by
    rw [endsAt_add_length isIndex]
    exact and_congr_left fun _ => by omega
  cases isFirst : firstEnd text after pattern with
  | none =>
    rw [firstEnd_eq_none] at isFirst
    rw [Option.map_none, find, find?_range_eq_none]
    intro index isIndex
    rw [Bool.not_eq_true', decide_eq_false_iff_not, starts index (by omega)]
    exact fun ⟨later, ends⟩ => isFirst _ later ends
  | some stop =>
    obtain ⟨later, ends, first⟩ := firstEnd_eq_some.mp isFirst
    have long := ends.length_le
    have within := ends.1
    have isStop : stop - pattern.length + pattern.length = stop := Nat.sub_add_cancel long
    rw [Option.map_some, find, find?_range_eq_some]
    refine ⟨?_, ?_, fun index before => ?_⟩
    · rw [decide_eq_true_iff, starts _ (by omega), isStop]
      exact ⟨later, ends⟩
    · rw [mem_range]
      omega
    · rw [Bool.not_eq_true', decide_eq_false_iff_not, starts _ (by omega)]
      exact fun ⟨isLater, isEnd⟩ => first _ isLater (by omega) isEnd

/-! ## Several patterns -/

/-- The first pattern of the list that ends after a position, with its first end there. -/
def firstListed (patterns : List (List α)) (text : List α) (after : Nat) : Option (List α × Nat) :=
  patterns.findSome? fun pattern => (firstEnd text after pattern).map fun stop => (pattern, stop)

/-- The pattern that ends first after a position; of those that end together, the first in
the list. -/
def firstEnding (patterns : List (List α)) (text : List α) (after : Nat) : Option (List α × Nat) :=
  (List.range (text.length + 1)).findSome? fun stop =>
    if after < stop then (patterns.find? fun pattern => EndsAt text pattern stop).map fun pattern =>
      (pattern, stop)
    else none

theorem firstListed_eq_none : firstListed patterns text after = none ↔
    ∀ pattern ∈ patterns, ∀ stop, after < stop → ¬ EndsAt text pattern stop := by
  unfold firstListed
  rw [findSome?_eq_none_iff]
  simp only [Option.map_eq_none_iff, firstEnd_eq_none]

theorem firstListed_spec (isFound : firstListed patterns text after = some (pattern, stop)) :
    pattern ∈ patterns ∧ after < stop ∧ EndsAt text pattern stop := by
  unfold firstListed at isFound
  rw [findSome?_eq_some_iff] at isFound
  obtain ⟨before, listed, behind, isList, isEnd, _⟩ := isFound
  obtain ⟨first, isFirstEnd, same⟩ := Option.map_eq_some_iff.mp isEnd
  cases same
  obtain ⟨later, ends, _⟩ := firstEnd_eq_some.mp isFirstEnd
  refine ⟨?_, later, ends⟩
  rw [isList]
  exact mem_append_right _ mem_cons_self

theorem firstEnding_eq_none : firstEnding patterns text after = none ↔
    ∀ pattern ∈ patterns, ∀ stop, after < stop → ¬ EndsAt text pattern stop := by
  unfold firstEnding
  rw [findSome?_eq_none_iff]
  constructor
  · intro none pattern isPattern stop later ends
    have inside := ends.1
    have noneHere := none stop (by rw [mem_range]; omega)
    rw [if_pos later, Option.map_eq_none_iff, find?_eq_none] at noneHere
    exact noneHere pattern isPattern (by simpa using ends)
  · intro none stop _
    split
    next later =>
      rw [Option.map_eq_none_iff, find?_eq_none]
      intro pattern isPattern
      simpa using none pattern isPattern stop later
    next => rfl

theorem firstEnding_spec (isFirst : firstEnding patterns text after = some (pattern, stop)) :
    pattern ∈ patterns ∧ after < stop ∧ EndsAt text pattern stop ∧
      ∀ other ∈ patterns, ∀ earlier, after < earlier → earlier < stop → ¬ EndsAt text other earlier := by
  unfold firstEnding at isFirst
  rw [findSome?_eq_some_iff] at isFirst
  obtain ⟨before, found, behind, isRange, isFound, noneBefore⟩ := isFirst
  split at isFound
  next later =>
    obtain ⟨chosen, isChosen, same⟩ := Option.map_eq_some_iff.mp isFound
    cases same
    have ends := find?_some isChosen
    refine ⟨mem_of_find?_eq_some isChosen, later, by simpa using ends, ?_⟩
    intro other isOther earlier isLater isEarlier
    have inBefore : earlier ∈ before := by
      have nextAt : (List.range (text.length + 1))[before.length]? = some stop := by
        rw [isRange]
        simp
      have here : before.length = stop := by
        rw [getElem?_range] at nextAt
        · exact Option.some.inj nextAt
        · have inside := congrArg List.length isRange
          rw [length_range, length_append, length_cons] at inside
          omega
      have isTaken : before = List.range before.length := by
        have taken := congrArg (List.take before.length) isRange
        rw [take_left, take_range, here] at taken
        rw [here, ← taken]
        congr 1
        have inside := congrArg List.length isRange
        rw [length_range, length_append, length_cons] at inside
        omega
      rw [isTaken, here, mem_range]
      exact isEarlier
    have noneHere := noneBefore earlier inBefore
    rw [if_pos isLater, Option.map_eq_none_iff, find?_eq_none] at noneHere
    simpa using noneHere other isOther
  next => exact nomatch isFound

theorem takeWhile_ne_split (isPattern : pattern ∈ patterns) :
    ∃ behind, patterns = patterns.takeWhile (· ≠ pattern) ++ pattern :: behind := by
  induction patterns with
  | nil => exact absurd isPattern not_mem_nil
  | cons first rest ih =>
    rw [takeWhile_cons]
    split
    next differ =>
      have inRest := (mem_cons.mp isPattern).resolve_left fun same => by simp [same] at differ
      obtain ⟨behind, isRest⟩ := ih inRest
      exact ⟨behind, congrArg (first :: ·) isRest⟩
    next same =>
      obtain rfl : first = pattern := by simpa using same
      exact ⟨rest, rfl⟩

section

variable {start : Nat} (isFirst : firstEnding patterns text start = some (pattern, stop))
  (isPrefix : more <+: text) (notBefore : start ≤ after) (isLater : after < stop)
  (inside : stop ≤ more.length)

include isFirst isPrefix notBefore isLater inside

/-- Within a part of the text that reaches past the first end, the first listed pattern is
the one that ends first exactly when no pattern listed before it ends there. -/
theorem firstListed_eq_firstEnding :
    firstListed patterns more after = some (pattern, stop) ↔
      ∀ other ∈ patterns.takeWhile (· ≠ pattern), ∀ early, after < early → ¬ EndsAt more other early := by
  obtain ⟨isPattern, _, ends, noneEarlier⟩ := firstEnding_spec isFirst
  unfold firstListed
  rw [findSome?_eq_some_iff]
  constructor
  · rintro ⟨before, found, behind, isList, isFound, noneBefore⟩ other isOther early later
    obtain ⟨end', _, same⟩ := Option.map_eq_some_iff.mp isFound
    cases same
    have inBefore : other ∈ before := by
      rw [isList, takeWhile_append] at isOther
      split at isOther
      · rw [takeWhile_cons_of_neg (by simp), append_nil] at isOther
        exact isOther
      · exact (List.takeWhile_prefix _).subset isOther
    have none := noneBefore other inBefore
    rw [Option.map_eq_none_iff, firstEnd_eq_none] at none
    exact none early later
  · intro none
    obtain ⟨behind, isList⟩ := takeWhile_ne_split isPattern
    refine ⟨_, pattern, behind, isList, ?_, fun other isOther => ?_⟩
    · rw [firstEnd_eq_some.mpr]
      · rfl
      · refine ⟨isLater, (endsAt_of_grown isPrefix inside).mp ends, fun earlier later before endsEarlier => ?_⟩
        exact noneEarlier pattern isPattern earlier (by omega) before
          ((endsAt_of_grown isPrefix endsEarlier.1).mpr endsEarlier)
    · rw [Option.map_eq_none_iff, firstEnd_eq_none]
      exact none other isOther

theorem firstListed_of_fst (same : (firstListed patterns more after).map Prod.fst = some pattern) :
    firstListed patterns more after = some (pattern, stop) := by
  obtain ⟨isPattern, _, ends, noneEarlier⟩ := firstEnding_spec isFirst
  obtain ⟨found, isFound, rfl⟩ := Option.map_eq_some_iff.mp same
  rw [isFound]
  unfold firstListed at isFound
  rw [findSome?_eq_some_iff] at isFound
  obtain ⟨_, _, _, _, isEnd, _⟩ := isFound
  obtain ⟨first, isFirstEnd, rfl⟩ := Option.map_eq_some_iff.mp isEnd
  obtain ⟨isAfter, endsFirst, noneBefore⟩ := firstEnd_eq_some.mp isFirstEnd
  have isStop : first = stop := by
    rcases Nat.lt_trichotomy first stop with before | isSame | behind
    · exact absurd ((endsAt_of_grown isPrefix endsFirst.1).mpr endsFirst)
        (noneEarlier _ isPattern first (by omega) before)
    · exact isSame
    · exact absurd ((endsAt_of_grown isPrefix inside).mp ends) (noneBefore stop isLater behind)
  rw [isStop]

end

theorem firstEnding_later {later : Nat} (isFirst : firstEnding patterns text after = some (pattern, stop))
    (notBefore : after ≤ later) (beforeStop : later < stop) :
    firstEnding patterns text later = some (pattern, stop) := by
  obtain ⟨_, _, ends, noneEarlier⟩ := firstEnding_spec isFirst
  have inside := ends.1
  have split : List.range (text.length + 1) =
      List.range stop ++ stop :: (List.range (text.length - stop)).map (stop + 1 + ·) := by
    have total : text.length + 1 = stop + (text.length - stop + 1) := by omega
    rw [total, range_add, range_succ_eq_map, map_cons, map_map]
    congr 2
    refine map_congr_left fun index _ => ?_
    show stop + (index + 1) = stop + 1 + index
    omega
  have here (start : Nat) (isEarlier : start < stop) (notLower : after ≤ start) :
      firstEnding patterns text start = (patterns.find? fun other => EndsAt text other stop).map
        fun other => (other, stop) := by
    obtain ⟨isPattern, _⟩ := firstEnding_spec isFirst
    have isSome : (patterns.find? fun other => EndsAt text other stop).isSome := by
      rw [find?_isSome]
      exact ⟨pattern, isPattern, decide_eq_true ends⟩
    obtain ⟨chosen, isChosen⟩ := Option.isSome_iff_exists.mp isSome
    have noneBefore : (List.range stop).findSome? (fun stop => if start < stop then
        (patterns.find? fun pattern => EndsAt text pattern stop).map fun pattern => (pattern, stop)
        else none) = none := by
      rw [findSome?_eq_none_iff]
      intro early isEarly
      rw [mem_range] at isEarly
      split
      next isLater =>
        rw [Option.map_eq_none_iff, find?_eq_none]
        intro other isOther
        simpa using noneEarlier other isOther early (by omega) isEarly
      next => rfl
    rw [firstEnding, split, findSome?_append, noneBefore, findSome?_cons, if_pos isEarlier,
      isChosen]
    rfl
  rw [here later beforeStop notBefore, ← here after (by omega) (Nat.le_refl _)]
  exact isFirst

/-! ## A text that grows -/

variable (patterns) (texts : Nat → List α) (bound : Nat)

/-- Search a text that grows: after each step of so many pieces the part that is new, but
for what is there before `bound` pieces. The first answer counts. -/
def searchSteps (done : Nat) : List Nat → Option (List α × Nat)
  | [] => none
  | size :: sizes =>
    (firstListed patterns (texts (done + size)) (texts (max done bound)).length).or
      (searchSteps (done + size) sizes)

/-- The part of the text that each step searches: behind the first position, up to the
second. -/
def stepWindows (done : Nat) : List Nat → List (Nat × Nat)
  | [] => []
  | size :: sizes =>
    ((texts (max done bound)).length, (texts (done + size)).length) :: stepWindows (done + size) sizes

def ListedFirst (text pattern : List α) (stop : Nat) (windows : List (Nat × Nat)) : Prop :=
  ∀ window ∈ windows, window.1 < stop → stop ≤ window.2 →
    ∀ other ∈ patterns.takeWhile (· ≠ pattern), ∀ early,
      window.1 < early → early ≤ window.2 → ¬ EndsAt text other early

variable {patterns} {texts} {bound} {done total : Nat} {sizes : List Nat}

omit [DecidableEq α] in
/-- Each step searches behind the text there is. -/
theorem le_of_mem_stepWindows (growing : ∀ first last, first ≤ last → texts first <+: texts last)
    {window : Nat × Nat} (isWindow : window ∈ stepWindows texts bound done sizes) :
    (texts done).length ≤ window.1 := by
  induction sizes generalizing done with
  | nil => exact absurd isWindow not_mem_nil
  | cons size sizes ih =>
    rcases mem_cons.mp isWindow with rfl | isLater
    · exact (growing done (max done bound) (by omega)).length_le
    · exact Nat.le_trans (growing done (done + size) (by omega)).length_le (ih isLater)

omit [DecidableEq α] in
theorem stepWindows_append (sizes later : List Nat) : stepWindows texts bound done (sizes ++ later) =
    stepWindows texts bound done sizes ++ stepWindows texts bound (done + sizes.sum) later := by
  induction sizes generalizing done with
  | nil => rfl
  | cons size sizes ih =>
    rw [cons_append, stepWindows, stepWindows, ih, sum_cons, Nat.add_assoc]
    rfl

omit [DecidableEq α] in
/-- What a step searches ends at the text that the last step reaches. -/
theorem mem_stepWindows_le (growing : ∀ first last, first ≤ last → texts first <+: texts last)
    {window : Nat × Nat} (isWindow : window ∈ stepWindows texts bound done sizes) :
    (texts (max done bound)).length ≤ window.1 ∧ window.2 ≤ (texts (done + sizes.sum)).length := by
  induction sizes generalizing done with
  | nil => exact absurd isWindow not_mem_nil
  | cons size sizes ih =>
    rw [sum_cons, ← Nat.add_assoc]
    rcases mem_cons.mp isWindow with rfl | isLater
    · exact ⟨Nat.le_refl _, (growing _ _ (by omega)).length_le⟩
    · have later := ih isLater
      have grown := (growing (max done bound) (max (done + size) bound) (by omega)).length_le
      exact ⟨Nat.le_trans grown later.1, later.2⟩

omit [DecidableEq α] in
/-- Where steps are split into smaller ones, each smaller one searches within a larger. -/
theorem stepWindows_split (growing : ∀ first last, first ≤ last → texts first <+: texts last)
    (parts : List (List Nat)) {window : Nat × Nat}
    (isWindow : window ∈ stepWindows texts bound done parts.flatten) :
    ∃ whole ∈ stepWindows texts bound done (parts.map List.sum),
      whole.1 ≤ window.1 ∧ window.2 ≤ whole.2 := by
  induction parts generalizing done with
  | nil => exact absurd isWindow not_mem_nil
  | cons part parts ih =>
    rw [flatten_cons, stepWindows_append, mem_append] at isWindow
    rw [map_cons, stepWindows]
    rcases isWindow with isHere | isLater
    · exact ⟨_, mem_cons_self, mem_stepWindows_le growing isHere⟩
    · obtain ⟨whole, isWhole, within⟩ := ih isLater
      exact ⟨whole, mem_cons_of_mem _ isWhole, within⟩

theorem ListedFirst.split (growing : ∀ first last, first ≤ last → texts first <+: texts last)
    (parts : List (List Nat))
    (isClear : ListedFirst patterns text pattern stop (stepWindows texts bound done (parts.map List.sum))) :
    ListedFirst patterns text pattern stop (stepWindows texts bound done parts.flatten) := by
  intro window isWindow isLater isInside other isOther early isBehind isUpTo
  obtain ⟨whole, isWhole, lower, upper⟩ := stepWindows_split growing parts isWindow
  exact isClear whole isWhole (by omega) (by omega) other isOther early (by omega) (by omega)

theorem searchSteps_eq_none (growing : ∀ first last, first ≤ last → texts first <+: texts last)
    (isTotal : total = done + sizes.sum)
    (none : firstEnding patterns (texts total) (texts (max done bound)).length = none) :
    searchSteps patterns texts bound done sizes = .none := by
  rw [firstEnding_eq_none] at none
  induction sizes generalizing done with
  | nil => rfl
  | cons size sizes ih =>
    rw [sum_cons] at isTotal
    have nothingHere : firstListed patterns (texts (done + size)) (texts (max done bound)).length = .none := by
      rw [firstListed_eq_none]
      intro pattern isPattern stop later ends
      exact none pattern isPattern stop later
        ((endsAt_of_grown (growing _ total (by omega)) ends.1).mpr ends)
    rw [searchSteps, nothingHere, Option.none_or]
    refine ih (by omega) fun pattern isPattern stop later => ?_
    have grown := (growing (max done bound) (max (done + size) bound) (by omega)).length_le
    exact none pattern isPattern stop (by omega)

/-- The first step whose part holds the first end finds the first listed pattern of the
part. Before it nothing is found. -/
theorem searchSteps_eq_firstEnding (growing : ∀ first last, first ≤ last → texts first <+: texts last)
    (isTotal : total = done + sizes.sum)
    (isFirst : firstEnding patterns (texts total) (texts (max done bound)).length = some (pattern, stop)) :
    (ListedFirst patterns (texts total) pattern stop (stepWindows texts bound done sizes) →
      searchSteps patterns texts bound done sizes = some (pattern, stop)) ∧
    ((searchSteps patterns texts bound done sizes).map Prod.fst = some pattern →
      ListedFirst patterns (texts total) pattern stop (stepWindows texts bound done sizes)) := by
  induction sizes generalizing done with
  | nil =>
    obtain ⟨_, later, ends, _⟩ := firstEnding_spec isFirst
    have inside := ends.1
    rw [sum_nil] at isTotal
    have grown := (growing total (max done bound) (by omega)).length_le
    omega
  | cons size sizes ih =>
    obtain ⟨isPattern, later, ends, noneEarlier⟩ := firstEnding_spec isFirst
    rw [sum_cons] at isTotal
    have isPrefix := growing (done + size) total (by omega)
    rw [searchSteps, stepWindows]
    by_cases isHere : stop ≤ (texts (done + size)).length
    · have listed := firstListed_eq_firstEnding isFirst isPrefix (Nat.le_refl _) later isHere
      have inPart (other : List α) (early : Nat) (isEarly : early ≤ (texts (done + size)).length) :
          EndsAt (texts total) other early ↔ EndsAt (texts (done + size)) other early :=
        endsAt_of_grown isPrefix isEarly
      constructor
      · intro isClear
        rw [listed.mpr]
        · rfl
        · intro other isOther early isLater endsEarly
          exact isClear _ mem_cons_self later isHere other isOther early isLater endsEarly.1
            ((inPart other early endsEarly.1).mpr endsEarly)
      · intro same window isWindow isLater isInside other isOther early isBehind isUpTo endsEarly
        rcases mem_cons.mp isWindow with rfl | isNext
        · have found : firstListed patterns (texts (done + size)) (texts (max done bound)).length =
              some (pattern, stop) := by
            refine firstListed_of_fst isFirst isPrefix (Nat.le_refl _) later isHere ?_
            cases isFound : firstListed patterns (texts (done + size)) (texts (max done bound)).length with
            | none =>
              rw [firstListed_eq_none] at isFound
              exact absurd ((inPart pattern stop isHere).mp ends) (isFound pattern isPattern stop later)
            | some found =>
              rw [isFound] at same
              exact same
          exact listed.mp found other isOther early isBehind ((inPart other early isUpTo).mp endsEarly)
        · have behind := Nat.le_trans isHere (le_of_mem_stepWindows growing isNext)
          omega
    · have nothingHere : firstListed patterns (texts (done + size)) (texts (max done bound)).length = none := by
        rw [firstListed_eq_none]
        intro other isOther early isLater endsEarly
        have within := endsEarly.1
        exact noneEarlier other isOther early isLater (by omega)
          ((endsAt_of_grown isPrefix endsEarly.1).mpr endsEarly)
      have isNextFirst : firstEnding patterns (texts total) (texts (max (done + size) bound)).length =
          some (pattern, stop) := by
        have grown := (growing (max done bound) (max (done + size) bound) (by omega)).length_le
        refine firstEnding_later isFirst grown ?_
        rcases Nat.le_total bound (done + size) with isPast | isBefore
        · rw [Nat.max_eq_left isPast]
          omega
        · rw [Nat.max_eq_right isBefore, ← Nat.max_eq_right (by omega : done ≤ bound)]
          exact later
      obtain ⟨ifClear, isClear⟩ := ih (by omega) isNextFirst
      rw [nothingHere, Option.none_or]
      constructor
      · exact fun clear => ifClear fun window isWindow => clear window (mem_cons_of_mem _ isWindow)
      · intro same window isWindow isLater isInside
        rcases mem_cons.mp isWindow with rfl | isNext
        · exact absurd isInside isHere
        · exact isClear same window isNext isLater isInside

end Occurrences

section AfterFirst

variable {α : Type} [DecidableEq α] {marker : α} {items more : List α}

def afterFirst (marker : α) (items : List α) : List α := (items.dropWhile (· ≠ marker)).tail

theorem afterFirst_of_split {before after : List α} (notBefore : marker ∉ before) :
    afterFirst marker (before ++ marker :: after) = after := by
  have skipped : (before ++ marker :: after).dropWhile (· ≠ marker) = marker :: after := by
    rw [dropWhile_append_of_pos]
    · simp
    · intro item isItem
      exact decide_eq_true fun same => notBefore (same ▸ isItem)
  rw [afterFirst, skipped, tail_cons]

theorem afterFirst_of_notMem (notIn : marker ∉ items) : afterFirst marker items = [] := by
  have skipped : items.dropWhile (· ≠ marker) = [] := by
    rw [dropWhile_eq_nil_iff]
    exact fun item isItem => decide_eq_true fun same => notIn (same ▸ isItem)
  rw [afterFirst, skipped, tail_nil]

theorem afterFirst_append_of_mem (isIn : marker ∈ items) :
    afterFirst marker (items ++ more) = afterFirst marker items ++ more := by
  obtain ⟨before, after, rfl, notBefore⟩ := eq_append_cons_of_mem isIn
  rw [append_assoc, cons_append, afterFirst_of_split notBefore, afterFirst_of_split notBefore]

theorem afterFirst_append_of_notMem (notIn : marker ∉ items) :
    afterFirst marker (items ++ more) = afterFirst marker more := by
  rw [afterFirst, dropWhile_append_of_pos, afterFirst]
  exact fun item isItem => decide_eq_true fun same => notIn (same ▸ isItem)

end AfterFirst

end DeepSpark.Lib
