import DeepSpark.Coordinator.Lookup

/-!
How long a hit `SlidingWindowManager.find_longest_cache_hit` returns.

Owns the lengths that a set of cached blocks supports, the greatest of them as the right edge at which the
scan ends, and the short runs with an EAGLE block that the lookup aligns twice.
-/

namespace DeepSpark

open Lib

/-- The arguments of a lookup in a sliding-window group; `alignment_tokens` is `perSegment` blocks. -/
structure WindowSearch where
  slidingWindow : Nat
  blockSize : Nat
  perSegment : Nat
  maxLength : Nat
  dropEagleBlock : Bool
  window_ge : 2 ≤ slidingWindow
  blockSize_pos : 0 < blockSize
  perSegment_pos : 0 < perSegment

def Cached (blockHashes : BlockHashList) (kvCacheGroupIds : List Nat) (pool : BlockPool) (index : Nat) : Prop :=
  ∃ row, cachedAt blockHashes kvCacheGroupIds pool index = .ok (some row)

namespace WindowSearch

variable (search : WindowSearch)

def alignmentTokens : Nat := search.perSegment * search.blockSize

/-- `cdiv(sliding_window - 1, block_size)`, the blocks the next token reads. -/
def windowBlocks : Nat := contiguousBlocksForHit search.slidingWindow search.blockSize false

def lookAhead : Nat := if search.dropEagleBlock then 1 else 0

def maxNumBlocks : Nat := search.maxLength / search.blockSize

def findLongestCacheHit (blockHashes : BlockHashList) (kvCacheGroupIds : List Nat) (pool : BlockPool) :
    Except PyError (List HitRow) :=
  SlidingWindowManager.findLongestCacheHit blockHashes kvCacheGroupIds pool search.slidingWindow search.maxLength
    search.blockSize search.dropEagleBlock search.alignmentTokens

/-- A hit of some blocks: it is aligned, it fits together with the look-ahead, and the blocks that the next
token reads are cached, with EAGLE also the block behind them. -/
structure Supports (cached : Nat → Prop) (count : Nat) : Prop where
  aligned : search.perSegment ∣ count
  fits : (count + search.lookAhead) * search.blockSize ≤ search.maxLength
  window : ∀ index, count - search.windowBlocks ≤ index → index < count → cached index
  eagle : search.dropEagleBlock = true → cached count

def Longest (cached : Nat → Prop) (count : Nat) : Prop :=
  IsGreatest {count | count = 0 ∨ search.Supports cached count} count

/-- The length that is returned for the longest hit: a run that reaches the front without filling the window
is aligned with its EAGLE block, and again without it. -/
def returned (longest : Nat) : Nat :=
  if search.dropEagleBlock = true ∧ search.perSegment ≠ 1 ∧ longest < search.windowBlocks then
    longest - search.perSegment
  else longest

variable {search}

theorem Longest.unique {cached : Nat → Prop} {count other : Nat} (longest : search.Longest cached count)
    (otherLongest : search.Longest cached other) : count = other :=
  IsGreatest.unique longest otherLongest

theorem Supports.congr {cached others : Nat → Prop} {count : Nat} (supports : search.Supports cached count)
    (same : ∀ index < count + search.lookAhead, cached index → others index) : search.Supports others count where
  aligned := supports.aligned
  fits := supports.fits
  window index above below := same index (Nat.lt_add_right _ below) (supports.window index above below)
  eagle drops := same count (by rw [lookAhead, if_pos drops]; exact Nat.lt_succ_self count) (supports.eagle drops)

theorem Supports.inside {cached : Nat → Prop} {count : Nat} (supports : search.Supports cached count) :
    count + search.lookAhead ≤ search.maxNumBlocks :=
  (Nat.le_div_iff_mul_le search.blockSize_pos).mpr supports.fits

theorem Longest.congr {cached others : Nat → Prop} {count : Nat} (longest : search.Longest cached count)
    (same : ∀ index < search.maxNumBlocks, cached index ↔ others index) : search.Longest others count := by
  have sameSupports : ∀ other, search.Supports cached other ↔ search.Supports others other := fun other =>
    ⟨fun supports => supports.congr fun index below => (same index (below.trans_le supports.inside)).mp,
      fun supports => supports.congr fun index below => (same index (below.trans_le supports.inside)).mpr⟩
  rw [Longest] at longest ⊢
  simpa only [sameSupports] using longest

/-- Two hits are returned at one length if they are the same, or if a hit of one segment is lost. -/
theorem returned_eq_iff {fewer more : Nat} (fewerAligned : search.perSegment ∣ fewer)
    (moreAligned : search.perSegment ∣ more) (le : fewer ≤ more) :
    search.returned fewer = search.returned more ↔ fewer = more ∨
      search.dropEagleBlock = true ∧ search.perSegment ≠ 1 ∧ more = search.perSegment ∧
        more < search.windowBlocks := by
  rcases le.eq_or_lt with same | less
  · simp [same]
  · have segment := search.perSegment_pos
    have gap : search.perSegment ≤ more - fewer :=
      Nat.le_of_dvd (Nat.sub_pos_of_lt less) (Nat.dvd_sub moreAligned fewerAligned)
    rw [returned, returned]
    by_cases loses : search.dropEagleBlock = true ∧ search.perSegment ≠ 1 ∧ more < search.windowBlocks
    · rw [if_pos loses, if_pos ⟨loses.1, loses.2.1, less.trans loses.2.2⟩]
      constructor
      · intro same
        exact Or.inr ⟨loses.1, loses.2.1, by omega, loses.2.2⟩
      · rintro (same | lost) <;> omega
    · rw [if_neg loses]
      constructor
      · intro same
        split at same <;> omega
      · rintro (same | lost)
        · exact absurd same less.ne
        · exact absurd ⟨lost.1, lost.2.1, lost.2.2.2⟩ loses

theorem windowBlocks_pos : 0 < search.windowBlocks := by
  have window := search.window_ge
  rw [windowBlocks, contiguousBlocksForHit, if_neg Bool.false_ne_true, Nat.add_zero]
  exact Nat.div_pos (by omega) search.blockSize_pos

theorem needed_eq : contiguousBlocksForHit search.slidingWindow search.blockSize search.dropEagleBlock =
    search.windowBlocks + search.lookAhead := by
  rw [windowBlocks, lookAhead, contiguousBlocksForHit, contiguousBlocksForHit, if_neg Bool.false_ne_true,
    Nat.add_zero]

theorem alignmentTokens_dvd (count : Nat) :
    search.alignmentTokens ∣ count * search.blockSize ↔ search.perSegment ∣ count :=
  Nat.mul_dvd_mul_iff_right search.blockSize_pos

variable {blockHashes : BlockHashList} {kvCacheGroupIds : List Nat} {pool : BlockPool}

/-- The right edge at which the scan ends: its run is cached as far as it is needed, and no aligned edge behind
it has a run that long. -/
structure ScanEnd (search : WindowSearch) (cached : Nat → Prop) (found : Bool) (stop : Nat) : Prop where
  inside : stop ≤ search.maxNumBlocks
  hits : ∀ index, stop - (search.windowBlocks + search.lookAhead) ≤ index → index < stop → cached index
  aligned : 0 < stop → search.perSegment ∣ stop - search.lookAhead
  passed : ∀ other, search.perSegment ∣ other - search.lookAhead → stop < other →
    other ≤ search.maxNumBlocks →
      ∃ index, other - (search.windowBlocks + search.lookAhead) ≤ index ∧ index < other ∧ ¬cached index
  enough : found = true ↔ search.windowBlocks + search.lookAhead ≤ stop

theorem scanWindow_end {index run : Nat} {rows : List HitRow} (length : rows.length = search.maxNumBlocks)
    (inside : index + run ≤ search.maxNumBlocks) (short : run < search.windowBlocks + search.lookAhead)
    (hits : ∀ position, index ≤ position → position < index + run →
      Cached blockHashes kvCacheGroupIds pool position)
    (aligned : 0 < run → search.perSegment ∣ index + run - search.lookAhead)
    (passed : ∀ other, search.perSegment ∣ other - search.lookAhead → index + run < other →
      other ≤ search.maxNumBlocks → ∃ position, other - (search.windowBlocks + search.lookAhead) ≤ position ∧
        position < other ∧ ¬Cached blockHashes kvCacheGroupIds pool position)
    {found : Bool} {final : List HitRow} {finalRun : Nat}
    (ran : scanWindow blockHashes kvCacheGroupIds pool search.blockSize (search.windowBlocks + search.lookAhead)
      search.dropEagleBlock search.alignmentTokens index rows run = .ok (found, final, finalRun)) :
    (found = false → final.length = search.maxNumBlocks) ∧
      ScanEnd search (Cached blockHashes kvCacheGroupIds pool) found (if found then final.length else finalRun) := by
  induction index generalizing rows run with
  | zero =>
    rw [scanWindow] at ran
    cases ran
    refine ⟨fun _ => length, ?_⟩
    rw [if_neg Bool.false_ne_true]
    rw [Nat.zero_add] at inside hits aligned passed
    exact ⟨inside, fun position _ => hits position (Nat.zero_le position), aligned, passed, by simpa using short⟩
  | succ index ih =>
    have isPost : (if search.dropEagleBlock then index else index + 1) = index + 1 - search.lookAhead := by
      rw [lookAhead]
      cases search.dropEagleBlock
      · rfl
      · rfl
    rw [scanWindow] at ran
    obtain ⟨hit, read, ran⟩ := bind_eq_ok.mp ran
    cases hit with
    | none =>
      have isMiss : ¬Cached blockHashes kvCacheGroupIds pool index := by
        rintro ⟨row, cached⟩
        cases read.symm.trans cached
      apply ih length (by omega) (by omega) _ _ _ ran
      · intro position above below
        omega
      · exact fun positive => absurd positive (Nat.lt_irrefl 0)
      · intro other isAligned behind inRange
        by_cases within : other ≤ index + 1 + run
        · exact ⟨index, by omega, behind, isMiss⟩
        · exact passed other isAligned (not_le.mp within) inRange
    | some row =>
      dsimp only at ran
      rw [isPost] at ran
      split at ran
      next skipped =>
        obtain ⟨rfl, -, unaligned⟩ := skipped
        apply ih length (by omega) short _ _ _ ran
        · intro position above below
          omega
        · exact fun positive => absurd positive (Nat.lt_irrefl 0)
        · intro other isAligned behind inRange
          by_cases isEdge : other = index + 1
          · rw [isEdge] at isAligned
            exact absurd (Nat.mod_eq_zero_of_dvd ((alignmentTokens_dvd _).mpr isAligned)) unaligned
          · exact passed other isAligned (by omega) inRange
      next eligible =>
        have extended : search.perSegment ∣ index + (run + 1) - search.lookAhead := by
          by_cases isFirst : run = 0
          · subst isFirst
            by_cases same : search.blockSize = search.alignmentTokens
            · have isOne : search.perSegment = 1 :=
                Nat.eq_of_mul_eq_mul_right search.blockSize_pos ((Nat.one_mul _).trans same).symm
              rw [isOne]
              exact one_dvd _
            · apply (alignmentTokens_dvd _).mp
              apply Nat.dvd_of_mod_eq_zero
              by_contra unaligned
              exact eligible ⟨rfl, same, unaligned⟩
          · have isEdge : index + (run + 1) = index + 1 + run := by omega
            rw [isEdge]
            exact aligned (Nat.pos_of_ne_zero isFirst)
        have runHits : ∀ position, index ≤ position → position < index + (run + 1) →
            Cached blockHashes kvCacheGroupIds pool position := by
          intro position above below
          by_cases isIndex : position = index
          · rw [isIndex]
            exact ⟨row, read⟩
          · exact hits position (by omega) (by omega)
        have behindRun : ∀ other, search.perSegment ∣ other - search.lookAhead → index + (run + 1) < other →
            other ≤ search.maxNumBlocks → ∃ position,
              other - (search.windowBlocks + search.lookAhead) ≤ position ∧ position < other ∧
                ¬Cached blockHashes kvCacheGroupIds pool position := fun other isAligned behind =>
          passed other isAligned (by omega)
        have setLength : (rows.set index (some row)).length = search.maxNumBlocks := List.length_set.trans length
        split at ran
        next enough =>
          cases ran
          refine ⟨fun notFound => absurd notFound.symm Bool.false_ne_true, ?_⟩
          have isStop : ((rows.set index (some row)).take (index + (run + 1))).length = index + (run + 1) := by
            rw [List.length_take, setLength]
            omega
          rw [if_pos rfl, isStop]
          exact ⟨by omega, fun position above => runHits position (by omega), fun _ => extended, behindRun,
            by simp; omega⟩
        next short =>
          exact ih setLength (by omega) (not_le.mp short) runHits (fun _ => extended) behindRun ran

/-! ## The length -/

theorem ScanEnd.longest {cached : Nat → Prop} {found : Bool} {stop : Nat} (ended : ScanEnd search cached found stop) :
    search.Longest cached (stop - search.lookAhead) := by
  constructor
  · by_cases isEmpty : stop = 0
    · left
      rw [isEmpty, Nat.zero_sub]
    · right
      have positive := Nat.pos_of_ne_zero isEmpty
      have lookAhead_le : search.lookAhead ≤ 1 := by
        rw [lookAhead]
        split <;> omega
      refine ⟨ended.aligned positive, ?_, fun index above below => ended.hits index (by omega) (by omega),
        fun drops => ?_⟩
      · rw [Nat.sub_add_cancel (lookAhead_le.trans positive)]
        exact (Nat.mul_le_mul_right _ ended.inside).trans (Nat.div_mul_le_self _ _)
      · have isOne : search.lookAhead = 1 := if_pos drops
        exact ended.hits _ (by omega) (by omega)
  · rintro count (rfl | supports)
    · exact Nat.zero_le _
    · by_contra behind
      have inRange : count + search.lookAhead ≤ search.maxNumBlocks :=
        (Nat.le_div_iff_mul_le search.blockSize_pos).mpr supports.fits
      obtain ⟨index, above, below, isMiss⟩ := ended.passed (count + search.lookAhead)
        (by rw [Nat.add_sub_cancel]; exact supports.aligned) (by omega) inRange
      by_cases inHit : index < count
      · exact isMiss (supports.window index (by omega) inHit)
      · rw [lookAhead] at below
        split at below
        next drops =>
          have isEagle : index = count := by omega
          exact isMiss (isEagle ▸ supports.eagle drops)
        next => omega

theorem length_popUnaligned {fuel : Nat} {rows : List HitRow} (enough : rows.length ≤ fuel) :
    (popUnaligned search.blockSize search.alignmentTokens fuel rows).length =
      rows.length / search.perSegment * search.perSegment := by
  induction fuel generalizing rows with
  | zero => rw [popUnaligned, Nat.le_zero.mp enough, Nat.zero_div, Nat.zero_mul]
  | succ fuel ih =>
    rw [popUnaligned]
    split
    next unaligned =>
      have notDvd : ¬search.perSegment ∣ rows.length := fun divides =>
        unaligned.2 (Nat.mod_eq_zero_of_dvd ((alignmentTokens_dvd _).mpr divides))
      have shorter : rows.dropLast.length ≤ fuel := by
        rw [List.length_dropLast]
        omega
      rw [ih shorter, List.length_dropLast]
      cases isLength : rows.length with
      | zero => rfl
      | succ count =>
        rw [isLength] at notDvd
        rw [Nat.add_sub_cancel, Nat.succ_div_of_not_dvd notDvd]
    next stops =>
      have divides : search.perSegment ∣ rows.length := by
        by_cases same : search.blockSize = search.alignmentTokens
        · have isOne : search.perSegment = 1 :=
            Nat.eq_of_mul_eq_mul_right search.blockSize_pos ((Nat.one_mul _).trans same).symm
          rw [isOne]
          exact one_dvd _
        · apply (alignmentTokens_dvd _).mp
          apply Nat.dvd_of_mod_eq_zero
          by_contra unaligned
          exact stops ⟨same, unaligned⟩
      exact (Nat.div_mul_cancel divides).symm

/-- A run that reaches the front with its EAGLE block: both alignments give up blocks. -/
theorem pops_eq {longest : Nat} (aligned : search.perSegment ∣ longest) :
    ((longest + 1) / search.perSegment * search.perSegment - 1) / search.perSegment * search.perSegment =
      if search.perSegment ≠ 1 then longest - search.perSegment else longest := by
  obtain ⟨segments, rfl⟩ := aligned
  have positive := search.perSegment_pos
  split
  next large =>
    have isFloor : (search.perSegment * segments + 1) / search.perSegment = segments := by
      rw [Nat.mul_add_div positive, Nat.div_eq_of_lt (by omega), Nat.add_zero]
    rw [isFloor, Nat.mul_comm segments]
    cases segments with
    | zero => simp
    | succ segments =>
      have isBelow : search.perSegment * (segments + 1) - 1 =
          search.perSegment * segments + (search.perSegment - 1) := by
        rw [Nat.mul_succ]
        omega
      rw [isBelow, Nat.mul_add_div positive, Nat.div_eq_of_lt (by omega), Nat.add_zero, Nat.mul_succ,
        Nat.add_sub_cancel, Nat.mul_comm]
  next isOne => simp [not_not.mp isOne]

theorem findLongestCacheHit_length (search : WindowSearch)
    (readable : Readable blockHashes kvCacheGroupIds pool search.maxNumBlocks) :
    ∃ rows longest, search.findLongestCacheHit blockHashes kvCacheGroupIds pool = .ok rows ∧
      search.Longest (Cached blockHashes kvCacheGroupIds pool) longest ∧ rows.length = search.returned longest := by
  obtain ⟨⟨found, final, finalRun⟩, scanned⟩ := scanWindow_ok search.blockSize
    (contiguousBlocksForHit search.slidingWindow search.blockSize search.dropEagleBlock) search.alignmentTokens
    search.dropEagleBlock readable (List.replicate search.maxNumBlocks none) 0
  have isRun := scanned
  rw [needed_eq] at isRun
  have ended := scanWindow_end List.length_replicate (Nat.le_refl _)
    (Nat.add_pos_left windowBlocks_pos _) (fun position above below => by omega)
    (fun positive => absurd positive (Nat.lt_irrefl 0)) (fun other _ behind inRange => by omega) isRun
  obtain ⟨finalLength, ended⟩ := ended
  rw [findLongestCacheHit, SlidingWindowManager.findLongestCacheHit]
  rw [maxNumBlocks] at scanned
  rw [scanned]
  dsimp only [bind, Except.bind]
  cases found with
  | true =>
    have enough := ended.enough.mp rfl
    have positive : 0 < final.length := Nat.lt_of_lt_of_le (Nat.add_pos_left windowBlocks_pos _) enough
    have longest := ended.longest
    have aligned := ended.aligned positive
    simp only [if_true] at *
    cases drops : search.dropEagleBlock with
    | false =>
      have noEagle : search.lookAhead = 0 := by simp [lookAhead, drops]
      refine ⟨final, _, if_neg fun both => Bool.false_ne_true both.1, longest, ?_⟩
      rw [noEagle, returned, if_neg (by simp [drops]), Nat.sub_zero]
    | true =>
      have isOne : search.lookAhead = 1 := if_pos drops
      rw [isOne] at enough aligned longest
      rw [if_pos ⟨rfl, List.ne_nil_of_length_pos positive⟩]
      refine ⟨_, _, rfl, longest, ?_⟩
      rw [length_popUnaligned le_rfl, List.length_dropLast, Nat.div_mul_cancel aligned, returned,
        if_neg (by omega)]
  | false =>
    have short : final.length = search.maxNumBlocks := finalLength rfl
    have notEnough : ¬search.windowBlocks + search.lookAhead ≤ finalRun := fun enough =>
      absurd (ended.enough.mpr enough) Bool.false_ne_true
    have longest := ended.longest
    have aligned := ended.aligned
    have inside := ended.inside
    simp only [Bool.false_eq_true, if_false] at *
    have isRunLength : (final.take finalRun).length = finalRun := by
      rw [List.length_take]
      omega
    cases drops : search.dropEagleBlock with
    | false =>
      have noEagle : search.lookAhead = 0 := by simp [lookAhead, drops]
      rw [noEagle, Nat.sub_zero] at aligned longest
      refine ⟨_, _, if_neg fun both => Bool.false_ne_true both.1, longest, ?_⟩
      rw [length_popUnaligned le_rfl, isRunLength, returned, if_neg (by simp [drops])]
      rcases Nat.eq_zero_or_pos finalRun with isZero | positive
      · rw [isZero, Nat.zero_div, Nat.zero_mul]
      · exact Nat.div_mul_cancel (aligned positive)
    | true =>
      have isOne : search.lookAhead = 1 := if_pos drops
      rw [isOne] at aligned longest notEnough
      have popped : (popUnaligned search.blockSize search.alignmentTokens (final.take finalRun).length
          (final.take finalRun)).length = finalRun / search.perSegment * search.perSegment := by
        rw [length_popUnaligned le_rfl, isRunLength]
      have isReturned : (finalRun / search.perSegment * search.perSegment - 1) / search.perSegment *
          search.perSegment = search.returned (finalRun - 1) := by
        rcases Nat.eq_zero_or_pos finalRun with isZero | positive
        · simp [isZero, returned]
        · have isSucc : finalRun - 1 + 1 = finalRun := Nat.sub_add_cancel positive
          have pops := pops_eq (aligned positive)
          rw [isSucc] at pops
          rw [pops, returned]
          have inWindow : finalRun - 1 < search.windowBlocks := by omega
          simp [drops, inWindow]
      by_cases isEmpty : popUnaligned search.blockSize search.alignmentTokens (final.take finalRun).length
          (final.take finalRun) = []
      · refine ⟨_, _, if_neg fun both => both.2 isEmpty, longest, ?_⟩
        rw [isEmpty] at popped
        rw [← isReturned, ← popped, isEmpty]
        simp
      · refine ⟨_, _, if_pos ⟨rfl, isEmpty⟩, longest, ?_⟩
        rw [length_popUnaligned le_rfl, List.length_dropLast, popped, isReturned]

/-! ## The longest hit -/

/-- The longest hit is a short one behind which an EAGLE block is dropped, at an alignment of several blocks. -/
def LosesShortRun (search : WindowSearch) (cached : Nat → Prop) : Prop :=
  search.dropEagleBlock = true ∧ search.perSegment ≠ 1 ∧
    ∃ longest, 0 < longest ∧ longest < search.windowBlocks ∧ search.Longest cached longest

theorem readable_of_sound {free : List BlockId} (sound : pool.Sound free)
    (groups : ∀ groupId ∈ kvCacheGroupIds, groupId < 2 ^ 32) (hashed : search.maxNumBlocks ≤ blockHashes.length) :
    Readable blockHashes kvCacheGroupIds pool search.maxNumBlocks := by
  intro index below
  obtain ⟨blockHash, isItem⟩ := BlockHashList.getItem_of_lt (below.trans_le hashed)
  obtain ⟨found, isFound⟩ := getCachedBlock_ok sound.map blockHash groups
  refine ⟨found, ?_⟩
  rw [cachedAt, isItem]
  exact isFound

/-- The lookup returns the longest hit unless it loses a short run. -/
theorem findLongestCacheHit_longest (search : WindowSearch) (reachable : pool.Reachable)
    (groups : ∀ groupId ∈ kvCacheGroupIds, groupId < 2 ^ 32) (hashed : search.maxNumBlocks ≤ blockHashes.length) :
    (∃ rows, search.findLongestCacheHit blockHashes kvCacheGroupIds pool = .ok rows ∧
      search.Longest (Cached blockHashes kvCacheGroupIds pool) rows.length) ↔
    ¬search.LosesShortRun (Cached blockHashes kvCacheGroupIds pool) := by
  obtain ⟨free, sound⟩ := reachable.sound
  obtain ⟨rows, longest, ran, isLongest, isLength⟩ :=
    search.findLongestCacheHit_length (readable_of_sound sound groups hashed)
  constructor
  · rintro ⟨others, ranOthers, othersLongest⟩ ⟨drops, large, short, positive, inWindow, shortLongest⟩
    cases ran.symm.trans ranOthers
    have isShort : longest = short := isLongest.unique shortLongest
    have segment := search.perSegment_pos
    rw [isLength, returned, if_pos ⟨drops, large, isShort ▸ inWindow⟩] at othersLongest
    have same := isLongest.unique othersLongest
    omega
  · intro keeps
    refine ⟨rows, ran, ?_⟩
    rw [isLength, returned]
    split
    next loses =>
      rcases Nat.eq_zero_or_pos longest with rfl | positive
      · rwa [Nat.zero_sub]
      · exact absurd ⟨loses.1, loses.2.1, longest, positive, loses.2.2, isLongest⟩ keeps
    next => exact isLongest

/-- Three cached blocks, looked up in front of a window of five blocks at an alignment of two. -/
private def threeHashes : Request where
  requestId := 0
  samplingParams := { maxTokens := 1 }
  maxTokens := 1
  promptTokenIds := [5, 6, 7]
  numPromptTokens := 3
  allTokenIds := [5, 6, 7]
  blockHashes := [[7], [8], [9]]

private def wideSearch (dropEagleBlock : Bool) : WindowSearch where
  slidingWindow := 6
  blockSize := 1
  perSegment := 2
  maxLength := 3
  dropEagleBlock := dropEagleBlock
  window_ge := Nat.le_add_left 2 4
  blockSize_pos := Nat.one_pos
  perSegment_pos := Nat.two_pos

private theorem threeHashes_cached : ∃ pool : BlockPool, pool.Reachable ∧
    (wideSearch true).findLongestCacheHit (.fine threeHashes.blockHashes) [0] pool = .ok [] ∧
    ∀ index < 3, Cached (.fine threeHashes.blockHashes) [0] pool index := by
  have reachable : BlockPool.Reachable _ :=
    ⟨4, true, 1, false, false, _, rfl, (Relation.ReflTransGen.single (.getNewBlocks 3 rfl)).tail
      (.cacheFullBlocks threeHashes [1, 2, 3] 0 3 1 0 none (by decide) rfl)⟩
  refine ⟨_, reachable, rfl, fun index below => ?_⟩
  interval_cases index
  · exact ⟨[1], rfl⟩
  · exact ⟨[2], rfl⟩
  · exact ⟨[3], rfl⟩

theorem findLongestCacheHit_withoutEagle : ∃ pool rows, pool.Reachable ∧
    (wideSearch false).findLongestCacheHit (.fine threeHashes.blockHashes) [0] pool = .ok rows ∧
    (wideSearch false).Longest (Cached (.fine threeHashes.blockHashes) [0] pool) rows.length := by
  obtain ⟨pool, reachable, -, -⟩ := threeHashes_cached
  obtain ⟨rows, ran, longest⟩ := (@findLongestCacheHit_longest (.fine threeHashes.blockHashes) [0] pool
    (wideSearch false) reachable (by decide) (by decide)).mpr fun loses => Bool.false_ne_true loses.1
  exact ⟨pool, rows, reachable, ran, longest⟩

/-- With the EAGLE block the two blocks in front of it are lost. -/
theorem findLongestCacheHit_losesShortRun : ∃ pool, pool.Reachable ∧
    (wideSearch true).findLongestCacheHit (.fine threeHashes.blockHashes) [0] pool = .ok [] ∧
    (wideSearch true).Supports (Cached (.fine threeHashes.blockHashes) [0] pool) 2 ∧
    ¬(wideSearch true).Longest (Cached (.fine threeHashes.blockHashes) [0] pool) 0 := by
  obtain ⟨pool, reachable, ran, cached⟩ := threeHashes_cached
  have supports : (wideSearch true).Supports (Cached (.fine threeHashes.blockHashes) [0] pool) 2 := by
    refine ⟨by decide, by decide, fun index _ below => cached index (Nat.lt_succ_of_lt below), fun _ => ?_⟩
    exact cached 2 (Nat.lt_succ_self 2)
  refine ⟨pool, reachable, ran, supports, fun longest => ?_⟩
  exact absurd (longest.2 (Or.inr supports)) (by decide)

end WindowSearch

end DeepSpark
