import DeepSpark.Lib.Borders
import DeepSpark.Lib.PyError

/-!
The n-gram proposer on the host: `_find_longest_matched_ngram_and_propose_tokens` of
`v1/spec_decode/ngram_proposer.py`.

Owns the loop over the reversed tokens with its capped failure table, the earlier occurrences of
the last tokens of a sequence, and that the proposal follows the leftmost occurrence of the
longest n-gram that has one.
-/

namespace DeepSpark

open Lib

/-- `array[index]`. -/
def arrayGet {α : Type} (array : List α) (index : Nat) : Except PyError α :=
  match array[index]? with
  | some value => .ok value
  | none => .error (.indexError "index is out of bounds")

/-- `array[index] = value`. -/
def arraySet {α : Type} (array : List α) (index : Nat) (value : α) : Except PyError (List α) :=
  if index < array.length then .ok (array.set index value) else .error (.indexError "index is out of bounds")

theorem arrayGet_ok {α : Type} {array : List α} {index : Nat} {value : α} (isValue : array[index]? = some value) :
    arrayGet array index = .ok value := by
  rw [arrayGet, isValue]

/-! ## The search -/

structure NgramSearch where
  lps : List Nat
  longestNgram : Nat
  position : Nat
  prevLps : Nat
  i : Nat

section

variable {τ : Type} [DecidableEq τ] (tokens : List τ) (maxNgram : Nat)

namespace NgramSearch

def initial (maxNgram : Nat) : NgramSearch := ⟨List.replicate maxNgram 0, 0, 0, 0, 1⟩

/-- `if i < max_ngram: lps[i] = prev_lps`. -/
def storeLps (maxNgram : Nat) (search : NgramSearch) (prevLps : Nat) : Except PyError (List Nat) :=
  if search.i < maxNgram then arraySet search.lps search.i prevLps else .ok search.lps

/-- `if prev_lps == max_ngram: prev_lps = lps[max_ngram - 1]`. -/
def capLps (maxNgram : Nat) (lps : List Nat) (prevLps : Nat) : Except PyError Nat :=
  if prevLps = maxNgram then arrayGet lps (maxNgram - 1) else .ok prevLps

def body (search : NgramSearch) : Except PyError NgramSearch := do
  let prefixToken ← arrayGet tokens search.prevLps
  let token ← arrayGet tokens search.i
  if prefixToken = token then
    let prevLps := search.prevLps + 1
    let best := if prevLps ≥ search.longestNgram then (prevLps, search.i) else (search.longestNgram, search.position)
    let lps ← search.storeLps maxNgram prevLps
    let prevLps ← capLps maxNgram lps prevLps
    return ⟨lps, best.1, best.2, prevLps, search.i + 1⟩
  else if search.prevLps ≠ 0 then
    let prevLps ← arrayGet search.lps (search.prevLps - 1)
    return { search with prevLps := prevLps }
  else return { search with i := search.i + 1 }

/-- `while i < total_token`, within a number of passes. -/
def loop : Nat → NgramSearch → Option (Except PyError NgramSearch)
  | 0, search => if search.i < tokens.length then none else some (.ok search)
  | fuel + 1, search =>
    if search.i < tokens.length then
      match body tokens maxNgram search with
      | .error error => some (.error error)
      | .ok next => loop fuel next
    else some (.ok search)

end NgramSearch

/-- `_find_longest_matched_ngram_and_propose_tokens`, with a bound on the passes of its loop. -/
def findLongestMatchedNgramAndProposeTokens (fuel : Nat) (originTokens : List τ)
    (minNgram maxNgram maxModelLen k : Nat) : Option (Except PyError (List τ)) :=
  let totalToken := originTokens.length
  if totalToken < minNgram then some (.ok [])
  else
    let room : Int := min (k : Int) ((maxModelLen : Int) - totalToken)
    if room ≤ 0 then some (.ok [])
    else
      (NgramSearch.loop originTokens.reverse maxNgram fuel (.initial maxNgram)).map fun ran =>
        ran.map fun search =>
          if search.longestNgram < minNgram then []
          else
            let startPosition := totalToken - 1 - search.position + search.longestNgram
            let count := min room.toNat (totalToken - startPosition)
            (originTokens.drop startPosition).take count

end

/-! ## What the loop knows -/

section

variable {τ : Type} {tokens : List τ} {maxNgram : Nat}

/-- The longest match that ends before an index, and where it ends last. -/
structure BestMatch (tokens : List τ) (maxNgram bound longest position : Nat) : Prop where
  none_longer : ∀ index < bound, ∀ length, 0 < length → length ≤ index → length ≤ maxNgram →
    PrefixEnds tokens length index → length < longest ∨ length = longest ∧ index ≤ position
  found : longest ≠ 0 → longest ≤ maxNgram ∧ longest ≤ position ∧ position < bound ∧ PrefixEnds tokens longest position

structure NgramSearch.Invariant (tokens : List τ) (maxNgram : Nat) (search : NgramSearch) : Prop where
  positive : 1 ≤ search.i
  inTokens : search.i ≤ tokens.length
  tableLength : search.lps.length = maxNgram
  known : FailureTable tokens search.lps (min search.i maxNgram)
  fresh : ∀ index, search.i ≤ index → index < maxNgram → search.lps[index]? = some 0
  capped : search.prevLps < maxNgram
  ends : PrefixEnds tokens search.prevLps (search.i - 1)
  proper : search.prevLps < search.i
  candidates : ∀ length, length + 1 ≤ maxNgram → length + 1 ≤ search.i →
    PrefixEnds tokens (length + 1) search.i → length ≤ search.prevLps
  best : BestMatch tokens maxNgram search.i search.longestNgram search.position

def NgramSearch.remaining (tokens : List τ) (search : NgramSearch) : Nat :=
  2 * (tokens.length - search.i) + search.prevLps

theorem NgramSearch.invariant_initial (someToken : tokens ≠ []) (positive : 1 ≤ maxNgram) :
    (NgramSearch.initial maxNgram).Invariant tokens maxNgram := by
  have inTokens : 1 ≤ tokens.length := List.length_pos_of_ne_nil someToken
  have zeros : ∀ index < maxNgram, (List.replicate maxNgram 0)[index]? = some 0 := fun index below => by
    rw [List.getElem?_replicate, if_pos below]
  have noPrefix : PrefixEnds tokens 0 0 := prefixEnds_zero inTokens
  constructor
  · exact le_refl 1
  · exact inTokens
  · exact List.length_replicate
  · intro index below
    obtain rfl : index = 0 := Nat.lt_one_iff.mp (below.trans_le (Nat.min_le_left _ _))
    exact ⟨0, zeros 0 positive, le_refl 0, noPrefix, fun other small _ => small⟩
  · intro index _ below
    exact zeros index below
  · exact positive
  · exact noPrefix
  · exact Nat.one_pos
  · intro length _ fits _
    exact Nat.le_of_succ_le_succ fits
  · constructor
    · intro index below length someLength within
      have : index < 1 := below
      omega
    · intro notZero
      exact absurd rfl notZero

variable {search : NgramSearch}

section

variable (holds : search.Invariant tokens maxNgram)

include holds

theorem NgramSearch.Invariant.extended (inRange : search.i < tokens.length)
    (agrees : tokens[search.prevLps]? = tokens[search.i]?) :
    LongestEnd tokens (min search.i maxNgram) search.i (search.prevLps + 1) := by
  have isNext : search.i - 1 + 1 = search.i := Nat.sub_add_cancel holds.positive
  have capped := holds.capped
  have proper := holds.proper
  refine ⟨by omega, ?_, ?_⟩
  · have ends := prefixEnds_succ.mpr ⟨holds.ends, by rwa [isNext], by rwa [isNext]⟩
    rwa [isNext] at ends
  · intro other bounded ends
    cases other with
    | zero => exact Nat.zero_le _
    | succ length => exact Nat.succ_le_succ (holds.candidates length (by omega) (by omega) ends)

theorem NgramSearch.Invariant.bestMatch_extended
    (isLongest : LongestEnd tokens (min search.i maxNgram) search.i (search.prevLps + 1)) :
    let best := if search.prevLps + 1 ≥ search.longestNgram then (search.prevLps + 1, search.i)
      else (search.longestNgram, search.position)
    BestMatch tokens maxNgram (search.i + 1) best.1 best.2 := by
  obtain ⟨none_longer, found⟩ := holds.best
  have capped := holds.capped
  have proper := holds.proper
  split
  next longer =>
    constructor
    · intro index below length someLength within bounded ends
      rcases Nat.lt_succ_iff_lt_or_eq.mp below with before | rfl
      · rcases none_longer index before length someLength within bounded ends with shorter | ⟨same, -⟩
        · omega
        · omega
      · have atMost := isLongest.longest length (by omega) ends
        omega
    · intro _
      exact ⟨capped, by omega, Nat.lt_succ_self _, isLongest.ends⟩
  next shorter =>
    constructor
    · intro index below length someLength within bounded ends
      rcases Nat.lt_succ_iff_lt_or_eq.mp below with before | rfl
      · exact none_longer index before length someLength within bounded ends
      · have atMost := isLongest.longest length (by omega) ends
        omega
    · intro notZero
      obtain ⟨isBounded, within, before, ends⟩ := found notZero
      exact ⟨isBounded, within, before.trans (Nat.lt_succ_self _), ends⟩

theorem NgramSearch.Invariant.stored
    (isLongest : LongestEnd tokens (min search.i maxNgram) search.i (search.prevLps + 1)) :
    ∃ lps, search.storeLps maxNgram (search.prevLps + 1) = .ok lps ∧
      lps.length = maxNgram ∧ FailureTable tokens lps (min (search.i + 1) maxNgram) ∧
      ∀ index, search.i + 1 ≤ index → index < maxNgram → lps[index]? = some 0 := by
  have tableLength := holds.tableLength
  rw [NgramSearch.storeLps]
  by_cases inTable : search.i < maxNgram
  · refine ⟨search.lps.set search.i (search.prevLps + 1), ?_, ?_, ?_, ?_⟩
    · rw [if_pos inTable, arraySet, if_pos (tableLength.symm ▸ inTable)]
    · rw [List.length_set]
      exact tableLength
    · have known := holds.known
      rw [Nat.min_eq_left inTable.le] at known isLongest
      rw [Nat.min_eq_left inTable]
      exact known.set (tableLength.symm ▸ inTable) isLongest
    · intro index above below
      rw [List.getElem?_set_ne (Nat.ne_of_lt above)]
      exact holds.fresh index (Nat.le_of_succ_le above) below
  · refine ⟨search.lps, if_neg inTable, tableLength, ?_, ?_⟩
    · exact holds.known.mono (by omega)
    · intro index above below
      omega

theorem NgramSearch.Invariant.body [DecidableEq τ] (inRange : search.i < tokens.length) :
    ∃ next, NgramSearch.body tokens maxNgram search = .ok next ∧ next.Invariant tokens maxNgram ∧
      next.remaining tokens < search.remaining tokens := by
  have capped := holds.capped
  have proper := holds.proper
  have positive := holds.positive
  have isToken : tokens[search.i]? = some tokens[search.i] := List.getElem?_eq_getElem inRange
  have inPrefix : search.prevLps < tokens.length := proper.trans inRange
  have isPrefixToken : tokens[search.prevLps]? = some tokens[search.prevLps] := List.getElem?_eq_getElem inPrefix
  rw [NgramSearch.body, arrayGet_ok isPrefixToken, arrayGet_ok isToken]
  by_cases same : tokens[search.prevLps] = tokens[search.i]
  · -- the prefix is extended
    have agrees : tokens[search.prevLps]? = tokens[search.i]? := by rw [isPrefixToken, isToken, same]
    have isLongest := holds.extended inRange agrees
    have best := holds.bestMatch_extended isLongest
    obtain ⟨lps, isStored, tableLength, known, fresh⟩ := holds.stored isLongest
    dsimp only [bind, Except.bind]
    rw [if_pos same, isStored]
    dsimp only
    by_cases isMaximal : search.prevLps + 1 = maxNgram
    · -- the longest shorter prefix that ends here ends the prefix of the maximum length
      obtain ⟨border, isBorder, isLongestBorder⟩ := known (maxNgram - 1) (by omega)
      have isEnd : PrefixEnds tokens maxNgram search.i := isMaximal ▸ isLongest.ends
      have borderBound := isLongestBorder.bounded
      rw [NgramSearch.capLps, if_pos isMaximal, arrayGet_ok isBorder]
      refine ⟨_, rfl, ⟨Nat.le_add_left 1 search.i, inRange, tableLength, known, fresh, ?_, ?_, ?_, ?_, best⟩, ?_⟩
      · show border < maxNgram
        omega
      · show PrefixEnds tokens border search.i
        exact (isEnd.shorter_iff (by omega) (by omega)).mpr isLongestBorder.ends
      · show border < search.i + 1
        omega
      · intro length bounded within ends
        have here := (prefixEnds_succ.mp ends).1
        exact isLongestBorder.longest length (by omega) ((isEnd.shorter_iff (by omega) (by omega)).mp here)
      · show 2 * (tokens.length - (search.i + 1)) + border < 2 * (tokens.length - search.i) + search.prevLps
        omega
    · rw [NgramSearch.capLps, if_neg isMaximal]
      refine ⟨_, rfl, ⟨Nat.le_add_left 1 search.i, inRange, tableLength, known, fresh, ?_, isLongest.ends, ?_, ?_, best⟩, ?_⟩
      · show search.prevLps + 1 < maxNgram
        omega
      · show search.prevLps + 1 < search.i + 1
        omega
      · intro length bounded within ends
        have isWithin : length + 1 ≤ search.i + 1 := within
        exact isLongest.longest length (by omega) (prefixEnds_succ.mp ends).1
      · show 2 * (tokens.length - (search.i + 1)) + (search.prevLps + 1) <
          2 * (tokens.length - search.i) + search.prevLps
        omega
  · have differ : tokens[search.prevLps]? ≠ tokens[search.i]? := by
      rw [isPrefixToken, isToken]
      exact fun isSame => same (Option.some.inj isSame)
    have notExtended : ∀ length, PrefixEnds tokens (length + 1) search.i → length ≠ search.prevLps := by
      rintro length ends rfl
      rw [← Nat.sub_add_cancel positive] at ends
      have agrees := (prefixEnds_succ.mp ends).2.2
      rw [Nat.sub_add_cancel positive] at agrees
      exact differ agrees
    dsimp only [bind, Except.bind]
    rw [if_neg same]
    by_cases someLps : search.prevLps ≠ 0
    · -- the next shorter prefix that ends before this token
      obtain ⟨border, isBorder, isLongestBorder⟩ := holds.known (search.prevLps - 1) (by omega)
      have borderBound := isLongestBorder.bounded
      have ends := holds.ends
      rw [if_pos someLps, arrayGet_ok isBorder]
      refine ⟨_, rfl, ⟨positive, holds.inTokens, holds.tableLength, holds.known, holds.fresh, ?_, ?_, ?_, ?_,
        holds.best⟩, ?_⟩
      · show border < maxNgram
        omega
      · show PrefixEnds tokens border (search.i - 1)
        exact (ends.shorter_iff (by omega) (by omega)).mpr isLongestBorder.ends
      · show border < search.i
        omega
      · intro length bounded within longerEnds
        have atMost := holds.candidates length bounded within longerEnds
        have notSame := notExtended length longerEnds
        rw [← Nat.sub_add_cancel positive] at longerEnds
        have here := (prefixEnds_succ.mp longerEnds).1
        exact isLongestBorder.longest length (by omega) ((ends.shorter_iff atMost (by omega)).mp here)
      · show 2 * (tokens.length - search.i) + border < 2 * (tokens.length - search.i) + search.prevLps
        omega
    · -- no prefix ends at this token
      have noLps : search.prevLps = 0 := not_not.mp someLps
      have noneEnds : ∀ length, 0 < length → length ≤ search.i → length ≤ maxNgram →
          ¬ PrefixEnds tokens length search.i := by
        intro length someLength within bounded ends
        obtain ⟨shorter, rfl⟩ := Nat.exists_eq_add_of_lt someLength
        rw [Nat.zero_add] at ends within bounded
        have atMost := holds.candidates shorter bounded within ends
        have notSame := notExtended shorter ends
        omega
      rw [if_neg someLps]
      refine ⟨_, rfl, ⟨Nat.le_add_left 1 search.i, inRange, holds.tableLength, ?_, ?_, capped, ?_, ?_, ?_, ?_⟩, ?_⟩
      · intro index below
        have isBelow : index < min (search.i + 1) maxNgram := below
        by_cases before : index < search.i
        · exact holds.known index (by omega)
        · obtain rfl : index = search.i := by omega
          refine ⟨0, holds.fresh _ (le_refl _) (by omega), Nat.zero_le _, prefixEnds_zero inRange, ?_⟩
          intro other within ends
          by_contra some
          exact noneEnds other (by omega) within (by omega) ends
      · intro index above below
        exact holds.fresh index (Nat.le_of_succ_le above) below
      · show PrefixEnds tokens search.prevLps search.i
        rw [noLps]
        exact prefixEnds_zero inRange
      · show search.prevLps < search.i + 1
        omega
      · intro length bounded within ends
        have here := (prefixEnds_succ.mp ends).1
        have isWithin : length + 1 ≤ search.i + 1 := within
        by_contra some
        exact noneEnds length (by omega) (by omega) (by omega) here
      · obtain ⟨none_longer, found⟩ := holds.best
        constructor
        · intro index below length someLength within bounded ends
          rcases Nat.lt_succ_iff_lt_or_eq.mp below with before | rfl
          · exact none_longer index before length someLength within bounded ends
          · exact absurd ends (noneEnds length someLength within bounded)
        · intro notZero
          obtain ⟨isBounded, within, before, ends⟩ := found notZero
          exact ⟨isBounded, within, before.trans (Nat.lt_succ_self _), ends⟩
      · show 2 * (tokens.length - (search.i + 1)) + search.prevLps < 2 * (tokens.length - search.i) + search.prevLps
        omega

theorem NgramSearch.Invariant.loop [DecidableEq τ] {fuel : Nat}
    (enough : search.remaining tokens ≤ fuel) :
    ∃ last, NgramSearch.loop tokens maxNgram fuel search = some (.ok last) ∧ last.Invariant tokens maxNgram ∧
      last.i = tokens.length := by
  induction fuel generalizing search with
  | zero =>
    have isEnd : search.i = tokens.length := by
      have inTokens := holds.inTokens
      have noneLeft : 2 * (tokens.length - search.i) + search.prevLps ≤ 0 := enough
      omega
    exact ⟨search, if_neg isEnd.ge.not_gt, holds, isEnd⟩
  | succ fuel ih =>
    rw [NgramSearch.loop]
    by_cases inRange : search.i < tokens.length
    · obtain ⟨next, isNext, kept, less⟩ := holds.body inRange
      rw [if_pos inRange, isNext]
      exact ih kept (Nat.le_of_lt_succ (less.trans_le enough))
    · rw [if_neg inRange]
      exact ⟨search, rfl, holds, Nat.le_antisymm holds.inTokens (Nat.not_lt.mp inRange)⟩

end

/-! ## The proposal -/

/-- The last tokens of a sequence occur at an earlier position, and end before its end. -/
def Occurs (tokens : List τ) (length position : Nat) : Prop :=
  position + length < tokens.length ∧ ∀ j < length, tokens[position + j]? = tokens[tokens.length - length + j]?

/-- The longest n-gram that occurs earlier, and where it does first. -/
structure LongestMatch (tokens : List τ) (minNgram maxNgram length position : Nat) : Prop where
  atLeast : minNgram ≤ length
  atMost : length ≤ maxNgram
  occurs : Occurs tokens length position
  longest : ∀ longer other, length < longer → longer ≤ maxNgram → ¬ Occurs tokens longer other
  leftmost : ∀ other < position, ¬ Occurs tokens length other

/-- The up to `k` tokens behind the first occurrence of the longest n-gram, and none exactly if no
n-gram occurs. -/
def Proposal (tokens : List τ) (minNgram maxNgram k : Nat) (drafts : List τ) : Prop :=
  (∃ length position, LongestMatch tokens minNgram maxNgram length position ∧
    drafts = (tokens.drop (position + length)).take k ∧ drafts ≠ []) ∨
  (∀ length position, minNgram ≤ length → length ≤ maxNgram → ¬ Occurs tokens length position) ∧ drafts = []

theorem prefixEnds_reverse {length index : Nat} (inTokens : index < tokens.length) (within : length ≤ index) :
    PrefixEnds tokens.reverse length index ↔ Occurs tokens length (tokens.length - 1 - index) := by
  have reversed : ∀ {i : Nat}, i < tokens.length → tokens.reverse[i]? = tokens[tokens.length - 1 - i]? :=
    fun below => List.getElem?_reverse below
  constructor
  · rintro ⟨-, -, agrees⟩
    refine ⟨by omega, fun j below => ?_⟩
    have mirrored := agrees (length - 1 - j) (by omega)
    rw [reversed (by omega), reversed (by omega)] at mirrored
    rw [show tokens.length - 1 - index + j = tokens.length - 1 - (index + 1 - length + (length - 1 - j)) by omega,
      ← mirrored]
    congr 1
    omega
  · rintro ⟨-, agrees⟩
    refine ⟨by omega, by rwa [List.length_reverse], fun j below => ?_⟩
    have mirrored := agrees (length - 1 - j) (by omega)
    rw [reversed (by omega), reversed (by omega),
      show tokens.length - 1 - (index + 1 - length + j) = tokens.length - 1 - index + (length - 1 - j) by omega, mirrored]
    congr 1
    omega

theorem findLongestMatchedNgram_proposal [DecidableEq τ] {minNgram maxModelLen k fuel : Nat} (someNgram : 1 ≤ minNgram)
    (ordered : minNgram ≤ maxNgram) (someDraft : 1 ≤ k) (room : tokens.length + k ≤ maxModelLen)
    (enough : 2 * tokens.length ≤ fuel) :
    ∃ drafts, findLongestMatchedNgramAndProposeTokens fuel tokens minNgram maxNgram maxModelLen k = some (.ok drafts) ∧
      Proposal tokens minNgram maxNgram k drafts := by
  rw [findLongestMatchedNgramAndProposeTokens]
  dsimp only
  split
  next short =>
    refine ⟨[], rfl, Or.inr ⟨fun length position atLeast _ occurs => ?_, rfl⟩⟩
    have within := occurs.1
    omega
  next notShort =>
    have isRoom : min (k : Int) ((maxModelLen : Int) - tokens.length) = k := by omega
    rw [isRoom, if_neg (by omega), Int.toNat_natCast]
    have notEmpty : tokens.reverse ≠ [] := by
      intro isEmpty
      rw [List.reverse_eq_nil_iff.mp isEmpty] at notShort
      exact notShort someNgram
    have initial := NgramSearch.invariant_initial notEmpty (someNgram.trans ordered)
    have enoughSteps : (NgramSearch.initial maxNgram).remaining tokens.reverse ≤ fuel := by
      show 2 * (tokens.reverse.length - 1) + 0 ≤ fuel
      rw [List.length_reverse]
      omega
    obtain ⟨last, ran, holds, isEnd⟩ := initial.loop enoughSteps
    obtain ⟨none_longer, found⟩ := holds.best
    rw [isEnd, List.length_reverse] at none_longer found
    have bounded : ∀ length position, 0 < length → length ≤ maxNgram → Occurs tokens length position →
        length < last.longestNgram ∨ length = last.longestNgram ∧ tokens.length - 1 - position ≤ last.position := by
      intro length position someLength atMost occurs
      have within := occurs.1
      apply none_longer (tokens.length - 1 - position) (by omega) length someLength (by omega) atMost
      rw [prefixEnds_reverse (by omega) (by omega)]
      rwa [show tokens.length - 1 - (tokens.length - 1 - position) = position by omega]
    rw [ran]
    show ∃ drafts, some (Except.ok (if last.longestNgram < minNgram then [] else _)) = some (.ok drafts) ∧ _
    by_cases none : last.longestNgram < minNgram
    · rw [if_pos none]
      refine ⟨[], rfl, Or.inr ⟨fun length position atLeast atMost occurs => ?_, rfl⟩⟩
      have atMostLongest := bounded length position (by omega) atMost occurs
      omega
    · rw [if_neg none]
      obtain ⟨atMost, within, before, ends⟩ := found (by omega)
      refine ⟨_, rfl, Or.inl ⟨last.longestNgram, tokens.length - 1 - last.position, ⟨by omega, atMost, ?_, ?_, ?_⟩, ?_, ?_⟩⟩
      · exact (prefixEnds_reverse before within).mp ends
      · intro longer other isLonger longerAtMost occurs
        have atMostLongest := bounded longer other (by omega) longerAtMost occurs
        omega
      · intro other earlier occurs
        have atMostLongest := bounded last.longestNgram other (by omega) atMost occurs
        omega
      · rw [← List.length_drop, ← List.take_eq_take_min]
      · intro isEmpty
        have noLength := congrArg List.length isEmpty
        rw [List.length_take, List.length_drop, List.length_nil] at noLength
        omega

end

end DeepSpark
