import Mathlib

/-!
Scanners of a text that arrives in pieces.

Owns the scanners that anchored regular expressions without choice points come to, and that what such a
scanner has read it reads from every longer text, and consumers of a text for which it does not matter how it is cut.
-/

namespace DeepSpark.Lib

variable {α β γ : Type} [DecidableEq α]

/-- A scanner reads a value off the front of a text, or fails; it leaves the rest. -/
abbrev Scanner (α β : Type) := List α → Option (β × List α)

namespace Scanner

def Stable (scan : Scanner α β) : Prop :=
  ∀ ⦃text value rest⦄, scan text = some (value, rest) →
    ∀ more, scan (text ++ more) = some (value, rest ++ more)

def Keeps (scan : Scanner α β) : Prop :=
  ∀ ⦃text value rest⦄, scan text = some (value, rest) → rest <:+ text

def Reads (scan : Scanner α β) : Prop :=
  ∀ ⦃text value rest⦄, scan text = some (value, rest) → rest.length < text.length

def andThen (first : Scanner α β) (next : β → Scanner α γ) : Scanner α γ := fun text =>
  (first text).bind fun entry => next entry.1 entry.2

def literal (tag : List α) : Scanner α Unit := fun text =>
  if tag <+: text then some ((), text.drop tag.length) else none

def afterBlanks (isBlank : α → Bool) (atLeast : Nat) (tag : List α) : Scanner α Unit := fun text =>
  if atLeast ≤ (text.takeWhile isBlank).length then literal tag (text.dropWhile isBlank) else none

def upTo (mark : α) : Scanner α (List α) := fun text =>
  match text.takeWhile (· ≠ mark), text.dropWhile (· ≠ mark) with
  | first :: others, _ :: rest => some (first :: others, rest)
  | _, _ => none

def oneOf (tags : List (List α)) : Scanner α (List α) := fun text =>
  (tags.find? fun tag => tag <+: text).map fun tag => (tag, text.drop tag.length)

/-! ## Composition -/

omit [DecidableEq α] in
theorem Stable.andThen {first : Scanner α β} {next : β → Scanner α γ} (firstStable : first.Stable)
    (nextStable : ∀ value, (next value).Stable) : (first.andThen next).Stable := by
  intro text value rest read more
  obtain ⟨⟨found, left⟩, readFirst, readNext⟩ := Option.bind_eq_some_iff.mp read
  rw [Scanner.andThen, firstStable readFirst more]
  exact nextStable found readNext more

omit [DecidableEq α] in
theorem Keeps.andThen {first : Scanner α β} {next : β → Scanner α γ} (firstKeeps : first.Keeps)
    (nextKeeps : ∀ value, (next value).Keeps) : (first.andThen next).Keeps := by
  intro text value rest read
  obtain ⟨⟨found, left⟩, readFirst, readNext⟩ := Option.bind_eq_some_iff.mp read
  exact (nextKeeps found readNext).trans (firstKeeps readFirst)

omit [DecidableEq α] in
theorem Reads.andThen {first : Scanner α β} {next : β → Scanner α γ} (firstReads : first.Reads)
    (nextKeeps : ∀ value, (next value).Keeps) : (first.andThen next).Reads := by
  intro text value rest read
  obtain ⟨⟨found, left⟩, readFirst, readNext⟩ := Option.bind_eq_some_iff.mp read
  exact (nextKeeps found readNext).length_le.trans_lt (firstReads readFirst)

omit [DecidableEq α] in
theorem stable_pure (value : β) : Stable (fun text : List α => some (value, text)) := by
  intro text found rest read more
  cases read
  rfl

omit [DecidableEq α] in
theorem keeps_pure (value : β) : Keeps (fun text : List α => some (value, text)) := by
  intro text found rest read
  cases read
  exact List.suffix_rfl

/-! ## Literals -/

theorem literal_eq_some {tag text rest : List α} : literal tag text = some ((), rest) ↔ text = tag ++ rest := by
  rw [literal]
  constructor
  · intro read
    split at read
    next isPrefix =>
      cases read
      exact (List.prefix_iff_eq_append.mp isPrefix).symm
    next => cases read
  · rintro rfl
    rw [if_pos (List.prefix_append tag rest), List.drop_left]

theorem stable_literal (tag : List α) : (literal tag).Stable := by
  intro text _ rest read more
  rw [literal_eq_some] at read ⊢
  rw [read, List.append_assoc]

theorem keeps_literal (tag : List α) : (literal tag).Keeps := by
  intro text _ rest read
  rw [literal_eq_some.mp read]
  exact List.suffix_append tag rest

theorem reads_literal {tag : List α} (nonempty : tag ≠ []) : (literal tag).Reads := by
  intro text _ rest read
  have positive := List.length_pos_iff.mpr nonempty
  rw [literal_eq_some.mp read, List.length_append]
  omega

/-- Blanks end in front of a literal that does not begin with one. -/
theorem stable_afterBlanks {isBlank : α → Bool} {head : α} {tail : List α} (notBlank : isBlank head = false)
    (atLeast : Nat) : (afterBlanks isBlank atLeast (head :: tail)).Stable := by
  intro text _ rest read more
  rw [afterBlanks] at read
  split at read
  next enough =>
    have isText : text = text.takeWhile isBlank ++ (head :: tail ++ rest) := by
      rw [← literal_eq_some.mp read, List.takeWhile_append_dropWhile]
    have blanks : ∀ item ∈ text.takeWhile isBlank, isBlank item = true := fun item member =>
      List.mem_takeWhile_imp member
    generalize text.takeWhile isBlank = lead at isText enough blanks
    have isGrown : text ++ more = lead ++ (head :: (tail ++ (rest ++ more))) := by
      rw [isText]
      simp
    rw [afterBlanks, isGrown, List.takeWhile_append_of_pos blanks, List.dropWhile_append_of_pos blanks,
      List.takeWhile_cons_of_neg (by simp [notBlank]), List.dropWhile_cons_of_neg (by simp [notBlank]),
      List.append_nil, if_pos enough, literal_eq_some]
    simp
  next => cases read

theorem keeps_afterBlanks (isBlank : α → Bool) (atLeast : Nat) (tag : List α) :
    (afterBlanks isBlank atLeast tag).Keeps := by
  intro text _ rest read
  rw [afterBlanks] at read
  split at read
  next => exact (keeps_literal tag read).trans (List.dropWhile_suffix _)
  next => cases read

theorem upTo_eq_some {mark : α} {text value rest : List α} :
    upTo mark text = some (value, rest) ↔ value ≠ [] ∧ mark ∉ value ∧ text = value ++ mark :: rest := by
  constructor
  · intro read
    rw [upTo] at read
    split at read
    next first others found left isTake isDrop =>
      cases read
      have isText := List.takeWhile_append_dropWhile (p := (· ≠ mark)) (l := text)
      have isMark := List.head?_dropWhile_not (· ≠ mark) text
      have avoids : ∀ item ∈ text.takeWhile (· ≠ mark), item ≠ mark := fun item member => by
        simpa using List.mem_takeWhile_imp member
      rw [isDrop] at isMark
      rw [isTake] at avoids
      have same : found = mark := by simpa using isMark
      rw [isTake, isDrop, same] at isText
      exact ⟨List.cons_ne_nil _ _, fun member => avoids mark member rfl, isText.symm⟩
    next => cases read
  · rintro ⟨nonempty, avoids, rfl⟩
    have areOthers : ∀ item ∈ value, decide (item ≠ mark) = true := fun item member =>
      decide_eq_true fun same => avoids (same ▸ member)
    rw [upTo, List.takeWhile_append_of_pos areOthers, List.dropWhile_append_of_pos areOthers,
      List.takeWhile_cons_of_neg (by simp), List.dropWhile_cons_of_neg (by simp), List.append_nil]
    cases value with
    | nil => exact absurd rfl nonempty
    | cons first others => rfl

theorem stable_upTo (mark : α) : (upTo mark).Stable := by
  intro text value rest read more
  rw [upTo_eq_some] at read ⊢
  refine ⟨read.1, read.2.1, ?_⟩
  rw [read.2.2, List.append_assoc, List.cons_append]

theorem keeps_upTo (mark : α) : (upTo mark).Keeps := by
  intro text value rest read
  rw [(upTo_eq_some.mp read).2.2]
  exact (List.suffix_cons mark rest).trans (List.suffix_append value _)

theorem stable_oneOf {tags : List (List α)}
    (apart : ∀ tag ∈ tags, ∀ other ∈ tags, tag <+: other → tag = other) : (oneOf tags).Stable := by
  intro text value rest read more
  obtain ⟨tag, found, isValue⟩ := Option.map_eq_some_iff.mp read
  obtain ⟨isTag, before, behind, isTags, noEarlier⟩ := List.find?_eq_some_iff_append.mp found
  have isPrefix : tag <+: text := of_decide_eq_true isTag
  have grown : tag <+: text ++ more := isPrefix.trans (List.prefix_append _ _)
  have foundGrown : (tags.find? fun other => decide (other <+: text ++ more)) = some tag := by
    refine List.find?_eq_some_iff_append.mpr ⟨decide_eq_true grown, before, behind, isTags,
      fun other member => ?_⟩
    have notEarlier : ¬other <+: text := by simpa using noEarlier other member
    have isOther : other ∈ tags := by simp [isTags, member]
    have isMember : tag ∈ tags := by simp [isTags]
    simp only [Bool.not_eq_true', decide_eq_false_iff_not]
    intro otherGrown
    rcases List.prefix_or_prefix_of_prefix otherGrown grown with shorter | longer
    · exact notEarlier (apart other isOther tag isMember shorter ▸ isPrefix)
    · exact notEarlier (apart tag isMember other isOther longer ▸ isPrefix)
  cases isValue
  rw [oneOf, foundGrown, Option.map_some, List.drop_append_of_le_length isPrefix.length_le]

theorem keeps_oneOf (tags : List (List α)) : (oneOf tags).Keeps := by
  intro text value rest read
  obtain ⟨tag, found, isValue⟩ := Option.map_eq_some_iff.mp read
  cases isValue
  exact List.drop_suffix _ _

end Scanner

/-! ## Consumers -/

section Consumers

variable {σ ε ω : Type} [Monoid ω]

def behind (before : ω) (result : Except ε (σ × ω)) : Except ε (σ × ω) :=
  result.map fun last => (last.1, before * last.2)

/-- The next step of a consumer, with what both steps put out. -/
def andFeed (first : Except ε (σ × ω)) (next : σ → Except ε (σ × ω)) : Except ε (σ × ω) :=
  first.bind fun middle => behind middle.2 (next middle.1)

theorem behind_one (result : Except ε (σ × ω)) : behind 1 result = result := by
  cases result with
  | error failure => rfl
  | ok last => exact congrArg (fun output => Except.ok (last.1, output)) (one_mul last.2)

theorem behind_behind (before later : ω) (result : Except ε (σ × ω)) :
    behind before (behind later result) = behind (before * later) result := by
  cases result with
  | error failure => rfl
  | ok last => exact congrArg (fun output => Except.ok (last.1, output)) (mul_assoc before later last.2).symm

theorem andFeed_behind (before : ω) (result : Except ε (σ × ω)) (next : σ → Except ε (σ × ω)) :
    andFeed (behind before result) next = behind before (andFeed result next) := by
  cases result with
  | error failure => rfl
  | ok last => exact (behind_behind before last.2 (next last.1)).symm

def feed (consume : σ → List α → Except ε (σ × ω)) : σ → List (List α) → Except ε (σ × ω)
  | state, [] => .ok (state, 1)
  | state, piece :: pieces => andFeed (consume state piece) fun next => feed consume next pieces

omit [DecidableEq α] in
/-- A consumer that may be stopped anywhere does not see how a text is cut. -/
theorem feed_eq_flatten {consume : σ → List α → Except ε (σ × ω)}
    (stops : ∀ state text more,
      consume state (text ++ more) = andFeed (consume state text) fun next => consume next more)
    (state : σ) {pieces : List (List α)} (nonempty : pieces ≠ []) :
    feed consume state pieces = consume state pieces.flatten := by
  induction pieces generalizing state with
  | nil => exact absurd rfl nonempty
  | cons piece pieces ih =>
    cases pieces with
    | nil =>
      rw [feed, List.flatten_cons, List.flatten_nil, List.append_nil, andFeed]
      cases consume state piece with
      | error failure => rfl
      | ok next =>
        show Except.ok (next.1, next.2 * 1) = _
        rw [mul_one]
    | cons second rest =>
      rw [feed, List.flatten_cons, stops]
      congr 1
      funext next
      exact ih next (List.cons_ne_nil _ _)

end Consumers

end DeepSpark.Lib
