import DeepSpark.Lib.Occurrences

/-!
Tags in a text that arrives in pieces.

Owns the longest end of a text that begins a tag, that this end is all of the text that later
pieces need, where the first occurrence of a tag is found, and texts in which a tag cannot start.
-/

namespace DeepSpark.Lib

open List

variable {α : Type} [DecidableEq α] {text held more tag : List α}

/-! ## The end of a text that begins a tag -/

/-- The length of the longest proper beginning of `tag` with which `text` ends. -/
def tagOverlap (text tag : List α) : Nat :=
  Nat.findGreatest (fun length => tag.take length <:+ text) (min (tag.length - 1) text.length)

theorem tagOverlap_le (text tag : List α) : tagOverlap text tag ≤ text.length :=
  (Nat.findGreatest_le _).trans (Nat.min_le_right _ _)

theorem tagOverlap_lt (nonempty : tag ≠ []) (text : List α) : tagOverlap text tag < tag.length := by
  have bounded := (Nat.findGreatest_le (P := fun length => tag.take length <:+ text)
    (min (tag.length - 1) text.length)).trans (Nat.min_le_left _ _)
  have positive := length_pos_iff.mpr nonempty
  exact lt_of_le_of_lt bounded (by omega)

theorem take_tagOverlap (text tag : List α) : tag.take (tagOverlap text tag) <:+ text :=
  Nat.findGreatest_spec (P := fun length => tag.take length <:+ text) (Nat.zero_le _)
    (by rw [take_zero]; exact nil_suffix)

theorem le_tagOverlap {length : Nat} (isProper : length < tag.length) (ends : tag.take length <:+ text) :
    length ≤ tagOverlap text tag := by
  have short := ends.length_le
  rw [length_take, Nat.min_eq_left isProper.le] at short
  exact Nat.le_findGreatest (by omega) ends

/-- The part of a text that may still begin the tag is all that later text is searched with. -/
theorem tagOverlap_held (nonempty : tag ≠ []) (isEnd : held <:+ text) (isHeld : held.length = tagOverlap text tag)
    (more : List α) : tagOverlap (held ++ more) tag = tagOverlap (text ++ more) tag := by
  have grown : held ++ more <:+ text ++ more := suffix_append_self_iff.mpr isEnd
  apply Nat.le_antisymm
  · exact le_tagOverlap (tagOverlap_lt nonempty _) ((take_tagOverlap _ _).trans grown)
  · have isProper := tagOverlap_lt nonempty (text ++ more)
    refine le_tagOverlap isProper (suffix_of_suffix_length_le (take_tagOverlap _ _) grown ?_)
    rw [length_take, Nat.min_eq_left isProper.le, length_append, isHeld]
    -- what reaches into `text` begins the tag there
    by_cases inMore : tagOverlap (text ++ more) tag ≤ more.length
    · omega
    · have starts : tag.take (tagOverlap (text ++ more) tag - more.length) <:+ text := by
        obtain ⟨before, isText⟩ := take_tagOverlap (text ++ more) tag
        have cut := congrArg (fun all => all.take text.length) isText
        have lengths := congrArg List.length isText
        rw [length_append, length_take, Nat.min_eq_left isProper.le, length_append] at lengths
        rw [take_left, take_append, take_of_length_le (by omega), take_take,
          Nat.min_eq_left (by omega)] at cut
        have isLeft : text.length - before.length = tagOverlap (text ++ more) tag - more.length := by omega
        exact ⟨before, isLeft ▸ cut⟩
      have bounded := le_tagOverlap (by omega) starts
      omega

/-! ## Where a tag cannot start -/

/-- Wherever the tag would start in `text`, the two differ before either of them ends. -/
def Clashes (text tag : List α) : Prop :=
  ∀ start < text.length, ∃ index < min (text.length - start) tag.length, text[start + index]? ≠ tag[index]?

instance (text tag : List α) : Decidable (Clashes text tag) := by
  unfold Clashes
  infer_instance

omit [DecidableEq α] in
theorem Clashes.not_prefix (clashes : Clashes text tag) {start : Nat} (inside : start < text.length) :
    ¬ tag <+: text.drop start ++ more := by
  intro isPrefix
  obtain ⟨index, isIndex, differ⟩ := clashes start inside
  have inTag : index < tag.length := by omega
  have same := prefix_iff_getElem?.mp isPrefix index inTag
  rw [getElem?_append_left (by rw [length_drop]; omega), getElem?_drop] at same
  exact differ (same.trans (getElem?_eq_getElem inTag).symm)

omit [DecidableEq α] in
theorem infix_iff_drop : tag <:+: text ↔ ∃ start ≤ text.length, tag <+: text.drop start := by
  rw [infix_iff_prefix_suffix]
  constructor
  · rintro ⟨rest, isPrefix, isSuffix⟩
    rw [suffix_iff_eq_drop] at isSuffix
    exact ⟨_, Nat.sub_le _ _, isSuffix ▸ isPrefix⟩
  · rintro ⟨start, -, isPrefix⟩
    exact ⟨_, isPrefix, drop_suffix start text⟩

omit [DecidableEq α] in
theorem Clashes.infix_append (clashes : Clashes text tag) : tag <:+: text ++ more ↔ tag <:+: more := by
  refine ⟨fun occurs => ?_, infix_append_of_infix_right⟩
  obtain ⟨start, -, isPrefix⟩ := infix_iff_drop.mp occurs
  rw [drop_append] at isPrefix
  by_cases inside : start < text.length
  · rw [Nat.sub_eq_zero_of_le inside.le, drop_zero] at isPrefix
    exact absurd isPrefix (clashes.not_prefix inside)
  · rw [drop_of_length_le (by omega), nil_append] at isPrefix
    exact isPrefix.isInfix.trans (drop_suffix _ _).isInfix

theorem Clashes.tagOverlap_append (clashes : Clashes text tag) (nonempty : tag ≠ []) :
    tagOverlap (text ++ more) tag = tagOverlap more tag := by
  apply Nat.le_antisymm
  · have isProper := tagOverlap_lt nonempty (text ++ more)
    refine le_tagOverlap isProper (suffix_of_suffix_length_le (take_tagOverlap _ _) (suffix_append _ _) ?_)
    rw [length_take, Nat.min_eq_left isProper.le]
    by_contra reaches
    -- the end that begins the tag would start in `text`
    obtain ⟨before, isText⟩ := take_tagOverlap (text ++ more) tag
    have lengths := congrArg List.length isText
    rw [length_append, length_take, Nat.min_eq_left isProper.le, length_append] at lengths
    obtain ⟨index, isIndex, differ⟩ := clashes before.length (by omega)
    have same := congrArg (fun all => all[before.length + index]?) isText
    rw [getElem?_append_right (Nat.le_add_right _ _), Nat.add_sub_cancel_left,
      getElem?_append_left (by omega), getElem?_take_of_lt (by omega)] at same
    exact differ same.symm
  · exact le_tagOverlap (tagOverlap_lt nonempty _) ((take_tagOverlap _ _).trans (suffix_append _ _))

/-! ## The first occurrence -/

theorem find_eq_none : find text tag 0 = none ↔ ¬ tag <:+: text := by
  rw [find, find?_eq_none, infix_iff_drop]
  simp only [mem_range, Nat.zero_le, true_and, decide_eq_true_eq, not_exists, not_and]
  exact forall_congr' fun start => by rw [Nat.lt_succ_iff]

theorem find_eq_some {start : Nat} : find text tag 0 = some start ↔
    start ≤ text.length ∧ tag <+: text.drop start ∧ ∀ earlier < start, ¬ tag <+: text.drop earlier := by
  rw [find, find?_range_eq_some]
  simp only [mem_range, Nat.zero_le, true_and, decide_eq_true_eq, Bool.not_eq_true', decide_eq_false_iff_not,
    Nat.lt_succ_iff]
  constructor
  · rintro ⟨isPrefix, inside, first⟩
    exact ⟨inside, isPrefix, first⟩
  · rintro ⟨inside, isPrefix, first⟩
    exact ⟨isPrefix, inside, first⟩

/-- In later text the tag is found where it is found behind the part that cannot begin it. -/
theorem find_held {sent : List α} (absent : find (sent ++ held) tag 0 = none)
    (isHeld : held.length = tagOverlap (sent ++ held) tag) (more : List α) :
    find (sent ++ (held ++ more)) tag 0 = (find (held ++ more) tag 0).map (sent.length + ·) := by
  have notIn := find_eq_none.mp absent
  have later : ∀ start, tag <+: (sent ++ (held ++ more)).drop start → sent.length ≤ start := by
    intro start isPrefix
    by_contra early
    rw [← append_assoc, drop_append_of_le_length (by rw [length_append]; omega)] at isPrefix
    by_cases fits : tag.length ≤ ((sent ++ held).drop start).length
    · have inText := prefix_of_prefix_length_le isPrefix (prefix_append _ _) fits
      exact notIn (inText.isInfix.trans (drop_suffix _ _).isInfix)
    · -- an end of the text begins the tag, and it is longer than what is held
      have begins := prefix_of_prefix_length_le (prefix_append _ more) isPrefix (not_le.mp fits).le
      have isEnd : tag.take ((sent ++ held).drop start).length <:+ sent ++ held := by
        rw [← prefix_iff_eq_take.mp begins]
        exact drop_suffix _ _
      have bounded := le_tagOverlap (not_le.mp fits) isEnd
      rw [← isHeld, length_drop, length_append] at bounded
      omega
  have shifted : ∀ start, (sent ++ (held ++ more)).drop (sent.length + start) = (held ++ more).drop start :=
    fun start => drop_length_add_append start
  cases found : find (held ++ more) tag 0 with
  | none =>
    rw [Option.map_none, find_eq_none, infix_iff_drop]
    rintro ⟨start, inside, isPrefix⟩
    have behind := later start isPrefix
    obtain ⟨offset, rfl⟩ := Nat.exists_eq_add_of_le behind
    rw [shifted] at isPrefix
    exact find_eq_none.mp found (isPrefix.isInfix.trans (drop_suffix _ _).isInfix)
  | some start =>
    obtain ⟨inside, isPrefix, first⟩ := find_eq_some.mp found
    rw [Option.map_some, find_eq_some, shifted]
    refine ⟨by rw [length_append]; omega, isPrefix, fun earlier below earlierPrefix => ?_⟩
    obtain ⟨offset, rfl⟩ := Nat.exists_eq_add_of_le (later earlier earlierPrefix)
    rw [shifted] at earlierPrefix
    exact first offset (by omega) earlierPrefix

/-- A text without the tag, cut in front of the end that may begin it. -/
structure Withholds (text tag sent held : List α) : Prop where
  absent : find text tag 0 = none
  isText : text = sent ++ held
  isHeld : held.length = tagOverlap text tag

theorem exists_withholds (absent : find text tag 0 = none) : ∃ sent held, Withholds text tag sent held := by
  refine ⟨text.take (text.length - tagOverlap text tag), text.drop (text.length - tagOverlap text tag), absent,
    (take_append_drop _ _).symm, ?_⟩
  have bounded := tagOverlap_le text tag
  rw [length_drop]
  omega

section Withholds

variable {sent : List α} (withholds : Withholds text tag sent held)
include withholds

theorem Withholds.append (more : List α) : text ++ more = sent ++ (held ++ more) := by
  rw [withholds.isText, append_assoc]

theorem Withholds.finds (more : List α) :
    find (text ++ more) tag 0 = (find (held ++ more) tag 0).map (sent.length + ·) := by
  obtain ⟨absent, rfl, isHeld⟩ := withholds
  rw [append_assoc]
  exact find_held absent isHeld more

/-- Later text is withheld as behind the part that was held. -/
theorem Withholds.grow (nonempty : tag ≠ []) {others heldAfter : List α}
    (later : Withholds (held ++ more) tag others heldAfter) :
    Withholds (text ++ more) tag (sent ++ others) heldAfter where
  absent := by rw [withholds.finds, later.absent, Option.map_none]
  isText := by rw [withholds.append, later.isText, append_assoc]
  isHeld := by
    have isEnd : held <:+ text := ⟨sent, withholds.isText.symm⟩
    rw [later.isHeld, tagOverlap_held nonempty isEnd withholds.isHeld]

end Withholds

theorem find_grown {start : Nat} (found : find text tag 0 = some start) (more : List α) :
    find (text ++ more) tag 0 = some start := by
  obtain ⟨inside, isPrefix, first⟩ := find_eq_some.mp found
  rw [find_eq_some]
  refine ⟨by rw [length_append]; omega, ?_, fun earlier below earlierPrefix => ?_⟩
  · rw [drop_append_of_le_length inside]
    exact isPrefix.trans (prefix_append _ _)
  · rw [drop_append_of_le_length (by omega)] at earlierPrefix
    have fits : tag.length ≤ (text.drop earlier).length := by
      have short := isPrefix.length_le
      rw [length_drop] at short ⊢
      omega
    exact first earlier below (prefix_of_prefix_length_le earlierPrefix (prefix_append _ _) fits)

/-- A tag that cannot start inside itself is found where it is put, behind a text without it. -/
theorem find_append (once : Clashes tag.tail tag) (absent : ¬ tag <:+: text) :
    find (text ++ (tag ++ more)) tag 0 = some text.length := by
  rw [find_eq_some]
  refine ⟨by rw [length_append]; omega, ?_, fun start inside isPrefix => ?_⟩
  · rw [drop_left]
    exact prefix_append _ _
  rw [drop_append, Nat.sub_eq_zero_of_le inside.le, drop_zero] at isPrefix
  by_cases fits : tag.length ≤ (text.drop start).length
  · have inText := prefix_of_prefix_length_le isPrefix (prefix_append _ _) fits
    exact absent (infix_iff_drop.mpr ⟨start, inside.le, inText⟩)
  · -- the second occurrence starts inside the first
    rw [length_drop] at fits
    obtain ⟨index, isIndex, differ⟩ := once (text.length - start - 1) (by rw [length_tail]; omega)
    rw [length_tail] at isIndex
    have inTag : text.length - start + index < tag.length := by omega
    have same := prefix_iff_getElem?.mp isPrefix _ inTag
    rw [getElem?_append_right (by rw [length_drop]; omega), length_drop, Nat.add_sub_cancel_left,
      getElem?_append_left (by omega), ← getElem?_eq_getElem inTag] at same
    rw [getElem?_tail] at differ
    refine differ (Eq.trans (congrArg (tag[·]?) ?_) same.symm)
    omega

end DeepSpark.Lib
