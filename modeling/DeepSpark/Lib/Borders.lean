import Mathlib

/-!
Where prefixes of a word end again inside it.

Owns prefixes that end at an index, how one that ends there constrains the shorter ones, the
longest of bounded length, and the failure table of the first indices.
-/

namespace DeepSpark.Lib

variable {α : Type} {word : List α}

structure PrefixEnds (word : List α) (length index : Nat) : Prop where
  fits : length ≤ index + 1
  inWord : index < word.length
  agrees : ∀ j < length, word[j]? = word[index + 1 - length + j]?

theorem prefixEnds_zero {index : Nat} (inWord : index < word.length) : PrefixEnds word 0 index :=
  ⟨Nat.zero_le _, inWord, nofun⟩

/-- A prefix ends one later if the shorter one ends here and the next elements agree. -/
theorem prefixEnds_succ {length index : Nat} : PrefixEnds word (length + 1) (index + 1) ↔
    PrefixEnds word length index ∧ index + 1 < word.length ∧ word[length]? = word[index + 1]? := by
  constructor
  · rintro ⟨fits, inWord, agrees⟩
    refine ⟨⟨by omega, by omega, fun j below => ?_⟩, inWord, ?_⟩
    · rw [agrees j (by omega)]
      congr 1
      omega
    · rw [agrees length (Nat.lt_succ_self _)]
      congr 1
      omega
  · rintro ⟨⟨fits, -, agrees⟩, inWord, next⟩
    refine ⟨by omega, inWord, fun j below => ?_⟩
    rcases Nat.lt_succ_iff_lt_or_eq.mp below with before | rfl
    · rw [agrees j before]
      congr 1
      omega
    · rw [next]
      congr 1
      omega

theorem PrefixEnds.shorter_iff {longer shorter index : Nat} (ends : PrefixEnds word longer index)
    (shorterLe : shorter ≤ longer) (positive : 0 < longer) :
    PrefixEnds word shorter index ↔ PrefixEnds word shorter (longer - 1) := by
  obtain ⟨fits, inWord, agrees⟩ := ends
  have same : ∀ j < shorter, word[index + 1 - shorter + j]? = word[longer - 1 + 1 - shorter + j]? := by
    intro j below
    rw [show longer - 1 + 1 - shorter + j = longer - shorter + j by omega, agrees (longer - shorter + j) (by omega)]
    congr 1
    omega
  constructor
  · rintro ⟨-, -, shorterAgrees⟩
    exact ⟨by omega, by omega, fun j below => (shorterAgrees j below).trans (same j below)⟩
  · rintro ⟨-, -, shorterAgrees⟩
    exact ⟨by omega, inWord, fun j below => (shorterAgrees j below).trans (same j below).symm⟩

structure LongestEnd (word : List α) (bound index length : Nat) : Prop where
  bounded : length ≤ bound
  ends : PrefixEnds word length index
  longest : ∀ other ≤ bound, PrefixEnds word other index → other ≤ length

/-- A failure table: at each of the first indices, the longest prefix that ends there and is not
the whole word up to it. -/
def FailureTable (word : List α) (table : List Nat) (count : Nat) : Prop :=
  ∀ index < count, ∃ length, table[index]? = some length ∧ LongestEnd word index index length

theorem FailureTable.set {table : List Nat} {count value : Nat} (known : FailureTable word table count)
    (inTable : count < table.length) (isLongest : LongestEnd word count count value) :
    FailureTable word (table.set count value) (count + 1) := by
  intro index below
  rcases Nat.lt_succ_iff_lt_or_eq.mp below with before | rfl
  · rw [List.getElem?_set_ne before.ne']
    exact known index before
  · exact ⟨value, List.getElem?_set_self inTable, isLongest⟩

theorem FailureTable.mono {table : List Nat} {count fewer : Nat} (known : FailureTable word table count)
    (le : fewer ≤ count) : FailureTable word table fewer := fun index below => known index (below.trans_le le)

end DeepSpark.Lib
