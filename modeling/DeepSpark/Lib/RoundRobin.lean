import Mathlib

/-!
Items dealt round-robin in runs of equal length.

Owns the rank an item is dealt to, the closed formula for the number of items a rank has
among the first ones, and that an item stands in its rank at the number of items before it.
-/

namespace DeepSpark.Lib

variable {ranks run rank item count : Nat}

def dealtTo (ranks run item : Nat) : Nat := item / run % ranks

/-- The number of items a rank has among the first `count`. -/
def dealtBefore (ranks run rank count : Nat) : Nat :=
  count / (ranks * run) * run + min (count % (ranks * run) - rank * run) run

theorem dealtTo_lt (positive : 0 < ranks) : dealtTo ranks run item < ranks := Nat.mod_lt _ positive

/-- The quotient of a row-major index is its row. -/
theorem div_of_place {row width column : Nat} (inRow : column < width) : (row * width + column) / width = row := by
  rw [Nat.mul_comm, Nat.mul_add_div ((Nat.zero_le _).trans_lt inRow), Nat.div_eq_of_lt inRow, Nat.add_zero]

theorem mod_of_place {row width column : Nat} (inRow : column < width) :
    (row * width + column) % width = column := by
  rw [Nat.mul_comm, Nat.mul_add_mod, Nat.mod_eq_of_lt inRow]

/-- An item by its round, its rank and its place in the run. -/
theorem dealtTo_place {round owner place : Nat} (isOwner : owner < ranks) (inRun : place < run) :
    dealtTo ranks run ((round * ranks + owner) * run + place) = owner := by
  rw [dealtTo, div_of_place inRun, mod_of_place isOwner]

/-- In a round, the ranks before that of the item have their run, the rank itself has the
items before it, and the ranks behind have none yet. -/
theorem dealtBefore_place {round owner place : Nat} (isOwner : owner < ranks) (inRun : place < run) :
    dealtBefore ranks run rank ((round * ranks + owner) * run + place) =
      round * run + if owner < rank then 0 else if owner = rank then place else run := by
  have inRound : owner * run + place < ranks * run := by
    calc owner * run + place
        < (owner + 1) * run := by rw [Nat.add_mul, Nat.one_mul]; exact Nat.add_lt_add_left inRun _
      _ ≤ ranks * run := Nat.mul_le_mul_right run isOwner
  have split : (round * ranks + owner) * run + place = round * (ranks * run) + (owner * run + place) := by
    ring
  rw [dealtBefore, split, div_of_place inRound, mod_of_place inRound]
  congr 1
  rcases lt_trichotomy owner rank with before | same | behind
  · have scaled : (owner + 1) * run ≤ rank * run := Nat.mul_le_mul_right run before
    rw [Nat.add_mul, Nat.one_mul] at scaled
    rw [if_pos before]
    omega
  · rw [if_neg (by omega), if_pos same, same, Nat.add_sub_cancel_left]
    exact min_eq_left inRun.le
  · have scaled : (rank + 1) * run ≤ owner * run := Nat.mul_le_mul_right run behind
    rw [Nat.add_mul, Nat.one_mul] at scaled
    rw [if_neg (by omega), if_neg (by omega)]
    omega

theorem exists_place (someRank : 0 < ranks) (someRun : 0 < run) (item : Nat) :
    ∃ round owner place, owner < ranks ∧ place < run ∧ item = (round * ranks + owner) * run + place := by
  refine ⟨item / run / ranks, item / run % ranks, item % run, Nat.mod_lt _ someRank, Nat.mod_lt _ someRun, ?_⟩
  rw [Nat.div_add_mod', Nat.div_add_mod']

section

variable (isRank : rank < ranks) (someRun : 0 < run)

include isRank someRun

/-- The next item adds one to its rank. -/
theorem dealtBefore_succ (count : Nat) :
    dealtBefore ranks run rank (count + 1) =
      dealtBefore ranks run rank count + if dealtTo ranks run count = rank then 1 else 0 := by
  have someRank : 0 < ranks := (Nat.zero_le _).trans_lt isRank
  obtain ⟨round, owner, place, isOwner, inRun, rfl⟩ := exists_place someRank someRun count
  rw [dealtBefore_place isOwner inRun, dealtTo_place isOwner inRun]
  by_cases sameRun : place + 1 < run
  · rw [Nat.add_assoc, dealtBefore_place isOwner sameRun]
    split_ifs <;> omega
  · have isLast : place + 1 = run := by omega
    by_cases sameRound : owner + 1 < ranks
    · have next : (round * ranks + owner) * run + place + 1 = (round * ranks + (owner + 1)) * run + 0 := by
        rw [Nat.add_assoc, isLast]
        ring
      rw [next, dealtBefore_place sameRound someRun]
      split_ifs <;> omega
    · have next : (round * ranks + owner) * run + place + 1 = ((round + 1) * ranks + 0) * run + 0 := by
        rw [Nat.add_assoc, isLast, show ranks = owner + 1 by omega]
        ring
      rw [next, dealtBefore_place someRank someRun, Nat.add_mul, Nat.one_mul]
      split_ifs <;> omega

theorem dealtBefore_mono {later : Nat} (le : count ≤ later) :
    dealtBefore ranks run rank count ≤ dealtBefore ranks run rank later := by
  induction later, le using Nat.le_induction with
  | base => exact le_refl _
  | succ later _ ih =>
    rw [dealtBefore_succ isRank someRun later]
    omega

/-- Two items of a rank have different numbers of items before them. -/
theorem dealtBefore_inj {other : Nat}
    (own : dealtTo ranks run item = rank) (otherOwn : dealtTo ranks run other = rank)
    (same : dealtBefore ranks run rank item = dealtBefore ranks run rank other) : item = other := by
  have after : ∀ first second, dealtTo ranks run first = rank → first < second →
      dealtBefore ranks run rank first < dealtBefore ranks run rank second := by
    intro first second isFirst before
    have next := dealtBefore_succ isRank someRun first
    rw [if_pos isFirst] at next
    have later := dealtBefore_mono isRank someRun (show first + 1 ≤ second from before)
    omega
  rcases lt_trichotomy item other with before | isSame | behind
  · have less := after item other own before
    omega
  · exact isSame
  · have less := after other item otherOwn behind
    omega

/-- The formula counts the items of a rank. -/
theorem countP_dealtTo (count : Nat) :
    (List.range count).countP (fun item => decide (dealtTo ranks run item = rank)) =
      dealtBefore ranks run rank count := by
  induction count with
  | zero => simp [dealtBefore]
  | succ count ih =>
    rw [List.range_succ, List.countP_append, ih, dealtBefore_succ isRank someRun,
      List.countP_singleton]
    simp only [decide_eq_true_eq]

theorem dealtBefore_of_dealtTo (own : dealtTo ranks run item = rank) :
    dealtBefore ranks run rank item = item / (ranks * run) * run + item % run := by
  have someRank : 0 < ranks := (Nat.zero_le _).trans_lt isRank
  obtain ⟨round, owner, place, isOwner, inRun, rfl⟩ := exists_place someRank someRun item
  rw [dealtTo_place isOwner inRun] at own
  rw [dealtBefore_place isOwner inRun, if_neg (by omega), if_pos own, Nat.mul_comm ranks run,
    ← Nat.div_div_eq_div_mul, div_of_place inRun, div_of_place isOwner, mod_of_place inRun]

end

/-- A span of `rounds` rounds restarts the deal: an item stands in its rank at the rounds of
the spans before it, and behind those of its own span, of which a rank holds `rounds * run`
items. -/
theorem dealt_span {rounds : Nat} (someRank : 0 < ranks) (someRun : 0 < run) (someRound : 0 < rounds) (item : Nat) :
    dealtTo ranks run (item % (rounds * run * ranks)) = dealtTo ranks run item ∧
      item / (ranks * run) * run + item % run = item / (rounds * run * ranks) * (rounds * run) +
        (item % (rounds * run * ranks) / (run * ranks) * run + item % (rounds * run * ranks) % run) ∧
      item % (rounds * run * ranks) / (run * ranks) * run + item % (rounds * run * ranks) % run <
        rounds * run := by
  obtain ⟨round, owner, place, isOwner, inRun, rfl⟩ := exists_place someRank someRun item
  have inSpan := Nat.mod_lt round someRound
  have isRound : round = round / rounds * rounds + round % rounds := (Nat.div_add_mod' _ _).symm
  generalize round / rounds = span at isRound
  generalize round % rounds = rest at isRound inSpan
  subst isRound
  have split : ((span * rounds + rest) * ranks + owner) * run + place =
      span * (rounds * run * ranks) + ((rest * ranks + owner) * run + place) := by
    ring
  have below : (rest * ranks + owner) * run + place < rounds * run * ranks := by
    calc (rest * ranks + owner) * run + place
        < (rest * ranks + owner + 1) * run := by rw [Nat.add_mul _ 1, Nat.one_mul]; exact Nat.add_lt_add_left inRun _
      _ ≤ (rest + 1) * ranks * run := by
          apply Nat.mul_le_mul_right
          rw [Nat.add_mul, Nat.one_mul]
          omega
      _ ≤ rounds * ranks * run := Nat.mul_le_mul_right _ (Nat.mul_le_mul_right _ inSpan)
      _ = rounds * run * ranks := by ring
  have inSpanBlock : rest * run + place < rounds * run := by
    calc rest * run + place
        < (rest + 1) * run := by rw [Nat.add_mul, Nat.one_mul]; exact Nat.add_lt_add_left inRun _
      _ ≤ rounds * run := Nat.mul_le_mul_right _ inSpan
  have quotient : ∀ round, ((round * ranks + owner) * run + place) / (run * ranks) = round := by
    intro round
    rw [← Nat.div_div_eq_div_mul, div_of_place inRun, div_of_place isOwner]
  rw [Nat.mul_comm ranks run, quotient, mod_of_place inRun, split, div_of_place below, mod_of_place below, quotient,
    mod_of_place inRun, ← split, dealtTo_place isOwner inRun, dealtTo_place isOwner inRun]
  refine ⟨rfl, ?_, inSpanBlock⟩
  ring

/-- Blocks of whole runs: an item of a rank stands in the block that covers it, at the place that its
place in the virtual block gives. -/
theorem dealtBefore_block {size : Nat} (isRank : rank < ranks) (positive : 0 < size) (divides : run ∣ size)
    (own : dealtTo ranks run item = rank) :
    dealtBefore ranks run rank item / size = item / (size * ranks) ∧
      dealtBefore ranks run rank item % size =
        item % (size * ranks) / (run * ranks) * run + item % (size * ranks) % run := by
  have someRun := Nat.pos_of_dvd_of_pos divides positive
  obtain ⟨rounds, isSize⟩ := divides
  rw [Nat.mul_comm] at isSize
  have someRound : 0 < rounds := Nat.pos_of_mul_pos_right (isSize ▸ positive)
  obtain ⟨-, isPlace, inBlock⟩ := dealt_span ((Nat.zero_le _).trans_lt isRank) someRun someRound item
  rw [← isSize] at isPlace inBlock
  rw [dealtBefore_of_dealtTo isRank someRun own, isPlace, div_of_place inBlock, mod_of_place inBlock]
  exact ⟨rfl, rfl⟩

/-- A virtual block restarts the deal. -/
theorem dealtTo_block {size : Nat} (someRank : 0 < ranks) (positive : 0 < size) (divides : run ∣ size) (item : Nat) :
    dealtTo ranks run (item % (size * ranks)) = dealtTo ranks run item := by
  have someRun := Nat.pos_of_dvd_of_pos divides positive
  obtain ⟨rounds, isSize⟩ := divides
  rw [Nat.mul_comm] at isSize
  have someRound : 0 < rounds := Nat.pos_of_mul_pos_right (isSize ▸ positive)
  rw [isSize]
  exact (dealt_span someRank someRun someRound item).1

end DeepSpark.Lib
