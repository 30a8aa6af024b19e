import Mathlib

/-!
Units given to weighted parties one at a time, each to a party with the largest share.

Owns the counts no unit of which should have gone to another party: they are kept when a
party with the largest weight per unit gets one more, and no other counts of the same sum
have a smaller maximum of weight per unit.
-/

namespace DeepSpark.Lib

variable {ι W : Type} [DecidableEq ι] [Field W] [LinearOrder W] [IsStrictOrderedRing W]

/-- Without its last unit, every party that has one to spare would have the largest share. -/
def Apportioned (parties : Finset ι) (weight : ι → W) (counts : ι → Nat) : Prop :=
  ∀ i ∈ parties, 2 ≤ counts i → ∀ j ∈ parties, weight j / counts j ≤ weight i / (counts i - 1 : Nat)

/-- A party with the largest share gets one more unit. -/
def giveOne (counts : ι → Nat) (i : ι) : ι → Nat := Function.update counts i (counts i + 1)

variable {parties : Finset ι} {weight : ι → W} {counts other : ι → Nat}

theorem share_antitone {w : W} (nonneg : 0 ≤ w) {few many : Nat} (positive : 0 < few) (le : few ≤ many) :
    w / many ≤ w / few :=
  div_le_div_of_nonneg_left nonneg (Nat.cast_pos.mpr positive) (Nat.cast_le.mpr le)

theorem sum_giveOne {i : ι} (isParty : i ∈ parties) : ∑ j ∈ parties, giveOne counts i j = ∑ j ∈ parties, counts j + 1 := by
  have others : ∑ j ∈ parties.erase i, giveOne counts i j = ∑ j ∈ parties.erase i, counts j :=
    Finset.sum_congr rfl fun j isOther => Function.update_of_ne (Finset.ne_of_mem_erase isOther) _ _
  rw [← Finset.add_sum_erase _ _ isParty, ← Finset.add_sum_erase _ counts isParty, others, giveOne, Function.update_self]
  omega

theorem Apportioned.giveOne (apportioned : Apportioned parties weight counts) (nonneg : ∀ i ∈ parties, 0 ≤ weight i)
    (positive : ∀ i ∈ parties, 1 ≤ counts i) {largest : ι}
    (isLargest : ∀ j ∈ parties, weight j / counts j ≤ weight largest / counts largest) :
    Apportioned parties weight (giveOne counts largest) := by
  -- every share only falls
  have falls : ∀ j ∈ parties, weight j / (Lib.giveOne counts largest j : Nat) ≤ weight j / counts j := by
    intro j isParty
    apply share_antitone (nonneg j isParty) (positive j isParty)
    by_cases isSame : j = largest
    · rw [isSame, Lib.giveOne, Function.update_self]
      omega
    · rw [Lib.giveOne, Function.update_of_ne isSame]
  intro i isParty spare j isOther
  refine (falls j isOther).trans ?_
  by_cases isSame : i = largest
  · rw [isSame, Lib.giveOne, Function.update_self, Nat.add_sub_cancel]
    exact isLargest j isOther
  · rw [Lib.giveOne, Function.update_of_ne isSame] at spare ⊢
    exact apportioned i isParty spare j isOther

omit [DecidableEq ι] in
/-- Apportioned counts have the smallest maximum of weight per unit among all counts of their sum. -/
theorem Apportioned.le_of_sum_eq (apportioned : Apportioned parties weight counts) (nonneg : ∀ i ∈ parties, 0 ≤ weight i)
    (positive : ∀ i ∈ parties, 1 ≤ other i) (sameSum : ∑ i ∈ parties, other i = ∑ i ∈ parties, counts i)
    {bound : W} (isBound : ∀ j ∈ parties, weight j / other j ≤ bound) {i : ι} (isParty : i ∈ parties) :
    weight i / counts i ≤ bound := by
  by_cases few : other i ≤ counts i
  · exact (share_antitone (nonneg i isParty) (positive i isParty) few).trans (isBound i isParty)
  · -- more for one party is less for another, whose last unit was not better placed
    obtain ⟨j, isOther, fewer⟩ : ∃ j ∈ parties, other j < counts j := by
      by_contra none
      push Not at none
      have more : ∑ j ∈ parties, counts j < ∑ j ∈ parties, other j :=
        Finset.sum_lt_sum none ⟨i, isParty, by omega⟩
      omega
    have spare : 2 ≤ counts j := (Nat.succ_le_succ (positive j isOther)).trans fewer
    calc weight i / counts i
        ≤ weight j / (counts j - 1 : Nat) := apportioned j isOther spare i isParty
      _ ≤ weight j / other j := share_antitone (nonneg j isOther) (positive j isOther) (by omega)
      _ ≤ bound := isBound j isOther

omit [DecidableEq ι] in
theorem Apportioned.sup'_le (apportioned : Apportioned parties weight counts) (nonneg : ∀ i ∈ parties, 0 ≤ weight i)
    (positive : ∀ i ∈ parties, 1 ≤ other i) (sameSum : ∑ i ∈ parties, other i = ∑ i ∈ parties, counts i)
    (nonempty : parties.Nonempty) :
    parties.sup' nonempty (fun i => weight i / counts i) ≤ parties.sup' nonempty fun i => weight i / other i :=
  Finset.sup'_le _ _ fun _ isParty => apportioned.le_of_sum_eq nonneg positive sameSum
    (fun _ isOther => Finset.le_sup' (fun i => weight i / other i) isOther) isParty

end DeepSpark.Lib
