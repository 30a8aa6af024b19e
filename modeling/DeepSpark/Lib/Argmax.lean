import DeepSpark.Lib.Launch

/-!
The first index of a maximum, over one block and over tiles.

Owns `argmaxBelow`, the reduction of one block that breaks ties to the left, and the
two-stage reduction over tiles of a row, padded with the least value: it finds the
first maximum of the row whatever the tile size.
-/

namespace DeepSpark.Lib

variable {α : Type} [LinearOrder α]

structure IsFirstArgmax (row : Nat → α) (count index : Nat) : Prop where
  lt : index < count
  max : ∀ other < count, row other ≤ row index
  first : ∀ earlier < index, row earlier < row index

theorem IsFirstArgmax.unique {row : Nat → α} {count first second : Nat}
    (isFirst : IsFirstArgmax row count first) (isSecond : IsFirstArgmax row count second) :
    first = second := by
  rcases lt_trichotomy first second with below | same | above
  · exact absurd (isFirst.max second isSecond.lt) (not_le.mpr (isSecond.first first below))
  · exact same
  · exact absurd (isSecond.max first isFirst.lt) (not_le.mpr (isFirst.first second above))

/-- `tl.max(row, return_indices=True)` and `tl.argmax` over a block of lanes. -/
def argmaxBelow (row : Nat → α) : Nat → Nat
  | 0 => 0
  | count + 1 => if row (argmaxBelow row count) < row count then count else argmaxBelow row count

theorem argmaxBelow_isFirst (row : Nat → α) {count : Nat} (positive : 0 < count) :
    IsFirstArgmax row count (argmaxBelow row count) := by
  induction count with
  | zero => omega
  | succ count ih =>
    cases count with
    | zero =>
      have isZero : argmaxBelow row 1 = 0 := by simp [argmaxBelow]
      rw [isZero]
      refine ⟨Nat.one_pos, fun other below => ?_, fun earlier below => absurd below (by omega)⟩
      rw [show other = 0 by omega]
    | succ count =>
      obtain ⟨inRange, isMax, isFirst⟩ := ih (by omega)
      rw [argmaxBelow]
      split
      next above =>
        refine ⟨by omega, fun other below => ?_, fun earlier below => ?_⟩
        · by_cases isLast : other = count + 1
          · rw [isLast]
          · exact (isMax other (by omega)).trans above.le
        · exact (isMax earlier below).trans_lt above
      next notAbove =>
        refine ⟨by omega, fun other below => ?_, isFirst⟩
        by_cases isLast : other = count + 1
        · rw [isLast]
          exact not_lt.mp notAbove
        · exact isMax other (by omega)

/-- `np.argmin`: the first index of a minimum. -/
def argminBelow (row : Nat → α) (count : Nat) : Nat := argmaxBelow (fun index => OrderDual.toDual (row index)) count

theorem argminBelow_spec (row : Nat → α) {count : Nat} (positive : 0 < count) :
    argminBelow row count < count ∧ ∀ other < count, row (argminBelow row count) ≤ row other :=
  have isFirst := argmaxBelow_isFirst (fun index => OrderDual.toDual (row index)) positive
  ⟨isFirst.lt, fun other below => OrderDual.toDual_le_toDual.mp (isFirst.max other below)⟩

theorem argmaxBelow_congr {row other : Nat → α} {count : Nat}
    (same : ∀ index < count, row index = other index) :
    argmaxBelow row count = argmaxBelow other count := by
  induction count with
  | zero => rfl
  | succ count ih =>
    have below := ih fun index lt => same index (by omega)
    have inRange : argmaxBelow other count < count + 1 := by
      by_cases positive : 0 < count
      · exact (argmaxBelow_isFirst other positive).lt.trans (by omega)
      · rw [show count = 0 by omega, argmaxBelow]
        omega
    rw [argmaxBelow, argmaxBelow, below, same count (by omega), same _ inRange]

section

variable [OrderBot α] (row : Nat → α) (count size : Nat)

/-- One tile of a row: the lanes beyond the row load the least value. -/
def tile (block lane : Nat) : α :=
  if block * size + lane < count then row (block * size + lane) else ⊥

def tileArgmax (block : Nat) : Nat := argmaxBelow (tile row count size block) size

def tileMax (block : Nat) : α := tile row count size block (tileArgmax row count size block)

/-- The reduction over the stored maxima, padded to `padded` lanes. -/
def bestTile (padded : Nat) : Nat :=
  argmaxBelow (fun block => if block < cdiv count size then tileMax row count size block else ⊥) padded

end

variable [OrderBot α] {row : Nat → α} {count size : Nat}

/-- A tile of the row that is not empty has its first maximum inside the row. -/
private theorem tileArgmax_inRow (positive : 0 < size) {block : Nat} (inRow : block * size < count) :
    tileArgmax row count size block < size ∧ block * size + tileArgmax row count size block < count := by
  obtain ⟨inTile, -, isFirst⟩ := argmaxBelow_isFirst (tile row count size block) positive
  refine ⟨inTile, ?_⟩
  by_contra outside
  have isBot : tile row count size block (tileArgmax row count size block) = ⊥ := if_neg outside
  have laterThanFirst : 0 < tileArgmax row count size block := by omega
  have below := isFirst 0 laterThanFirst
  rw [← tileArgmax, isBot] at below
  exact not_lt_bot below

/-- Reducing each tile, and then the maxima of the tiles, finds the first maximum of
the row, for every tile size and every padding of the second stage. -/
theorem tiled_isFirst (nonempty : 0 < count) (positive : 0 < size) {padded : Nat}
    (fits : cdiv count size ≤ padded) :
    IsFirstArgmax row count (bestTile row count size padded * size +
      tileArgmax row count size (bestTile row count size padded)) := by
  set maxima : Nat → α := fun block =>
    if block < cdiv count size then tileMax row count size block else ⊥ with isMaxima
  set best := bestTile row count size padded with isBest
  have someTile : 0 < cdiv count size := (lt_cdiv_iff positive).mpr (by omega)
  obtain ⟨-, bestMax, bestFirst⟩ := argmaxBelow_isFirst maxima (someTile.trans_le fits)
  have isArgmax : argmaxBelow maxima padded = best := rfl
  rw [isArgmax] at bestMax bestFirst
  have bestInRange : best < cdiv count size := by
    by_contra outside
    have isBot : maxima best = ⊥ := if_neg outside
    have below := bestFirst 0 (by omega)
    rw [isBot] at below
    exact not_lt_bot below
  obtain ⟨inTile, inRow⟩ := @tileArgmax_inRow _ _ _ row _ _ positive _
    ((lt_cdiv_iff positive).mp bestInRange)
  have valueBest : maxima best = row (best * size + tileArgmax row count size best) := by
    rw [isMaxima]
    exact (if_pos bestInRange).trans (if_pos inRow)
  have split : ∀ index < count, index / size < cdiv count size ∧
      row index ≤ maxima (index / size) := by
    intro index below
    have isIndex : index / size * size + index % size = index := Nat.div_add_mod' index size
    have tileInRange : index / size < cdiv count size :=
      (lt_cdiv_iff positive).mpr ((Nat.div_mul_le_self index size).trans_lt below)
    have tileIsMax := (argmaxBelow_isFirst (tile row count size (index / size)) positive).max
      (index % size) (Nat.mod_lt index positive)
    have valueIndex : tile row count size (index / size) (index % size) = row index := by
      rw [tile, isIndex, if_pos below]
    refine ⟨tileInRange, ?_⟩
    rw [isMaxima]
    dsimp only
    rw [if_pos tileInRange, ← valueIndex]
    exact tileIsMax
  refine ⟨inRow, fun other below => ?_, fun earlier isEarlier => ?_⟩
  · obtain ⟨tileInRange, le⟩ := split other below
    rw [← valueBest]
    exact le.trans (bestMax _ (tileInRange.trans_le fits))
  · obtain ⟨tileInRange, le⟩ := split earlier (isEarlier.trans inRow)
    have isEarlierIndex : earlier / size * size + earlier % size = earlier :=
      Nat.div_add_mod' earlier size
    have tileLe : earlier / size ≤ best := by
      by_contra above
      have scaled : (best + 1) * size ≤ earlier / size * size := Nat.mul_le_mul_right size (by omega)
      rw [Nat.add_mul, Nat.one_mul] at scaled
      omega
    rcases tileLe.lt_or_eq with earlierTile | sameTile
    · rw [← valueBest]
      exact le.trans_lt (bestFirst _ earlierTile)
    · -- the same tile: its own reduction breaks the tie to the left
      have laneLt : earlier % size < tileArgmax row count size best := by
        rw [sameTile] at isEarlierIndex
        omega
      have tileFirst := (argmaxBelow_isFirst (tile row count size best) positive).first
        (earlier % size) laneLt
      have valueEarlier : tile row count size best (earlier % size) = row earlier := by
        rw [tile, ← sameTile, isEarlierIndex, if_pos (isEarlier.trans inRow)]
      have valueFirst : tile row count size best (argmaxBelow (tile row count size best) size) =
          row (best * size + tileArgmax row count size best) := if_pos inRow
      rw [valueEarlier, valueFirst] at tileFirst
      exact tileFirst

end DeepSpark.Lib
