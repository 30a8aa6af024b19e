import Mathlib

/-!
Sorting the positions of a row.

Owns an argsort whose order of equal entries is its own, the stable one, and the positions a
sentinel puts behind all others.
-/

namespace DeepSpark.Lib

/-- `np.argsort` of a row of a given length. -/
structure Argsort (α : Type) [LinearOrder α] where
  order : (Nat → α) → Nat → List Nat
  perm : ∀ row count, (order row count).Perm (List.range count)
  sorted : ∀ row count, (order row count).Pairwise fun i j => row i ≤ row j

variable {α : Type} [LinearOrder α]

def Argsort.stable (α : Type) [LinearOrder α] : Argsort α where
  order row count := (List.range count).insertionSort fun i j => row i ≤ row j
  perm _ _ := List.perm_insertionSort _ _
  sorted row count := by
    exact List.pairwise_insertionSort _ _

theorem filter_append_filter_not {items : List Nat} {mark : Nat → Bool}
    (marksFirst : items.Pairwise fun i j => mark j = true → mark i = true) :
    items = items.filter mark ++ items.filter fun i => !mark i := by
  induction items with
  | nil => rfl
  | cons head rest ih =>
    obtain ⟨before, later⟩ := List.pairwise_cons.mp marksFirst
    cases isMarked : mark head with
    | true =>
      rw [List.filter_cons_of_pos isMarked, List.filter_cons_of_neg (by simp [isMarked]), List.cons_append,
        ← ih later]
    | false =>
      have noneMarked : rest.filter mark = [] := by
        rw [List.filter_eq_nil_iff]
        exact fun item isItem isMark => by simp [before item isItem isMark] at isMarked
      rw [noneMarked, List.nil_append] at ih
      rw [List.filter_cons_of_neg (by simp [isMarked]), noneMarked, List.nil_append,
        List.filter_cons_of_pos (by simp [isMarked]), ← ih later]

/-- With a sentinel for the positions outside a mask, those in the mask come first, in order. -/
theorem Argsort.order_masked (argsort : Argsort Nat) (mask : Nat → Bool) {count sentinel : Nat} (above : count < sentinel) :
    ∃ rest, argsort.order (fun index => if mask index then index else sentinel) count =
      (List.range count).filter mask ++ rest := by
  have perm := argsort.perm (fun index => if mask index then index else sentinel) count
  have sorted := argsort.sorted (fun index => if mask index then index else sentinel) count
  generalize argsort.order (fun index => if mask index then index else sentinel) count = order at perm sorted ⊢
  have below : ∀ index ∈ order, index < count := fun index isIndex => List.mem_range.mp (perm.mem_iff.mp isIndex)
  have marksFirst : order.Pairwise fun i j => mask j = true → mask i = true := by
    refine sorted.imp_of_mem fun {i j} _ isLater ordered isMarked => ?_
    by_contra notMarked
    rw [if_neg notMarked, if_pos isMarked] at ordered
    exact absurd (below j isLater) (by omega)
  refine ⟨order.filter fun index => !mask index, ?_⟩
  have sameMarked : order.filter mask = (List.range count).filter mask := by
    refine @List.Perm.eq_of_pairwise Nat (· ≤ ·) _ _ (fun _ _ _ _ => Nat.le_antisymm) ?_
      (List.pairwise_le_range.filter mask) (perm.filter mask)
    rw [List.pairwise_filter]
    refine sorted.imp fun {i j} ordered isFirst isSecond => ?_
    rwa [if_pos isFirst, if_pos isSecond] at ordered
  rw [← sameMarked]
  exact filter_append_filter_not marksFirst

end DeepSpark.Lib
