import Mathlib

/-!
Python's `heapq` on lists.

Owns the four functions over an arbitrary comparison, and that each of them only
rearranges: a heap holds the items pushed and not popped, whatever the comparison
does. Order is not claimed here, since the comparison may read mutable state.
-/

namespace DeepSpark.Lib.Heapq

variable {α : Type} (lt : α → α → Bool)

/-- Exchange two positions; positions outside the list leave it as it is. -/
def swap (heap : List α) (left right : Nat) : List α :=
  match heap[left]?, heap[right]? with
  | some leftItem, some rightItem => (heap.set left rightItem).set right leftItem
  | _, _ => heap

/-- `_siftdown`: the item at `pos` moves towards `startPos` past larger parents. -/
def siftdown (startPos : Nat) : Nat → List α → Nat → List α
  | 0, heap, _ => heap
  | fuel + 1, heap, pos =>
    if pos > startPos then
      let parentPos := (pos - 1) / 2
      match heap[pos]?, heap[parentPos]? with
      | some newItem, some parent =>
        if lt newItem parent then siftdown startPos fuel (swap heap pos parentPos) parentPos
        else heap
      | _, _ => heap
    else heap

/-- The smaller child of `_siftup`: the right one unless the left one is less. -/
def smallerChild (heap : List α) (childPos : Nat) : Nat :=
  match heap[childPos]?, heap[childPos + 1]? with
  | some left, some right => if lt left right then childPos else childPos + 1
  | _, _ => childPos

/-- The descent of `_siftup` to a leaf; it returns the position reached. -/
def descend : Nat → List α → Nat → List α × Nat
  | 0, heap, pos => (heap, pos)
  | fuel + 1, heap, pos =>
    let childPos := 2 * pos + 1
    if childPos < heap.length then
      let childPos := smallerChild lt heap childPos
      descend fuel (swap heap pos childPos) childPos
    else (heap, pos)

/-- `_siftup`: the smaller children move up, then the item is sifted down from
the leaf. -/
def siftup (heap : List α) (pos : Nat) : List α :=
  let (heap, leaf) := descend lt heap.length heap pos
  siftdown lt pos heap.length heap leaf

def heappush (heap : List α) (item : α) : List α :=
  siftdown lt 0 (heap.length + 1) (heap ++ [item]) heap.length

def heappop (heap : List α) : Option (α × List α) :=
  match heap.getLast?, heap.dropLast with
  | none, _ => none
  | some lastItem, [] => some (lastItem, [])
  | some lastItem, returnItem :: rest => some (returnItem, siftup lt (lastItem :: rest) 0)

def heapify (heap : List α) : List α :=
  (List.range (heap.length / 2)).reverse.foldl (siftup lt) heap

/-! ## Rearrangement -/

theorem swap_perm (heap : List α) (left right : Nat) : (swap heap left right).Perm heap := by
  unfold swap
  split
  next leftItem rightItem leftRead rightRead =>
    obtain ⟨leftBelow, rfl⟩ := List.getElem?_eq_some_iff.mp leftRead
    obtain ⟨rightBelow, rfl⟩ := List.getElem?_eq_some_iff.mp rightRead
    exact List.set_set_perm leftBelow rightBelow
  next => exact List.Perm.refl heap

theorem siftdown_perm (startPos fuel : Nat) (heap : List α) (pos : Nat) :
    (siftdown lt startPos fuel heap pos).Perm heap := by
  induction fuel generalizing heap pos with
  | zero => exact List.Perm.refl heap
  | succ fuel ih =>
    rw [siftdown]
    split
    · dsimp only
      split
      · split
        · exact (ih _ _).trans (swap_perm heap _ _)
        · exact List.Perm.refl heap
      · exact List.Perm.refl heap
    · exact List.Perm.refl heap

theorem descend_perm (fuel : Nat) (heap : List α) (pos : Nat) :
    (descend lt fuel heap pos).1.Perm heap := by
  induction fuel generalizing heap pos with
  | zero => exact List.Perm.refl heap
  | succ fuel ih =>
    rw [descend]
    split
    · exact (ih _ _).trans (swap_perm heap _ _)
    · exact List.Perm.refl heap

theorem siftup_perm (heap : List α) (pos : Nat) : (siftup lt heap pos).Perm heap :=
  (siftdown_perm lt pos _ _ _).trans (descend_perm lt heap.length heap pos)

theorem heappush_perm (heap : List α) (item : α) :
    (heappush lt heap item).Perm (item :: heap) :=
  (siftdown_perm lt 0 _ _ _).trans (List.perm_append_singleton item heap)

theorem heappop_perm {heap rest : List α} {item : α} (popped : heappop lt heap = some (item, rest)) :
    heap.Perm (item :: rest) := by
  rcases List.eq_nil_or_concat heap with rfl | ⟨front, lastItem, rfl⟩
  · cases popped
  · rw [List.concat_eq_append] at popped ⊢
    unfold heappop at popped
    rw [List.getLast?_concat, List.dropLast_concat] at popped
    cases front with
    | nil =>
      cases popped
      exact List.Perm.refl _
    | cons first middle =>
      cases popped
      have sifted := siftup_perm lt (lastItem :: middle) 0
      exact ((List.perm_append_singleton lastItem middle).trans sifted.symm).cons _

theorem heappop_eq_none {heap : List α} : heappop lt heap = none ↔ heap = [] := by
  rcases List.eq_nil_or_concat heap with rfl | ⟨front, lastItem, rfl⟩
  · exact ⟨fun _ => rfl, fun _ => rfl⟩
  · rw [List.concat_eq_append]
    unfold heappop
    rw [List.getLast?_concat, List.dropLast_concat]
    cases front <;> simp

theorem heapify_perm (heap : List α) : (heapify lt heap).Perm heap := by
  have fold : ∀ (positions : List Nat) (current : List α),
      (positions.foldl (siftup lt) current).Perm current := by
    intro positions
    induction positions with
    | nil => exact List.Perm.refl
    | cons pos rest ih =>
      exact fun current => (ih _).trans (siftup_perm lt current pos)
  exact fold _ heap

end DeepSpark.Lib.Heapq
