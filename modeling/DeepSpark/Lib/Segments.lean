import Mathlib

/-!
Segments laid end to end.

Owns where an entry of a part stands in the concatenation of all parts, for parts given by a
function of the items of a list, and that a place belongs to one segment.
-/

namespace DeepSpark.Lib

/-- Where an entry of a part stands in the concatenation. -/
theorem getElem?_flatMap_place {α β : Type} (part : α → List β) (before behind : List α) (item : α) {offset : Nat}
    (inPart : offset < (part item).length) :
    ((before ++ item :: behind).flatMap part)[(before.map fun other => (part other).length).sum + offset]? =
      (part item)[offset]? := by
  have isStart : (before.map fun other => (part other).length).sum = (before.flatMap part).length :=
    List.length_flatMap.symm
  rw [isStart, List.flatMap_append, List.getElem?_append_right (Nat.le_add_right _ _), Nat.add_sub_cancel_left,
    List.flatMap_cons, List.getElem?_append_left inPart]

section

variable {α : Type} {size : α → Nat}

/-- A place is in the segment of one item. -/
theorem segment_unique {before behind otherBefore otherBehind : List α} {item other : α} {offset otherOffset : Nat}
    (isSplit : before ++ item :: behind = otherBefore ++ other :: otherBehind) (inSegment : offset < size item)
    (inOther : otherOffset < size other)
    (same : (before.map size).sum + offset = (otherBefore.map size).sum + otherOffset) :
    item = other ∧ offset = otherOffset := by
  let part (entry : α) : List (α × Nat) := (List.range (size entry)).map (Prod.mk entry)
  have isSize : ∀ entry, (part entry).length = size entry := fun entry => by
    rw [List.length_map, List.length_range]
  have isPair : ∀ entry place, place < size entry → (part entry)[place]? = some (entry, place) := by
    intro entry place inRange
    rw [List.getElem?_map, List.getElem?_range inRange, Option.map_some]
  have place := getElem?_flatMap_place part before behind item (isSize item ▸ inSegment)
  have otherPlace := getElem?_flatMap_place part otherBefore otherBehind other (isSize other ▸ inOther)
  simp only [isSize] at place otherPlace
  rw [isSplit, same, otherPlace, isPair _ _ inSegment, isPair _ _ inOther] at place
  obtain ⟨rfl, rfl⟩ := Prod.mk.inj (Option.some.inj place)
  exact ⟨rfl, rfl⟩

variable (size) in
theorem segment_end_le (before behind : List α) (item : α) :
    (before.map size).sum + size item ≤ ((before ++ item :: behind).map size).sum := by
  rw [List.map_append, List.sum_append, List.map_cons, List.sum_cons]
  omega

end

end DeepSpark.Lib
