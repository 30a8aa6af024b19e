import DeepSpark.Lib.Launch

/-!
Lists cut into rows of one length.

Owns rounded-up division as a number of rows, spans in a row, and concatenations that go together part
by part.
-/

namespace DeepSpark.Lib

theorem cdiv_le_iff {count size rows : Nat} (positive : 0 < size) :
    cdiv count size ≤ rows ↔ count ≤ rows * size := by
  rw [← not_lt, lt_cdiv_iff positive, not_lt]

theorem le_cdiv_mul (count : Nat) {size : Nat} (positive : 0 < size) :
    count ≤ cdiv count size * size :=
  (cdiv_le_iff positive).mp le_rfl

theorem flatMap_spans {bound : Nat → Nat} (mono : Monotone bound) (count : Nat) :
    (List.range count).flatMap (fun r => List.range' (bound r) (bound (r + 1) - bound r)) =
      List.range' (bound 0) (bound count - bound 0) := by
  induction count with
  | zero => simp
  | succ count ih =>
    have first := mono (Nat.zero_le count)
    have next : bound count ≤ bound (count + 1) := mono (Nat.le_succ count)
    have isStart : bound count = bound 0 + (bound count - bound 0) := by omega
    have isLength : bound (count + 1) - bound 0 = bound count - bound 0 + (bound (count + 1) - bound count) := by
      omega
    rw [List.range_succ, List.flatMap_append, ih, List.flatMap_singleton, isLength,
      ← List.range'_append_1, ← isStart]

theorem flatten_shards {α : Type} (rows : List α) (size count : Nat) :
    ((List.range count).map fun rank => (rows.drop (rank * size)).take size).flatten = rows.take (count * size) := by
  induction count with
  | zero => simp
  | succ count ih =>
    rw [List.range_succ, List.map_append, List.flatten_append, ih, Nat.succ_mul, List.take_add]
    simp

/-- Two concatenations whose parts are as long as each other go together part by part. -/
theorem mem_zip_flatMap {α β γ : Type} {left : γ → List α} {right : γ → List β} {sources : List γ}
    (sameLength : ∀ source ∈ sources, (left source).length = (right source).length) {entry : α × β} :
    entry ∈ (sources.flatMap left).zip (sources.flatMap right) ↔
      ∃ source ∈ sources, entry ∈ (left source).zip (right source) := by
  induction sources with
  | nil => simp
  | cons source rest ih =>
    rw [List.forall_mem_cons] at sameLength
    rw [List.flatMap_cons, List.flatMap_cons, List.zip_append sameLength.1, List.mem_append,
      ih sameLength.2, List.exists_mem_cons_iff]

end DeepSpark.Lib
