import DeepSpark.Lib.Launch

/-!
Atomic updates of a device buffer.

Owns the effect of a launch whose programs combine operands into addresses in no fixed order, what
an address holds after it for additions and for bitwise ors, and tilings of a range of positions by
the blocks of a grid.
-/

namespace DeepSpark.Lib

structure Update (ι β : Type) where
  address : ι
  operand : β
deriving DecidableEq, Repr

section

variable {ι α β π : Type} [DecidableEq ι] (combine : α → β → α)

def Buffer.combined (buffer : Buffer ι α) (updates : List (Update ι β)) : Buffer ι α :=
  updates.foldl (fun buffer update => Function.update buffer update.address (combine (buffer update.address) update.operand))
    buffer

def operandsAt (address : ι) (updates : List (Update ι β)) : List β :=
  (updates.filter fun update => update.address = address).map Update.operand

/-- A launch over a grid: the updates of all programs take effect in some order. -/
def Combined (grid : List π) (updates : π → List (Update ι β)) (before after : Buffer ι α) : Prop :=
  ∃ order : List (Update ι β), order.Perm (grid.flatMap updates) ∧ after = before.combined combine order

theorem exists_combined (grid : List π) (updates : π → List (Update ι β)) (before : Buffer ι α) :
    ∃ after, Combined combine grid updates before after :=
  ⟨_, _, List.Perm.refl _, rfl⟩

variable {combine}

theorem Buffer.combined_apply (buffer : Buffer ι α) (updates : List (Update ι β)) (address : ι) :
    buffer.combined combine updates address = (operandsAt address updates).foldl combine (buffer address) := by
  induction updates generalizing buffer with
  | nil => rfl
  | cons update rest ih =>
    have tail : buffer.combined combine (update :: rest) address = (operandsAt address rest).foldl combine
        (Function.update buffer update.address (combine (buffer update.address) update.operand) address) :=
      ih _
    rw [tail, operandsAt, operandsAt, List.filter_cons]
    by_cases same : update.address = address
    · rw [if_pos (decide_eq_true same), List.map_cons, List.foldl_cons, same, Function.update_self]
    · rw [if_neg (by simpa using same), Function.update_of_ne (Ne.symm same)]

variable {grid : List π} {updates : π → List (Update ι β)} {before after : Buffer ι α}

/-- An address without an update keeps its contents. -/
theorem Combined.untouched (launched : Combined combine grid updates before after) {address : ι}
    (untouched : ∀ program ∈ grid, ∀ update ∈ updates program, update.address ≠ address) :
    after address = before address := by
  obtain ⟨order, permuted, rfl⟩ := launched
  have none : operandsAt address order = [] := by
    rw [operandsAt, List.filter_eq_nil_iff.mpr, List.map_nil]
    intro update member
    obtain ⟨program, inGrid, isUpdate⟩ := List.mem_flatMap.mp (permuted.mem_iff.mp member)
    simpa using untouched program inGrid update isUpdate
  rw [Buffer.combined_apply, none, List.foldl_nil]

end

/-! ## Additions -/

section

variable {ι π : Type} [DecidableEq ι] {grid : List π} {updates : π → List (Update ι Nat)} {before after : Buffer ι Nat}

theorem foldl_add (values : List Nat) (first : Nat) : values.foldl (· + ·) first = first + values.sum := by
  induction values generalizing first with
  | nil => rfl
  | cons value rest ih => rw [List.foldl_cons, ih, List.sum_cons, Nat.add_assoc]

theorem sum_ones {values : List Nat} (ones : ∀ value ∈ values, value = 1) : values.sum = values.length := by
  induction values with
  | nil => rfl
  | cons value rest ih =>
    rw [List.sum_cons, ones value List.mem_cons_self,
      ih fun other member => ones other (List.mem_cons_of_mem _ member), List.length_cons, Nat.add_comm]

/-- An address counts the ones that are added to it. -/
theorem Combined.counts (launched : Combined (· + ·) grid updates before after)
    (ones : ∀ program ∈ grid, ∀ update ∈ updates program, update.operand = 1) (address : ι) :
    after address = before address + (grid.flatMap updates).countP fun update => update.address = address := by
  obtain ⟨order, permuted, rfl⟩ := launched
  have areOnes : ∀ value ∈ operandsAt address order, value = 1 := by
    intro value member
    obtain ⟨update, inOrder, rfl⟩ := List.mem_map.mp member
    obtain ⟨program, inGrid, isUpdate⟩ := List.mem_flatMap.mp (permuted.mem_iff.mp (List.mem_filter.mp inOrder).1)
    exact ones program inGrid update isUpdate
  rw [Buffer.combined_apply, foldl_add, sum_ones areOnes, operandsAt, List.length_map, ← List.countP_eq_length_filter,
    permuted.countP_eq]

end

section

variable {ι π : Type} [DecidableEq ι] {width : Nat} {grid : List π} {updates : π → List (Update ι (BitVec width))}
  {before after : Buffer ι (BitVec width)}

theorem getLsbD_foldl_or (words : List (BitVec width)) (first : BitVec width) (bit : Nat) :
    (words.foldl (· ||| ·) first).getLsbD bit = true ↔
      first.getLsbD bit = true ∨ ∃ word ∈ words, word.getLsbD bit = true := by
  induction words generalizing first with
  | nil => simp
  | cons word rest ih =>
    rw [List.foldl_cons, ih, BitVec.getLsbD_or, Bool.or_eq_true, or_assoc]
    simp only [List.mem_cons, exists_eq_or_imp]

/-- A bit is set where it was set or an update of its word sets it. -/
theorem Combined.sets (launched : Combined (· ||| ·) grid updates before after) (address : ι) (bit : Nat) :
    (after address).getLsbD bit = true ↔ (before address).getLsbD bit = true ∨
      ∃ program ∈ grid, ∃ update ∈ updates program, update.address = address ∧ update.operand.getLsbD bit = true := by
  obtain ⟨order, permuted, rfl⟩ := launched
  rw [Buffer.combined_apply, getLsbD_foldl_or]
  apply or_congr_right
  constructor
  · rintro ⟨word, member, isSet⟩
    obtain ⟨update, inOrder, rfl⟩ := List.mem_map.mp member
    obtain ⟨inOrder, isAddress⟩ := List.mem_filter.mp inOrder
    obtain ⟨program, inGrid, isUpdate⟩ := List.mem_flatMap.mp (permuted.mem_iff.mp inOrder)
    exact ⟨program, inGrid, update, isUpdate, of_decide_eq_true isAddress, isSet⟩
  · rintro ⟨program, inGrid, update, isUpdate, isAddress, isSet⟩
    have inOrder := permuted.mem_iff.mpr (List.mem_flatMap.mpr ⟨program, inGrid, isUpdate⟩)
    exact ⟨update.operand, List.mem_map_of_mem (List.mem_filter.mpr ⟨inOrder, decide_eq_true isAddress⟩), isSet⟩

end

/-! ## Tiles -/

theorem countP_flatMap_single {α β : Type} [DecidableEq α] {programs : List α} (distinct : programs.Nodup) {program : α}
    (member : program ∈ programs) (elements : α → List β) (counts : β → Bool)
    (others : ∀ other ∈ programs, other ≠ program → (elements other).countP counts = 0) :
    (programs.flatMap elements).countP counts = (elements program).countP counts := by
  rw [List.countP_flatMap, List.sum_map_eq_nsmul_single program (List.countP counts ∘ elements) fun other isOther inList =>
      others other inList isOther,
    List.count_eq_one_of_mem distinct member, one_nsmul]
  rfl

/-- The blocks of a grid visit the positions of a range in order. -/
theorem flatMap_tiles {β : Type} (value : Nat → Option β) (size blocks : Nat) :
    ((List.range blocks).flatMap fun block => (List.range size).filterMap fun lane => value (block * size + lane)) =
      (List.range (blocks * size)).filterMap value := by
  induction blocks with
  | zero => rw [Nat.zero_mul]; rfl
  | succ blocks ih =>
    rw [List.range_succ, List.flatMap_append, ih, List.flatMap_singleton, Nat.succ_mul, List.range_add,
      List.filterMap_append, List.filterMap_map]
    rfl

theorem filter_range_interval {first last bound : Nat} (ordered : first ≤ last) (inRange : last ≤ bound) :
    ((List.range bound).filter fun position => decide (first ≤ position ∧ position < last)) =
      List.range' first (last - first) := by
  have split : List.range bound =
      List.range' 0 first ++ (List.range' first (last - first) ++ List.range' last (bound - last)) := by
    have isMiddle := @List.range'_append_1 first (last - first) (bound - last)
    have isAll := @List.range'_append_1 0 first (last - first + (bound - last))
    rw [Nat.add_sub_cancel' ordered] at isMiddle
    rw [Nat.zero_add] at isAll
    rw [isMiddle, isAll, List.range_eq_range', show first + (last - first + (bound - last)) = bound by omega]
  have below : (List.range' 0 first).filter (fun position => decide (first ≤ position ∧ position < last)) = [] := by
    rw [List.filter_eq_nil_iff]
    intro position member
    rw [List.mem_range'_1] at member
    simp only [decide_eq_true_eq]
    omega
  have inside : (List.range' first (last - first)).filter (fun position => decide (first ≤ position ∧ position < last)) =
      List.range' first (last - first) := by
    rw [List.filter_eq_self]
    intro position member
    rw [List.mem_range'_1] at member
    simp only [decide_eq_true_eq]
    omega
  have above : (List.range' last (bound - last)).filter (fun position => decide (first ≤ position ∧ position < last)) =
      [] := by
    rw [List.filter_eq_nil_iff]
    intro position member
    rw [List.mem_range'_1] at member
    simp only [decide_eq_true_eq]
    omega
  rw [split, List.filter_append, List.filter_append, below, inside, above, List.nil_append, List.append_nil]

end DeepSpark.Lib
