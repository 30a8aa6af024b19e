import DeepSpark.Lib.PyError

/-!
Ragged arrays and the vector operations that build them.

Owns `repeat`, `cumsum`, masked and indexed assignment on one-dimensional integer arrays, and the
ragged array of some items: each item has a number of places, laid out one item after the other.
Every vector operation takes ragged arrays to the ragged array of the values place by place.
-/

namespace DeepSpark.Lib

open List

/-! ## Vector operations -/

/-- `np.arange(stop)`. -/
def arange (stop : Int) : List Int := (List.range stop.toNat).map Int.ofNat

/-- `np.repeat(values, counts)`. -/
def repeatEach {α : Type} (values : List α) (counts : List Int) : List α :=
  (List.zipWith (fun value count => List.replicate count.toNat value) values counts).flatten

/-- The running sums behind `start`. -/
def npCumsumFrom (start : Int) : List Int → List Int
  | [] => []
  | value :: rest => (start + value) :: npCumsumFrom (start + value) rest

/-- `np.cumsum(values)`. -/
def npCumsum (values : List Int) : List Int := npCumsumFrom 0 values

/-- `values[mask] = news`. -/
def assignMasked {α : Type} : List α → List Bool → List α → List α
  | _ :: values, true :: mask, new :: news => new :: assignMasked values mask news
  | value :: values, false :: mask, news => value :: assignMasked values mask news
  | values, _, _ => values

/-- `values[mask]`. -/
def selectMasked {α : Type} (values : List α) (mask : List Bool) : List α :=
  (values.zip mask).filterMap fun entry => if entry.2 then some entry.1 else none

/-- `values[indices] = news`. -/
def assignAt {α : Type} (values : List α) (indices : List Int) (news : List α) : List α :=
  (indices.zip news).foldl (fun values entry => values.set entry.1.toNat entry.2) values

/-- `values[index]`: a negative index counts from the end. -/
def pyIndex {α : Type} (values : List α) (index : Int) : Except PyError α :=
  match values[(if index < 0 then values.length + index else index).toNat]? with
  | some value => if (values.length : Int) + index < 0 then .error (.indexError "index out of range") else .ok value
  | none => .error (.indexError "index out of range")

/-- `values.view(rows, -1)`. -/
def viewRows {α : Type} (rows : Nat) (values : List α) : List (List α) :=
  (List.range rows).map fun row => (values.drop (row * (values.length / rows))).take (values.length / rows)

variable {index : Nat}

theorem pyIndex_natCast {α : Type} {values : List α} {value : α} (isValue : values[index]? = some value) :
    pyIndex values (index : Int) = .ok value := by
  have notNegative : ¬ (index : Int) < 0 := by omega
  have inRange : ¬ (values.length : Int) + index < 0 := by omega
  rw [pyIndex, if_neg notNegative, Int.toNat_natCast, isValue]
  exact if_neg inRange

theorem length_npCumsumFrom (start : Int) (values : List Int) : (npCumsumFrom start values).length = values.length := by
  induction values generalizing start with
  | nil => rfl
  | cons value rest ih => simp [npCumsumFrom, ih]

variable {values : List Int}

theorem getElem?_npCumsumFrom (inRange : index < values.length) (start : Int) :
    (npCumsumFrom start values)[index]? = some (start + (values.take (index + 1)).sum) := by
  induction values generalizing index start with
  | nil => exact absurd inRange (Nat.not_lt_zero index)
  | cons value rest ih =>
    cases index with
    | zero => simp [npCumsumFrom]
    | succ index =>
      rw [npCumsumFrom, getElem?_cons_succ, ih (Nat.lt_of_succ_lt_succ inRange),
        take_succ_cons, sum_cons, Int.add_assoc]

/-- `cu_seqlens`: a zero before the running sums. -/
theorem getElem?_zero_cons_npCumsum (inRange : index ≤ values.length) :
    (0 :: npCumsum values)[index]? = some (values.take index).sum := by
  cases index with
  | zero => rfl
  | succ index => rw [getElem?_cons_succ, npCumsum, getElem?_npCumsumFrom inRange, Int.zero_add]

/-- The steps of `cu_seqlens`. -/
theorem diff_npCumsumFrom (start : Int) (values : List Int) :
    List.zipWith (· - ·) (npCumsumFrom start values) (start :: npCumsumFrom start values).dropLast = values := by
  induction values generalizing start with
  | nil => rfl
  | cons value rest ih =>
    rw [npCumsumFrom, dropLast_cons_of_ne_nil (cons_ne_nil _ _), zipWith_cons_cons,
      ih, add_sub_cancel_left]

theorem getLast?_npCumsumFrom (nonempty : values ≠ []) (start : Int) :
    (npCumsumFrom start values).getLast? = some (start + values.sum) := by
  have positive := length_pos_iff.mpr nonempty
  rw [getLast?_eq_getElem?, length_npCumsumFrom, getElem?_npCumsumFrom (Nat.sub_one_lt_of_lt positive),
    Nat.sub_add_cancel positive, take_length]

theorem assignMasked_select {α : Type} {values news : List α} {mask : List Bool}
    (sameMask : mask.length = values.length) (sameNews : news.length = values.length) :
    assignMasked values mask (selectMasked news mask) =
      List.zipWith (fun entry masked => if masked then entry.2 else entry.1) (values.zip news) mask := by
  induction values generalizing news mask with
  | nil =>
    rw [length_eq_zero_iff.mp sameNews, length_eq_zero_iff.mp sameMask]
    rfl
  | cons value values ih =>
    cases news with
    | nil => cases sameNews
    | cons new news =>
      cases mask with
      | nil => cases sameMask
      | cons masked mask =>
        have ofRest := ih (Nat.succ.inj sameMask) (Nat.succ.inj sameNews)
        cases masked
        · simp only [selectMasked, zip_cons_cons, filterMap_cons, Bool.false_eq_true, if_false,
            zipWith_cons_cons] at ofRest ⊢
          rw [assignMasked, ofRest]
        · simp only [selectMasked, zip_cons_cons, filterMap_cons, if_true,
            zipWith_cons_cons] at ofRest ⊢
          rw [assignMasked, ofRest]

theorem viewRows_flatten {α : Type} {rows : List (List α)} {width : Nat} (someRow : rows ≠ [])
    (sameWidth : ∀ row ∈ rows, row.length = width) : viewRows rows.length rows.flatten = rows := by
  have total : rows.flatten.length = rows.length * width := by
    rw [length_flatten, map_congr_left sameWidth, map_const', sum_replicate_nat]
  have isWidth : rows.flatten.length / rows.length = width := by
    rw [total, Nat.mul_div_cancel_left _ (length_pos_iff.mpr someRow)]
  rw [viewRows, isWidth]
  clear total isWidth someRow
  induction rows with
  | nil => rfl
  | cons row rest ih =>
    have isRow := sameWidth row mem_cons_self
    have ofRest := ih fun other member => sameWidth other (mem_cons_of_mem _ member)
    rw [length_cons, range_succ_eq_map, map_cons, map_map, flatten_cons]
    congr 1
    · simp [← isRow]
    · conv_rhs => rw [← ofRest]
      apply map_congr_left
      intro index _
      have skipped : (index + 1) * width = row.length + index * width := by rw [isRow]; ring
      simp only [Function.comp_apply, Nat.succ_eq_add_one, skipped, drop_append, Nat.add_sub_cancel_left]
      rw [drop_eq_nil_of_le (Nat.le_add_right _ _), nil_append]

/-! ## Ragged arrays -/

section

variable {ι α β γ : Type} (items : List ι) (count : ι → Nat)

/-- The ragged array of some items, with the value of a place of an item. -/
def ragged (value : ι → Nat → α) : List α :=
  items.flatMap fun item => (List.range (count item)).map (value item)

@[simp] theorem ragged_nil (value : ι → Nat → α) : ragged [] count value = [] := rfl

theorem ragged_cons (item : ι) (rest : List ι) (value : ι → Nat → α) :
    ragged (item :: rest) count value = (List.range (count item)).map (value item) ++ ragged rest count value := rfl

theorem length_ragged (value : ι → Nat → α) : (ragged items count value).length = (items.map count).sum := by
  simp [ragged, length_flatMap]

theorem map_ragged (f : α → β) (value : ι → Nat → α) :
    (ragged items count value).map f = ragged items count fun item place => f (value item place) := by
  simp [ragged, map_flatMap, Function.comp_def]

/-- The same array with the index of each item beside it. -/
theorem ragged_zipIdx (value : ι → Nat → α) :
    ragged items count value = ragged items.zipIdx (fun entry => count entry.1) fun entry => value entry.1 := by
  conv_lhs => rw [← zipIdx_map_fst 0 items]
  rw [ragged, flatMap_map, ragged]

theorem mem_ragged {value : ι → Nat → α} {entry : α} :
    entry ∈ ragged items count value ↔ ∃ item ∈ items, ∃ place < count item, value item place = entry := by
  simp [ragged]

theorem zipWith_ragged (f : α → β → γ) (first : ι → Nat → α) (second : ι → Nat → β) :
    List.zipWith f (ragged items count first) (ragged items count second) =
      ragged items count fun item place => f (first item place) (second item place) := by
  induction items with
  | nil => rfl
  | cons item rest ih =>
    rw [ragged_cons, ragged_cons, ragged_cons, zipWith_append (by simp), ih]
    simp [zipWith_map]

theorem ragged_congr {first second : ι → Nat → α}
    (same : ∀ item ∈ items, ∀ place < count item, first item place = second item place) :
    ragged items count first = ragged items count second := by
  rw [ragged, ragged]
  apply flatMap_congr
  intro item member
  apply map_congr_left
  intro place inItem
  exact same item member place (mem_range.mp inItem)

/-- What stands at a place of an item. -/
theorem getElem?_ragged (before behind : List ι) (item : ι) (value : ι → Nat → α) {place : Nat}
    (inItem : place < count item) :
    (ragged (before ++ item :: behind) count value)[(before.map count).sum + place]? = some (value item place) := by
  have isStart : (ragged before count value).length = (before.map count).sum := length_ragged before count value
  rw [ragged, flatMap_append, ← ragged, ← isStart, getElem?_append_right (Nat.le_add_right _ _),
    Nat.add_sub_cancel_left, flatMap_cons, getElem?_append_left (by simpa using inItem)]
  simp [inItem]

/-- The part of a ragged array before a place of an item. -/
theorem take_ragged (before behind : List ι) (item : ι) (value : ι → Nat → α) {place : Nat}
    (inItem : place ≤ count item) :
    (ragged (before ++ item :: behind) count value).take ((before.map count).sum + place) =
      ragged before count value ++ (List.range place).map (value item) := by
  have isStart : (ragged before count value).length = (before.map count).sum := length_ragged before count value
  rw [ragged, flatMap_append, ← ragged, ← isStart, take_length_add_append, flatMap_cons,
    take_append_of_le_length (by simpa using inItem), ← map_take, take_range, Nat.min_eq_left inItem]

theorem ragged_flatMap (value : ι → Nat → α) (size : Nat) (split : α → Nat → β) :
    (ragged items count value).flatMap (fun entry => (List.range size).map (split entry)) =
      ragged items (fun item => count item * size) fun item place =>
        split (value item (place / size)) (place % size) := by
  have grouped : ∀ (entries : Nat → α) (number : Nat),
      ((List.range number).map entries).flatMap (fun entry => (List.range size).map (split entry)) =
        (List.range (number * size)).map fun place => split (entries (place / size)) (place % size) := by
    intro entries number
    induction number with
    | zero => simp
    | succ others ih =>
      rw [range_succ, map_append, flatMap_append, ih, Nat.succ_mul, range_add,
        map_append]
      congr 1
      simp only [map_cons, map_nil, flatMap_cons, flatMap_nil, append_nil, map_map]
      apply map_congr_left
      intro place inRange
      have below := mem_range.mp inRange
      have isEntry : (others * size + place) / size = others := by
        rw [Nat.mul_comm, Nat.mul_add_div (Nat.zero_lt_of_lt below), Nat.div_eq_of_lt below, Nat.add_zero]
      have isPlace : (others * size + place) % size = place := by
        rw [Nat.mul_add_mod_self_right, Nat.mod_eq_of_lt below]
      rw [Function.comp_apply, isEntry, isPlace]
  rw [ragged, flatMap_assoc]
  apply flatMap_congr
  intro item _
  exact grouped (value item) (count item)

theorem sum_ragged [AddMonoid α] (value : ι → Nat → α) :
    (ragged items count value).sum = (items.map fun item => ((List.range (count item)).map (value item)).sum).sum := by
  induction items with
  | nil => rfl
  | cons item rest ih => rw [ragged_cons, sum_append, ih, map_cons,
      sum_cons]

theorem repeatEach_map (value : ι → α) :
    repeatEach (items.map value) (items.map fun item => (count item : Int)) =
      ragged items count fun item _ => value item := by
  induction items with
  | nil => rfl
  | cons item rest ih =>
    rw [ragged_cons, ← ih]
    simp [repeatEach, map_const']

theorem sum_natCast : (items.map fun item => (count item : Int)).sum = ((items.map count).sum : Nat) := by
  induction items with
  | nil => rfl
  | cons item rest ih => simp [ih]

/-- The index of a place within its item: the batched `arange`. -/
theorem batched_arange :
    List.zipWith (· - ·) (arange (items.map fun item => (count item : Int)).sum)
        (repeatEach (List.zipWith (· - ·) (npCumsum (items.map fun item => (count item : Int)))
          (items.map fun item => (count item : Int))) (items.map fun item => (count item : Int))) =
      ragged items count fun _ place => (place : Int) := by
  have shifted : ∀ start : Nat,
      List.zipWith (· - ·) ((List.range' start (items.map count).sum).map Int.ofNat)
          (repeatEach (List.zipWith (· - ·) (npCumsumFrom start (items.map fun item => (count item : Int)))
            (items.map fun item => (count item : Int))) (items.map fun item => (count item : Int))) =
        ragged items count fun _ place => (place : Int) := by
    induction items with
    | nil => intro start; rfl
    | cons item rest ih =>
      intro start
      have tail := ih (start + count item)
      simp only [repeatEach, map_cons, sum_cons, npCumsumFrom, zipWith_cons_cons, flatten_cons,
        Int.toNat_natCast] at tail ⊢
      rw [ragged_cons, ← tail, ← range'_append_1, map_append, zipWith_append (by simp), Nat.cast_add]
      congr 1
      apply ext_getElem
      · simp
      · intro place inFirst _
        simp only [getElem_zipWith, getElem_map, getElem_range', getElem_replicate,
          getElem_range]
        show (((start + 1 * place : Nat) : Int)) - ((start : Int) + (count item : Int) - (count item : Int)) = place
        omega
  rw [sum_natCast, arange, Int.toNat_natCast, range_eq_range', npCumsum]
  exact shifted 0

theorem assignMasked_first (positive : ∀ item ∈ items, 0 < count item) (value : ι → Nat → α) (new : ι → α) :
    assignMasked (ragged items count value) (ragged items count fun _ place => decide (place = 0)) (items.map new) =
      ragged items count fun item place => if place = 0 then new item else value item place := by
  have skips : ∀ (values rest : List α) (restMask : List Bool) (news : List α),
      assignMasked (values ++ rest) (List.replicate values.length false ++ restMask) news =
        values ++ assignMasked rest restMask news := by
    intro values rest restMask news
    induction values with
    | nil => rfl
    | cons value values ih =>
      simp only [cons_append, length_cons, replicate_succ]
      cases news <;> simp only [assignMasked, ih]
  induction items with
  | nil => rfl
  | cons item rest ih =>
    have someItem := positive item mem_cons_self
    have ofRest := ih fun other member => positive other (mem_cons_of_mem _ member)
    obtain ⟨others, isCount⟩ : ∃ others, count item = others + 1 := ⟨count item - 1, by omega⟩
    have isMask : (List.range others).map (fun place => decide (place + 1 = 0)) =
        List.replicate ((List.range others).map fun place => value item (place + 1)).length false := by
      simp
    simp only [ragged_cons, isCount, range_succ_eq_map, map_cons, map_map, Function.comp_def,
      Nat.succ_eq_add_one, decide_true, cons_append, assignMasked, if_true, Nat.add_eq_zero_iff, one_ne_zero,
      and_false, decide_false, if_false] at isMask ⊢
    rw [isMask, skips, ofRest]

theorem assignAt_last (positive : ∀ item ∈ items, 0 < count item) (value : α) (new : ι → α) :
    assignAt (List.replicate (items.map count).sum value)
        ((npCumsum (items.map fun item => (count item : Int))).map (· - 1)) (items.map new) =
      ragged items count fun item place => if place + 1 = count item then new item else value := by
  have behind : ∀ done : List α,
      assignAt (done ++ List.replicate (items.map count).sum value)
          ((npCumsumFrom done.length (items.map fun item => (count item : Int))).map (· - 1)) (items.map new) =
        done ++ ragged items count fun item place => if place + 1 = count item then new item else value := by
    induction items with
    | nil => intro done; simp [assignAt, npCumsumFrom]
    | cons item rest ih =>
      intro done
      have someItem := positive item mem_cons_self
      obtain ⟨others, isCount⟩ : ∃ others, count item = others + 1 := ⟨count item - 1, by omega⟩
      have isLast : (done.length : Int) + (others + 1 : Nat) - 1 =
          ((done ++ List.replicate others value).length : Int) := by
        simp
        omega
      have isBehind : (done.length : Int) + (others + 1 : Nat) =
          ((done ++ List.replicate others value ++ [new item]).length : Int) := by
        simp
      have isItem : (List.range (others + 1)).map (fun place => if place + 1 = others + 1 then new item else value) =
          List.replicate others value ++ [new item] := by
        rw [range_succ, map_append, map_singleton, if_pos rfl]
        congr 1
        apply ext_getElem (by simp)
        intro place inRange _
        simp only [length_map, length_range] at inRange
        simp [Nat.ne_of_lt inRange]
      have isRow : done ++ List.replicate (others + 1 + (rest.map count).sum) value =
          (done ++ List.replicate others value) ++ value :: List.replicate (rest.map count).sum value := by
        rw [Nat.add_assoc, replicate_add, Nat.add_comm 1, replicate_succ, append_assoc]
      have ofRest := ih (fun other member => positive other (mem_cons_of_mem _ member))
        (done ++ List.replicate others value ++ [new item])
      rw [ragged_cons, isCount, isItem, ← append_assoc, ← append_assoc, ← ofRest, ← isBehind]
      simp only [map_cons, sum_cons, npCumsumFrom, isCount, isRow]
      rw [assignAt, zip_cons_cons, foldl_cons, isLast, Int.toNat_natCast,
        set_append_right _ _ (Nat.le_refl _), Nat.sub_self, set_cons_zero, ← assignAt,
        ← append_cons]
  exact behind []

end

end DeepSpark.Lib
