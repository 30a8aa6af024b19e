import Mathlib

/-!
The exceptions and the slices of the modelled Python code.

Owns one constructor per exception class a modelled function can raise, with
the text it is raised with, the rules for code that may raise, and slices whose
bounds may be negative. A fallible function returns `Except PyError`; the state
it was given is dropped on failure, because an exception that leaves the
scheduler or the block pool ends the engine process.
-/

namespace DeepSpark.Lib

inductive PyError where
  | assertionError (message : String)
  | valueError (message : String)
  | runtimeError (message : String)
  | indexError (message : String)
  | keyError (message : String)
  | overflowError (message : String)
  | typeError (message : String)
  | zeroDivisionError (message : String)
  | attributeError (message : String)
  | recursionError (message : String)
  | stopIteration
deriving DecidableEq, Repr

/-- `assert condition, message`. -/
def pyAssert (condition : Bool) (message : String) : Except PyError Unit :=
  if condition then .ok () else .error (.assertionError message)

@[simp] theorem pyAssert_eq_ok {condition : Bool} {message : String} {value : Unit} :
    pyAssert condition message = .ok value ↔ condition = true := by
  cases condition <;> simp [pyAssert]

theorem pyAssert_true (message : String) : pyAssert true message = .ok () := rfl

variable {α β : Type}

/-- The bind rule of the exception monad: a computation that succeeds ran its
first part successfully. -/
theorem bind_eq_ok {ε : Type} {first : Except ε α} {rest : α → Except ε β} {result : β} :
    (first >>= rest) = .ok result ↔ ∃ value, first = .ok value ∧ rest value = .ok result := by
  cases first with
  | error failure => simp [bind, Except.bind]
  | ok value => simp [bind, Except.bind]

/-- One that fails fails in one of its parts. -/
theorem bind_eq_error {ε : Type} {first : Except ε α} {rest : α → Except ε β} {failure : ε} :
    (first >>= rest) = .error failure ↔
      first = .error failure ∨ ∃ value, first = .ok value ∧ rest value = .error failure := by
  cases first with
  | error other => simp [bind, Except.bind]
  | ok value => simp [bind, Except.bind]

variable {items : List α}

/-- A loop whose body keeps a property keeps it. -/
theorem foldlM_preserves {ε σ : Type} {P : σ → Prop} {body : σ → α → Except ε σ}
    (keeps : ∀ state item next, P state → body state item = .ok next → P next)
    {first last : σ} (holds : P first) (ran : items.foldlM body first = .ok last) : P last := by
  induction items generalizing first with
  | nil =>
    cases ran
    exact holds
  | cons item rest ih =>
    obtain ⟨next, ranItem, ranRest⟩ := bind_eq_ok.mp ran
    exact ih (keeps first item next holds ranItem) ranRest

/-- The same for a loop that raises nothing. -/
theorem foldl_preserves {σ : Type} {P : σ → Prop} {body : σ → α → σ}
    (keeps : ∀ state item, P state → P (body state item)) {first : σ}
    (holds : P first) : P (items.foldl body first) := by
  induction items generalizing first with
  | nil => exact holds
  | cons item rest ih => exact ih (keeps first item holds)

variable {compute : α → Except PyError β} {results : List β}

theorem mapM_eq_ok (ran : items.mapM compute = .ok results) :
    List.Forall₂ (fun item result => compute item = .ok result) items results := by
  induction items generalizing results with
  | nil =>
    cases ran
    exact .nil
  | cons item rest ih =>
    rw [List.mapM_cons] at ran
    obtain ⟨result, ranItem, ran⟩ := bind_eq_ok.mp ran
    obtain ⟨others, ranRest, isResults⟩ := bind_eq_ok.mp ran
    cases isResults
    exact .cons ranItem (ih ranRest)

theorem ran_of_mapM (ran : items.mapM compute = .ok results) {item : α} (member : item ∈ items) :
    ∃ result, compute item = .ok result := by
  have computed := mapM_eq_ok ran
  clear ran
  induction computed with
  | nil => exact absurd member List.not_mem_nil
  | cons isResult _ ih =>
    cases member with
    | head => exact ⟨_, isResult⟩
    | tail _ later => exact ih later

theorem getElem?_of_forall₂ {R : α → β → Prop} (related : List.Forall₂ R items results) {index : Nat} {item : α}
    (isItem : items[index]? = some item) : ∃ result, results[index]? = some result ∧ R item result := by
  induction related generalizing index with
  | nil => cases isItem
  | @cons head result _ _ isResult _ ih =>
    cases index with
    | zero =>
      cases isItem
      exact ⟨result, rfl, isResult⟩
    | succ index => exact ih isItem

/-- The result at the place of an item. -/
theorem getElem?_of_mapM
    (ran : items.mapM compute = .ok results) {index : Nat} {item : α} (isItem : items[index]? = some item) :
    ∃ result, results[index]? = some result ∧ compute item = .ok result :=
  getElem?_of_forall₂ (mapM_eq_ok ran) isItem

theorem mapM_ok {α β : Type} {compute : α → Except PyError β} {value : α → β} {items : List α}
    (returns : ∀ item ∈ items, compute item = .ok (value item)) :
    items.mapM compute = .ok (items.map value) := by
  induction items with
  | nil => rfl
  | cons item rest ih =>
    rw [List.mapM_cons, returns item List.mem_cons_self,
      ih fun other member => returns other (List.mem_cons_of_mem _ member)]
    rfl

/-! ## Slices with signed bounds -/

/-- `values[:stop]`: a negative stop counts from the end. -/
def pyTake {α : Type} (stop : Int) (values : List α) : List α :=
  if stop < 0 then values.take (values.length + stop).toNat else values.take stop.toNat

/-- `values[start:]`: a negative start counts from the end. -/
def pyDrop {α : Type} (start : Int) (values : List α) : List α :=
  if start < 0 then values.drop (values.length + start).toNat else values.drop start.toNat

theorem pyDrop_neg {count : Nat} (positive : 0 < count) (values : List α) :
    pyDrop (-(count : Int)) values = values.drop (values.length - count) := by
  have negative : -(count : Int) < 0 := by omega
  rw [pyDrop, if_pos negative]
  congr 1
  omega

end DeepSpark.Lib
