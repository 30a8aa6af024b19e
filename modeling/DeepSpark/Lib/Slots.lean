import DeepSpark.Lib.PyError

/-!
Components that keep the data of their users in slots.

Owns the states of such a component while one user occupies a slot, and the rule that what an
entry establishes and entries into other slots keep holds in all of them.
-/

namespace DeepSpark.Lib

variable {σ ε : Type}

/-- The states of a component from the moment a user enters a slot with its data: afterwards
users enter other slots only. -/
inductive Occupies (add : σ → Nat → ε → Except PyError σ) (slot : Nat) (data : ε) : σ → Prop
  | entered {before after : σ} (added : add before slot data = .ok after) : Occupies add slot data after
  | otherEntered {before after : σ} (occupies : Occupies add slot data before) {other : Nat} (isOther : other ≠ slot)
      {otherData : ε} (added : add before other otherData = .ok after) : Occupies add slot data after

variable {add : σ → Nat → ε → Except PyError σ} {slot : Nat} {data : ε} {state : σ}

theorem Occupies.holds {P : σ → Prop} (occupies : Occupies add slot data state)
    (established : ∀ before after, add before slot data = .ok after → P after)
    (kept : ∀ before after other otherData, other ≠ slot → add before other otherData = .ok after → P before → P after) :
    P state := by
  induction occupies with
  | entered added => exact established _ _ added
  | otherEntered _ isOther added ih => exact kept _ _ _ _ isOther added ih

end DeepSpark.Lib
