import Mathlib

/-!
Ids handed out below a high-water mark.

Owns the accounting of such ids: below the mark, every id is either spare or
owned by exactly one key. The spare ids are those of a free list and those that
are on their way between the free list and an owner.
-/

namespace DeepSpark.Lib

open Function

structure IdPool {κ : Type} (allocated : Nat) (spare : List Nat) (owner : κ → Option Nat) : Prop where
  nodup : spare.Nodup
  spareBelow : ∀ id ∈ spare, id < allocated
  ownedBelow : ∀ key id, owner key = some id → id < allocated
  notSpare : ∀ key id, owner key = some id → id ∉ spare
  unique : ∀ left right id, owner left = some id → owner right = some id → left = right
  covered : ∀ id, id < allocated → id ∈ spare ∨ ∃ key, owner key = some id

namespace IdPool

variable {κ : Type} {allocated : Nat} {spare : List Nat} {owner : κ → Option Nat}

theorem empty : IdPool 0 [] (fun _ : κ => none) :=
  ⟨List.nodup_nil, by simp, by simp, by simp, by simp, by simp⟩

theorem perm {others : List Nat} (pool : IdPool allocated spare owner)
    (permutation : spare.Perm others) : IdPool allocated others owner where
  nodup := permutation.nodup_iff.mp pool.nodup
  spareBelow id member := pool.spareBelow id (permutation.mem_iff.mpr member)
  ownedBelow := pool.ownedBelow
  notSpare key id owns member := pool.notSpare key id owns (permutation.mem_iff.mpr member)
  unique := pool.unique
  covered id isBelow := (pool.covered id isBelow).imp_left permutation.mem_iff.mp

/-- Raise the mark by one. -/
theorem grow (pool : IdPool allocated spare owner) :
    IdPool (allocated + 1) (allocated :: spare) owner where
  nodup := List.nodup_cons.mpr
    ⟨fun member => Nat.lt_irrefl _ (pool.spareBelow allocated member), pool.nodup⟩
  spareBelow id member := by
    rcases List.mem_cons.mp member with isMark | isOld
    · omega
    · have := pool.spareBelow id isOld
      omega
  ownedBelow key id owns := Nat.lt_succ_of_lt (pool.ownedBelow key id owns)
  notSpare key id owns member := by
    have isBelow := pool.ownedBelow key id owns
    rcases List.mem_cons.mp member with isMark | isOld
    · omega
    · exact pool.notSpare key id owns isOld
  unique := pool.unique
  covered id isBelow := by
    rcases Nat.lt_succ_iff_lt_or_eq.mp isBelow with isOld | isMark
    · exact (pool.covered id isOld).imp_left (List.mem_cons_of_mem _)
    · exact .inl (isMark ▸ List.mem_cons_self)

variable [DecidableEq κ]

/-- Give a spare id to a key that owns none. -/
theorem place {id : Nat} (pool : IdPool allocated (id :: spare) owner) {key : κ}
    (isFree : owner key = none) :
    IdPool allocated spare (update owner key (some id)) := by
  have owned (other : κ) (given : Nat) (owns : update owner key (some id) other = some given) :
      (other = key ∧ given = id) ∨ (other ≠ key ∧ owner other = some given) := by
    by_cases same : other = key
    · subst same
      rw [update_self, Option.some.injEq] at owns
      exact .inl ⟨rfl, owns.symm⟩
    · rw [update_of_ne same] at owns
      exact .inr ⟨same, owns⟩
  have nodup := List.nodup_cons.mp pool.nodup
  constructor
  case nodup => exact nodup.2
  case spareBelow => exact fun given member => pool.spareBelow given (List.mem_cons_of_mem _ member)
  case ownedBelow =>
    intro other given owns
    rcases owned other given owns with ⟨-, rfl⟩ | ⟨-, wasOwner⟩
    · exact pool.spareBelow given List.mem_cons_self
    · exact pool.ownedBelow other given wasOwner
  case notSpare =>
    intro other given owns
    rcases owned other given owns with ⟨-, rfl⟩ | ⟨-, wasOwner⟩
    · exact nodup.1
    · exact fun member => pool.notSpare other given wasOwner (List.mem_cons_of_mem _ member)
  case unique =>
    intro left right given ownsLeft ownsRight
    have isSpare : id ∈ id :: spare := List.mem_cons_self
    rcases owned left given ownsLeft with ⟨rfl, rfl⟩ | ⟨-, wasLeft⟩
    · rcases owned right given ownsRight with ⟨rfl, -⟩ | ⟨-, wasRight⟩
      · rfl
      · exact absurd isSpare (pool.notSpare right given wasRight)
    · rcases owned right given ownsRight with ⟨-, rfl⟩ | ⟨-, wasRight⟩
      · exact absurd isSpare (pool.notSpare left given wasLeft)
      · exact pool.unique left right given wasLeft wasRight
  case covered =>
    intro given isBelow
    rcases pool.covered given isBelow with member | ⟨other, wasOwner⟩
    · rcases List.mem_cons.mp member with rfl | isSpare
      · exact .inr ⟨key, update_self ..⟩
      · exact .inl isSpare
    · refine .inr ⟨other, ?_⟩
      rw [update_of_ne _ _ _, wasOwner]
      rintro rfl
      rw [isFree] at wasOwner
      cases wasOwner

theorem displace {id : Nat} (pool : IdPool allocated spare owner) {key : κ}
    (owns : owner key = some id) :
    IdPool allocated (id :: spare) (update owner key none) := by
  have owned (other : κ) (given : Nat) (stillOwns : update owner key none other = some given) :
      other ≠ key ∧ owner other = some given := by
    by_cases same : other = key
    · rw [same, update_self] at stillOwns
      cases stillOwns
    · rw [update_of_ne same] at stillOwns
      exact ⟨same, stillOwns⟩
  constructor
  case nodup => exact List.nodup_cons.mpr ⟨pool.notSpare key id owns, pool.nodup⟩
  case spareBelow =>
    intro given member
    rcases List.mem_cons.mp member with rfl | isOld
    · exact pool.ownedBelow key given owns
    · exact pool.spareBelow given isOld
  case ownedBelow =>
    exact fun other given stillOwns => pool.ownedBelow other given (owned other given stillOwns).2
  case notSpare =>
    intro other given stillOwns member
    obtain ⟨differ, wasOwner⟩ := owned other given stillOwns
    rcases List.mem_cons.mp member with rfl | isOld
    · exact differ (pool.unique other key given wasOwner owns)
    · exact pool.notSpare other given wasOwner isOld
  case unique =>
    exact fun left right given ownsLeft ownsRight =>
      pool.unique left right given (owned left given ownsLeft).2 (owned right given ownsRight).2
  case covered =>
    intro given isBelow
    rcases pool.covered given isBelow with member | ⟨other, wasOwner⟩
    · exact .inl (List.mem_cons_of_mem _ member)
    · by_cases same : other = key
      · subst same
        rw [owns, Option.some.injEq] at wasOwner
        exact .inl (wasOwner ▸ List.mem_cons_self)
      · exact .inr ⟨other, by rw [update_of_ne same, wasOwner]⟩

end IdPool

end DeepSpark.Lib
