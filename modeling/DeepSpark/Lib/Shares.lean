import Mathlib

/-!
Receivers divided among senders.

Owns the share of each sender (a run of equal length for each, and one of the receivers left
over), the sender of each receiver, and that the two agree.
-/

namespace DeepSpark.Lib

theorem idxOf?_of_nodup {α : Type} [DecidableEq α] {items : List α} (distinct : items.Nodup) {position : Nat} {item : α}
    (isAt : items[position]? = some item) : items.idxOf? item = some position := by
  obtain ⟨below, isItem⟩ := List.getElem?_eq_some_iff.mp isAt
  refine List.idxOf?_eq_some_iff.mpr ⟨below, isItem, fun earlier isEarlier same => ?_⟩
  have samePosition := (distinct.getElem_inj_iff).mp (same.trans isItem.symm)
  omega

section Shares

variable {α : Type}

/-- The receivers of one sender: as many as for each other, and one of the remainder. -/
def share (senders : Nat) (receivers : List α) (sender : Nat) : List α :=
  let each := receivers.length / senders
  (receivers.take (sender * each + each)).drop (sender * each) ++ receivers[senders * each + sender]?.toList

def shareOwner (senders count receiver : Nat) : Nat :=
  let each := count / senders
  if receiver < senders * each then receiver / each else receiver - senders * each

variable {senders : Nat}

theorem shareOwner_lt (positive : 0 < senders) {count receiver : Nat} (isReceiver : receiver < count) :
    shareOwner senders count receiver < senders := by
  have isDivided := Nat.div_add_mod count senders
  have remainder := Nat.mod_lt count positive
  rw [shareOwner]
  split
  next isRun => exact Nat.div_lt_of_lt_mul (by rwa [Nat.mul_comm] at isRun)
  next => omega

/-- A position belongs to the run of a sender or is the one left over for it. -/
theorem shareOwner_eq_iff {count receiver sender : Nat} (isSender : sender < senders) :
    shareOwner senders count receiver = sender ↔
      (sender * (count / senders) ≤ receiver ∧ receiver < sender * (count / senders) + count / senders) ∨
        receiver = senders * (count / senders) + sender := by
  have runEnd : sender * (count / senders) + count / senders ≤ senders * (count / senders) := by
    rw [← Nat.succ_mul]
    exact Nat.mul_le_mul_right _ isSender
  rw [shareOwner]
  split
  next isRun =>
    have positive : 0 < count / senders := Nat.pos_of_ne_zero fun isZero => by
      rw [isZero, Nat.mul_zero] at isRun
      exact Nat.not_lt_zero _ isRun
    rw [Nat.div_eq_iff positive]
    omega
  next => omega

theorem mem_share {receivers : List α} {sender : Nat} (isSender : sender < senders) {receiver : α} :
    receiver ∈ share senders receivers sender ↔
      ∃ position, receivers[position]? = some receiver ∧ shareOwner senders receivers.length position = sender := by
  simp only [shareOwner_eq_iff isSender]
  rw [share, List.mem_append, Option.mem_toList, List.mem_iff_getElem?]
  constructor
  · rintro (⟨offset, isAt⟩ | isLeft)
    · rw [List.getElem?_drop, List.getElem?_take] at isAt
      split at isAt
      next inRun => exact ⟨_, isAt, .inl ⟨by omega, inRun⟩⟩
      next => exact nomatch isAt
    · exact ⟨_, isLeft, .inr rfl⟩
  · rintro ⟨position, isAt, ⟨isFrom, isTo⟩ | rfl⟩
    · left
      refine ⟨position - sender * (receivers.length / senders), ?_⟩
      rw [List.getElem?_drop, Nat.add_sub_cancel' isFrom, List.getElem?_take, if_pos isTo]
      exact isAt
    · exact .inr isAt

theorem nodup_share {receivers : List α} (distinct : receivers.Nodup) {sender : Nat} (isSender : sender < senders) :
    (share senders receivers sender).Nodup := by
  rw [share]
  have runDistinct := (distinct.sublist (List.take_sublist (sender * (receivers.length / senders) +
    receivers.length / senders) receivers)).sublist (List.drop_sublist (sender * (receivers.length / senders)) _)
  refine runDistinct.append ?_ ?_
  · cases receivers[senders * (receivers.length / senders) + sender]? <;> simp
  · -- the one left over is behind every run
    intro receiver inRun isLeft
    obtain ⟨offset, isAt⟩ := List.mem_iff_getElem?.mp inRun
    rw [List.getElem?_drop, List.getElem?_take] at isAt
    split at isAt
    next below =>
      have leftAt := Option.mem_toList.mp isLeft
      have samePosition := (List.getElem?_inj (List.getElem?_eq_some_iff.mp isAt).1 distinct).mp (isAt.trans leftAt.symm)
      have runEnd : sender * (receivers.length / senders) + receivers.length / senders ≤
          senders * (receivers.length / senders) := by
        rw [← Nat.succ_mul]
        exact Nat.mul_le_mul_right _ isSender
      omega
    next => exact nomatch isAt

end Shares

end DeepSpark.Lib
