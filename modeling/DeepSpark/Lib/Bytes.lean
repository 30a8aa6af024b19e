import Mathlib

/-!
Byte strings: fixed-width big-endian numbers and concatenation of equal-length
pieces.

Owns the length, round-trip and injectivity laws of `bigEndian`, and the law
that a concatenation of equal-length nonempty pieces determines the pieces.
-/

namespace DeepSpark.Lib

abbrev Bytes := List UInt8

namespace Bytes

/-- `value.to_bytes(width, "big")` for a value that fits. -/
def bigEndian : Nat → Nat → Bytes
  | 0, _ => []
  | width + 1, value => bigEndian width (value / 256) ++ [UInt8.ofNat (value % 256)]

/-- `int.from_bytes(bytes, "big")`. -/
def fromBigEndian (bytes : Bytes) : Nat :=
  bytes.foldl (fun accumulated byte => accumulated * 256 + byte.toNat) 0

@[simp] theorem bigEndian_length (width value : Nat) :
    (bigEndian width value).length = width := by
  induction width generalizing value with
  | zero => rfl
  | succ width ih => simp [bigEndian, ih]

private theorem fromBigEndian_append_singleton (bytes : Bytes) (byte : UInt8) :
    fromBigEndian (bytes ++ [byte]) = fromBigEndian bytes * 256 + byte.toNat := by
  simp [fromBigEndian]

/-- A number that fits in `width` bytes survives the round trip. -/
theorem fromBigEndian_bigEndian {width value : Nat} (fits : value < 256 ^ width) :
    fromBigEndian (bigEndian width value) = value := by
  induction width generalizing value with
  | zero =>
    have isZero : value = 0 := by simpa using fits
    subst isZero
    rfl
  | succ width ih =>
    have quotientFits : value / 256 < 256 ^ width := by
      rw [pow_succ] at fits
      exact Nat.div_lt_of_lt_mul (by rwa [Nat.mul_comm])
    have lastByte : (UInt8.ofNat (value % 256)).toNat = value % 256 := by
      rw [UInt8.toNat_ofNat']
      omega
    rw [bigEndian, fromBigEndian_append_singleton, ih quotientFits, lastByte]
    omega

/-- Pieces of one positive length are determined by their concatenation. -/
theorem flatten_injective {size : Nat} (positive : 0 < size) :
    ∀ {left right : List Bytes}, (∀ piece ∈ left, piece.length = size) →
      (∀ piece ∈ right, piece.length = size) → left.flatten = right.flatten → left = right
  | [], [], _, _, _ => rfl
  | [], piece :: rest, _, rightSized, equal => by
      have sized := rightSized piece (by simp)
      have lengths := congrArg List.length equal
      simp only [List.flatten_nil, List.length_nil, List.flatten_cons, List.length_append] at lengths
      omega
  | piece :: rest, [], leftSized, _, equal => by
      have sized := leftSized piece (by simp)
      have lengths := congrArg List.length equal
      simp only [List.flatten_nil, List.length_nil, List.flatten_cons, List.length_append] at lengths
      omega
  | first :: left, second :: right, leftSized, rightSized, equal => by
      have firstSize := leftSized first (by simp)
      have secondSize := rightSized second (by simp)
      rw [List.flatten_cons, List.flatten_cons] at equal
      obtain ⟨sameHead, sameTail⟩ := List.append_inj equal (by rw [firstSize, secondSize])
      have rest := flatten_injective positive (fun piece member => leftSized piece (by simp [member]))
        (fun piece member => rightSized piece (by simp [member])) sameTail
      rw [sameHead, rest]

end Bytes

end DeepSpark.Lib
