import DeepSpark.Lib.Launch
import DeepSpark.Lib.PyError

/-!
True division of integers and its ceiling.

Owns the double nearest to a rational number, and that the ceiling of a quotient is exact below 2^53.
-/

namespace DeepSpark.Lib

def roundHalfEven (q : ℚ) : ℤ :=
  if q - ⌊q⌋ < 1 / 2 ∨ q - ⌊q⌋ = 1 / 2 ∧ ⌊q⌋ % 2 = 0 then ⌊q⌋ else ⌊q⌋ + 1

/-- The exponent of the last place of a double near `q`. -/
def lastPlace (q : ℚ) : ℤ := max (Int.log 2 q - 52) (-1074)

def nearestDouble (q : ℚ) : ℚ := roundHalfEven (q / 2 ^ lastPlace q) * 2 ^ lastPlace q

/-- `a / b` of integers that are not negative. -/
def trueDiv (a b : Nat) : Except PyError ℚ :=
  if b = 0 then .error (.zeroDivisionError "division by zero")
  else if 2 ^ 1024 ≤ nearestDouble (a / b) then
    .error (.overflowError "integer division result too large for a float")
  else .ok (nearestDouble (a / b))

/-- `math.ceil(a / b)`. -/
def ceilTrueDiv (a b : Nat) : Except PyError Nat := do
  let quotient ← trueDiv a b
  return ⌈quotient⌉.toNat

theorem roundHalfEven_near (q : ℚ) : (roundHalfEven q : ℚ) - q ≤ 1 / 2 ∧ q - roundHalfEven q ≤ 1 / 2 := by
  have below := Int.floor_le q
  have above := Int.lt_floor_add_one q
  rw [roundHalfEven]
  split
  next isDown =>
    have near : q - ⌊q⌋ ≤ 1 / 2 := by
      rcases isDown with less | tie
      · exact less.le
      · exact tie.1.le
    constructor <;> linarith
  next isUp =>
    have near : 1 / 2 ≤ q - ⌊q⌋ := by
      by_contra less
      exact isUp (.inl (not_le.mp less))
    push_cast
    constructor <;> linarith

/-- Rounding keeps the side of an integer that is more than half away, and does not pass integers. -/
theorem lt_roundHalfEven {q : ℚ} {n : ℤ} (above : (n : ℚ) + 1 / 2 < q) : n < roundHalfEven q := by
  have near := (roundHalfEven_near q).2
  exact_mod_cast (show (n : ℚ) < roundHalfEven q by linarith)

theorem roundHalfEven_le {q : ℚ} {n : ℤ} (below : q ≤ n) : roundHalfEven q ≤ n := by
  have near := (roundHalfEven_near q).1
  have less : (roundHalfEven q : ℚ) < (n + 1 : ℤ) := by
    push_cast
    linarith
  exact Int.lt_add_one_iff.mp (by exact_mod_cast less)

/-- The last place of a quotient below 2^53 is a unit or a fraction of one, and below twice the
reciprocal of the denominator. -/
theorem lastPlace_quotient {a b : Nat} (positive : 0 < b) (small : a < 2 ^ 53) (smallDenominator : b < 2 ^ 53) :
    ∃ places : Nat, lastPlace ((a : ℚ) / b) = -(places : ℤ) ∧ b < 2 * 2 ^ places := by
  have denominator : (0 : ℚ) < b := by exact_mod_cast positive
  rcases Nat.eq_zero_or_pos a with isZero | someNumerator
  · refine ⟨52, ?_, by omega⟩
    rw [isZero, lastPlace, Nat.cast_zero, zero_div, Int.log_zero_right]
    rfl
  · have quotientPositive : (0 : ℚ) < a / b := by positivity
    have logBelow := Int.zpow_log_le_self Nat.one_lt_two quotientPositive
    have atMost : (a : ℚ) / b ≤ a := div_le_self (Nat.cast_nonneg a) (by exact_mod_cast positive)
    have numerator : (a : ℚ) < 2 ^ (53 : ℤ) := by exact_mod_cast small
    have logSmall : Int.log 2 ((a : ℚ) / b) < 53 := by
      have less : (2 : ℚ) ^ Int.log 2 ((a : ℚ) / b) < 2 ^ (53 : ℤ) := by
        exact_mod_cast (logBelow.trans atMost).trans_lt numerator
      exact (zpow_lt_zpow_iff_right₀ (by norm_num)).mp less
    rw [lastPlace]
    rcases le_or_gt (-1074) (Int.log 2 ((a : ℚ) / b) - 52) with normal | subnormal
    · obtain ⟨places, isPlaces⟩ : ∃ places : Nat, Int.log 2 ((a : ℚ) / b) = 52 - (places : ℤ) :=
        ⟨(52 - Int.log 2 ((a : ℚ) / b)).toNat, by omega⟩
      refine ⟨places, by omega, ?_⟩
      rw [isPlaces, zpow_sub₀ (by norm_num), zpow_natCast, div_le_div_iff₀ (by positivity) denominator] at logBelow
      have scaled : 2 ^ 52 * b ≤ a * 2 ^ places := by exact_mod_cast logBelow
      have enough : a * 2 ^ places < 2 ^ 53 * 2 ^ places := Nat.mul_lt_mul_of_pos_right small (by positivity)
      omega
    · have scaled : ∀ places, 52 ≤ places → 2 ^ 53 ≤ 2 * 2 ^ places := by
        intro places enough
        rw [show 53 = 52 + 1 from rfl, Nat.pow_succ, Nat.mul_comm]
        exact Nat.mul_le_mul_left _ (Nat.pow_le_pow_right Nat.two_pos enough)
      refine ⟨1074, by omega, ?_⟩
      exact smallDenominator.trans_le (scaled 1074 (by omega))

/-- The ceiling of a quotient is exact below 2^53. -/
theorem ceilTrueDiv_eq {a b : Nat} (positive : 0 < b) (small : a < 2 ^ 53) (smallDenominator : b < 2 ^ 53) :
    ceilTrueDiv a b = .ok (cdiv a b) := by
  obtain ⟨places, isPlace, fine⟩ := lastPlace_quotient positive small smallDenominator
  have denominator : (0 : ℚ) < b := by exact_mod_cast positive
  have isDouble : nearestDouble ((a : ℚ) / b) = roundHalfEven ((a : ℚ) / b * 2 ^ places) / 2 ^ places := by
    rw [nearestDouble, isPlace, zpow_neg, zpow_natCast, div_inv_eq_mul, ← div_eq_mul_inv]
  have enough : a ≤ cdiv a b * b := by
    have split := @Nat.lt_div_mul_add (a + b - 1) b positive
    rw [cdiv]
    omega
  have least : (cdiv a b : ℤ) * b < a + b := by
    have split := Nat.div_mul_le_self (a + b - 1) b
    have inNat : cdiv a b * b < a + b := by
      rw [cdiv]
      omega
    exact_mod_cast inNat
  have unit : (0 : ℚ) < 2 ^ places := by positivity
  have atMost : nearestDouble ((a : ℚ) / b) ≤ cdiv a b := by
    have scaled : (a : ℚ) / b * 2 ^ places ≤ ((cdiv a b * 2 ^ places : ℤ) : ℚ) := by
      have quotient : (a : ℚ) / b ≤ cdiv a b := by
        rw [div_le_iff₀ denominator]
        exact_mod_cast enough
      push_cast
      exact mul_le_mul_of_nonneg_right quotient unit.le
    have rounded := roundHalfEven_le scaled
    rw [isDouble, div_le_iff₀ unit]
    exact_mod_cast rounded
  have atLeast : (cdiv a b : ℚ) - 1 < nearestDouble ((a : ℚ) / b) := by
    have scaled : ((((cdiv a b : ℤ) - 1) * 2 ^ places : ℤ) : ℚ) + 1 / 2 < (a : ℚ) / b * 2 ^ places := by
      have gap : ((cdiv a b : ℚ) - 1) * b + 1 ≤ a := by
        have inInt : ((cdiv a b : ℤ) - 1) * b + 1 ≤ a := by
          rw [sub_mul, one_mul]
          omega
        exact_mod_cast inInt
      have half : (b : ℚ) < 2 * 2 ^ places := by exact_mod_cast fine
      rw [div_mul_eq_mul_div, lt_div_iff₀ denominator]
      push_cast
      nlinarith
    have rounded := lt_roundHalfEven scaled
    rw [isDouble, lt_div_iff₀ unit]
    exact_mod_cast rounded
  have finite : ¬ (2 : ℚ) ^ 1024 ≤ nearestDouble ((a : ℚ) / b) := by
    have fewer : cdiv a b ≤ a + b := by
      rw [cdiv]
      exact (Nat.div_le_self _ _).trans (Nat.sub_le _ _)
    have bounded : (cdiv a b : ℚ) < 2 ^ 54 := by
      have inNat : cdiv a b < 2 ^ 54 := by omega
      exact_mod_cast inNat
    have large : (2 : ℚ) ^ 54 ≤ 2 ^ 1024 := pow_le_pow_right₀ (by norm_num) (by omega)
    exact not_le.mpr ((atMost.trans_lt bounded).trans_le large)
  have isCeil : ⌈nearestDouble ((a : ℚ) / b)⌉ = cdiv a b := by
    rw [Int.ceil_eq_iff]
    exact ⟨by exact_mod_cast atLeast, by exact_mod_cast atMost⟩
  rw [ceilTrueDiv, trueDiv, if_neg positive.ne', if_neg finite]
  show Except.ok (⌈nearestDouble ((a : ℚ) / b)⌉.toNat) = _
  rw [isCeil, Int.toNat_natCast]

end DeepSpark.Lib
