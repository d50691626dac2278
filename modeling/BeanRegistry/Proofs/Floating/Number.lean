import Mathlib.Algebra.Field.Rat
import Mathlib.Algebra.Order.Ring.Rat
import Mathlib.Tactic.Linarith
import Mathlib.Tactic.Positivity
import BeanRegistry.Floating.Pattern

set_option autoImplicit false

namespace BeanRegistry.Floating

inductive Number where
  | finite (value : ℚ)
  | infinite (isNegative : Bool)
  deriving DecidableEq

namespace Format

variable {format : Format} {left right pattern : Nat}

def number? (format : Format) (pattern : Nat) : Option Number :=
  if format.isNaN pattern then none
  else if format.isSpecial pattern then some (.infinite (format.isNegative pattern))
  else
    let sign : ℚ := if format.isNegative pattern then -1 else 1
    some (.finite (sign * format.significand pattern * 2 ^ format.exponent pattern))

def least (format : Format) : ℚ :=
  2 ^ (1 - format.bias - format.fractionBits : ℤ)

def steps (format : Format) (pattern : Nat) : Nat :=
  format.significand pattern * 2 ^ (format.exponentField pattern - 1)

theorem fractionField_lt (format : Format) (pattern : Nat) :
    format.fractionField pattern < 2 ^ format.fractionBits :=
  Nat.mod_lt _ (Nat.two_pow_pos _)

theorem magnitude_eq (format : Format) (pattern : Nat) : format.magnitude pattern =
    format.fractionField pattern + 2 ^ format.fractionBits * format.exponentField pattern := by
  have split := Nat.mod_mul (a := 2 ^ format.fractionBits) (b := 2 ^ format.exponentBits) (x := pattern)
  rwa [← Nat.pow_add] at split

theorem magnitude_eq_zero_iff : format.magnitude pattern = 0 ↔
    format.exponentField pattern = 0 ∧ format.fractionField pattern = 0 := by
  have positive := Nat.two_pow_pos format.fractionBits
  rw [magnitude_eq, Nat.add_eq_zero_iff, Nat.mul_eq_zero]
  omega

section Steps

theorem steps_lt (format : Format) (pattern : Nat) :
    format.steps pattern < 2 ^ format.fractionBits * 2 ^ format.exponentField pattern := by
  have fraction := format.fractionField_lt pattern
  cases exponent : format.exponentField pattern with
  | zero => simpa [steps, significand, exponent] using fraction
  | succ below =>
    have doubled : 2 ^ format.fractionBits + format.fractionField pattern < 2 ^
        format.fractionBits * 2 := by omega
    rw [steps, significand, exponent, if_neg (Nat.succ_ne_zero below), Nat.pow_succ', ← Nat.mul_assoc]
    exact Nat.mul_lt_mul_of_pos_right doubled (Nat.two_pow_pos below)

theorem le_steps (normal : format.exponentField pattern ≠ 0) :
    2 ^ format.fractionBits * 2 ^ (format.exponentField pattern - 1) ≤ format.steps pattern := by
  rw [steps, significand, if_neg normal]
  exact Nat.mul_le_mul_right _ (Nat.le_add_right _ _)

theorem steps_lt_of_exponentField_lt (less : format.exponentField left < format.exponentField right) :
    format.steps left < format.steps right := by
  have powers : 2 ^ format.exponentField left ≤ 2 ^ (format.exponentField right - 1) :=
    Nat.pow_le_pow_right (by decide) (by omega)
  calc format.steps left
      < 2 ^ format.fractionBits * 2 ^ format.exponentField left := format.steps_lt left
    _ ≤ 2 ^ format.fractionBits * 2 ^ (format.exponentField right - 1) := Nat.mul_le_mul_left _ powers
    _ ≤ format.steps right := le_steps (by omega)

theorem steps_inj (same : format.steps left = format.steps right) :
    format.magnitude left = format.magnitude right := by
  have exponents : format.exponentField left = format.exponentField right := by
    rcases Nat.lt_trichotomy (format.exponentField left) (format.exponentField right) with less | same | more
    · exact absurd same (steps_lt_of_exponentField_lt less).ne
    · exact same
    · exact absurd same (steps_lt_of_exponentField_lt more).ne'
  have significands : format.significand left = format.significand right := by
    rw [steps, steps, exponents] at same
    exact Nat.mul_right_cancel (Nat.two_pow_pos _) same
  have fractions : format.fractionField left = format.fractionField right := by
    rw [significand, significand, exponents] at significands
    split at significands <;> omega
  rw [magnitude_eq, magnitude_eq, exponents, fractions]

theorem steps_eq_zero_iff : format.steps pattern = 0 ↔ format.magnitude pattern = 0 := by
  have positive := Nat.two_pow_pos format.fractionBits
  have power := Nat.two_pow_pos (format.exponentField pattern - 1)
  rw [magnitude_eq_zero_iff, steps, Nat.mul_eq_zero, significand, Nat.pow_eq]
  split <;> omega

end Steps

section Numbers

theorem least_pos (format : Format) : 0 < format.least :=
  zpow_pos two_pos _

theorem number?_finite (ordinary : format.isSpecial pattern = false) : format.number? pattern =
    some (.finite ((if format.isNegative pattern then -1 else 1) * format.steps pattern * format.least)) := by
  have number : format.isNaN pattern = false := by simp [isNaN, ordinary]
  have exponent : format.exponent pattern =
      (format.exponentField pattern - 1 : Nat) + (1 - format.bias - format.fractionBits) := by
    have larger : Nat.max (format.exponentField pattern) 1 = format.exponentField pattern - 1 + 1 := by
      change max _ _ = _
      omega
    rw [Format.exponent, larger]
    omega
  rw [number?, number, ordinary, exponent, zpow_add₀ two_ne_zero, zpow_natCast]
  simp [steps, least, mul_assoc]

theorem number?_special (special : format.isSpecial pattern = true) (number : format.isNaN pattern = false) :
    format.number? pattern = some (.infinite (format.isNegative pattern)) := by
  rw [number?, number, special]
  rfl

theorem number?_isSome_iff : (format.number? pattern).isSome ↔ format.isNaN pattern = false := by
  unfold number?
  cases format.isNaN pattern <;> cases format.isSpecial pattern <;> simp

-- A number that is not above zero and not below it is zero whatever sign it is written with.
theorem signed_eq {isNegative other : Bool} {first second : Nat}
    (same : (if isNegative then -1 else 1 : ℚ) * first = (if other then -1 else 1) * second) :
    first = second ∧ (first = 0 ∨ isNegative = other) := by
  have apart (below above : Nat) (same : -(below : ℚ) = above) : below = 0 ∧ above = 0 := by
    have nothing : (below : ℚ) + above = 0 := by linarith
    exact Nat.add_eq_zero_iff.mp (by exact_mod_cast nothing)
  cases isNegative <;> cases other <;>
    simp only [Bool.false_eq_true, if_false, if_true, neg_one_mul, one_mul, neg_inj, Nat.cast_inj] at same
  case false.false => exact ⟨same, .inr rfl⟩
  case false.true =>
    obtain ⟨rfl, rfl⟩ := apart second first same.symm
    exact ⟨rfl, .inl rfl⟩
  case true.false =>
    obtain ⟨rfl, rfl⟩ := apart first second same
    exact ⟨rfl, .inl rfl⟩
  case true.true => exact ⟨same, .inr rfl⟩

theorem number?_zero (wide : 0 < format.exponentBits) (zero : format.magnitude pattern = 0) :
    format.number? pattern = some (.finite 0) := by
  have more := Nat.one_lt_two_pow wide.ne'
  have ordinary : format.isSpecial pattern = false := by
    rw [isSpecial, (magnitude_eq_zero_iff.mp zero).1, Nat.pow_eq]
    exact decide_eq_false (by omega)
  rw [number?_finite ordinary, steps_eq_zero_iff.mpr zero]
  simp

section Bounded

variable (leftBound : left < 2 ^ (format.fractionBits + format.exponentBits + 1))
  (rightBound : right < 2 ^ (format.fractionBits + format.exponentBits + 1))

include leftBound rightBound

theorem eq_of_magnitude_eq (signs : format.isNegative left = format.isNegative right)
    (magnitudes : format.magnitude left = format.magnitude right) : left = right := by
  have leftSplit := Nat.div_add_mod left (2 ^ (format.fractionBits + format.exponentBits))
  have rightSplit := Nat.div_add_mod right (2 ^ (format.fractionBits + format.exponentBits))
  rw [Nat.pow_succ] at leftBound rightBound
  have leftSign := Nat.div_lt_of_lt_mul leftBound
  have rightSign := Nat.div_lt_of_lt_mul rightBound
  have quotients : left / 2 ^ (format.fractionBits + format.exponentBits) =
      right / 2 ^ (format.fractionBits + format.exponentBits) := by
    have same := decide_eq_decide.mp signs
    rw [Nat.pow_eq, Nat.mod_eq_of_lt leftSign, Nat.mod_eq_of_lt rightSign] at same
    generalize left / 2 ^ (format.fractionBits + format.exponentBits) = first at *
    generalize right / 2 ^ (format.fractionBits + format.exponentBits) = second at *
    omega
  rw [magnitude, magnitude, Nat.pow_eq] at magnitudes
  rw [← leftSplit, ← rightSplit, quotients, magnitudes]

theorem eq_or_zero {number : Number} (first : format.number? left = some number)
    (second : format.number? right = some number) :
    left = right ∨ format.magnitude left = 0 ∧ format.magnitude right = 0 := by
  have leftNumber := number?_isSome_iff.mp (Option.isSome_of_mem first)
  have rightNumber := number?_isSome_iff.mp (Option.isSome_of_mem second)
  cases leftSpecial : format.isSpecial left with
  | true =>
    rw [number?_special leftSpecial leftNumber] at first
    cases rightSpecial : format.isSpecial right with
    | true =>
      rw [number?_special rightSpecial rightNumber, ← first] at second
      have signs : format.isNegative left = format.isNegative right := by simpa using second.symm
      have magnitudes : format.magnitude left = format.magnitude right := by
        simp only [isNaN, leftSpecial, rightSpecial, Bool.true_and,
          bne_eq_false_iff_eq] at leftNumber rightNumber
        rw [isSpecial, decide_eq_true_eq] at leftSpecial rightSpecial
        rw [magnitude_eq, magnitude_eq, leftNumber, rightNumber, leftSpecial, rightSpecial]
      exact .inl (eq_of_magnitude_eq leftBound rightBound signs magnitudes)
    | false =>
      rw [number?_finite rightSpecial, ← first] at second
      cases second
  | false =>
    rw [number?_finite leftSpecial] at first
    cases rightSpecial : format.isSpecial right with
    | true =>
      rw [number?_special rightSpecial rightNumber, ← first] at second
      cases second
    | false =>
      rw [number?_finite rightSpecial, ← first, Option.some.injEq, Number.finite.injEq] at second
      obtain ⟨same, zero | signs⟩ := signed_eq (mul_right_cancel₀ format.least_pos.ne' second.symm)
      · exact .inr ⟨steps_eq_zero_iff.mp zero, steps_eq_zero_iff.mp (same ▸ zero)⟩
      · exact .inl (eq_of_magnitude_eq leftBound rightBound signs (steps_inj same))

theorem equal_iff (wide : 0 < format.exponentBits) : format.equal left right = true ↔
    ∃ number, format.number? left = some number ∧ format.number? right = some number := by
  simp only [equal, Bool.and_eq_true, Bool.not_eq_true', Bool.or_eq_true, beq_iff_eq]
  constructor
  · rintro ⟨⟨leftNumber, _⟩, rfl | ⟨leftZero, rightZero⟩⟩
    · obtain ⟨number, found⟩ := Option.isSome_iff_exists.mp (number?_isSome_iff.mpr leftNumber)
      exact ⟨number, found, found⟩
    · exact ⟨.finite 0, number?_zero wide leftZero, number?_zero wide rightZero⟩
  · rintro ⟨number, first, second⟩
    exact ⟨⟨number?_isSome_iff.mp (Option.isSome_of_mem first),
      number?_isSome_iff.mp (Option.isSome_of_mem second)⟩,
      eq_or_zero leftBound rightBound first second⟩

end Bounded

end Numbers

theorem isNaN_iff : format.isNaN pattern = true ↔
    format.exponentField pattern = 2 ^ format.exponentBits - 1 ∧ format.fractionField pattern ≠ 0 := by
  rw [isNaN, Bool.and_eq_true, isSpecial, decide_eq_true_eq, bne_iff_ne]
  rfl

theorem single_isNaN_iff (pattern : UInt32) :
    single.isNaN pattern.toNat = true ↔ 0x7f800000 < pattern &&& 0x7fffffff := by
  have low : (pattern &&& 0x7fffffff).toNat = pattern.toNat % 2 ^ 31 :=
    (UInt32.toNat_and pattern 0x7fffffff).trans (Nat.and_two_pow_sub_one_eq_mod _ 31)
  have infinity : (0x7f800000 : UInt32).toNat = 255 * 2 ^ 23 := rfl
  rw [UInt32.lt_iff_toNat_lt, low, infinity]
  refine isNaN_iff.trans ?_
  change pattern.toNat / 2 ^ 23 % 2 ^ 8 = 2 ^ 8 - 1 ∧ pattern.toNat % 2 ^ 23 ≠ 0 ↔ _
  omega

theorem double_isNaN_iff (pattern : UInt64) :
    double.isNaN pattern.toNat = true ↔ 0x7ff0000000000000 < pattern &&& 0x7fffffffffffffff := by
  have low : (pattern &&& 0x7fffffffffffffff).toNat = pattern.toNat % 2 ^ 63 :=
    (UInt64.toNat_and pattern 0x7fffffffffffffff).trans (Nat.and_two_pow_sub_one_eq_mod _ 63)
  have infinity : (0x7ff0000000000000 : UInt64).toNat = 2047 * 2 ^ 52 := rfl
  rw [UInt64.lt_iff_toNat_lt, low, infinity]
  refine isNaN_iff.trans ?_
  change pattern.toNat / 2 ^ 52 % 2 ^ 11 = 2 ^ 11 - 1 ∧ pattern.toNat % 2 ^ 52 ≠ 0 ↔ _
  omega

end Format

end BeanRegistry.Floating
