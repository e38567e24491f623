import Mathlib.Algebra.Order.Round
import Mathlib.Data.Int.Log
import Mathlib.Data.Rat.Floor
import Mathlib.Tactic.FieldSimp
import Mathlib.Tactic.Linarith
import Mathlib.Tactic.Positivity

/-!
# Binary floating-point numbers

A number of a binary format is a rational that the format represents, one of
the infinities, a negative zero, or a NaN.  Arithmetic is exact arithmetic
rounded to the nearest represented number, with ties to the even significand.
All NaNs are one number here.
-/

namespace K4W.Library.Binary

structure Format where
  precision : Nat
  /-- The exponent of the least positive number. -/
  minExponent : Int
  /-- Magnitudes stay below this power of two. -/
  maxExponent : Int
  precision_pos : 0 < precision

def binary32 : Format := ⟨24, -149, 128, by decide⟩

def binary64 : Format := ⟨53, -1074, 1024, by decide⟩

/-- A multiple of a power of two by a significand of at most `precision` bits. -/
def Format.Scaled (format : Format) (value : Rat) : Prop :=
  ∃ significand exponent : Int, format.minExponent ≤ exponent ∧
    |significand| < 2 ^ format.precision ∧ value = significand * (2 : Rat) ^ exponent

/-- The finite values of the format. -/
def Format.Represents (format : Format) (value : Rat) : Prop :=
  |value| < (2 : Rat) ^ format.maxExponent ∧ format.Scaled value

inductive Number (format : Format) where
  | nan
  | infinity (negative : Bool)
  | negativeZero
  | finite (value : Rat) (represented : format.Represents value)

/-! ## Rounding -/

/-- The nearest integer, and the even one of two that are equally near. -/
def roundHalfEven (q : Rat) : Int :=
  let low := ⌊q⌋
  let rest := q - low
  if rest < 1 / 2 then low
  else if 1 / 2 < rest then low + 1
  else if low % 2 = 0 then low
  else low + 1

/-- The exponent of the last bit kept of a value. -/
def Format.lastExponent (format : Format) (value : Rat) : Int :=
  max (Int.log 2 |value| + 1 - format.precision) format.minExponent

/-- The value rounded to the bits that are kept, in an unbounded range. -/
def Format.roundValue (format : Format) (value : Rat) : Rat :=
  let scale := (2 : Rat) ^ format.lastExponent value
  roundHalfEven (value / scale) * scale

theorem roundHalfEven_intCast (n : Int) : roundHalfEven n = n := by
  simp [roundHalfEven]

theorem floor_le_roundHalfEven (q : Rat) : ⌊q⌋ ≤ roundHalfEven q := by
  unfold roundHalfEven
  dsimp only
  split
  · exact Int.le_refl _
  · split
    · omega
    · split <;> omega

theorem roundHalfEven_le_ceil (q : Rat) : roundHalfEven q ≤ ⌈q⌉ := by
  have hfloor : ⌊q⌋ ≤ ⌈q⌉ := Int.floor_le_ceil q
  by_cases hint : q = ⌊q⌋
  · rw [hint, roundHalfEven_intCast, Int.ceil_intCast]
  · have hlt : (⌊q⌋ : Rat) < ⌈q⌉ :=
      lt_of_lt_of_le (lt_of_le_of_ne (Int.floor_le q) (Ne.symm hint)) (Int.le_ceil q)
    have hnext : ⌊q⌋ + 1 ≤ ⌈q⌉ := by exact_mod_cast hlt
    unfold roundHalfEven
    dsimp only
    split
    · exact hfloor
    · split
      · exact hnext
      · split
        · exact hfloor
        · exact hnext

/-- Rounding does not leave an interval with integer ends. -/
theorem abs_roundHalfEven_le {q : Rat} {bound : Int} (hq : |q| ≤ bound) :
    |roundHalfEven q| ≤ bound := by
  obtain ⟨hlow, hhigh⟩ := abs_le.mp hq
  have hfloor : -bound ≤ ⌊q⌋ := Int.le_floor.mpr (by exact_mod_cast hlow)
  have hceil : ⌈q⌉ ≤ bound := Int.ceil_le.mpr (by exact_mod_cast hhigh)
  have hbelow := floor_le_roundHalfEven q
  have habove := roundHalfEven_le_ceil q
  exact abs_le.mpr ⟨by omega, by omega⟩

/-- A value is less than `2 ^ precision` units of its last kept bit. -/
theorem abs_lt_lastExponent (format : Format) (value : Rat) :
    |value| < 2 ^ format.precision * (2 : Rat) ^ format.lastExponent value := by
  have hlog : |value| < ((2 : Nat) : Rat) ^ (Int.log 2 |value| + 1) :=
    Int.lt_zpow_succ_log_self (by decide) _
  have hle : Int.log 2 |value| + 1 ≤ format.precision + format.lastExponent value := by
    have hmax := le_max_left (Int.log 2 |value| + 1 - format.precision) format.minExponent
    unfold Format.lastExponent
    omega
  calc |value| < (2 : Rat) ^ (Int.log 2 |value| + 1) := by exact_mod_cast hlog
    _ ≤ (2 : Rat) ^ ((format.precision : Int) + format.lastExponent value) :=
        zpow_le_zpow_right₀ (by norm_num) hle
    _ = 2 ^ format.precision * (2 : Rat) ^ format.lastExponent value := by
        rw [zpow_add₀ (by norm_num), zpow_natCast]

theorem scaled_roundValue (format : Format) (value : Rat) :
    format.Scaled (format.roundValue value) := by
  let scale := (2 : Rat) ^ format.lastExponent value
  let significand := roundHalfEven (value / scale)
  have hscale : 0 < scale := zpow_pos (by norm_num) _
  have hquotient : |value / scale| ≤ ((2 ^ format.precision : Int) : Rat) := by
    rw [abs_div, abs_of_pos hscale, div_le_iff₀ hscale]
    push_cast
    exact le_of_lt (abs_lt_lastExponent format value)
  have hbound : |significand| ≤ 2 ^ format.precision := abs_roundHalfEven_le hquotient
  have hexponent : format.minExponent ≤ format.lastExponent value := le_max_right _ _
  rcases lt_or_eq_of_le hbound with hlt | heq
  · exact ⟨significand, format.lastExponent value, hexponent, hlt, rfl⟩
  · -- The significand was rounded up to one more bit, all of them zero.
    obtain ⟨sign, hsign, hvalue⟩ : ∃ sign : Int, |sign| = 1 ∧
        significand = sign * 2 ^ format.precision := by
      rcases abs_eq (by positivity) |>.mp heq with hpos | hneg
      · exact ⟨1, by decide, by rw [hpos, one_mul]⟩
      · exact ⟨-1, by decide, by rw [hneg, neg_one_mul]⟩
    refine ⟨sign, format.lastExponent value + format.precision, by omega, ?_, ?_⟩
    · rw [hsign]
      exact_mod_cast Nat.one_lt_two_pow (Nat.ne_of_gt format.precision_pos)
    · change (significand : Rat) * scale = _
      rw [hvalue, zpow_add₀ (by norm_num), zpow_natCast]
      push_cast
      ring

theorem roundValue_zero (format : Format) : format.roundValue 0 = 0 := by
  have hround : roundHalfEven 0 = 0 := roundHalfEven_intCast 0
  simp [Format.roundValue, hround]

/-- A value that needs no more bits than the format has is not changed. -/
theorem roundValue_eq {format : Format} {value : Rat} (hscaled : format.Scaled value) :
    format.roundValue value = value := by
  obtain ⟨significand, exponent, hmin, hlt, hvalue⟩ := hscaled
  by_cases hzero : value = 0
  · rw [hzero]
    exact roundValue_zero format
  have hlast : format.lastExponent value ≤ exponent := by
    have hlog : ((2 : Nat) : Rat) ^ Int.log 2 |value| ≤ |value| :=
      Int.zpow_log_le_self (by decide) (abs_pos.mpr hzero)
    have habs : |value| < (2 : Rat) ^ ((format.precision : Int) + exponent) := by
      rw [hvalue, abs_mul, abs_of_pos (zpow_pos (by norm_num : (0 : Rat) < 2) exponent),
        zpow_add₀ (by norm_num), zpow_natCast]
      apply mul_lt_mul_of_pos_right _ (zpow_pos (by norm_num) exponent)
      exact_mod_cast hlt
    have hexponents : Int.log 2 |value| < format.precision + exponent :=
      (zpow_lt_zpow_iff_right₀ (by norm_num : (1 : Rat) < 2)).mp
        (lt_of_le_of_lt (by exact_mod_cast hlog) habs)
    exact max_le (by omega) hmin
  obtain ⟨shift, hshift⟩ := Int.eq_ofNat_of_zero_le (Int.sub_nonneg.mpr hlast)
  have hscale : (2 : Rat) ^ format.lastExponent value ≠ 0 := zpow_ne_zero _ (by norm_num)
  have hexponent : exponent = shift + format.lastExponent value := by omega
  have hmultiple :
      value = (significand * 2 ^ shift : Int) * (2 : Rat) ^ format.lastExponent value := by
    calc value = significand * (2 : Rat) ^ ((shift : Int) + format.lastExponent value) := by
          rw [← hexponent]
          exact hvalue
      _ = (significand * 2 ^ shift : Int) * (2 : Rat) ^ format.lastExponent value := by
          rw [zpow_add₀ (by norm_num), zpow_natCast]
          push_cast
          ring
  have hquotient : value / (2 : Rat) ^ format.lastExponent value =
      (significand * 2 ^ shift : Int) := by
    rw [div_eq_iff hscale]
    exact hmultiple
  rw [Format.roundValue, hquotient, roundHalfEven_intCast]
  exact hmultiple.symm

namespace Number

variable {format : Format}

/-- The number of the format nearest to a value. -/
def round (format : Format) (value : Rat) : Number format :=
  if format.roundValue value = 0 ∧ value < 0 then
    negativeZero
  else if hrange : |format.roundValue value| < (2 : Rat) ^ format.maxExponent then
    finite (format.roundValue value) ⟨hrange, scaled_roundValue format value⟩
  else
    infinity (decide (value < 0))

theorem round_eq {value : Rat} (hvalue : format.Represents value) :
    round format value = finite value hvalue := by
  have heq := roundValue_eq hvalue.2
  have hnot : ¬(format.roundValue value = 0 ∧ value < 0) := by
    rw [heq]
    rintro ⟨hzero, hneg⟩
    exact absurd hneg (by rw [hzero]; exact lt_irrefl 0)
  unfold round
  rw [if_neg hnot]
  simp only [heq, dif_pos hvalue.1]

/-! ## Arithmetic -/

/-- The sign bit, false for the one NaN. -/
def isNegative : Number format → Bool
  | nan => false
  | infinity negative => negative
  | negativeZero => true
  | finite value _ => decide (value < 0)

/-- The value, unless the number is an infinity or a NaN. -/
def value? : Number format → Option Rat
  | nan | infinity _ => none
  | negativeZero => some 0
  | finite value _ => some value

def zeroOf (format : Format) (negative : Bool) : Number format :=
  if negative then negativeZero else round format 0

def ofInt (format : Format) (n : Int) : Number format :=
  round format n

/-- The nearest number of another format. -/
def convert (target : Format) : Number format → Number target
  | nan => nan
  | infinity negative => infinity negative
  | negativeZero => negativeZero
  | finite value _ => round target value

def mul : Number format → Number format → Number format
  | nan, _ | _, nan => nan
  | infinity negative, other | other, infinity negative =>
      if other.value? = some 0 then nan else infinity (negative ^^ other.isNegative)
  | left, right =>
      match left.value?, right.value? with
      | some leftValue, some rightValue =>
          if leftValue * rightValue = 0 then zeroOf format (left.isNegative ^^ right.isNegative)
          else round format (leftValue * rightValue)
      | _, _ => nan

def div : Number format → Number format → Number format
  | nan, _ | _, nan => nan
  | infinity _, infinity _ => nan
  | infinity negative, other => infinity (negative ^^ other.isNegative)
  | other, infinity negative => zeroOf format (negative ^^ other.isNegative)
  | left, right =>
      match left.value?, right.value? with
      | some leftValue, some rightValue =>
          if rightValue = 0 then
            if leftValue = 0 then nan else infinity (left.isNegative ^^ right.isNegative)
          else if leftValue = 0 then zeroOf format (left.isNegative ^^ right.isNegative)
          else round format (leftValue / rightValue)
      | _, _ => nan

/-- An exact difference of zero is positive, except that of a negative and a positive zero. -/
def sub : Number format → Number format → Number format
  | nan, _ | _, nan => nan
  | infinity left, infinity right => if left = right then nan else infinity left
  | infinity negative, _ => infinity negative
  | _, infinity negative => infinity (!negative)
  | left, right =>
      match left.value?, right.value? with
      | some leftValue, some rightValue =>
          if leftValue - rightValue = 0 then
            zeroOf format (leftValue = 0 && left.isNegative && !right.isNegative)
          else round format (leftValue - rightValue)
      | _, _ => nan

/-- The order of C, which no NaN takes part in. -/
def lt : Number format → Number format → Bool
  | nan, _ | _, nan => false
  | infinity true, other => other.value?.isSome || !other.isNegative
  | infinity false, _ => false
  | _, infinity negative => !negative
  | left, right =>
      match left.value?, right.value? with
      | some leftValue, some rightValue => decide (leftValue < rightValue)
      | _, _ => false

/-- The integer part of a value, towards zero. -/
def towardsZero (value : Rat) : Int :=
  if value < 0 then ⌈value⌉ else ⌊value⌋

/-- The integer part, towards zero, unless the number is an infinity or a NaN. -/
def truncate? (number : Number format) : Option Int :=
  number.value?.map towardsZero

/-! ## Exact cases -/

/-- Integers of at most `precision` bits are represented. -/
theorem represents_intCast {n : Int} (hn : |n| < 2 ^ format.precision)
    (hmin : format.minExponent ≤ 0) (hmax : (format.precision : Int) ≤ format.maxExponent) :
    format.Represents n := by
  refine ⟨?_, n, 0, hmin, hn, by simp⟩
  calc |(n : Rat)| < 2 ^ format.precision := by exact_mod_cast hn
    _ = (2 : Rat) ^ (format.precision : Int) := (zpow_natCast 2 _).symm
    _ ≤ (2 : Rat) ^ format.maxExponent := zpow_le_zpow_right₀ (by norm_num) hmax

/-- Halves of such integers are represented as well. -/
theorem represents_half {n : Int} (hn : |n| < 2 ^ format.precision)
    (hmin : format.minExponent ≤ -1) (hmax : (format.precision : Int) ≤ format.maxExponent) :
    format.Represents ((n : Rat) / 2) := by
  have hwhole := represents_intCast hn (by omega) hmax
  refine ⟨lt_of_le_of_lt ?_ hwhole.1, n, -1, hmin, hn, ?_⟩
  · rw [abs_div, abs_of_pos (by norm_num : (0 : Rat) < 2)]
    exact div_le_self (abs_nonneg _) (by norm_num)
  · rw [zpow_neg, zpow_one]
    rfl

theorem represents_zero (format : Format) (hmin : format.minExponent ≤ 0)
    (hmax : (format.precision : Int) ≤ format.maxExponent) : format.Represents 0 := by
  have hzero := represents_intCast (show |(0 : Int)| < 2 ^ format.precision by simp) hmin hmax
  simpa using hzero

theorem round_value {value : Rat} (hvalue : format.Represents value) :
    (round format value).value? = some value := by
  rw [round_eq hvalue]
  rfl

theorem zeroOf_value (hzero : format.Represents 0) (negative : Bool) :
    (zeroOf format negative).value? = some 0 := by
  cases negative with
  | false => exact round_value hzero
  | true => rfl

/-- A represented quotient is the result of the division. -/
theorem div_value {left right : Rat} (hleft : format.Represents left)
    (hright : format.Represents right) (hzero : format.Represents 0) (hne : right ≠ 0)
    (hquotient : format.Represents (left / right)) :
    (div (finite left hleft) (finite right hright)).value? = some (left / right) := by
  by_cases hleftZero : left = 0
  · subst hleftZero
    have hdiv : div (finite 0 hleft) (finite right hright) = zeroOf format
        ((finite 0 hleft).isNegative ^^ (finite right hright).isNegative) := by
      simp [div, value?, hne]
    rw [hdiv, zero_div]
    exact zeroOf_value hzero _
  · have hdiv : div (finite left hleft) (finite right hright) = round format (left / right) := by
      simp [div, value?, hne, hleftZero]
    rw [hdiv]
    exact round_value hquotient

/-- A represented product is the result of the multiplication. -/
theorem mul_value {left right : Rat} (hleft : format.Represents left)
    (hright : format.Represents right) (hzero : format.Represents 0)
    (hproduct : format.Represents (left * right)) :
    (mul (finite left hleft) (finite right hright)).value? = some (left * right) := by
  by_cases hproductZero : left * right = 0
  · have hmul : mul (finite left hleft) (finite right hright) = zeroOf format
        ((finite left hleft).isNegative ^^ (finite right hright).isNegative) := by
      simp only [mul, value?, if_pos hproductZero]
    rw [hmul, hproductZero]
    exact zeroOf_value hzero _
  · have hmul : mul (finite left hleft) (finite right hright) = round format (left * right) := by
      simp only [mul, value?, if_neg hproductZero]
    rw [hmul]
    exact round_value hproduct

/-- A represented difference is the result of the subtraction. -/
theorem sub_value {left right : Rat} (hleft : format.Represents left)
    (hright : format.Represents right) (hzero : format.Represents 0)
    (hdifference : format.Represents (left - right)) :
    (sub (finite left hleft) (finite right hright)).value? = some (left - right) := by
  by_cases hsame : left - right = 0
  · simp only [sub, value?, if_pos hsame]
    rw [hsame]
    exact zeroOf_value hzero _
  · simp only [sub, value?, if_neg hsame]
    exact round_value hdifference

theorem lt_finite {left right : Rat} (hleft : format.Represents left)
    (hright : format.Represents right) :
    (finite left hleft).lt (finite right hright) = decide (left < right) :=
  rfl

theorem convert_value {target : Format} {value : Rat} (hvalue : format.Represents value)
    (htarget : target.Represents value) :
    ((finite value hvalue).convert target).value? = some value :=
  round_value htarget

end Number

end K4W.Library.Binary
