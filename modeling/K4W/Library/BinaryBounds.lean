import K4W.Library.Interchange

/-!
# Bounds of floating-point results

Rounding does not step over a represented value.  What lies between two of them
before the rounding lies between them afterwards, and so sums, products, and
quotients keep the bounds that exact arithmetic has.
-/

namespace K4W.Library.Binary

/-! ## Rounding and represented values -/

theorem roundHalfEven_le {q : Rat} {n : Int} (hq : q ≤ n) : roundHalfEven q ≤ n :=
  (roundHalfEven_le_ceil q).trans (Int.ceil_le.mpr hq)

theorem le_roundHalfEven {q : Rat} {n : Int} (hq : (n : Rat) ≤ q) : n ≤ roundHalfEven q :=
  (Int.le_floor.mpr hq).trans (floor_le_roundHalfEven q)

/-- A value reaches the power of two that its last kept bit comes from. -/
theorem zpow_le_abs {format : Format} {value : Rat} (hvalue : value ≠ 0)
    (hnormal : format.minExponent < format.lastExponent value) :
    (2 : Rat) ^ (format.precision + format.lastExponent value - 1) ≤ |value| := by
  have hlast : format.lastExponent value = Int.log 2 |value| + 1 - format.precision := by
    unfold Format.lastExponent at hnormal ⊢
    omega
  have hlog : ((2 : Nat) : Rat) ^ Int.log 2 |value| ≤ |value| :=
    Int.zpow_log_le_self (by decide) (abs_pos.mpr hvalue)
  have hexponent : format.precision + format.lastExponent value - 1 = Int.log 2 |value| := by
    omega
  rw [hexponent]
  exact_mod_cast hlog

/-- A represented value is a whole number of units of the last kept bit, or below the value. -/
theorem Format.Scaled.units_or_small {format : Format} {bound : Rat} (hbound : format.Scaled bound)
    {value : Rat} (hvalue : value ≠ 0) :
    (∃ n : Int, bound = n * (2 : Rat) ^ format.lastExponent value) ∨
      ∃ n : Int, |bound| ≤ n * (2 : Rat) ^ format.lastExponent value ∧
        n * (2 : Rat) ^ format.lastExponent value ≤ |value| := by
  obtain ⟨significand, exponent, hmin, hlt, hbound⟩ := hbound
  by_cases hlast : format.lastExponent value ≤ exponent
  · left
    obtain ⟨shift, hshift⟩ := Int.eq_ofNat_of_zero_le (Int.sub_nonneg.mpr hlast)
    refine ⟨significand * 2 ^ shift, ?_⟩
    have hexponent : exponent = shift + format.lastExponent value := by omega
    rw [hbound, hexponent, zpow_add₀ (by norm_num), zpow_natCast]
    push_cast
    ring
  · right
    have hnormal := zpow_le_abs hvalue (lt_of_le_of_lt hmin (not_le.mp hlast))
    obtain ⟨bits, hbits⟩ := Nat.exists_eq_succ_of_ne_zero (Nat.ne_of_gt format.precision_pos)
    have hunits : ((2 ^ bits : Int) : Rat) * (2 : Rat) ^ format.lastExponent value =
        (2 : Rat) ^ (format.precision + format.lastExponent value - 1) := by
      rw [hbits]
      push_cast
      rw [← zpow_natCast, ← zpow_add₀ (by norm_num)]
      congr 1
      omega
    refine ⟨2 ^ bits, ?_, hunits.trans_le hnormal⟩
    rw [hunits]
    calc |bound| = |(significand : Rat)| * (2 : Rat) ^ exponent := by
          rw [hbound, abs_mul, abs_of_pos (zpow_pos (by norm_num : (0 : Rat) < 2) exponent)]
      _ ≤ 2 ^ format.precision * (2 : Rat) ^ exponent := by
          apply mul_le_mul_of_nonneg_right _ (le_of_lt (zpow_pos (by norm_num) exponent))
          exact_mod_cast le_of_lt hlt
      _ = (2 : Rat) ^ ((format.precision : Int) + exponent) := by
          rw [zpow_add₀ (by norm_num), zpow_natCast]
      _ ≤ (2 : Rat) ^ (format.precision + format.lastExponent value - 1) :=
          zpow_le_zpow_right₀ (by norm_num) (by omega)

theorem scale_pos (format : Format) (value : Rat) :
    0 < (2 : Rat) ^ format.lastExponent value :=
  zpow_pos (by norm_num) _

theorem roundValue_le_units {format : Format} {value : Rat} {n : Int}
    (hvalue : value ≤ n * (2 : Rat) ^ format.lastExponent value) :
    format.roundValue value ≤ n * (2 : Rat) ^ format.lastExponent value := by
  have hscale := scale_pos format value
  apply mul_le_mul_of_nonneg_right _ (le_of_lt hscale)
  exact_mod_cast roundHalfEven_le ((div_le_iff₀ hscale).mpr hvalue)

theorem units_le_roundValue {format : Format} {value : Rat} {n : Int}
    (hvalue : n * (2 : Rat) ^ format.lastExponent value ≤ value) :
    n * (2 : Rat) ^ format.lastExponent value ≤ format.roundValue value := by
  have hscale := scale_pos format value
  apply mul_le_mul_of_nonneg_right _ (le_of_lt hscale)
  exact_mod_cast le_roundHalfEven ((le_div_iff₀ hscale).mpr hvalue)

/-- Rounding does not step over a represented value above. -/
theorem roundValue_le {format : Format} {value bound : Rat} (hbound : format.Scaled bound)
    (hle : value ≤ bound) : format.roundValue value ≤ bound := by
  by_cases hzero : value = 0
  · rw [hzero, roundValue_zero]
    exact hzero ▸ hle
  rcases hbound.units_or_small hzero with ⟨n, hunits⟩ | ⟨n, hsmall, hreached⟩
  · rw [hunits] at hle ⊢
    exact roundValue_le_units hle
  · have hbounds := abs_le.mp hsmall
    rcases le_or_gt 0 value with hpos | hneg
    · rw [abs_of_nonneg hpos] at hreached
      have hvalue := @roundValue_le_units format value n (hle.trans hbounds.2)
      exact hvalue.trans (hreached.trans hle)
    · rw [abs_of_neg hneg] at hreached
      have hvalue : value ≤ ((-n : Int) : Rat) * (2 : Rat) ^ format.lastExponent value := by
        push_cast
        linarith
      have hrounded := roundValue_le_units hvalue
      push_cast at hrounded
      linarith

/-- Rounding does not step over a represented value below. -/
theorem le_roundValue {format : Format} {value bound : Rat} (hbound : format.Scaled bound)
    (hle : bound ≤ value) : bound ≤ format.roundValue value := by
  by_cases hzero : value = 0
  · rw [hzero, roundValue_zero]
    exact hzero ▸ hle
  rcases hbound.units_or_small hzero with ⟨n, hunits⟩ | ⟨n, hsmall, hreached⟩
  · rw [hunits] at hle ⊢
    exact units_le_roundValue hle
  · have hbounds := abs_le.mp hsmall
    rcases le_or_gt 0 value with hpos | hneg
    · rw [abs_of_nonneg hpos] at hreached
      exact hbounds.2.trans (units_le_roundValue hreached)
    · rw [abs_of_neg hneg] at hreached
      have hvalue : ((-n : Int) : Rat) * (2 : Rat) ^ format.lastExponent value ≤ value := by
        push_cast
        linarith
      have hrounded := units_le_roundValue hvalue
      push_cast at hrounded
      linarith

namespace Number

variable {format : Format}

/-! ## Numbers between two values -/

/-- The number has a value, and it lies between the two. -/
def Within (number : Number format) (low high : Rat) : Prop :=
  ∃ value, number.value? = some value ∧ low ≤ value ∧ value ≤ high

theorem Within.mono {number : Number format} {low high lower higher : Rat}
    (hwithin : number.Within low high) (hlow : lower ≤ low) (hhigh : high ≤ higher) :
    number.Within lower higher := by
  obtain ⟨value, hvalue, hleft, hright⟩ := hwithin
  exact ⟨value, hvalue, hlow.trans hleft, hright.trans hhigh⟩

theorem within_round {value low high : Rat} (hlow : format.Represents low)
    (hhigh : format.Represents high) (hleft : low ≤ value) (hright : value ≤ high) :
    (round format value).Within low high := by
  have hbelow := le_roundValue hlow.2 hleft
  have habove := roundValue_le hhigh.2 hright
  refine ⟨format.roundValue value, ?_, hbelow, habove⟩
  unfold round
  split
  case isTrue hzero => exact congrArg some hzero.1.symm
  case isFalse =>
      have hrange : |format.roundValue value| < (2 : Rat) ^ format.maxExponent := by
        have hl := abs_lt.mp hlow.1
        have hh := abs_lt.mp hhigh.1
        exact abs_lt.mpr ⟨by linarith, by linarith⟩
      rw [dif_pos hrange]
      rfl

theorem within_ofInt {n : Int} (hn : format.Represents n) : (ofInt format n).Within n n :=
  ⟨n, round_value hn, le_refl _, le_refl _⟩

theorem within_zeroOf (hzero : format.Represents 0) (negative : Bool) :
    (zeroOf format negative).Within 0 0 :=
  ⟨0, zeroOf_value hzero negative, le_refl _, le_refl _⟩

/-! ## Sums, products, and quotients -/

/-- An exact sum of zero is positive, except that of two negative zeros. -/
def add : Number format → Number format → Number format
  | nan, _ | _, nan => nan
  | infinity left, infinity right => if left = right then infinity left else nan
  | infinity negative, _ | _, infinity negative => infinity negative
  | left, right =>
      match left.value?, right.value? with
      | some leftValue, some rightValue =>
          if leftValue + rightValue = 0 then
            zeroOf format (leftValue = 0 && left.isNegative && right.isNegative)
          else round format (leftValue + rightValue)
      | _, _ => nan

section Values

variable {left right : Number format} {leftValue rightValue : Rat}

theorem add_eq (hleft : left.value? = some leftValue) (hright : right.value? = some rightValue) :
    ∃ negative, left.add right =
      if leftValue + rightValue = 0 then zeroOf format negative
      else round format (leftValue + rightValue) := by
  cases left <;> cases hleft <;> cases right <;> cases hright <;> exact ⟨_, rfl⟩

theorem sub_eq (hleft : left.value? = some leftValue) (hright : right.value? = some rightValue) :
    ∃ negative, left.sub right =
      if leftValue - rightValue = 0 then zeroOf format negative
      else round format (leftValue - rightValue) := by
  cases left <;> cases hleft <;> cases right <;> cases hright <;> exact ⟨_, rfl⟩

theorem lt_eq (hleft : left.value? = some leftValue) (hright : right.value? = some rightValue) :
    left.lt right = decide (leftValue < rightValue) := by
  cases left <;> cases hleft <;> cases right <;> cases hright <;> rfl

theorem mul_eq (hleft : left.value? = some leftValue) (hright : right.value? = some rightValue) :
    ∃ negative, left.mul right =
      if leftValue * rightValue = 0 then zeroOf format negative
      else round format (leftValue * rightValue) := by
  cases left <;> cases hleft <;> cases right <;> cases hright <;> exact ⟨_, rfl⟩

theorem div_eq (hleft : left.value? = some leftValue) (hright : right.value? = some rightValue)
    (hne : rightValue ≠ 0) :
    ∃ negative, left.div right =
      if leftValue = 0 then zeroOf format negative
      else round format (leftValue / rightValue) := by
  refine ⟨left.isNegative ^^ right.isNegative, ?_⟩
  cases left <;> cases hleft <;> cases right <;> cases hright <;> exact if_neg hne

end Values

section Bounds

variable {left right : Number format} {low high other : Rat}

theorem Within.add {lowRight highRight : Rat} (hleft : left.Within low high)
    (hright : right.Within lowRight highRight) (hzero : format.Represents 0)
    (hlow : format.Represents (low + lowRight)) (hhigh : format.Represents (high + highRight)) :
    (left.add right).Within (low + lowRight) (high + highRight) := by
  obtain ⟨leftValue, hleftValue, hleftLow, hleftHigh⟩ := hleft
  obtain ⟨rightValue, hrightValue, hrightLow, hrightHigh⟩ := hright
  have hbelow := add_le_add hleftLow hrightLow
  have habove := add_le_add hleftHigh hrightHigh
  obtain ⟨negative, hsum⟩ := add_eq hleftValue hrightValue
  rw [hsum]
  split
  case isTrue hsumZero =>
      rw [hsumZero] at hbelow habove
      exact (within_zeroOf hzero negative).mono hbelow habove
  case isFalse => exact within_round hlow hhigh hbelow habove

/-- A product of numbers that are not negative. -/
theorem Within.mul (hleft : left.Within 0 high) (hright : right.Within 0 other)
    (hzero : format.Represents 0) (hproduct : format.Represents (high * other)) :
    (left.mul right).Within 0 (high * other) := by
  obtain ⟨leftValue, hleftValue, hleftLow, hleftHigh⟩ := hleft
  obtain ⟨rightValue, hrightValue, hrightLow, hrightHigh⟩ := hright
  have habove : leftValue * rightValue ≤ high * other :=
    mul_le_mul hleftHigh hrightHigh hrightLow (hleftLow.trans hleftHigh)
  have hbelow : 0 ≤ leftValue * rightValue := mul_nonneg hleftLow hrightLow
  obtain ⟨negative, hmul⟩ := mul_eq hleftValue hrightValue
  rw [hmul]
  split
  case isTrue => exact (within_zeroOf hzero negative).mono (le_refl _) (hbelow.trans habove)
  case isFalse => exact within_round hzero hproduct hbelow habove

theorem Within.sub {lowRight highRight : Rat} (hleft : left.Within low high)
    (hright : right.Within lowRight highRight) (hzero : format.Represents 0)
    (hlow : format.Represents (low - highRight)) (hhigh : format.Represents (high - lowRight)) :
    (left.sub right).Within (low - highRight) (high - lowRight) := by
  obtain ⟨leftValue, hleftValue, hleftLow, hleftHigh⟩ := hleft
  obtain ⟨rightValue, hrightValue, hrightLow, hrightHigh⟩ := hright
  have hbelow := sub_le_sub hleftLow hrightHigh
  have habove := sub_le_sub hleftHigh hrightLow
  obtain ⟨negative, hdifference⟩ := sub_eq hleftValue hrightValue
  rw [hdifference]
  split
  case isTrue hsame =>
      rw [hsame] at hbelow habove
      exact (within_zeroOf hzero negative).mono hbelow habove
  case isFalse => exact within_round hlow hhigh hbelow habove

/-- A quotient of numbers that are not negative. -/
theorem Within.div {value quotient : Rat} (hleft : left.Within 0 high)
    (hright : right.Within value other) (hpos : 0 < value) (hhigh : high ≤ quotient * value)
    (hzero : format.Represents 0) (hquotient : format.Represents quotient) :
    (left.div right).Within 0 quotient := by
  obtain ⟨leftValue, hleftValue, hleftLow, hleftHigh⟩ := hleft
  obtain ⟨rightValue, hrightValue, hrightLow, -⟩ := hright
  have hrightPos : 0 < rightValue := hpos.trans_le hrightLow
  have hbelow : 0 ≤ leftValue / rightValue := div_nonneg hleftLow (le_of_lt hrightPos)
  have habove : leftValue / rightValue ≤ quotient :=
    calc leftValue / rightValue ≤ high / value :=
          div_le_div₀ (hleftLow.trans hleftHigh) hleftHigh hpos hrightLow
      _ ≤ quotient := (div_le_iff₀ hpos).mpr hhigh
  obtain ⟨negative, hdiv⟩ := div_eq hleftValue hrightValue (ne_of_gt hrightPos)
  rw [hdiv]
  split
  case isTrue => exact (within_zeroOf hzero negative).mono (le_refl _) (hbelow.trans habove)
  case isFalse => exact within_round hzero hquotient hbelow habove

/-- A number that is below another is at most what the other is at most. -/
theorem Within.of_lt {lowRight highRight : Rat} (hleft : left.Within low high)
    (hright : right.Within lowRight highRight) (hlt : left.lt right = true) :
    left.Within low highRight := by
  obtain ⟨leftValue, hleftValue, hleftLow, -⟩ := hleft
  obtain ⟨rightValue, hrightValue, -, hrightHigh⟩ := hright
  rw [lt_eq hleftValue hrightValue, decide_eq_true_iff] at hlt
  exact ⟨leftValue, hleftValue, hleftLow, (le_of_lt hlt).trans hrightHigh⟩

/-- A factor between 0 and 1 moves a value towards zero. -/
theorem within_scaled {value : Rat} (hleft : left.value? = some value)
    (hfactor : right.Within 0 1) (hzero : format.Represents 0) (hvalue : format.Represents value) :
    (left.mul right).Within (min 0 value) (max 0 value) := by
  obtain ⟨factor, hright, hlow, hhigh⟩ := hfactor
  have hbounds : min 0 value ≤ value * factor ∧ value * factor ≤ max 0 value := by
    rcases le_total 0 value with hpos | hneg
    · rw [min_eq_left hpos, max_eq_right hpos]
      exact ⟨mul_nonneg hpos hlow, mul_le_of_le_one_right hpos hhigh⟩
    · rw [min_eq_right hneg, max_eq_left hneg]
      exact ⟨le_mul_of_le_one_right hneg hhigh, mul_nonpos_of_nonpos_of_nonneg hneg hlow⟩
  obtain ⟨negative, hmul⟩ := mul_eq hleft hright
  rw [hmul]
  split
  case isTrue =>
      exact (within_zeroOf hzero negative).mono (min_le_left _ _) (le_max_left _ _)
  case isFalse =>
      rcases le_total 0 value with hpos | hneg
      · rw [min_eq_left hpos, max_eq_right hpos] at hbounds ⊢
        exact within_round hzero hvalue hbounds.1 hbounds.2
      · rw [min_eq_right hneg, max_eq_left hneg] at hbounds ⊢
        exact within_round hvalue hzero hbounds.1 hbounds.2

/-- A represented quotient is exact. -/
theorem div_exact {leftValue rightValue : Rat} (hleft : left.value? = some leftValue)
    (hright : right.value? = some rightValue) (hne : rightValue ≠ 0)
    (hzero : format.Represents 0) (hquotient : format.Represents (leftValue / rightValue)) :
    (left.div right).value? = some (leftValue / rightValue) := by
  obtain ⟨negative, hdiv⟩ := div_eq hleft hright hne
  rw [hdiv]
  split
  case isTrue hleftZero =>
      rw [hleftZero, zero_div]
      exact zeroOf_value hzero negative
  case isFalse => exact round_value hquotient

/-- A represented product is exact. -/
theorem mul_exact {leftValue rightValue : Rat} (hleft : left.value? = some leftValue)
    (hright : right.value? = some rightValue) (hzero : format.Represents 0)
    (hproduct : format.Represents (leftValue * rightValue)) :
    (left.mul right).value? = some (leftValue * rightValue) := by
  obtain ⟨negative, hmul⟩ := mul_eq hleft hright
  rw [hmul]
  split
  case isTrue hproductZero =>
      rw [hproductZero]
      exact zeroOf_value hzero negative
  case isFalse => exact round_value hproduct

/-- A product lies between the integers around its exact value. -/
theorem within_product {leftValue rightValue : Rat} (hleft : left.value? = some leftValue)
    (hright : right.value? = some rightValue) (hzero : format.Represents 0)
    (hfloor : format.Represents (⌊leftValue * rightValue⌋ : Int))
    (hceil : format.Represents (⌈leftValue * rightValue⌉ : Int)) :
    (left.mul right).Within (⌊leftValue * rightValue⌋ : Int) (⌈leftValue * rightValue⌉ : Int) := by
  obtain ⟨negative, hmul⟩ := mul_eq hleft hright
  rw [hmul]
  split
  case isTrue hproductZero =>
      rw [hproductZero, Int.floor_zero, Int.ceil_zero, Int.cast_zero]
      exact within_zeroOf hzero negative
  case isFalse => exact within_round hfloor hceil (Int.floor_le _) (Int.le_ceil _)

/-- The integer part stays between integers. -/
theorem Within.truncate {number : Number format} {low high : Int}
    (hwithin : number.Within low high) :
    ∃ n, number.truncate? = some n ∧ low ≤ n ∧ n ≤ high := by
  obtain ⟨value, hvalue, hleft, hright⟩ := hwithin
  rw [truncate?, hvalue, Option.map_some, towardsZero]
  split
  case isTrue =>
      exact ⟨⌈value⌉, rfl, by exact_mod_cast hleft.trans (Int.le_ceil value),
        Int.ceil_le.mpr hright⟩
  case isFalse =>
      exact ⟨⌊value⌋, rfl, Int.le_floor.mpr hleft,
        by exact_mod_cast (Int.floor_le value).trans hright⟩

end Bounds

/-! ## Magnitudes -/

def abs : Number format → Number format
  | nan => nan
  | infinity _ => infinity false
  | negativeZero => round format 0
  | finite value hvalue => finite |value| (represents_abs hvalue)

theorem abs_value {number : Number format} {value : Rat} (hnumber : number.value? = some value)
    (hzero : format.Represents 0) : number.abs.value? = some |value| := by
  cases number with
  | nan | infinity => cases hnumber
  | negativeZero =>
      cases hnumber
      rw [abs_zero]
      exact round_value hzero
  | finite other =>
      cases hnumber
      rfl

/-- Integers of at most `precision` bits, moved right by some bits. -/
theorem represents_shifted {n : Int} {bits : Nat} (hn : |n| < 2 ^ format.precision)
    (hmin : format.minExponent ≤ -bits) (hmax : (format.precision : Int) ≤ format.maxExponent) :
    format.Represents (n / 2 ^ bits) := by
  have hwhole := represents_intCast hn (by omega) hmax
  refine ⟨lt_of_le_of_lt ?_ hwhole.1, n, -bits, hmin, hn, ?_⟩
  · rw [abs_div, abs_of_pos (by positivity : (0 : Rat) < 2 ^ bits)]
    exact div_le_self (abs_nonneg _) (one_le_pow₀ (by norm_num))
  · rw [zpow_neg, zpow_natCast]
    rfl

/-- The last bit that all numbers of a magnitude have bounds the error of the rounding. -/
theorem round_close {value : Rat} {bits : Nat}
    (hsmall : |value| * 2 ^ bits + 1 < 2 ^ format.precision)
    (hmin : format.minExponent ≤ -bits) (hmax : (format.precision : Int) ≤ format.maxExponent) :
    ∃ rounded, (round format value).value? = some rounded ∧ |rounded - value| ≤ 1 / 2 ^ bits := by
  have hscale : (0 : Rat) < 2 ^ bits := by positivity
  have hbounds := abs_le.mp (abs_mul value (2 ^ bits) |>.trans_le
    (by rw [abs_of_pos hscale] : |value| * |2 ^ bits| ≤ |value| * 2 ^ bits))
  have hleft := Int.floor_le (value * 2 ^ bits)
  have hright := Int.lt_floor_add_one (value * 2 ^ bits)
  have hlow : format.Represents (⌊value * 2 ^ bits⌋ / 2 ^ bits) := by
    apply represents_shifted _ hmin hmax
    have hcast : |(⌊value * 2 ^ bits⌋ : Rat)| < 2 ^ format.precision :=
      abs_lt.mpr ⟨by linarith, by linarith⟩
    exact_mod_cast hcast
  have hhigh : format.Represents ((⌊value * 2 ^ bits⌋ + 1 : Int) / 2 ^ bits) := by
    apply represents_shifted _ hmin hmax
    have hcast : |((⌊value * 2 ^ bits⌋ + 1 : Int) : Rat)| < 2 ^ format.precision := by
      push_cast
      exact abs_lt.mpr ⟨by linarith, by linarith⟩
    exact_mod_cast hcast
  have hbelow : (⌊value * 2 ^ bits⌋ : Rat) / 2 ^ bits ≤ value := (div_le_iff₀ hscale).mpr hleft
  have habove : value ≤ (⌊value * 2 ^ bits⌋ + 1 : Int) / 2 ^ bits := by
    rw [le_div_iff₀ hscale]
    push_cast
    exact le_of_lt hright
  obtain ⟨rounded, hrounded, hfirst, hlast⟩ := within_round hlow hhigh hbelow habove
  refine ⟨rounded, hrounded, abs_le.mpr ?_⟩
  push_cast at habove hlast
  rw [add_div] at habove hlast
  exact ⟨by linarith, by linarith⟩

/-! ## The order of the numbers -/

/-- The place of a number in the order of C; a NaN has none. -/
def rank? : Number format → Option (WithBot (WithTop Rat))
  | nan => none
  | infinity true => some ⊥
  | infinity false => some ((⊤ : WithTop Rat) : WithBot (WithTop Rat))
  | negativeZero => some ((0 : WithTop Rat) : WithBot (WithTop Rat))
  | finite value _ => some ((value : WithTop Rat) : WithBot (WithTop Rat))

end Number

end K4W.Library.Binary
