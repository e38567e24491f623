import K4W.Library.Binary

/-!
# Interchange codes

The code of a number is its sign, its biased exponent, and its significand
without the leading bit, read as one natural number.  The magnitudes are coded
in their order, then come the infinity and the NaNs; a set sign adds the number
of all these codes.  There is one code for the one NaN.
-/

namespace K4W.Library.Binary

namespace Format

/-- The leading bit of a significand that is kept in the exponent. -/
def leadingBit (format : Format) : Nat :=
  2 ^ (format.precision - 1)

/-- The code of a positive value of the format. -/
def magnitudeCode (format : Format) (value : Rat) : Nat :=
  (format.lastExponent value - format.minExponent).toNat * format.leadingBit +
    ⌊value / (2 : Rat) ^ format.lastExponent value⌋.toNat

/-- The value with this code. -/
def codeValue (format : Format) (code : Nat) : Rat :=
  if code < format.leadingBit then
    code * (2 : Rat) ^ format.minExponent
  else
    (format.leadingBit + code % format.leadingBit : Nat) *
      (2 : Rat) ^ (format.minExponent + (code / format.leadingBit : Nat) - 1)

/-- The code of the infinity; those above are NaNs. -/
def infinityCode (format : Format) : Nat :=
  (format.maxExponent - format.precision - format.minExponent + 2).toNat * format.leadingBit

/-- What a set sign adds to a code. -/
def signCode (format : Format) : Nat :=
  format.infinityCode + format.leadingBit

/-- The range of the exponents has room for a significand, and a NaN has a bit to set. -/
structure Interchanges (format : Format) : Prop where
  two_le : 2 ≤ format.precision
  range : format.minExponent + format.precision ≤ format.maxExponent

variable {format : Format}

/-- A represented value is a whole number of units of its last kept bit. -/
theorem exists_significand {value : Rat} (hpos : 0 < value) (hscaled : format.Scaled value) :
    ∃ significand : Nat, 0 < significand ∧ significand < 2 ^ format.precision ∧
      value = significand * (2 : Rat) ^ format.lastExponent value := by
  have hscale : (0 : Rat) < 2 ^ format.lastExponent value := zpow_pos (by norm_num) _
  let units := roundHalfEven (value / 2 ^ format.lastExponent value)
  have hunits : value = units * (2 : Rat) ^ format.lastExponent value :=
    (roundValue_eq hscaled).symm
  have hunitsPos : 0 < units := by
    have hproduct : (0 : Rat) < units * (2 : Rat) ^ format.lastExponent value := by
      rwa [← hunits]
    exact_mod_cast (mul_pos_iff_of_pos_right hscale).mp hproduct
  obtain ⟨significand, hsignificand⟩ := Int.eq_ofNat_of_zero_le (le_of_lt hunitsPos)
  rw [hsignificand] at hunits hunitsPos
  refine ⟨significand, by exact_mod_cast hunitsPos, ?_, by exact_mod_cast hunits⟩
  have hlt := abs_lt_lastExponent format value
  rw [abs_of_pos hpos] at hlt
  have hcast : (significand : Rat) < 2 ^ format.precision := by
    refine (mul_lt_mul_iff_left₀ hscale).mp (lt_of_eq_of_lt ?_ hlt)
    exact_mod_cast hunits.symm
  exact_mod_cast hcast

/-- The leading bit is missing only at the least exponent. -/
theorem leadingBit_le {value : Rat} (hpos : 0 < value) {significand : Nat}
    (hvalue : value = significand * (2 : Rat) ^ format.lastExponent value)
    (hlast : format.lastExponent value ≠ format.minExponent) :
    format.leadingBit ≤ significand := by
  have hscale : (0 : Rat) < 2 ^ format.lastExponent value := zpow_pos (by norm_num) _
  have hlog : ((2 : Nat) : Rat) ^ Int.log 2 |value| ≤ |value| :=
    Int.zpow_log_le_self (by decide) (abs_pos.mpr hpos.ne')
  have hexponent : Int.log 2 |value| = (format.precision - 1 : Nat) + format.lastExponent value := by
    have hprecision := format.precision_pos
    unfold lastExponent at hlast ⊢
    omega
  rw [hexponent, abs_of_pos hpos, Nat.cast_ofNat, zpow_add₀ (by norm_num), zpow_natCast] at hlog
  have hcast : (2 : Rat) ^ (format.precision - 1) ≤ significand := by
    exact (mul_le_mul_iff_left₀ hscale).mp (hlog.trans (le_of_eq hvalue))
  rw [leadingBit]
  exact_mod_cast hcast

theorem leadingBit_pos (format : Format) : 0 < format.leadingBit :=
  Nat.two_pow_pos _

theorem infinityCode_pos (hinterchanges : format.Interchanges) : 0 < format.infinityCode := by
  have hrange := hinterchanges.range
  exact Nat.mul_pos (by omega) format.leadingBit_pos

theorem two_mul_leadingBit (format : Format) :
    2 * format.leadingBit = 2 ^ format.precision := by
  rw [leadingBit, ← Nat.pow_succ', Nat.succ_eq_add_one,
    Nat.sub_one_add_one (Nat.ne_of_gt format.precision_pos)]

/-- The code, with the exponent counted from the least one. -/
theorem exists_magnitudeCode {value : Rat} (hpos : 0 < value) (hscaled : format.Scaled value) :
    ∃ shift significand : Nat, format.lastExponent value = format.minExponent + shift ∧
      value = significand * (2 : Rat) ^ (format.minExponent + shift) ∧
      (0 < significand ∧ significand < 2 * format.leadingBit) ∧
      (shift ≠ 0 → format.leadingBit ≤ significand) ∧
      format.magnitudeCode value = shift * format.leadingBit + significand := by
  obtain ⟨significand, hsignificand, hlt, hvalue⟩ := exists_significand hpos hscaled
  have hmin : format.minExponent ≤ format.lastExponent value := le_max_right _ _
  obtain ⟨shift, hshift⟩ := Int.eq_ofNat_of_zero_le (Int.sub_nonneg.mpr hmin)
  have hlast : format.lastExponent value = format.minExponent + shift := by omega
  have hscale : (2 : Rat) ^ (format.minExponent + (shift : Int)) ≠ 0 :=
    zpow_ne_zero _ (by norm_num)
  have hleading : shift ≠ 0 → format.leadingBit ≤ significand := fun hne =>
    leadingBit_le hpos hvalue (by omega)
  rw [hlast] at hvalue
  refine ⟨shift, significand, hlast, hvalue, ⟨hsignificand, ?_⟩, hleading, ?_⟩
  · rwa [two_mul_leadingBit]
  · have hquotient : value / (2 : Rat) ^ (format.minExponent + (shift : Int)) = significand := by
      rw [div_eq_iff hscale]
      exact hvalue
    rw [magnitudeCode, hlast, hquotient, add_sub_cancel_left, Int.toNat_natCast,
      Int.floor_natCast, Int.toNat_natCast]

/-- A value is found again from its code. -/
theorem codeValue_magnitudeCode {value : Rat} (hpos : 0 < value)
    (hscaled : format.Scaled value) : format.codeValue (format.magnitudeCode value) = value := by
  obtain ⟨shift, significand, -, hvalue, ⟨-, hlt⟩, hleading, hcode⟩ :=
    exists_magnitudeCode hpos hscaled
  have hbit := format.leadingBit_pos
  rw [hcode, codeValue]
  by_cases hsmall : significand < format.leadingBit
  · -- a value below the range of full significands
    have hshift : shift = 0 := by
      by_contra hne
      exact absurd (hleading hne) (Nat.not_le.mpr hsmall)
    subst hshift
    rw [Nat.zero_mul, Nat.zero_add, if_pos hsmall]
    simpa using hvalue.symm
  · obtain ⟨rest, hrest⟩ := Nat.exists_eq_add_of_le (Nat.not_lt.mp hsmall)
    have hrestLt : rest < format.leadingBit := by omega
    have hsplit : shift * format.leadingBit + significand =
        rest + (shift + 1) * format.leadingBit := by
      rw [hrest, Nat.succ_mul]
      omega
    have hlarge : ¬rest + (shift + 1) * format.leadingBit < format.leadingBit := by
      rw [Nat.succ_mul]
      omega
    rw [hsplit, if_neg hlarge, Nat.add_mul_mod_self_right, Nat.mod_eq_of_lt hrestLt,
      Nat.add_mul_div_right _ _ hbit, Nat.div_eq_of_lt hrestLt, Nat.zero_add, ← hrest]
    have hexponent : format.minExponent + ((shift + 1 : Nat) : Int) - 1 =
        format.minExponent + shift := by omega
    rw [hexponent]
    exact hvalue.symm

theorem magnitudeCode_pos {value : Rat} (hpos : 0 < value) (hscaled : format.Scaled value) :
    0 < format.magnitudeCode value := by
  obtain ⟨shift, significand, -, -, ⟨hsignificand, -⟩, -, hcode⟩ :=
    exists_magnitudeCode hpos hscaled
  rw [hcode]
  omega

/-- The codes of the values are below that of the infinity. -/
theorem magnitudeCode_lt (hinterchanges : format.Interchanges) {value : Rat} (hpos : 0 < value)
    (hrepresents : format.Represents value) :
    format.magnitudeCode value < format.infinityCode := by
  obtain ⟨shift, significand, -, hvalue, ⟨-, hlt⟩, hleading, hcode⟩ :=
    exists_magnitudeCode hpos hrepresents.2
  have hrange := hinterchanges.range
  have htwo := hinterchanges.two_le
  have hshift : (shift : Int) ≤ format.maxExponent - format.precision - format.minExponent := by
    by_cases hzero : shift = 0
    · omega
    have hlow : (2 : Rat) ^ ((format.precision - 1 : Nat) + (format.minExponent + shift)) ≤
        value := by
      rw [zpow_add₀ (by norm_num), zpow_natCast, hvalue]
      refine mul_le_mul_of_nonneg_right ?_ (zpow_nonneg (by norm_num) _)
      have hbit := hleading hzero
      rw [leadingBit] at hbit
      exact_mod_cast hbit
    have hhigh := hrepresents.1
    rw [abs_of_pos hpos] at hhigh
    have hexponents := (zpow_lt_zpow_iff_right₀ (by norm_num : (1 : Rat) < 2)).mp
      (lt_of_le_of_lt hlow hhigh)
    omega
  obtain ⟨steps, hsteps⟩ := Int.eq_ofNat_of_zero_le
    (show 0 ≤ format.maxExponent - format.precision - format.minExponent by omega)
  have hinfinity : format.infinityCode = (steps + 2) * format.leadingBit := by
    rw [infinityCode, hsteps]
    rfl
  have hle : shift * format.leadingBit ≤ steps * format.leadingBit :=
    Nat.mul_le_mul_right _ (by omega)
  rw [hcode, hinfinity, Nat.add_mul]
  omega

end Format

namespace Number

variable {format : Format}

/-- The code of the sign. -/
def signOf (format : Format) (negative : Bool) : Nat :=
  if negative then format.signCode else 0

def toCode : Number format → Nat
  | nan => format.infinityCode + format.leadingBit / 2
  | infinity negative => format.infinityCode + signOf format negative
  | negativeZero => signOf format true
  | finite value _ =>
      if value = 0 then 0
      else format.magnitudeCode |value| + signOf format (decide (value < 0))

/-- The number with this sign and the code of its magnitude. -/
def ofMagnitude (format : Format) (negative : Bool) (magnitude : Nat) : Number format :=
  if format.infinityCode < magnitude then nan
  else if magnitude = format.infinityCode then infinity negative
  else if magnitude = 0 then zeroOf format negative
  else if negative then round format (-format.codeValue magnitude)
  else round format (format.codeValue magnitude)

def ofCode (format : Format) (code : Nat) : Number format :=
  if format.signCode ≤ code then ofMagnitude format true (code - format.signCode)
  else ofMagnitude format false code

theorem ofCode_add_signOf {magnitude : Nat} (hlt : magnitude < format.signCode)
    (negative : Bool) : ofCode format (magnitude + signOf format negative) =
      ofMagnitude format negative magnitude := by
  cases negative with
  | false =>
      rw [signOf, if_neg Bool.false_ne_true, Nat.add_zero, ofCode, if_neg (Nat.not_le.mpr hlt)]
  | true =>
      rw [signOf, if_pos rfl, ofCode, if_pos (Nat.le_add_left _ _), Nat.add_sub_cancel]

/-- The code of a positive value is that of a magnitude, and gives the value back. -/
theorem ofMagnitude_magnitudeCode (hinterchanges : format.Interchanges) {value : Rat}
    (hpos : 0 < value) (hvalue : format.Represents value) (negative : Bool) :
    ofMagnitude format negative (format.magnitudeCode value) =
      round format (if negative then -value else value) := by
  have hlt := Format.magnitudeCode_lt hinterchanges hpos hvalue
  have hcode := Format.magnitudeCode_pos hpos hvalue.2
  rw [ofMagnitude, if_neg (by omega), if_neg (by omega), if_neg (by omega),
    Format.codeValue_magnitudeCode hpos hvalue.2]
  cases negative with
  | false => rfl
  | true => rfl

theorem represents_neg {value : Rat} (hvalue : format.Represents value) :
    format.Represents (-value) := by
  obtain ⟨hlt, significand, exponent, hmin, hbits, heq⟩ := hvalue
  refine ⟨by rwa [abs_neg], -significand, exponent, hmin, by rwa [abs_neg], ?_⟩
  rw [heq]
  push_cast
  ring

theorem represents_abs {value : Rat} (hvalue : format.Represents value) :
    format.Represents |value| := by
  rcases abs_choice value with heq | heq
  · rwa [heq]
  · rw [heq]
    exact represents_neg hvalue

/-- Every number is found again from its code. -/
theorem ofCode_toCode (hinterchanges : format.Interchanges) (number : Number format) :
    ofCode format number.toCode = number := by
  have hbit := format.leadingBit_pos
  have hinfinity := Format.infinityCode_pos hinterchanges
  have hsign : format.signCode = format.infinityCode + format.leadingBit := rfl
  cases number with
  | nan =>
      have hhalf : 0 < format.leadingBit / 2 := by
        have htwo : 2 * format.leadingBit = 2 ^ format.precision := format.two_mul_leadingBit
        have hle : 2 ^ 2 ≤ 2 ^ format.precision :=
          Nat.pow_le_pow_right (by decide) hinterchanges.two_le
        omega
      rw [toCode, ofCode, if_neg (by omega), ofMagnitude, if_pos (by omega)]
  | infinity negative =>
      rw [toCode, ofCode_add_signOf (by omega), ofMagnitude, if_neg (Nat.lt_irrefl _),
        if_pos rfl]
  | negativeZero =>
      have hzero := @ofCode_add_signOf format 0 (by omega) true
      rw [Nat.zero_add] at hzero
      rw [toCode, hzero, ofMagnitude, if_neg (by omega), if_neg (by omega), if_pos rfl]
      rfl
  | finite value hvalue =>
      rw [toCode]
      rcases lt_trichotomy value 0 with hneg | hzero | hpos
      · have hmagnitude := represents_abs hvalue
        have hlt := Format.magnitudeCode_lt hinterchanges (abs_pos.mpr hneg.ne) hmagnitude
        rw [if_neg hneg.ne, ofCode_add_signOf (by omega),
          ofMagnitude_magnitudeCode hinterchanges (abs_pos.mpr hneg.ne) hmagnitude,
          if_pos (decide_eq_true hneg), abs_of_neg hneg, neg_neg]
        exact round_eq hvalue
      · subst hzero
        rw [if_pos rfl, ofCode, if_neg (by omega), ofMagnitude, if_neg (by omega),
          if_neg (by omega), if_pos rfl]
        exact round_eq hvalue
      · have hmagnitude := represents_abs hvalue
        have hlt := Format.magnitudeCode_lt hinterchanges (abs_pos.mpr hpos.ne') hmagnitude
        rw [if_neg hpos.ne', ofCode_add_signOf (by omega),
          ofMagnitude_magnitudeCode hinterchanges (abs_pos.mpr hpos.ne') hmagnitude,
          if_neg (by simpa using hpos.le), abs_of_pos hpos]
        exact round_eq hvalue

/-- Two signs, and the codes below the sign. -/
theorem toCode_lt (hinterchanges : format.Interchanges) (number : Number format) :
    number.toCode < 2 * format.signCode := by
  have hbit := format.leadingBit_pos
  have hsign : format.signCode = format.infinityCode + format.leadingBit := rfl
  have hle : ∀ negative, signOf format negative ≤ format.signCode := by
    intro negative
    cases negative with
    | false => exact Nat.zero_le _
    | true => exact Nat.le_refl _
  cases number with
  | nan =>
      rw [toCode]
      omega
  | infinity negative =>
      have hsigned := hle negative
      rw [toCode]
      omega
  | negativeZero =>
      have hsigned := hle true
      rw [toCode]
      omega
  | finite value hvalue =>
      rw [toCode]
      split
      case isTrue => omega
      case isFalse hne =>
          have hlt := Format.magnitudeCode_lt hinterchanges (abs_pos.mpr hne)
            (represents_abs hvalue)
          have hsigned := hle (decide (value < 0))
          omega

end Number

theorem interchanges_binary32 : binary32.Interchanges :=
  ⟨by decide, by decide⟩

/-- The codes of `binary32` are the words of 32 bits. -/
theorem signCode_binary32 : binary32.signCode = 2 ^ 31 :=
  rfl

end K4W.Library.Binary
