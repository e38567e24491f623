import Mathlib.Data.Int.Basic
import Mathlib.Tactic.Ring

/-!
# C integers

Results of `int` arithmetic that stay in range are the mathematical results,
and a nonnegative `int` keeps its value as an unsigned number.  An index
`y * width + x` is the mathematical one modulo `2 ^ 32`.  Checked operations
have no result where they overflow.
-/

namespace K4W.Library.CInt

theorem toInt_mul_eq {a b : Int32} (hlow : -2 ^ 31 ≤ a.toInt * b.toInt)
    (hhigh : a.toInt * b.toInt < 2 ^ 31) : (a * b).toInt = a.toInt * b.toInt := by
  rw [Int32.toInt_mul]
  exact Int.bmod_eq_of_le (by omega) (by omega)

theorem toInt_add_eq {a b : Int32} (hlow : -2 ^ 31 ≤ a.toInt + b.toInt)
    (hhigh : a.toInt + b.toInt < 2 ^ 31) : (a + b).toInt = a.toInt + b.toInt := by
  rw [Int32.toInt_add]
  exact Int.bmod_eq_of_le (by omega) (by omega)

theorem toInt_sub_eq {a b : Int32} (hlow : -2 ^ 31 ≤ a.toInt - b.toInt)
    (hhigh : a.toInt - b.toInt < 2 ^ 31) : (a - b).toInt = a.toInt - b.toInt := by
  rw [Int32.toInt_sub]
  exact Int.bmod_eq_of_le (by omega) (by omega)

theorem toInt_ofNat_eq {n : Nat} (hn : n < 2 ^ 31) : (Int32.ofNat n).toInt = n :=
  Int32.toInt_ofNat_of_lt hn

theorem toInt_toInt32_eq {n : UInt32} (hn : n.toNat < 2 ^ 31) : n.toInt32.toInt = n.toNat := by
  have heq : n.toInt32 = Int32.ofNat n.toNat := by
    apply Int32.toBitVec.inj
    simp
  rw [heq, toInt_ofNat_eq hn]

theorem toInt_max (a b : Int32) : (max a b).toInt = max a.toInt b.toInt := by
  have hmax : max a b = if a ≤ b then b else a := rfl
  rw [hmax, max_def, apply_ite Int32.toInt]
  simp only [Int32.le_iff_toInt_le]

theorem toInt_min (a b : Int32) : (min a b).toInt = min a.toInt b.toInt := by
  have hmin : min a b = if a ≤ b then a else b := rfl
  rw [hmin, min_def, apply_ite Int32.toInt]
  simp only [Int32.le_iff_toInt_le]

/-- A multiple of a count, computed in `int`. -/
theorem toInt_multiple {x : Nat} {m : Int32} (hx : x < 2 ^ 31) (hm : 0 ≤ m.toInt)
    (hfit : m.toInt * x < 2 ^ 31) : (Int32.ofNat x * m).toInt = m.toInt * x := by
  have hpos : 0 ≤ m.toInt * x := Int.mul_nonneg hm (Int.natCast_nonneg x)
  rw [toInt_mul_eq, toInt_ofNat_eq hx, Int.mul_comm]
  all_goals rw [toInt_ofNat_eq hx, Int.mul_comm]
  all_goals omega

/-- A multiple of a count plus a constant, computed in `int`. -/
theorem toInt_affine {x : Nat} {m k : Int32} (hx : x < 2 ^ 31) (hm : 0 ≤ m.toInt)
    (hk : 0 ≤ k.toInt) (hfit : m.toInt * x + k.toInt < 2 ^ 31) :
    (Int32.ofNat x * m + k).toInt = m.toInt * x + k.toInt := by
  have hpos : 0 ≤ m.toInt * x := Int.mul_nonneg hm (Int.natCast_nonneg x)
  have hmul := toInt_multiple hx hm (by omega)
  rw [toInt_add_eq, hmul]
  all_goals rw [hmul]
  all_goals omega

/-- A positive `int` has the value of the `uint32_t` it was converted from. -/
theorem toInt_toInt32_of_pos {n : UInt32} (hn : 0 < n.toInt32.toInt) :
    n.toInt32.toInt = n.toNat := by
  have hcond : n.toInt32.toInt =
      if 2 * n.toNat < 2 ^ 32 then (n.toNat : Int) else (n.toNat : Int) - 2 ^ 32 :=
    BitVec.toInt_eq_toNat_cond n.toBitVec
  have hlt := n.toNat_lt
  split at hcond <;> omega

/-- An index `y * width + x` computed in `int`. -/
theorem toInt_index (width : Int32) {x y : Nat} (hx : x < 2 ^ 31) (hy : y < 2 ^ 31) :
    (Int32.ofNat y * width + Int32.ofNat x).toInt =
      (y * width.toInt + x : Int).bmod (2 ^ 32) := by
  rw [Int32.toInt_add, Int32.toInt_mul, toInt_ofNat_eq hx, toInt_ofNat_eq hy,
    Int.bmod_add_bmod]

/-- An index `y * width + x` computed in `uint32_t`. -/
theorem toNat_index (width : UInt32) (x y : Nat) :
    (UInt32.ofNat y * width + UInt32.ofNat x).toNat = (y * width.toNat + x) % 2 ^ 32 := by
  rw [UInt32.toNat_add, UInt32.toNat_mul, UInt32.toNat_ofNat', UInt32.toNat_ofNat']
  simp [Nat.add_mod, Nat.mul_mod]

/-- The result of an `int` operation with this exact value; none where it overflows. -/
def checked (n : Int) : Option Int32 :=
  if -2 ^ 31 ≤ n ∧ n < 2 ^ 31 then some (Int32.ofInt n) else none

theorem checked_of_range {n : Int} (hlow : -2 ^ 31 ≤ n) (hhigh : n < 2 ^ 31) :
    checked n = some (Int32.ofInt n) :=
  if_pos ⟨hlow, hhigh⟩

/-- In range, the result has the exact value. -/
theorem exists_checked {n : Int} (hlow : -2 ^ 31 ≤ n) (hhigh : n < 2 ^ 31) :
    ∃ result, checked n = some result ∧ result.toInt = n :=
  ⟨_, checked_of_range hlow hhigh, Int32.toInt_ofInt_of_le hlow hhigh⟩

/--
The cast to `int` of a number with this integer part; out of range, and without
one, it is what the x86 instruction returns.
-/
def castToInt (whole : Option Int) : Int32 :=
  (whole.bind checked).getD Int32.minValue

theorem castToInt_of_range {n : Int} (hlow : -2 ^ 31 ≤ n) (hhigh : n < 2 ^ 31) :
    (castToInt (some n)).toInt = n := by
  rw [castToInt, Option.bind_some, checked_of_range hlow hhigh]
  exact Int32.toInt_ofInt_of_le hlow hhigh

theorem castToInt_of_overflow {n : Int} (hover : 2 ^ 31 ≤ n) :
    castToInt (some n) = Int32.minValue := by
  rw [castToInt, Option.bind_some, checked, if_neg (by omega)]
  rfl

/-- The value of an `int` passed where the callee takes a `size_t`. -/
def toSizeT (n : Int32) : Nat :=
  (n.toInt % 2 ^ 64).toNat

theorem toSizeT_eq {n : Int32} (hn : 0 ≤ n.toInt) : (toSizeT n : Int) = n.toInt := by
  have hlt := n.toInt_lt
  rw [toSizeT, Int.emod_eq_of_lt hn (by omega), Int.toNat_of_nonneg hn]

end K4W.Library.CInt
