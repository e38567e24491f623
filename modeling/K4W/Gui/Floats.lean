import K4W.Gui.Detections
import K4W.Library.BinaryBounds

/-!
# Floats of the window

Exact integers as `float`, and what a cast to `int` makes of a bounded number.
-/

namespace K4W.Gui.Floats

open K4W.Library
open K4W.Library.Binary
open K4W.Gui.Detections

theorem represents_int {n : Int} (hn : |n| < 2 ^ 24) : binary32.Represents n :=
  Number.represents_intCast hn (by decide) (by decide)

theorem represents_nat {n : Nat} (hn : n < 2 ^ 24) : binary32.Represents n := by
  exact_mod_cast @represents_int n (by rw [abs_of_nonneg (by omega)]; omega)

theorem represents_zero : binary32.Represents 0 := by
  exact_mod_cast @represents_nat 0 (by decide)

theorem represents_one : binary32.Represents 1 := by
  exact_mod_cast @represents_nat 1 (by decide)

theorem represents_half : binary32.Represents (1 / 2) := by
  have hhalf := @Number.represents_half binary32 1 (by decide) (by decide) (by decide)
  rwa [Int.cast_one] at hhalf

theorem within_int {n : Int} (hn : |n| < 2 ^ 24) : (Number.ofInt binary32 n).Within n n :=
  Number.within_ofInt (represents_int hn)

theorem within_nat {n : Nat} (hn : n < 2 ^ 24) : (Number.ofInt binary32 n).Within n n := by
  have hwithin := @within_int n (by rw [abs_of_nonneg (by omega)]; omega)
  exact_mod_cast hwithin

/-- An integer constant as a factor. -/
theorem within_factor {n : Nat} (hn : n < 2 ^ 24) : (Number.ofInt binary32 n).Within 0 n :=
  (within_nat hn).mono (Nat.cast_nonneg n) (le_refl _)

/-- The cast of a number between 0 and an integer is between them. -/
theorem castToInt_within {number : Single} {high : Int} (hwithin : number.Within 0 high)
    (hhigh : high < 2 ^ 31) :
    0 ≤ (CInt.castToInt number.truncate?).toInt ∧
      (CInt.castToInt number.truncate?).toInt ≤ high := by
  obtain ⟨n, htruncate, hlow, hle⟩ := @Number.Within.truncate binary32 number 0 high
    (by exact_mod_cast hwithin)
  rw [htruncate, CInt.castToInt_of_range (by omega) (by omega)]
  exact ⟨hlow, hle⟩

end K4W.Gui.Floats
