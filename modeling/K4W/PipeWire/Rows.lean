import K4W.PipeWire.Bounds

/-!
# Stored rows

What one row of the loops in `k4w_pw_source_push_frame` leaves in the frame
buffer: the BGRx bytes of the pushed row, and every other byte as it was.
-/

namespace K4W.PipeWire

open K4W.Library.CInt

/-- Byte `k` of a row in BGRx, from the RGB row that starts at `srcRow`. -/
def rowByte (rgb : Int → UInt8) (srcRow : Int) (k : Nat) : UInt8 :=
  if k % 4 = 3 then 0 else rgb (srcRow + (3 * (k / 4) + (2 - k % 4) : Nat))

/-- The columns that a push of the given width stores. -/
def pushedColumns (source : Source) (width : Int32) : Nat :=
  (clipInt width source.width).toInt.toNat

/-- The rows that a push of the given height stores. -/
def pushedRows (source : Source) (height : Int32) : Nat :=
  (clipInt height source.height).toInt.toNat

/-- The source and the destination column of a byte are computed without overflow. -/
theorem pixelStores_eq (dstRow srcRow : Int) {x : Nat} (hx : 4 * x + 4 ≤ 2 ^ 31) :
    pixelStores dstRow srcRow (Int32.ofNat x) =
      [⟨dstRow + (4 * x + 0), some (srcRow + (3 * x + 2))⟩,
        ⟨dstRow + (4 * x + 1), some (srcRow + (3 * x + 1))⟩,
        ⟨dstRow + (4 * x + 2), some (srcRow + (3 * x + 0))⟩,
        ⟨dstRow + (4 * x + 3), none⟩] := by
  have hdst : ∀ k : Int32, 0 ≤ k.toInt → k.toInt < 4 →
      (Int32.ofNat x * 4 + k).toInt = 4 * x + k.toInt :=
    fun k hlow hhigh => column_toInt ⟨hlow, hhigh⟩ hx
  have hsrc : ∀ k : Int32, 0 ≤ k.toInt → k.toInt < 3 →
      (Int32.ofNat x * 3 + k).toInt = 3 * x + k.toInt :=
    fun k hlow hhigh => toInt_affine (by omega) (show (0 : Int) ≤ 3 by decide) hlow
      (show (3 : Int) * x + k.toInt < 2 ^ 31 by omega)
  rw [pixelStores, hdst 0 (by decide) (by decide), hdst 1 (by decide) (by decide),
    hdst 2 (by decide) (by decide), hdst 3 (by decide) (by decide),
    hsrc 0 (by decide) (by decide), hsrc 1 (by decide) (by decide),
    hsrc 2 (by decide) (by decide)]
  rfl

/-- The bytes of the pixel in column `x`. -/
theorem rowByte_column (rgb : Int → UInt8) (srcRow : Int) (x : Nat) {k : Nat} (hk : k < 4) :
    rowByte rgb srcRow (4 * x + k) =
      if k = 3 then 0 else rgb (srcRow + (3 * x + (2 - k) : Nat)) := by
  rw [rowByte, show (4 * x + k) % 4 = k by omega, show (4 * x + k) / 4 = x by omega]

/-- The four stores of a pixel change the four bytes of its column. -/
theorem foldl_pixelStores (rgb bytes : Int → UInt8) (dstRow srcRow : Int) {x : Nat}
    (hx : 4 * x + 4 ≤ 2 ^ 31) (offset : Int) :
    (pixelStores dstRow srcRow (Int32.ofNat x)).foldl (applyStore rgb) bytes offset =
      if dstRow + 4 * x ≤ offset ∧ offset < dstRow + 4 * x + 4 then
        rowByte rgb srcRow (offset - dstRow).toNat
      else bytes offset := by
  rw [pixelStores_eq dstRow srcRow hx]
  simp only [List.foldl_cons, List.foldl_nil, applyStore]
  split
  case isFalse hout =>
      rw [Function.update_of_ne (by omega), Function.update_of_ne (by omega),
        Function.update_of_ne (by omega), Function.update_of_ne (by omega)]
  case isTrue hin =>
      obtain ⟨k, hk, rfl⟩ : ∃ k : Nat, k < 4 ∧ offset = dstRow + (4 * x + k) :=
        ⟨(offset - dstRow - 4 * x).toNat, by omega, by omega⟩
      rw [show (dstRow + (4 * x + k : Int) - dstRow).toNat = 4 * x + k by omega,
        rowByte_column rgb srcRow x hk]
      rcases show k = 0 ∨ k = 1 ∨ k = 2 ∨ k = 3 by omega with rfl | rfl | rfl | rfl
      · rw [Function.update_of_ne (by omega), Function.update_of_ne (by omega),
          Function.update_of_ne (by omega)]
        exact Function.update_self _ _ _
      · rw [Function.update_of_ne (by omega), Function.update_of_ne (by omega)]
        exact Function.update_self _ _ _
      · rw [Function.update_of_ne (by omega)]
        exact Function.update_self _ _ _
      · exact Function.update_self _ _ _

/-- The stores of the first `columns` pixels of a row change the bytes of these columns. -/
theorem foldl_columns (rgb bytes : Int → UInt8) (dstRow srcRow : Int) {columns : Nat}
    (hcolumns : 4 * columns ≤ 2 ^ 31) (offset : Int) :
    ((List.range columns).flatMap fun x => pixelStores dstRow srcRow (Int32.ofNat x)).foldl
        (applyStore rgb) bytes offset =
      if dstRow ≤ offset ∧ offset < dstRow + 4 * columns then
        rowByte rgb srcRow (offset - dstRow).toNat
      else bytes offset := by
  induction columns with
  | zero =>
      rw [if_neg (by omega)]
      rfl
  | succ columns ih =>
      rw [List.range_succ, List.flatMap_append, List.foldl_append, List.flatMap_singleton,
        foldl_pixelStores rgb _ dstRow srcRow (by omega)]
      by_cases hlast : dstRow + 4 * columns ≤ offset ∧ offset < dstRow + 4 * columns + 4
      · rw [if_pos hlast, if_pos (by omega)]
      · rw [if_neg hlast, ih (by omega)]
        by_cases hbefore : dstRow ≤ offset ∧ offset < dstRow + 4 * columns
        · rw [if_pos hbefore, if_pos (by omega)]
        · rw [if_neg hbefore, if_neg (by omega)]

/-- One row of the loops in `k4w_pw_source_push_frame`. -/
theorem foldl_rowStores (source : Source) (rgb bytes : Int → UInt8) (width : Int32) (y : Nat)
    (hcolumns : 4 * pushedColumns source width ≤ 2 ^ 31) (offset : Int) :
    let dstRow := (Int32.ofNat y * source.stride).toInt
    let srcRow := (Int32.ofNat y * (width * 3)).toInt
    (rowStores source width y).foldl (applyStore rgb) bytes offset =
      if dstRow ≤ offset ∧ offset < dstRow + 4 * pushedColumns source width then
        rowByte rgb srcRow (offset - dstRow).toNat
      else bytes offset :=
  foldl_columns rgb bytes _ _ hcolumns offset

end K4W.PipeWire
