import Mathlib.Data.UInt
import Mathlib.Data.List.Basic
import Mathlib.Data.List.TakeWhile

/-!
# Messages on a byte stream

A message is a row of fields of fixed sizes.  A stream delivers its bytes in
order but not its boundaries: each call of a receiver returns the next piece.
-/

namespace K4W.Library

/-! ## Fields -/

/--
A field of a fixed number of bytes.  The bytes behind it do not matter to the
reader, and a valid value is found again.
-/
structure ByteField (Value : Type) where
  size : Nat
  encode : Value → List UInt8
  decode : List UInt8 → Value
  Valid : Value → Prop
  length_encode : ∀ value, (encode value).length = size
  decode_encode : ∀ value rest, Valid value → decode (encode value ++ rest) = value

namespace ByteField

variable {Value Other : Type}

/-- The value of the field at an offset of a message. -/
def read (field : ByteField Value) (bytes : List UInt8) (offset : Nat) : Value :=
  field.decode (bytes.drop offset)

theorem read_here {field : ByteField Value} {value : Value} (hvalid : field.Valid value)
    (rest : List UInt8) : field.read (field.encode value ++ rest) 0 = value :=
  field.decode_encode value rest hvalid

theorem read_last {field : ByteField Value} {value : Value} (hvalid : field.Valid value) :
    field.read (field.encode value) 0 = value := by
  have hread := read_here hvalid []
  rwa [List.append_nil] at hread

/-- A field in front is skipped. -/
theorem read_skip (field : ByteField Value) {first : ByteField Other} {offset : Nat}
    (hsize : first.size ≤ offset) (other : Other) (rest : List UInt8) :
    field.read (first.encode other ++ rest) offset = field.read rest (offset - first.size) := by
  have hlength := first.length_encode other
  have hfirst : (first.encode other).drop offset = [] :=
    List.drop_eq_nil_of_le (by omega)
  rw [read, read, List.drop_append, hfirst, List.nil_append, hlength]

/-- The same bytes for the values that another type codes. -/
def coded (field : ByteField Value) (encode : Other → Value) (decode : Value → Other)
    (hdecode : ∀ other, decode (encode other) = other) : ByteField Other where
  size := field.size
  encode := fun other => field.encode (encode other)
  decode := fun bytes => decode (field.decode bytes)
  Valid := fun other => field.Valid (encode other)
  length_encode := fun other => field.length_encode (encode other)
  decode_encode := by
    intro other rest hvalid
    rw [field.decode_encode _ rest hvalid, hdecode]

end ByteField

/-! ## Words -/

/-- The word of four bytes, the lowest one first. -/
def joinedWord (b0 b1 b2 b3 : UInt8) : UInt32 :=
  b0.toUInt32 ||| b1.toUInt32 <<< 8 ||| b2.toUInt32 <<< 16 ||| b3.toUInt32 <<< 24

/-- A byte is put above the bits of a word that are already there. -/
theorem lor_shiftLeft_toNat {low : UInt32} {byte : UInt8} {bits : Nat} (hbits : bits ≤ 24)
    (hlow : low.toNat < 2 ^ bits) :
    (low ||| byte.toUInt32 <<< UInt32.ofNat bits).toNat =
      low.toNat + 2 ^ bits * byte.toNat := by
  have hshift : (byte.toUInt32 <<< UInt32.ofNat bits).toNat = 2 ^ bits * byte.toNat := by
    have hbound : 2 ^ bits * byte.toNat < 2 ^ 32 := by
      calc 2 ^ bits * byte.toNat < 2 ^ bits * 2 ^ 8 :=
            Nat.mul_lt_mul_of_pos_left byte.toNat_lt (Nat.two_pow_pos _)
        _ = 2 ^ (bits + 8) := (Nat.pow_add 2 bits 8).symm
        _ ≤ 2 ^ 32 := Nat.pow_le_pow_right (by decide) (by omega)
    rw [UInt32.toNat_shiftLeft, UInt8.toNat_toUInt32, UInt32.toNat_ofNat',
      Nat.mod_eq_of_lt (by omega : bits < 2 ^ 32), Nat.mod_eq_of_lt (by omega : bits < 32),
      Nat.shiftLeft_eq, Nat.mul_comm, Nat.mod_eq_of_lt hbound]
  rw [UInt32.toNat_or, hshift, Nat.or_comm, ← Nat.two_pow_add_eq_or_of_lt hlow, Nat.add_comm]

theorem joinedWord_toNat (b0 b1 b2 b3 : UInt8) :
    (joinedWord b0 b1 b2 b3).toNat =
      b0.toNat + 2 ^ 8 * b1.toNat + 2 ^ 16 * b2.toNat + 2 ^ 24 * b3.toNat := by
  have h0 : b0.toUInt32.toNat = b0.toNat := UInt8.toNat_toUInt32 b0
  have hb0 := b0.toNat_lt
  have hb1 := b1.toNat_lt
  have hb2 := b2.toNat_lt
  have h1 := @lor_shiftLeft_toNat b0.toUInt32 b1 8 (by decide) (by omega)
  have h2 := @lor_shiftLeft_toNat _ b2 16 (by decide) (lt_of_eq_of_lt h1 (by omega))
  have h3 := @lor_shiftLeft_toNat _ b3 24 (by decide) (lt_of_eq_of_lt h2 (by omega))
  exact h3.trans (by rw [h2, h1, h0])

/-- The bytes of a word, the lowest one first. -/
def wordBytes (word : UInt32) : List UInt8 :=
  [.ofNat word.toNat, .ofNat (word.toNat / 2 ^ 8), .ofNat (word.toNat / 2 ^ 16),
    .ofNat (word.toNat / 2 ^ 24)]

/-- The word in the first four bytes. -/
def wordOf (bytes : List UInt8) : UInt32 :=
  joinedWord (bytes.getD 0 0) (bytes.getD 1 0) (bytes.getD 2 0) (bytes.getD 3 0)

theorem wordOf_wordBytes (word : UInt32) (rest : List UInt8) :
    wordOf (wordBytes word ++ rest) = word := by
  have hword := word.toNat_lt
  refine UInt32.toNat_inj.mp ((joinedWord_toNat _ _ _ _).trans ?_)
  simp only [wordBytes, List.cons_append, List.getD_cons_zero, List.getD_cons_succ,
    UInt8.toNat_ofNat']
  omega

/-- A `uint32_t` in little-endian order. -/
def ByteField.word : ByteField UInt32 where
  size := 4
  encode := wordBytes
  decode := wordOf
  Valid := fun _ => True
  length_encode := fun _ => rfl
  decode_encode := fun value rest _ => wordOf_wordBytes value rest

/-- An `int32_t`. -/
def ByteField.signedWord : ByteField Int32 :=
  word.coded Int32.toUInt32 UInt32.toInt32 fun _ => rfl

/-- A truth value in its own byte, with three zero bytes behind it. -/
def ByteField.alignedBool : ByteField Bool where
  size := 4
  encode := fun value => [if value then 1 else 0, 0, 0, 0]
  decode := fun bytes => bytes.getD 0 0 != 0
  Valid := fun _ => True
  length_encode := fun _ => rfl
  decode_encode := by
    intro value rest _
    cases value <;> rfl

/-! ## Texts -/

/-- A text in an array that is filled up with zeros. -/
def ByteField.text (size : Nat) : ByteField (List UInt8) where
  size := size
  encode := fun value => (value ++ List.replicate size 0).take size
  decode := fun bytes => (bytes.take size).takeWhile (· ≠ 0)
  Valid := fun value => value.length < size ∧ ∀ byte ∈ value, byte ≠ 0
  length_encode := by
    intro value
    rw [List.length_take, List.length_append, List.length_replicate]
    omega
  decode_encode := by
    rintro value rest ⟨hlength, hnonzero⟩
    obtain ⟨more, hmore⟩ := Nat.exists_eq_add_of_lt hlength
    have hencode : (value ++ List.replicate size 0).take size =
        value ++ 0 :: List.replicate more 0 := by
      rw [List.take_append, List.take_of_length_le (by omega), List.take_replicate,
        hmore, ← List.replicate_succ]
      congr 2
      omega
    have hlong : (value ++ 0 :: List.replicate more 0).length = size := by
      simp
      omega
    rw [hencode, List.take_append_of_le_length (by omega), List.take_of_length_le (by omega),
      List.takeWhile_append_of_pos (by simpa using hnonzero)]
    simp

/-! ## Pieces -/

variable {α : Type}

/-- The pieces in which a message arrives, one for each call of the receiver. -/
structure Segmentation (message : List α) where
  pieces : List (List α)
  nonempty : ∀ piece ∈ pieces, piece ≠ []
  joined : pieces.flatten = message

/-- How a stream splits the messages that are put on it. -/
abbrev Splitting (α : Type) : Type :=
  (message : List α) → Segmentation message

namespace Segmentation

variable {message : List α}

/-- What the first call returns. -/
def first (segmentation : Segmentation message) : List α :=
  segmentation.pieces.headD []

/-- The message arrives in one piece. -/
def IsWhole (segmentation : Segmentation message) : Prop :=
  segmentation.pieces.length ≤ 1

instance (segmentation : Segmentation message) : Decidable segmentation.IsWhole :=
  inferInstanceAs (Decidable (_ ≤ 1))

/-- The nonempty ones of the pieces. -/
def ofPieces (pieces : List (List α)) (hjoined : pieces.flatten = message) :
    Segmentation message where
  pieces := pieces.filter (!·.isEmpty)
  nonempty := by
    intro piece hpiece
    simpa using (List.mem_filter.mp hpiece).2
  joined := by
    rw [List.flatten_filter_not_isEmpty]
    exact hjoined

def unsplit (message : List α) : Segmentation message :=
  ofPieces [message] List.flatten_singleton

/-- The first piece ends after some elements. -/
def cut (size : Nat) (message : List α) : Segmentation message :=
  ofPieces [message.take size, message.drop size] (by simp)

theorem first_of_isWhole {segmentation : Segmentation message}
    (hwhole : segmentation.IsWhole) : segmentation.first = message := by
  obtain ⟨pieces, hnonempty, hjoined⟩ := segmentation
  cases pieces with
  | nil => exact hjoined
  | cons piece rest =>
      have hrest : rest = [] := List.eq_nil_of_length_eq_zero (by simpa [IsWhole] using hwhole)
      subst hrest
      simpa [first] using hjoined

/-- Something is left behind a piece that is not the whole message. -/
theorem length_first_lt {segmentation : Segmentation message}
    (hsplit : ¬segmentation.IsWhole) : segmentation.first.length < message.length := by
  obtain ⟨pieces, hnonempty, hjoined⟩ := segmentation
  match pieces with
  | [] => exact absurd (Nat.zero_le 1) hsplit
  | [piece] => exact absurd (Nat.le_refl 1) hsplit
  | piece :: next :: rest =>
      have hnext : 0 < next.length :=
        List.length_pos_iff.mpr (hnonempty next (by simp))
      have hlength := congrArg List.length hjoined
      simp only [List.flatten_cons, List.length_append] at hlength
      simp only [first, List.headD_cons]
      omega

theorem isWhole_unsplit (message : List α) : (unsplit message).IsWhole :=
  List.length_filter_le _ _

end Segmentation

end K4W.Library
