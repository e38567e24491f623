import K4W.Library.Ring
import Mathlib.Data.UInt

/-!
# Shared memory segments

The ring segments of `k4w_common.h` and `shm.c`: a 40-byte header followed by
`K4W_RING_SIZE` frames of `frame_size` bytes.  The ring bytes are a function
from their offset after the header.  Index and size arithmetic is that of
`uint32_t`, and the sizes passed to the system are `size_t`.
-/

namespace K4W.Shm

open K4W.Library.Ring

def k4wRingSize : UInt32 := 3

def k4wShmMagic : UInt32 := 0x4B345750

/-- `sizeof(k4w_shm_header_t)`: eight `uint32_t` fields and one `uint64_t` field. -/
def headerBytes : Nat := 40

structure K4wShmHeader where
  magic : UInt32
  frameSize : UInt32
  w : UInt32
  h : UInt32
  bpp : UInt32
  writeIdx : UInt32
  readIdx : UInt32
  seq : UInt32
  timestampMs : UInt64
  data : Nat → UInt8

/-- A mapped segment: the bytes mapped, and the header that the mapping starts with. -/
structure Mapping where
  size : Nat
  hdr : K4wShmHeader

/-! ## Creation -/

/-- What the system calls of `k4w_shm_create` return: true for success. -/
structure CreateCalls where
  shmOpen : Bool
  ftruncate : Bool
  mmap : Bool

/-- A failed creation, and whether `shm_unlink` removed the name again. -/
structure CreateFailure where
  unlinked : Bool
deriving DecidableEq

/-- `total` of `k4w_shm_create`: the product is computed in `uint32_t`. -/
def totalBytes (frameSize : UInt32) : Nat :=
  headerBytes + (frameSize * k4wRingSize).toNat

def zeroHeader : K4wShmHeader where
  magic := 0
  frameSize := 0
  w := 0
  h := 0
  bpp := 0
  writeIdx := 0
  readIdx := 0
  seq := 0
  timestampMs := 0
  data := fun _ => 0

def k4wShmCreate (calls : CreateCalls) (frameSize : UInt32) :
    Except CreateFailure Mapping :=
  if !calls.shmOpen then
    .error { unlinked := false }
  else if !calls.ftruncate then
    .error { unlinked := true }
  else if !calls.mmap then
    .error { unlinked := true }
  else
    .ok {
      size := totalBytes frameSize
      hdr := { zeroHeader with magic := k4wShmMagic, frameSize := frameSize } }

/-- The daemon stores the geometry of a stream right after creating its segment. -/
def K4wShmHeader.withGeometry (hdr : K4wShmHeader) (w h bpp : UInt32) : K4wShmHeader :=
  { hdr with w := w, h := h, bpp := bpp }

/-! ## Writing and reading frames -/

/-- The smaller of a requested size and the frame size, as both functions clip it. -/
def clipSize (hdr : K4wShmHeader) (size : UInt32) : UInt32 :=
  if hdr.frameSize < size then hdr.frameSize else size

/-- Offset in `data` of a slot, whose product is computed in `uint32_t`. -/
def slotOffset (hdr : K4wShmHeader) (idx : UInt32) : Nat :=
  (idx * hdr.frameSize).toNat

/--
`k4w_shm_write_frame` for a mapped header; `nowMs` is what `now_ms` returns.
The source reads `hdr->frame_size` before its return for a null `hdr`, so it
has no defined behaviour there.
-/
def k4wShmWriteFrame (hdr : K4wShmHeader) (data : Nat → UInt8) (size : UInt32)
    (nowMs : UInt64) : K4wShmHeader :=
  let size := clipSize hdr size
  let wi := hdr.writeIdx
  let idx := wi % k4wRingSize
  { hdr with
    data := copyBlock hdr.data (slotOffset hdr idx) data size.toNat
    timestampMs := nowMs
    writeIdx := (wi + 1) % k4wRingSize
    seq := hdr.seq + 1 }

/-- The slot before `write_idx`, for readers that keep it in a `uint32_t`. -/
def latestSlot (writeIdx : UInt32) : UInt32 :=
  (writeIdx + k4wRingSize - 1) % k4wRingSize

/-- The slot before `write_idx`, for readers that keep both in an `int`. -/
def latestSlotInt (writeIdx : UInt32) : Int32 :=
  (writeIdx.toInt32 + 3 - 1) % 3

/-- What a call of `k4w_shm_read_frame` returns and leaves in `out` and `*seq`. -/
structure ReadFrame where
  delivered : Bool
  out : Nat → UInt8
  seq : UInt32

def k4wShmReadFrame (hdr : K4wShmHeader) (out : Nat → UInt8) (size seq : UInt32) :
    ReadFrame :=
  let cur := hdr.seq
  if cur = seq then
    { delivered := false, out := out, seq := seq }
  else
    let idx := latestSlot hdr.writeIdx
    let size := clipSize hdr size
    { delivered := true
      out := copyBlock out 0 (fun i => hdr.data (slotOffset hdr idx + i)) size.toNat
      seq := cur }

/-! ## Arithmetic of the indices -/

theorem clipSize_toNat (hdr : K4wShmHeader) (size : UInt32) :
    (clipSize hdr size).toNat = min size.toNat hdr.frameSize.toNat := by
  unfold clipSize
  split
  case isTrue hlt =>
      rw [UInt32.lt_iff_toNat_lt] at hlt
      omega
  case isFalse hnot =>
      rw [UInt32.lt_iff_toNat_lt] at hnot
      omega

/-- No slot offset wraps when the three frames fit in `uint32_t`. -/
theorem slotOffset_eq {hdr : K4wShmHeader} {idx : UInt32} (hidx : idx.toNat < 3)
    (hfit : 3 * hdr.frameSize.toNat < 2 ^ 32) :
    slotOffset hdr idx = idx.toNat * hdr.frameSize.toNat := by
  have hle : idx.toNat * hdr.frameSize.toNat ≤ 3 * hdr.frameSize.toNat :=
    Nat.mul_le_mul_right _ (Nat.le_of_lt hidx)
  rw [slotOffset, UInt32.toNat_mul, Nat.mod_eq_of_lt (by omega)]

theorem writeIdx_slot {idx : UInt32} (hidx : idx.toNat < 3) :
    (idx % k4wRingSize).toNat = idx.toNat := by
  rw [UInt32.toNat_mod, show k4wRingSize.toNat = 3 from rfl, Nat.mod_eq_of_lt hidx]

theorem writeIdx_next {idx : UInt32} (hidx : idx.toNat < 3) :
    ((idx + 1) % k4wRingSize).toNat = (idx.toNat + 1) % 3 := by
  rw [UInt32.toNat_mod, UInt32.toNat_add, show k4wRingSize.toNat = 3 from rfl,
    show (1 : UInt32).toNat = 1 from rfl]
  omega

theorem writeIdx_cases {idx : UInt32} (hidx : idx.toNat < 3) : idx = 0 ∨ idx = 1 ∨ idx = 2 := by
  have hcases : idx.toNat = 0 ∨ idx.toNat = 1 ∨ idx.toNat = 2 := by omega
  rcases hcases with h | h | h
  · exact .inl (UInt32.toNat_inj.mp h)
  · exact .inr (.inl (UInt32.toNat_inj.mp h))
  · exact .inr (.inr (UInt32.toNat_inj.mp h))

theorem latestSlot_toNat {idx : UInt32} (hidx : idx.toNat < 3) :
    (latestSlot idx).toNat = (idx.toNat + 3 - 1) % 3 := by
  rcases writeIdx_cases hidx with rfl | rfl | rfl <;> rfl

theorem latestSlotInt_toInt {idx : UInt32} (hidx : idx.toNat < 3) :
    (latestSlotInt idx).toInt = ((idx.toNat + 3 - 1) % 3 : Nat) := by
  rcases writeIdx_cases hidx with rfl | rfl | rfl <;> rfl

/-- Converted back to `uint32_t`, the signed index is the unsigned one. -/
theorem latestSlotInt_toUInt32 {idx : UInt32} (hidx : idx.toNat < 3) :
    (latestSlotInt idx).toUInt32 = latestSlot idx := by
  rcases writeIdx_cases hidx with rfl | rfl | rfl <;> rfl

theorem k4wShmCreate_ok {calls : CreateCalls} {frameSize : UInt32} {mapping : Mapping}
    (hcreate : k4wShmCreate calls frameSize = .ok mapping) :
    mapping = {
      size := totalBytes frameSize
      hdr := { zeroHeader with magic := k4wShmMagic, frameSize := frameSize } } := by
  unfold k4wShmCreate at hcreate
  split at hcreate
  · cases hcreate
  · split at hcreate
    · cases hcreate
    · split at hcreate
      · cases hcreate
      · cases hcreate
        rfl

end K4W.Shm
