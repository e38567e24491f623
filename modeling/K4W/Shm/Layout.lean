import K4W.Library.Span
import K4W.Shm.Segment

/-!
# The bytes of a mapping

A reader finds a block of bytes that anyone may have written, and reads the
header of `k4w_common.h` at its start.  The fields are little-endian words.
-/

namespace K4W.Shm

open K4W.Library

/-- A mapped segment as the readers find it: the bytes mapped, from the first one on. -/
structure MappedBytes where
  size : Nat
  bytes : Nat → UInt8

namespace MappedBytes

/-- The `uint32_t` at an offset. -/
def word (segment : MappedBytes) (offset : Nat) : UInt32 :=
  (segment.bytes offset).toUInt32 |||
    (segment.bytes (offset + 1)).toUInt32 <<< 8 |||
    (segment.bytes (offset + 2)).toUInt32 <<< 16 |||
    (segment.bytes (offset + 3)).toUInt32 <<< 24

/-- The `uint64_t` at an offset. -/
def doubleWord (segment : MappedBytes) (offset : Nat) : UInt64 :=
  (segment.word offset).toUInt64 ||| (segment.word (offset + 4)).toUInt64 <<< 32

/-- The fields of `k4w_shm_header_t`, which `K4W_ShmHeader` of the plugin repeats. -/
def header (segment : MappedBytes) : K4wShmHeader where
  magic := segment.word 0
  frameSize := segment.word 4
  w := segment.word 8
  h := segment.word 12
  bpp := segment.word 16
  writeIdx := segment.word 20
  readIdx := segment.word 24
  seq := segment.word 28
  timestampMs := segment.doubleWord 32
  data := fun i => segment.bytes (headerBytes + i)

def mapping (segment : MappedBytes) : Mapping where
  size := segment.size
  hdr := segment.header

/-- The bytes of a `uint32_t` field of the header. -/
def field (offset : Nat) : Span :=
  ⟨offset, 4⟩

theorem field_inside_iff {size offset : Nat} :
    (field offset).Inside size ↔ offset + 4 ≤ size :=
  Span.inside_natCast_iff (by decide)

/-- A field has the same value in segments that hold the same bytes there. -/
theorem word_congr {first second : MappedBytes} {offset : Nat}
    (hbytes : ∀ i < 4, first.bytes (offset + i) = second.bytes (offset + i)) :
    first.word offset = second.word offset := by
  have hlowest : first.bytes offset = second.bytes offset := hbytes 0 (by decide)
  unfold word
  rw [hlowest, hbytes 1 (by decide), hbytes 2 (by decide), hbytes 3 (by decide)]

theorem word_eq_of_sameCells {first second : MappedBytes} {offset : Nat}
    (hsame : (field offset).SameCells first.bytes second.bytes) :
    first.word offset = second.word offset :=
  word_congr fun _ hi => hsame.cell hi

theorem doubleWord_eq_of_sameCells {first second : MappedBytes} {offset : Nat}
    (hsame : Span.SameCells ⟨offset, 8⟩ first.bytes second.bytes) :
    first.doubleWord offset = second.doubleWord offset := by
  have hlow : first.word offset = second.word offset :=
    word_congr fun i hi => hsame.cell (by omega)
  have hhigh : first.word (offset + 4) = second.word (offset + 4) := by
    refine word_congr fun i hi => ?_
    rw [Nat.add_assoc]
    exact hsame.cell (by omega)
  rw [doubleWord, doubleWord, hlow, hhigh]

end MappedBytes

end K4W.Shm
