import K4W.Library.Loop
import K4W.Shm.LastFrames
import K4W.Shm.Layout

/-!
# The size of a mapping

`k4w_shm_create` computes the size of the ring in `uint32_t`, and the frame
functions compute the offset of a slot in `uint32_t`.  They stay inside the
mapping in every sequence of calls exactly when neither product can wrap, that
is when three frames fit.
-/

namespace K4W.Shm.MappingSize

open K4W.Library
open K4W.Library.Ring

/-! ## Calls on a segment -/

/-- A call on a mapped segment, with the arguments besides the header. -/
inductive Call where
  | writeFrame (frame : Frame)
  | readFrame (out : Nat → UInt8) (size seq : UInt32)

def frameSizeField : Span := MappedBytes.field 4
def writeIdxField : Span := MappedBytes.field 20
def seqField : Span := MappedBytes.field 28
def timestampField : Span := ⟨32, 8⟩

/-- The bytes of the segment that a `memcpy` of a slot takes or fills. -/
def slotSpan (hdr : K4wShmHeader) (idx size : UInt32) : Span :=
  ⟨(headerBytes + slotOffset hdr idx : Nat), (clipSize hdr size).toNat⟩

/-- The bytes of the segment that a call touches, in the order of the source. -/
def touched (hdr : K4wShmHeader) : Call → List Span
  | .writeFrame frame =>
      [frameSizeField, writeIdxField, slotSpan hdr (hdr.writeIdx % k4wRingSize) frame.size,
        timestampField, writeIdxField, seqField]
  | .readFrame _ size seq =>
      seqField ::
        if hdr.seq = seq then []
        else [writeIdxField, frameSizeField, slotSpan hdr (latestSlot hdr.writeIdx) size]

/-- The header after a call; the reader stores to its own memory only. -/
def perform (hdr : K4wShmHeader) : Call → K4wShmHeader
  | .writeFrame frame => writeFrame hdr frame
  | .readFrame _ _ _ => hdr

/-- Calls one after the other, and what each one touches. -/
def session (hdr : K4wShmHeader) : Loop K4wShmHeader Call (List Span) where
  initial := hdr
  step := fun hdr call => (perform hdr call, touched hdr call)

/-- Every byte that the calls touch is one of the mapping. -/
def StaysMapped (mapping : Mapping) (calls : List Call) : Prop :=
  ∀ made ∈ (session mapping.hdr).run calls, Span.AllInside mapping.size made.output

/-- The mapping is large enough for every sequence of calls. -/
def LargeEnough (mapping : Mapping) : Prop :=
  ∀ calls, StaysMapped mapping calls

/-! ## The spans are what the functions use -/

/-- A call changes no byte of the ring that it does not touch. -/
theorem perform_untouched {hdr : K4wShmHeader} {call : Call} {i : Nat}
    (huntouched : ∀ span ∈ touched hdr call,
      ¬(span.offset ≤ headerBytes + i ∧ headerBytes + i < span.offset + span.len)) :
    (perform hdr call).data i = hdr.data i := by
  cases call with
  | writeFrame frame =>
      have hslot := huntouched (slotSpan hdr (hdr.writeIdx % k4wRingSize) frame.size)
        (List.mem_cons_of_mem _ (List.mem_cons_of_mem _ List.mem_cons_self))
      dsimp only [slotSpan] at hslot
      exact copyBlock_outside hdr.data _ frame.data (by omega)
  | readFrame out size seq => rfl

/-- The reader returns the same from segments that agree in the bytes it touches. -/
theorem k4wShmReadFrame_eq_of_agree (out : Nat → UInt8) (size seq : UInt32)
    {first second : MappedBytes}
    (hagree : Span.Agree (touched first.header (.readFrame out size seq))
      first.bytes second.bytes) :
    k4wShmReadFrame first.header out size seq = k4wShmReadFrame second.header out size seq := by
  rw [touched, Span.agree_cons] at hagree
  obtain ⟨hfield, hrest⟩ := hagree
  have hseq : first.header.seq = second.header.seq := MappedBytes.word_eq_of_sameCells hfield
  unfold k4wShmReadFrame
  rw [← hseq]
  dsimp only
  split
  case isTrue => rfl
  case isFalse hnew =>
      rw [if_neg hnew, Span.agree_cons, Span.agree_cons, Span.agree_cons] at hrest
      obtain ⟨hindexAt, hframeSizeAt, hblock, -⟩ := hrest
      have hindex : first.header.writeIdx = second.header.writeIdx :=
        MappedBytes.word_eq_of_sameCells hindexAt
      have hframeSize : first.header.frameSize = second.header.frameSize :=
        MappedBytes.word_eq_of_sameCells hframeSizeAt
      have hsize : clipSize second.header size = clipSize first.header size := by
        rw [clipSize, clipSize, hframeSize]
      have hoffset : slotOffset second.header (latestSlot second.header.writeIdx) =
          slotOffset first.header (latestSlot first.header.writeIdx) := by
        rw [slotOffset, slotOffset, hframeSize, hindex]
      rw [hsize, hoffset]
      congr 1
      refine copyBlock_congr out 0 fun i hi => ?_
      have hcell := hblock.cell hi
      rwa [Nat.add_assoc] at hcell

/-! ## When a call stays inside -/

/-- A block of a slot ends inside the ring; both offsets are `uint32_t` products. -/
def BlockFits (frameSize : UInt32) (slot : Nat) (size : UInt32) : Prop :=
  let len := min size.toNat frameSize.toNat
  len = 0 ∨ slot * frameSize.toNat % 2 ^ 32 + len ≤ 3 * frameSize.toNat % 2 ^ 32

/-- The block of a call fits, after a number of writes; the reader may have no block. -/
def CallFits (frameSize : UInt32) (written : Nat) : Call → Prop
  | .writeFrame frame => BlockFits frameSize (written % 3) frame.size
  | .readFrame _ size seq =>
      seq.toNat ≠ written % 2 ^ 32 → BlockFits frameSize ((written + 2) % 3) size

theorem slotSpan_inside_iff {hdr : K4wShmHeader} {idx size : UInt32} :
    (slotSpan hdr idx size).Inside (totalBytes hdr.frameSize) ↔
      BlockFits hdr.frameSize idx.toNat size := by
  have htotal : totalBytes hdr.frameSize =
      headerBytes + 3 * hdr.frameSize.toNat % 2 ^ 32 := by
    rw [totalBytes, UInt32.toNat_mul, Nat.mul_comm]
    rfl
  have hoffset : slotOffset hdr idx = idx.toNat * hdr.frameSize.toNat % 2 ^ 32 := by
    rw [slotOffset, UInt32.toNat_mul]
  rw [Span.inside_iff, htotal, slotSpan, hoffset, clipSize_toNat, BlockFits]
  dsimp only
  omega

theorem blockFits_of_ringFits {frameSize : UInt32} (hfit : 3 * frameSize.toNat < 2 ^ 32)
    {slot : Nat} (hslot : slot < 3) (size : UInt32) : BlockFits frameSize slot size := by
  right
  have hend : slot * frameSize.toNat + frameSize.toNat ≤ 3 * frameSize.toNat := by
    rw [← Nat.succ_mul]
    exact Nat.mul_le_mul_right _ hslot
  rw [Nat.mod_eq_of_lt hfit, Nat.mod_eq_of_lt (by omega)]
  omega

/-- A full frame in the second slot ends behind a ring whose size has wrapped. -/
theorem not_blockFits_second {frameSize : UInt32} (hwrap : 2 ^ 32 ≤ 3 * frameSize.toNat) :
    ¬BlockFits frameSize 1 frameSize := by
  have hlt := frameSize.toNat_lt
  have hquotient : 1 ≤ 3 * frameSize.toNat / 2 ^ 32 :=
    (Nat.one_le_div_iff (by decide)).mpr hwrap
  rintro (hzero | hend)
  · rw [Nat.min_self] at hzero
    omega
  · rw [Nat.min_self, Nat.one_mul, Nat.mod_eq_of_lt hlt] at hend
    omega

theorem headerField_inside {span : Span} {frameSize : UInt32} (hlow : 0 ≤ span.offset)
    (hend : span.offset + span.len ≤ headerBytes) : span.Inside (totalBytes frameSize) := by
  rw [Span.inside_iff, totalBytes]
  right
  omega

/-! ## Sequences of calls -/

def isWrite : Call → Bool
  | .writeFrame _ => true
  | .readFrame _ _ _ => false

/-- The number of calls of the writer. -/
def writes (calls : List Call) : Nat :=
  calls.countP isWrite

/-- The header after the calls, as far as the offsets depend on it. -/
structure Counts (frameSize : UInt32) (written : Nat) (hdr : K4wShmHeader) : Prop where
  frameSize : hdr.frameSize = frameSize
  writeIdx : hdr.writeIdx.toNat = written % 3
  seq : hdr.seq.toNat = written % 2 ^ 32

theorem Counts.perform {frameSize : UInt32} {past : List Call} {hdr : K4wShmHeader}
    (hcounts : Counts frameSize (writes past) hdr) (call : Call) :
    Counts frameSize (writes (past ++ [call])) (perform hdr call) := by
  cases call with
  | writeFrame frame =>
      have hcount : writes (past ++ [.writeFrame frame]) = writes past + 1 := by
        simp [writes, isWrite]
      have hlt : hdr.writeIdx.toNat < 3 := by
        rw [hcounts.writeIdx]
        exact Nat.mod_lt _ (by decide)
      rw [hcount]
      refine ⟨hcounts.frameSize, ?_, ?_⟩
      · change ((hdr.writeIdx + 1) % k4wRingSize).toNat = _
        rw [writeIdx_next hlt, hcounts.writeIdx, Nat.mod_add_mod]
      · change (hdr.seq + 1).toNat = _
        rw [UInt32.toNat_add, hcounts.seq]
        exact Nat.mod_add_mod _ _ _
  | readFrame out size seq =>
      have hcount : writes (past ++ [.readFrame out size seq]) = writes past := by
        simp [writes, isWrite]
      rw [hcount]
      exact hcounts

/-- A call touches the mapping only, exactly when its block fits. -/
theorem Counts.allInside_iff {frameSize : UInt32} {written : Nat} {hdr : K4wShmHeader}
    (hcounts : Counts frameSize written hdr) (call : Call) :
    Span.AllInside (totalBytes frameSize) (touched hdr call) ↔
      CallFits frameSize written call := by
  obtain ⟨rfl, hindex, hseq⟩ := hcounts
  have hlt : hdr.writeIdx.toNat < 3 := by
    rw [hindex]
    exact Nat.mod_lt _ (by decide)
  have hframeSizeAt : frameSizeField.Inside (totalBytes hdr.frameSize) :=
    headerField_inside (by decide) (by decide)
  have hindexAt : writeIdxField.Inside (totalBytes hdr.frameSize) :=
    headerField_inside (by decide) (by decide)
  have hseqAt : seqField.Inside (totalBytes hdr.frameSize) :=
    headerField_inside (by decide) (by decide)
  have htimeAt : timestampField.Inside (totalBytes hdr.frameSize) :=
    headerField_inside (by decide) (by decide)
  cases call with
  | writeFrame frame =>
      have hslot : (hdr.writeIdx % k4wRingSize).toNat = written % 3 := by
        rw [writeIdx_slot hlt, hindex]
      simp only [touched, Span.allInside_cons, Span.allInside_nil, hframeSizeAt, hindexAt,
        hseqAt, htimeAt, slotSpan_inside_iff, hslot, true_and, and_true]
      exact Iff.rfl
  | readFrame out size seq =>
      have hslot : (latestSlot hdr.writeIdx).toNat = (written + 2) % 3 := by
        rw [latestSlot_toNat hlt, hindex]
        omega
      have hseen : hdr.seq = seq ↔ seq.toNat = written % 2 ^ 32 := by
        rw [← UInt32.toNat_inj, hseq, eq_comm]
      simp only [touched, Span.allInside_cons, Span.allInside_nil, Span.allInside_unless,
        hframeSizeAt, hindexAt, hseqAt, slotSpan_inside_iff, hslot, hseen, true_and, and_true]
      exact Iff.rfl

/-- Every call of the sequence fits after the writes before it. -/
def AllFit (frameSize : UInt32) (calls : List Call) : Prop :=
  ∀ past call rest, calls = past ++ call :: rest → CallFits frameSize (writes past) call

section Created

variable {calls : CreateCalls} {frameSize : UInt32} {mapping : Mapping}
variable (hcreate : k4wShmCreate calls frameSize = .ok mapping)

include hcreate

theorem counts_of_created (past : List Call) :
    Counts frameSize (writes past) ((session mapping.hdr).state past) := by
  obtain rfl := k4wShmCreate_ok hcreate
  refine @Loop.state_of_past _ _ _ (session _)
    (fun past hdr => Counts frameSize (writes past) hdr) ?_ ?_ past
  · exact ⟨rfl, rfl, rfl⟩
  · exact fun call hcounts => hcounts.perform call

theorem staysMapped_iff (made : List Call) : StaysMapped mapping made ↔ AllFit frameSize made := by
  have hsize : mapping.size = totalBytes frameSize := by rw [k4wShmCreate_ok hcreate]
  have hcall : ∀ past call, Span.AllInside mapping.size
      (touched ((session mapping.hdr).state past) call) ↔ CallFits frameSize (writes past) call := by
    intro past call
    rw [hsize]
    exact (counts_of_created hcreate past).allInside_iff call
  constructor
  · intro hstays past call rest hmade
    apply (hcall past call).mp
    exact hstays _ ((session mapping.hdr).mem_run_iff.mpr ⟨past, call, rest, hmade, rfl⟩)
  · intro hfit iteration hmem
    obtain ⟨past, call, rest, hmade, rfl⟩ := (session mapping.hdr).mem_run_iff.mp hmem
    exact (hcall past call).mpr (hfit past call rest hmade)

theorem largeEnough_iff : LargeEnough mapping ↔ 3 * frameSize.toNat < 2 ^ 32 := by
  constructor
  · intro hlarge
    by_contra hwrap
    let full : Call := .writeFrame ⟨fun _ => 0, frameSize, 0⟩
    have hsecond := (staysMapped_iff hcreate [full, full]).mp (hlarge _) [full] full [] rfl
    exact not_blockFits_second (Nat.not_lt.mp hwrap) hsecond
  · intro hfit made
    apply (staysMapped_iff hcreate made).mpr
    intro past call rest _
    cases call with
    | writeFrame frame => exact blockFits_of_ringFits hfit (Nat.mod_lt _ (by decide)) frame.size
    | readFrame out size seq =>
        exact fun _ => blockFits_of_ringFits hfit (Nat.mod_lt _ (by decide)) size

/--
The mapping is large enough for every sequence of calls exactly when three
frames fit in `uint32_t`; otherwise a sequence stays inside exactly when each
of its blocks fits.
-/
theorem largeEnough_iff_ringFits :
    (LargeEnough mapping ↔ 3 * frameSize.toNat < 2 ^ 32) ∧
      ∀ made, StaysMapped mapping made ↔ AllFit frameSize made :=
  ⟨largeEnough_iff hcreate, staysMapped_iff hcreate⟩

end Created

/-- The mapping that `k4w_shm_create` leaves when all its calls succeed. -/
def created (frameSize : UInt32) : Mapping where
  size := totalBytes frameSize
  hdr := { zeroHeader with magic := k4wShmMagic, frameSize := frameSize }

/-- The segment of the depth stream. -/
theorem largeEnough_depth : LargeEnough (created 614400) := by
  have hcreate : k4wShmCreate ⟨true, true, true⟩ 614400 = .ok (created 614400) := rfl
  exact (largeEnough_iff_ringFits hcreate).1.mpr (by decide)

/-- Three frames of 1431655766 bytes wrap to a ring of two bytes. -/
theorem not_largeEnough_wrapped :
    ¬ ∀ (calls : CreateCalls) (frameSize : UInt32) (mapping : Mapping),
      k4wShmCreate calls frameSize = .ok mapping → LargeEnough mapping := by
  intro hall
  have hlarge := hall ⟨true, true, true⟩ 1431655766 (created 1431655766) rfl
  let full : Call := .writeFrame ⟨fun _ => 0, 1431655766, 0⟩
  have hinside := hlarge [full] _ List.mem_cons_self
    (slotSpan (created 1431655766).hdr 0 1431655766)
    (List.mem_cons_of_mem _ (List.mem_cons_of_mem _ List.mem_cons_self))
  have hbyte := (hinside 2 (by decide)).2
  exact absurd hbyte (by decide)

end K4W.Shm.MappingSize
