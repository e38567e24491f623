import K4W.Shm.ReaderAgreement

/-!
# Audio periods of varying length

The audio thread publishes as many samples as `snd_pcm_readi` returned frames,
each in the next slot of the ring, and the microphone monitor copies all
`K4W_AUDIO_SAMPLES` samples of the latest slot.  A slot that is not filled keeps
the samples of the last longer period that was stored in it.
-/

namespace K4W.Shm.Audio

open K4W.Library.CInt
open K4W.Library.Ring

/-! ## The audio thread -/

/-- Four channels of `raw_buf` that belong to one frame. -/
structure RawFrame where
  channel0 : Int32
  channel1 : Int32
  channel2 : Int32
  channel3 : Int32

/-- `mono_buf[i]`: the upper halves of the channels, mixed down. -/
def monoSample (raw : RawFrame) : Int16 :=
  let s0 := raw.channel0 >>> 16
  let s1 := raw.channel1 >>> 16
  let s2 := raw.channel2 >>> 16
  let s3 := raw.channel3 >>> 16
  ((s0 + s1 + s2 + s3) / 4).toInt16

/-- What `snd_pcm_readi` returned and stored, and `now_ms` when it is published. -/
structure Period where
  frames : Int32
  raw : Nat → RawFrame
  nowMs : UInt64

/-- The bytes of an array of `int16_t`, the low byte of a sample first. -/
def sampleBytes (samples : Nat → Int16) (offset : Nat) : UInt8 :=
  let word := (samples (offset / 2)).toUInt16.toNat
  UInt8.ofNat (if offset % 2 = 0 then word else word / 256)

/-- `mono_buf` and the segment that `state->audio_shm` points to. -/
structure AudioState where
  monoBuf : Nat → Int16
  hdr : K4wShmHeader

/-- `frames * sizeof(int16_t)`, passed as a `uint32_t`. -/
def periodBytes (frames : Int32) : UInt32 :=
  UInt32.ofNat (toSizeT frames * 2)

/-- The part of an iteration of `audio_thread_func` that follows the read. -/
def publishPeriod (state : AudioState) (period : Period) : AudioState :=
  if period.frames < 0 then state
  else
    let monoBuf := copyBlock state.monoBuf 0 (fun i => monoSample (period.raw i))
      period.frames.toInt.toNat
    { monoBuf := monoBuf
      hdr := k4wShmWriteFrame state.hdr (sampleBytes monoBuf) (periodBytes period.frames)
        period.nowMs }

def publishPeriods (state : AudioState) (periods : List Period) : AudioState :=
  periods.foldl publishPeriod state

/-! ## The monitor's samples -/

/-- An `int16_t` read from its two bytes. -/
def sampleOf (low high : UInt8) : Int16 :=
  (UInt16.ofNat (low.toNat + 256 * high.toNat)).toInt16

/-- `buf[s]` after the copy, unless nothing was copied or a byte has no value. -/
def copiedSample (outcome : Gui.MicOutcome) (s : Nat) : Option Int16 :=
  match outcome with
  | .copied _ bytes =>
      match bytes[2 * s]?, bytes[2 * s + 1]? with
      | some (some low), some (some high) => some (sampleOf low high)
      | _, _ => none
  | _ => none

theorem sampleOf_sampleBytes (samples : Nat → Int16) (s : Nat) :
    sampleOf (sampleBytes samples (2 * s)) (sampleBytes samples (2 * s + 1)) = samples s := by
  have hword := (samples s).toUInt16.toNat_lt
  have heven : 2 * s / 2 = s := by omega
  have hodd : (2 * s + 1) / 2 = s := by omega
  have hbytes : (samples s).toUInt16.toNat % 256 + 256 * ((samples s).toUInt16.toNat / 256 % 256) =
      (samples s).toUInt16.toNat := by omega
  rw [sampleOf, sampleBytes, sampleBytes, heven, hodd, if_pos (by omega), if_neg (by omega),
    UInt8.toNat_ofNat', UInt8.toNat_ofNat', hbytes, UInt16.ofNat_toNat]
  rfl

/-! ## Publishing is writing frames -/

/-- The call of `k4w_shm_write_frame` that publishes a period. -/
def Period.frame (period : Period) : Frame where
  data := sampleBytes fun i => monoSample (period.raw i)
  size := periodBytes period.frames
  nowMs := period.nowMs

/-- `snd_pcm_readi` returns no error and not more frames than asked for. -/
def ReadCount (frames : Int32) : Prop :=
  1 ≤ frames.toInt ∧ frames.toInt ≤ 512

theorem periodBytes_toNat {frames : Int32} (hread : ReadCount frames) :
    (periodBytes frames).toNat = 2 * frames.toInt.toNat := by
  obtain ⟨hlow, hhigh⟩ := hread
  have hsize := toSizeT_eq (n := frames) (by omega)
  rw [periodBytes, UInt32.toNat_ofNat']
  omega

/-- What was in `mono_buf` after the converted samples is not published. -/
theorem publishPeriod_hdr (state : AudioState) {period : Period}
    (hread : ReadCount period.frames) :
    (publishPeriod state period).hdr = writeFrame state.hdr period.frame := by
  have hzero : (0 : Int32).toInt = 0 := rfl
  have hnot : ¬period.frames < 0 := by
    rw [Int32.lt_iff_toInt_lt, hzero]
    have hlow := hread.1
    omega
  have hclip : (clipSize state.hdr (periodBytes period.frames)).toNat ≤
      2 * period.frames.toInt.toNat := by
    rw [clipSize_toNat, periodBytes_toNat hread]
    exact Nat.min_le_left _ _
  rw [publishPeriod, if_neg hnot]
  simp only [writeFrame, k4wShmWriteFrame, Period.frame, K4wShmHeader.mk.injEq, true_and]
  apply copyBlock_congr
  intro i hi
  have hcopied := copyBlock_inside state.monoBuf 0 (fun i => monoSample (period.raw i))
    (show i / 2 < period.frames.toInt.toNat by omega)
  rw [Nat.zero_add] at hcopied
  rw [sampleBytes, sampleBytes, hcopied]

theorem publishPeriods_hdr (state : AudioState) {periods : List Period}
    (hread : ∀ period ∈ periods, ReadCount period.frames) :
    (publishPeriods state periods).hdr = writeFrames state.hdr (periods.map Period.frame) := by
  induction periods generalizing state with
  | nil => rfl
  | cons period rest ih =>
      have hrest := ih (publishPeriod state period) fun other hother =>
        hread other (List.mem_cons_of_mem period hother)
      rw [publishPeriod_hdr state (hread period List.mem_cons_self)] at hrest
      exact hrest

/-! ## What is in the slots -/

theorem writeFrames_append (hdr : K4wShmHeader) (frames : List Frame) (frame : Frame) :
    writeFrames hdr (frames ++ [frame]) = writeFrame (writeFrames hdr frames) frame := by
  rw [writeFrames, List.foldl_append]
  rfl

/-- Every byte of the ring is that of the last frame long enough to fill it. -/
theorem holdsCells_writeFrames {start : K4wShmHeader} (hfit : 3 * start.frameSize.toNat < 2 ^ 32)
    (hempty : Represents start []) (frames : List Frame) :
    HoldsCells 3 start.frameSize.toNat Frame.data (Frame.len start.frameSize) start.data
      (writeFrames start frames).data frames := by
  induction frames using List.reverseRecOn with
  | nil => exact holdsCells_nil
  | append_singleton frames frame ih =>
      have hsize := (sameStream_writeFrames start frames).frameSize
      have hrep : Represents (writeFrames start frames) frames :=
        hempty.writeFrames hfit frames
      rw [writeFrames_append, writeFrame_data (by rw [hsize]; exact hfit) hrep, hsize]
      exact ih.copy (len_le start.frameSize) frame

/-- Both bytes of a sample are filled by the periods that have the sample. -/
theorem covers_double {slots : Nat} {lens : List Nat} {slot s b j : Nat} (hb : b < 2) :
    Covers slots (lens.map (2 * ·)) slot (2 * s + b) j ↔ Covers slots lens slot s j := by
  simp only [Covers, List.getElem?_map, Option.map_eq_some_iff]
  apply and_congr_right
  intro _
  constructor
  · rintro ⟨_, ⟨len, hlen, rfl⟩, hlt⟩
    exact ⟨len, hlen, by omega⟩
  · rintro ⟨len, hlen, hlt⟩
    exact ⟨2 * len, ⟨len, hlen, rfl⟩, by omega⟩

theorem lastCovers_double {slots : Nat} {lens : List Nat} {slot s b j : Nat} (hb : b < 2) :
    LastCovers slots (lens.map (2 * ·)) slot (2 * s + b) j ↔ LastCovers slots lens slot s j := by
  simp only [LastCovers, covers_double hb]

/-! ## Sessions -/

/-- The channels of every frame of every period. -/
abbrev Recording := Nat → Nat → RawFrame

/--
Periods published to a segment and one iteration of the monitor after them:
what each read returned, and everything else but the channels.
-/
structure Session where
  mapping : Mapping
  monoBuf : Nat → Int16
  clock : Nat → UInt64
  counts : List Int32
  lastSeq : Int32

/-- Every channel of one period is loud, and the others are silent. -/
def loudPeriod (j : Nat) : Recording := fun period _ =>
  if period = j then ⟨0x10000, 0x10000, 0x10000, 0x10000⟩ else ⟨0, 0, 0, 0⟩

theorem monoSample_loudPeriod (j period t : Nat) :
    monoSample (loudPeriod j period t) = if period = j then 1 else 0 := by
  unfold loudPeriod
  split <;> rfl

namespace Session

def periods (session : Session) (recording : Recording) : List Period :=
  session.counts.mapIdx fun j frames => ⟨frames, recording j, session.clock j⟩

/-- The segment after all periods have been published. -/
def published (session : Session) (recording : Recording) : K4wShmHeader :=
  (publishPeriods ⟨session.monoBuf, session.mapping.hdr⟩ (session.periods recording)).hdr

/-- What the monitor copies then. -/
def copied (session : Session) (recording : Recording) : Gui.MicOutcome :=
  (Gui.micIteration session.lastSeq true
    (some ⟨session.mapping.size, session.published recording⟩)).2

/-- The number of the latest period. -/
def last (session : Session) : Nat :=
  session.counts.length - 1

/--
The sample is one of the given period: whatever the channels record, it is what
one frame of that period was converted to.
-/
def ComesFrom (session : Session) (s j : Nat) : Prop :=
  ∃ (t : Nat) (frames : Int32), session.counts[j]? = some frames ∧ t < frames.toInt ∧
    ∀ recording, copiedSample (session.copied recording) s = some (monoSample (recording j t))

/-- All copied samples are samples of the latest period. -/
def AllFromLatest (session : Session) : Prop :=
  ∀ s < 512, session.ComesFrom s session.last

/-- No copied sample is a sample of an earlier period. -/
def NoneStale (session : Session) : Prop :=
  ∀ s < 512, ∀ j < session.last, ¬session.ComesFrom s j

/-- The sequence number that the monitor compares. -/
def seq (session : Session) : Int32 :=
  (UInt32.ofNat session.counts.length).toInt32

/-- A created audio segment, at least one period, and a frame that is new to the monitor. -/
structure Valid (session : Session) : Prop where
  created : ∃ calls, k4wShmCreate calls 1024 = .ok session.mapping
  read : ∀ frames ∈ session.counts, ReadCount frames
  nonempty : session.counts ≠ []
  unseen : session.seq ≠ session.lastSeq
  positive : 1 ≤ session.seq

/-- The numbers of samples that the periods have. -/
def sampleCounts (session : Session) : List Nat :=
  session.counts.map fun frames => frames.toInt.toNat

section Valid

variable {session : Session} (hvalid : session.Valid) (recording : Recording)

/-- The frames that the audio thread writes. -/
def frames (session : Session) (recording : Recording) : List Frame :=
  (session.periods recording).map Period.frame

theorem frames_length : (session.frames recording).length = session.counts.length := by
  rw [frames, periods, List.length_map, List.length_mapIdx]

theorem frames_getElem? {j : Nat} {count : Int32} (hcount : session.counts[j]? = some count) :
    (session.frames recording)[j]? =
      some (Period.frame ⟨count, recording j, session.clock j⟩) := by
  rw [frames, periods, List.getElem?_map, List.getElem?_mapIdx, hcount]
  rfl

/-- The periods that have the sample, by what their reads returned. -/
theorem covers_iff {s slot j : Nat} :
    Covers 3 session.sampleCounts slot s j ↔
      j % 3 = slot ∧ ∃ count : Int32, session.counts[j]? = some count ∧ s < count.toInt := by
  simp only [Covers, sampleCounts, List.getElem?_map, Option.map_eq_some_iff]
  apply and_congr_right
  intro _
  constructor
  · rintro ⟨_, ⟨count, hcount, rfl⟩, hlt⟩
    exact ⟨count, hcount, by omega⟩
  · rintro ⟨count, hcount, hlt⟩
    exact ⟨_, ⟨count, hcount, rfl⟩, by omega⟩

theorem le_last_of_covers {s slot j : Nat} (hcovers : Covers 3 session.sampleCounts slot s j) :
    j ≤ session.last := by
  have hlt := hcovers.lt_length
  rw [sampleCounts, List.length_map] at hlt
  exact Nat.le_sub_one_of_lt hlt

include hvalid

theorem Valid.hdr_eq : session.mapping.hdr =
    { zeroHeader with magic := k4wShmMagic, frameSize := 1024 } := by
  obtain ⟨calls, hcreate⟩ := hvalid.created
  rw [k4wShmCreate_ok hcreate]

theorem Valid.readCount {j : Nat} {count : Int32} (hcount : session.counts[j]? = some count) :
    ReadCount count :=
  hvalid.read count (List.mem_of_getElem? hcount)

theorem Valid.published_eq :
    session.published recording =
      writeFrames session.mapping.hdr (session.frames recording) := by
  apply publishPeriods_hdr
  intro period hperiod
  obtain ⟨j, hj, rfl⟩ := List.mem_mapIdx.mp hperiod
  exact hvalid.read _ (List.getElem_mem hj)

/-- The bytes that the frames fill are two for each sample. -/
theorem Valid.lens_eq :
    (session.frames recording).map (Frame.len 1024) = session.sampleCounts.map (2 * ·) := by
  apply List.ext_getElem?
  intro j
  rw [List.getElem?_map, List.getElem?_map, sampleCounts, List.getElem?_map]
  cases hcount : session.counts[j]? with
  | none =>
      have hlength := List.getElem?_eq_none_iff.mp hcount
      rw [← frames_length recording] at hlength
      rw [List.getElem?_eq_none hlength]
      rfl
  | some count =>
      have hread := hvalid.readCount hcount
      have hbytes := periodBytes_toNat hread
      have hlen : (Period.frame ⟨count, recording j, session.clock j⟩).len 1024 =
          2 * count.toInt.toNat := by
        have hthousand : (1024 : UInt32).toNat = 1024 := rfl
        have hle := hread.2
        rw [Frame.len, Period.frame, hbytes, hthousand]
        omega
      rw [frames_getElem? recording hcount, Option.map_some, hlen]
      rfl

theorem Valid.empty : Represents session.mapping.hdr [] := by
  rw [hvalid.hdr_eq]
  exact represents_nil rfl rfl

theorem Valid.represents :
    Represents (session.published recording) (session.frames recording) := by
  rw [hvalid.published_eq]
  exact hvalid.empty.writeFrames (by rw [hvalid.hdr_eq]; decide) (session.frames recording)

theorem Valid.holdsCells :
    HoldsCells 3 1024 Frame.data (Frame.len 1024) (fun _ => 0)
      (session.published recording).data (session.frames recording) := by
  have hcells := holdsCells_writeFrames (by rw [hvalid.hdr_eq]; decide) hvalid.empty
    (session.frames recording)
  rw [← hvalid.published_eq] at hcells
  simp only [hvalid.hdr_eq] at hcells
  exact hcells

theorem Valid.slot_eq : slotBefore (session.published recording).writeIdx = session.last % 3 := by
  have hlength := @frames_length session recording
  have hpos := List.length_pos_iff.mpr hvalid.nonempty
  rw [slotBefore, (hvalid.represents recording).writeIdx, slot_back (by decide) (by omega),
    hlength, last]

/-- The latest frame comes past the gate of the monitor. -/
theorem Valid.copies : ∃ start bytes, session.copied recording = .copied start bytes := by
  have hsame := sameStream_writeFrames session.mapping.hdr (session.frames recording)
  rw [← hvalid.published_eq] at hsame
  have hmagic : (session.published recording).magic = k4wShmMagic := by
    rw [hsame.magic, hvalid.hdr_eq]
  have hseq : (session.published recording).seq.toInt32 = session.seq := by
    rw [seq, ← frames_length recording]
    congr 1
    apply UInt32.toNat_inj.mp
    rw [(hvalid.represents recording).seq, UInt32.toNat_ofNat']
  have hnot : ¬session.seq < 1 := Int32.not_lt.mpr hvalid.positive
  simp [copied, Gui.micIteration, hmagic, hseq, hnot, hvalid.unseen]

/-- A copied sample is made of two bytes of the latest slot. -/
theorem Valid.copiedSample_eq {s : Nat} (hs : s < 512) :
    copiedSample (session.copied recording) s =
      some (sampleOf ((session.published recording).data (session.last % 3 * 1024 + 2 * s))
        ((session.published recording).data (session.last % 3 * 1024 + (2 * s + 1)))) := by
  obtain ⟨start, bytes, hcopied⟩ := hvalid.copies recording
  have hidx := (hvalid.represents recording).writeIdx_lt
  have hslot := (micIteration_slot hidx hcopied).2
  have hlow := hslot (2 * s) (by rw [Gui.micBytes]; omega)
  have hhigh := hslot (2 * s + 1) (by rw [Gui.micBytes]; omega)
  rw [hvalid.slot_eq] at hlow hhigh
  rw [hcopied, copiedSample, hlow, hhigh]

/-- A sample that some period of the slot has is that of the last one of them. -/
theorem Valid.copiedSample_covered {s j : Nat} (hs : s < 512)
    (hlast : LastCovers 3 session.sampleCounts (session.last % 3) s j) :
    copiedSample (session.copied recording) s = some (monoSample (recording j s)) := by
  have hcells := hvalid.holdsCells recording
  obtain ⟨-, len, hlen, -⟩ := hlast.1
  rw [sampleCounts, List.getElem?_map, Option.map_eq_some_iff] at hlen
  obtain ⟨count, hcount, -⟩ := hlen
  have hframe := frames_getElem? recording hcount
  have hslot : session.last % 3 < 3 := Nat.mod_lt _ (by decide)
  have hbyte : ∀ b < 2, (session.published recording).data
      (session.last % 3 * 1024 + (2 * s + b)) =
        sampleBytes (fun i => monoSample (recording j i)) (2 * s + b) := by
    intro b hb
    apply hcells.covered hslot (by omega) hframe
    rw [hvalid.lens_eq recording, lastCovers_double hb]
    exact hlast
  have hlow := hbyte 0 (by decide)
  have hhigh := hbyte 1 (by decide)
  rw [Nat.add_zero] at hlow
  rw [hvalid.copiedSample_eq recording hs, hlow, hhigh, sampleOf_sampleBytes]

/-- A sample that no period of the slot has is still zero. -/
theorem Valid.copiedSample_untouched {s : Nat} (hs : s < 512)
    (hnone : ∀ j, ¬Covers 3 session.sampleCounts (session.last % 3) s j) :
    copiedSample (session.copied recording) s = some 0 := by
  have hcells := hvalid.holdsCells recording
  have hslot : session.last % 3 < 3 := Nat.mod_lt _ (by decide)
  have hbyte : ∀ b < 2, (session.published recording).data
      (session.last % 3 * 1024 + (2 * s + b)) = 0 := by
    intro b hb
    apply hcells.untouched hslot (by omega)
    intro j
    rw [hvalid.lens_eq recording, covers_double hb]
    exact hnone j
  have hlow := hbyte 0 (by decide)
  have hhigh := hbyte 1 (by decide)
  rw [Nat.add_zero] at hlow
  rw [hvalid.copiedSample_eq recording hs, hlow, hhigh]
  rfl

/-- A sample comes from the last period stored in the slot that has it. -/
theorem Valid.comesFrom_iff {s j : Nat} (hs : s < 512) :
    session.ComesFrom s j ↔
      LastCovers 3 session.sampleCounts (session.last % 3) s j := by
  constructor
  · rintro ⟨t, count, -, -, hsample⟩
    have hloud := hsample (loudPeriod j)
    rw [monoSample_loudPeriod, if_pos rfl] at hloud
    by_cases hcovers : ∃ j, Covers 3 session.sampleCounts (session.last % 3) s j
    · obtain ⟨other, hother⟩ := exists_lastCovers hcovers
      rw [hvalid.copiedSample_covered (loudPeriod j) hs hother, monoSample_loudPeriod] at hloud
      by_cases hsame : other = j
      · exact hsame ▸ hother
      · rw [if_neg hsame] at hloud
        exact absurd hloud (by decide)
    · have hnone := not_exists.mp hcovers
      rw [hvalid.copiedSample_untouched (loudPeriod j) hs hnone] at hloud
      exact absurd hloud (by decide)
  · intro hlast
    obtain ⟨-, len, hlen, hlt⟩ := hlast.1
    rw [sampleCounts, List.getElem?_map, Option.map_eq_some_iff] at hlen
    obtain ⟨count, hcount, rfl⟩ := hlen
    exact ⟨s, count, hcount, by omega,
      fun recording => hvalid.copiedSample_covered recording hs hlast⟩

/-- The latest period that was published, and the number of its frames. -/
theorem Valid.latest : ∃ count, session.counts[session.last]? = some count ∧ ReadCount count := by
  have hpos := List.length_pos_iff.mpr hvalid.nonempty
  have hlt : session.last < session.counts.length := by
    rw [last]
    omega
  have hcount := List.getElem?_eq_getElem hlt
  exact ⟨_, hcount, hvalid.readCount hcount⟩

theorem Valid.allFromLatest_iff :
    session.AllFromLatest ↔ session.counts[session.last]? = some 512 := by
  obtain ⟨latest, hlatest, hread⟩ := hvalid.latest
  constructor
  · intro hall
    have hlast := (hvalid.comesFrom_iff (show 511 < 512 by decide)).mp (hall 511 (by decide))
    obtain ⟨-, count, hcount, hlt⟩ := covers_iff.mp hlast.1
    rw [hlatest] at hcount
    cases hcount
    have hfull : latest.toInt = (512 : Int32).toInt := by
      have hhigh := hread.2
      change latest.toInt = 512
      omega
    rw [hlatest, Int32.toInt_inj.mp hfull]
  · intro hfull s hs
    apply (hvalid.comesFrom_iff hs).mpr
    constructor
    · exact covers_iff.mpr ⟨rfl, 512, hfull, Int.ofNat_lt.mpr hs⟩
    · exact fun later hlater => le_last_of_covers hlater

/-- No earlier period that was stored in the slot of the latest one is longer. -/
def NoLongerInSlot (session : Session) : Prop :=
  ∀ (j : Nat) (count latest : Int32), j < session.last → j % 3 = session.last % 3 →
    session.counts[j]? = some count → session.counts[session.last]? = some latest →
      count.toInt ≤ latest.toInt

theorem Valid.noneStale_iff : session.NoneStale ↔ session.NoLongerInSlot := by
  constructor
  · intro hnone j count latest hj hslot hcount hlatest
    by_contra hlonger
    have hread := hvalid.readCount hcount
    have hlow := (hvalid.readCount hlatest).1
    -- the first sample that the latest period does not have
    obtain ⟨s, hs⟩ : ∃ s : Nat, (s : Int) = latest.toInt := ⟨latest.toInt.toNat, by omega⟩
    have hcovers : Covers 3 session.sampleCounts (session.last % 3) s j :=
      covers_iff.mpr ⟨hslot, count, hcount, by omega⟩
    obtain ⟨stale, hstale⟩ := exists_lastCovers ⟨j, hcovers⟩
    have hne : stale ≠ session.last := by
      rintro rfl
      obtain ⟨-, other, hother, hlt⟩ := covers_iff.mp hstale.1
      rw [hlatest] at hother
      cases hother
      omega
    have hbefore := Nat.lt_of_le_of_ne (le_last_of_covers hstale.1) hne
    have hbound : s < 512 := by
      have hhigh := hread.2
      omega
    exact hnone s hbound stale hbefore ((hvalid.comesFrom_iff hbound).mpr hstale)
  · intro hno s hs j hj hcomes
    obtain ⟨latest, hlatest, -⟩ := hvalid.latest
    have hlast := (hvalid.comesFrom_iff hs).mp hcomes
    obtain ⟨hslot, count, hcount, hlt⟩ := covers_iff.mp hlast.1
    have hle := hno j count latest hj hslot hcount hlatest
    have hcovers : Covers 3 session.sampleCounts (session.last % 3) s session.last :=
      covers_iff.mpr ⟨rfl, latest, hlatest, by omega⟩
    exact absurd (hlast.2 session.last hcovers) (Nat.not_le.mpr hj)

end Valid

/-- A session on a created segment that the monitor has not read yet. -/
def ofCounts (counts : List Int32) : Session where
  mapping := ⟨totalBytes 1024, { zeroHeader with magic := k4wShmMagic, frameSize := 1024 }⟩
  monoBuf := fun _ => 0
  clock := fun _ => 0
  counts := counts
  lastSeq := -1

theorem valid_ofCounts {counts : List Int32} (hread : ∀ frames ∈ counts, ReadCount frames)
    (hnonempty : counts ≠ []) (hpositive : 1 ≤ (ofCounts counts).seq) :
    (ofCounts counts).Valid := by
  refine ⟨⟨⟨true, true, true⟩, rfl⟩, hread, hnonempty, ?_, hpositive⟩
  intro hseen
  rw [hseen] at hpositive
  have hminus : (1 : Int32) ≤ -1 := hpositive
  exact absurd hminus (by decide)

/--
All samples come from the latest period, and none from an earlier one, exactly
when the latest period has 512 frames.  Samples of an earlier period are left
exactly when a longer one was stored in the same slot.
-/
theorem freshAudio_iff (session : Session) (hvalid : session.Valid) :
    (session.AllFromLatest ∧ session.NoneStale ↔
        session.counts[session.last]? = some 512) ∧
      (session.NoneStale ↔ session.NoLongerInSlot) := by
  refine ⟨⟨?_, ?_⟩, hvalid.noneStale_iff⟩
  · exact fun hfresh => hvalid.allFromLatest_iff.mp hfresh.1
  · intro hfull
    refine ⟨hvalid.allFromLatest_iff.mpr hfull, hvalid.noneStale_iff.mpr ?_⟩
    intro j count latest _ _ hcount hlatest
    rw [hfull] at hlatest
    cases hlatest
    exact (hvalid.readCount hcount).2

theorem freshAudio_fullPeriods :
    (ofCounts [100, 512]).AllFromLatest ∧ (ofCounts [100, 512]).NoneStale := by
  have hvalid : (ofCounts [100, 512]).Valid :=
    valid_ofCounts (by simp [ReadCount]) (by simp) (by decide)
  exact (freshAudio_iff (ofCounts [100, 512]) hvalid).1.mpr rfl

/-- Three full periods, and a short one in the slot of the first. -/
theorem not_freshAudio_shortPeriod :
    ¬ ∀ session : Session, session.Valid → session.AllFromLatest ∧ session.NoneStale := by
  intro hall
  have hvalid : (ofCounts [512, 512, 512, 100]).Valid :=
    valid_ofCounts (by simp [ReadCount]) (by simp) (by decide)
  have hno := hvalid.noneStale_iff.mp (hall _ hvalid).2
  have hle := hno 0 512 100 (by decide) rfl rfl rfl
  exact absurd hle (by decide)

end Session

end K4W.Shm.Audio
