import K4W.Gui.Drawing
import K4W.Shm.AudioPeriods

/-!
# Microphone levels

`MicMonitorThread::run` turns the samples that it copied down to the volume,
keeps the loudest one of each of eight bands, and the window draws a bar for each
band.  The levels stay until the next period that the monitor has not seen.
-/

namespace K4W.Gui.Levels

open K4W.Library
open K4W.Library.Binary
open K4W.Gui.Detections
open K4W.Gui.Floats
open K4W.Shm

/-! ## The monitor -/

/-- What an iteration of the monitor finds. -/
structure Look where
  enabled : Bool
  /-- A position of the slider, which has the range 0 to 100. -/
  volume : Int32
  mapping : Option Mapping
  /-- What is read where the copy begins before `data`. -/
  before : Nat → UInt8

/-- A byte of `buf` after the copy. -/
def Look.byte (look : Look) (bytes : List (Option UInt8)) (i : Nat) : UInt8 :=
  bytes[i]?.join.getD (look.before i)

/-- `buf` after the copy. -/
def Look.buffer (look : Look) (bytes : List (Option UInt8)) (s : Nat) : Int16 :=
  Audio.sampleOf (look.byte bytes (2 * s)) (look.byte bytes (2 * s + 1))

/-- `volume / 100.0f` -/
def gainOf (volume : Int32) : Single :=
  (Number.ofInt binary32 volume.toInt).div (.ofInt binary32 100)

/-- `(int16_t)(buf[i] * gain)` -/
def applyGain (gain : Single) (sample : Int16) : Int16 :=
  (CInt.castToInt ((Number.ofInt binary32 sample.toInt).mul gain).truncate?).toInt16

/-- A sample after "Apply volume". -/
def applyVolume (volume : Int32) (sample : Int16) : Int16 :=
  if volume < 100 then applyGain (gainOf volume) sample else sample

/-- `fabsf((float)buf[i]) / 32768.0f` -/
def levelOf (sample : Int16) : Single :=
  (Number.ofInt binary32 sample.toInt).abs.div (.ofInt binary32 32768)

/-- The body of the loop over a band. -/
def keepLouder (peak : Single) (sample : Int16) : Single :=
  let v := levelOf sample
  if peak.lt v then v else peak

/-- `K4W_AUDIO_SAMPLES / 8` -/
def bandSize : Nat := 64

/-- The samples of a band, in the order of the loop. -/
def band (buf : Nat → Int16) (b : Nat) : List Int16 :=
  (List.range bandSize).map fun i => buf (b * bandSize + i)

/-- `bandPeaks[b]` -/
def bandPeak (buf : Nat → Int16) (b : Nat) : Single :=
  (band buf b).foldl keepLouder (.ofInt binary32 0)

/-- `last_seq` and `peaks`. -/
structure Meter where
  lastSeq : Int32
  peaks : Nat → Single

/-- What the iteration copies into `buf`, if it comes that far. -/
def copied? (lastSeq : Int32) (look : Look) : Option (Nat → Int16) :=
  match (micIteration lastSeq look.enabled look.mapping).2 with
  | .copied _ bytes => some (look.buffer bytes)
  | .disabled | .noMapping | .badMagic | .notNew => none

/-- `buf` after the volume has been applied. -/
def played? (lastSeq : Int32) (look : Look) : Option (Nat → Int16) :=
  (copied? lastSeq look).map fun buf s => applyVolume look.volume (buf s)

/-- `MicMonitorThread::run`; the output says whether `levelsUpdated` is emitted. -/
def run : Loop Meter Look Bool where
  initial := ⟨-1, fun _ => .ofInt binary32 0⟩
  step := fun meter look =>
    let lastSeq := (micIteration meter.lastSeq look.enabled look.mapping).1
    match played? meter.lastSeq look with
    | some buf => (⟨lastSeq, bandPeak buf⟩, true)
    | none => (⟨lastSeq, meter.peaks⟩, false)

/-! ## The bars -/

/-- `(int)(peak * (h - 4))`, and at least 2. -/
def barHeight (h : Int32) (peak : Single) : Int32 :=
  let barH := CInt.castToInt (peak.mul (.ofInt binary32 (h - 4).toInt)).truncate?
  if barH < 2 then 2 else barH

def red : Drawing.Colour := ⟨0xee, 0x88, 0x88, 255⟩

def yellow : Drawing.Colour := ⟨0xf9, 0xe2, 0xaf, 255⟩

def green : Drawing.Colour := ⟨0x97, 0xc4, 0x59, 255⟩

/-- The colour `c` of a bar; the constants are `0.8f` and `0.5f`. -/
def barColour (peak : Single) : Drawing.Colour :=
  if (Number.round binary32 (4 / 5)).lt peak then red
  else if (Number.round binary32 (1 / 2)).lt peak then yellow
  else green

structure Bar where
  box : Rect
  colour : Drawing.Colour

/-- The body of the loop over the bands, which `drawRoundedRect` ends. -/
def bar (w h : Int32) (peak : Single) (b : Nat) : Bar :=
  let barW := w / 8 - 2
  let barH := barHeight h peak
  { box :=
      { x := Int32.ofNat b * (barW + 2) + 1
        y := h - barH - 2
        width := barW
        height := barH }
    colour := barColour peak }

/-! ## The volume -/

/-- A sample that was turned down: not beyond silence, not louder, and about what was asked for. -/
structure Damped (volume : Int32) (sample played : Int16) : Prop where
  low : min 0 sample.toInt ≤ played.toInt
  high : played.toInt ≤ max 0 sample.toInt
  close : |(played.toInt : Rat) - sample.toInt * (volume.toInt / 100)| < 1 + 1 / 512

theorem within_hundred : (Number.ofInt binary32 100).Within 100 100 := by
  exact_mod_cast @within_int 100 (by decide)

section Gain

variable {volume : Int32} (hlow : 0 ≤ volume.toInt) (hhigh : volume.toInt < 100)

include hlow hhigh

theorem within_volume : (Number.ofInt binary32 volume.toInt).Within volume.toInt volume.toInt :=
  within_int (by rw [abs_of_nonneg hlow]; omega)

theorem gain_within_one : (gainOf volume).Within 0 1 := by
  have hpos : (0 : Rat) ≤ volume.toInt := by exact_mod_cast hlow
  have hle : (volume.toInt : Rat) ≤ 1 * 100 := by
    rw [one_mul]
    exact_mod_cast le_of_lt hhigh
  exact ((within_volume hlow hhigh).mono hpos (le_refl _)).div within_hundred (by norm_num) hle
    represents_zero represents_one

/-- The gain is a float next to the part of a hundred. -/
theorem gain_close : ∃ gain, (gainOf volume).value? = some gain ∧
    |gain - volume.toInt / 100| ≤ 1 / 2 ^ 24 := by
  obtain ⟨value, hvalue, hbelow, habove⟩ := within_volume hlow hhigh
  cases le_antisymm hbelow habove
  obtain ⟨hundred, hhundred, hbelow, habove⟩ := within_hundred
  cases le_antisymm hbelow habove
  have hexact : (0 : Rat) ≤ volume.toInt / 100 :=
    div_nonneg (by exact_mod_cast hlow) (by norm_num)
  obtain ⟨negative, hgain⟩ := Number.div_eq hvalue hhundred (by norm_num)
  rw [gainOf, hgain]
  split
  case isTrue hzero =>
      refine ⟨0, Number.zeroOf_value represents_zero negative, ?_⟩
      rw [hzero]
      norm_num
  case isFalse =>
      apply Number.round_close _ (by decide) (by decide)
      have hle : (volume.toInt : Rat) ≤ 99 := by exact_mod_cast Int.le_of_lt_add_one hhigh
      rw [abs_of_nonneg hexact]
      norm_num [binary32]
      linarith

omit hlow hhigh in
/-- The integer part of a product with a factor that is at most one. -/
theorem truncate_product {sample : Int16} {gain : Rat} {factor : Single} {n : Int}
    (hgain : factor.value? = some gain) (hzero : 0 ≤ gain) (hone : gain ≤ 1)
    (htruncate : ((Number.ofInt binary32 sample.toInt).mul factor).truncate? = some n) :
    |(n : Rat) - sample.toInt * gain| < 1 := by
  have hmin := sample.le_toInt
  have hmax := sample.toInt_lt
  obtain ⟨value, hvalue, hbelow, habove⟩ :=
    @within_int sample.toInt (abs_lt.mpr ⟨by omega, by omega⟩)
  cases le_antisymm hbelow habove
  have hproduct : |(sample.toInt : Rat) * gain| ≤ (2 ^ 15 : Int) := by
    rw [abs_mul, abs_of_nonneg hzero, ← Int.cast_abs]
    have hmagnitude : |sample.toInt| ≤ 2 ^ 15 := abs_le.mpr ⟨hmin, le_of_lt hmax⟩
    exact (mul_le_of_le_one_right (by exact_mod_cast abs_nonneg _) hone).trans
      (by exact_mod_cast hmagnitude)
  obtain ⟨hbelow, habove⟩ := abs_le.mp hproduct
  have hfloor : -2 ^ 15 ≤ ⌊(sample.toInt : Rat) * gain⌋ :=
    Int.le_floor.mpr (by exact_mod_cast hbelow)
  have hceil : ⌈(sample.toInt : Rat) * gain⌉ ≤ 2 ^ 15 := Int.ceil_le.mpr habove
  have horder := Int.floor_le_ceil ((sample.toInt : Rat) * gain)
  have hwithin := Number.within_product hvalue hgain represents_zero
    (represents_int (abs_lt.mpr ⟨by omega, by omega⟩))
    (represents_int (abs_lt.mpr ⟨by omega, by omega⟩))
  obtain ⟨whole, hwhole, hfirst, hlast⟩ := hwithin.truncate
  rw [htruncate] at hwhole
  cases hwhole
  have hleft : ((⌊(sample.toInt : Rat) * gain⌋ : Int) : Rat) ≤ n := by exact_mod_cast hfirst
  have hright : (n : Rat) ≤ (⌈(sample.toInt : Rat) * gain⌉ : Int) := by exact_mod_cast hlast
  have hnext := Int.lt_floor_add_one ((sample.toInt : Rat) * gain)
  have hlower := Int.ceil_lt_add_one ((sample.toInt : Rat) * gain)
  exact abs_lt.mpr ⟨by linarith, by linarith⟩

/-- A sample at a volume below 100. -/
theorem applyGain_damped (sample : Int16) :
    Damped volume sample (applyGain (gainOf volume) sample) := by
  have hmin := sample.le_toInt
  have hmax := sample.toInt_lt
  have hsmall : |sample.toInt| < 2 ^ 24 := abs_lt.mpr ⟨by omega, by omega⟩
  obtain ⟨value, hvalue, hbelow, habove⟩ := within_int hsmall
  cases le_antisymm hbelow habove
  obtain ⟨gain, hgain, hclose⟩ := gain_close hlow hhigh
  have hwithin := gain_within_one hlow hhigh
  have hbetween := Number.within_scaled hvalue hwithin represents_zero (represents_int hsmall)
  obtain ⟨n, htruncate, hfirst, hlast⟩ := @Number.Within.truncate binary32 _
    (min 0 sample.toInt) (max 0 sample.toInt) (by push_cast; exact hbetween)
  have hplayed : (applyGain (gainOf volume) sample).toInt = n := by
    rw [applyGain, htruncate, Int32.toInt_toInt16,
      CInt.castToInt_of_range (by omega) (by omega)]
    exact Int.bmod_eq_of_le (by omega) (by omega)
  obtain ⟨factor, hfactor, hzero, hone⟩ := hwithin
  rw [hgain] at hfactor
  cases hfactor
  have hinteger := truncate_product hgain hzero hone htruncate
  rw [← hplayed] at hfirst hlast hinteger
  refine ⟨hfirst, hlast, ?_⟩
  -- the integer part is next to the exact product, which is next to the part asked for
  have hnear : |(sample.toInt : Rat) * gain - sample.toInt * (volume.toInt / 100)| ≤ 1 / 512 := by
    have hmagnitude : |(sample.toInt : Rat)| ≤ 2 ^ 15 := by
      rw [← Int.cast_abs]
      exact_mod_cast abs_le.mpr ⟨hmin, le_of_lt hmax⟩
    rw [← mul_sub, abs_mul]
    calc |(sample.toInt : Rat)| * |gain - volume.toInt / 100|
        ≤ 2 ^ 15 * (1 / 2 ^ 24) := mul_le_mul hmagnitude hclose (abs_nonneg _) (by norm_num)
      _ = 1 / 512 := by norm_num
  calc |((applyGain (gainOf volume) sample).toInt : Rat) - sample.toInt * (volume.toInt / 100)|
      ≤ |((applyGain (gainOf volume) sample).toInt : Rat) - sample.toInt * gain| +
          |(sample.toInt : Rat) * gain - sample.toInt * (volume.toInt / 100)| := abs_sub_le _ _ _
    _ < 1 + 1 / 512 := add_lt_add_of_lt_of_le hinteger hnear

end Gain

/-- Every position of the slider. -/
theorem applyVolume_damped {volume : Int32} (hlow : 0 ≤ volume.toInt)
    (hhigh : volume.toInt ≤ 100) (sample : Int16) :
    Damped volume sample (applyVolume volume sample) := by
  have hhundred : (100 : Int32).toInt = 100 := rfl
  unfold applyVolume
  split
  case isTrue hbelow =>
      rw [Int32.lt_iff_toInt_lt, hhundred] at hbelow
      exact applyGain_damped hlow hbelow sample
  case isFalse hnot =>
      rw [Int32.lt_iff_toInt_lt, hhundred, not_lt] at hnot
      refine ⟨min_le_right _ _, le_max_right _ _, ?_⟩
      rw [le_antisymm hhigh hnot]
      norm_num

/-! ## The levels -/

/-- How loud a sample is, of full scale. -/
def loudness (sample : Int16) : Rat :=
  |(sample.toInt : Rat)| / 32768

theorem loudness_nonneg (sample : Int16) : 0 ≤ loudness sample :=
  div_nonneg (abs_nonneg _) (by norm_num)

theorem loudness_le_one (sample : Int16) : loudness sample ≤ 1 := by
  have hmagnitude : |sample.toInt| ≤ 32768 :=
    abs_le.mpr ⟨sample.le_toInt, le_of_lt sample.toInt_lt⟩
  rw [loudness, div_le_one (by norm_num), ← Int.cast_abs]
  exact_mod_cast hmagnitude

/-- The level of a sample has no rounding error. -/
theorem levelOf_value (sample : Int16) : (levelOf sample).value? = some (loudness sample) := by
  have hmin := sample.le_toInt
  have hmax := sample.toInt_lt
  obtain ⟨value, hvalue, hbelow, habove⟩ :=
    @within_int sample.toInt (abs_lt.mpr ⟨by omega, by omega⟩)
  cases le_antisymm hbelow habove
  obtain ⟨full, hfull, hbelow, habove⟩ := @within_int 32768 (by decide)
  cases le_antisymm hbelow habove
  have hscale : ((32768 : Int) : Rat) = 32768 := by norm_num
  rw [hscale] at hfull
  have hmagnitude : |sample.toInt| ≤ 2 ^ 15 := abs_le.mpr ⟨hmin, le_of_lt hmax⟩
  have hquotient := @Number.represents_shifted binary32 |sample.toInt| 15
    (by rw [abs_abs]; exact lt_of_le_of_lt hmagnitude (by decide)) (by decide) (by decide)
  rw [Int.cast_abs, (by norm_num : (2 : Rat) ^ 15 = 32768)] at hquotient
  exact Number.div_exact (Number.abs_value hvalue represents_zero) hfull (by norm_num)
    represents_zero hquotient

/-- The loop over a band ends with the greatest loudness of its samples. -/
theorem foldl_keepLouder (samples : List Int16) :
    ∃ peak, (samples.foldl keepLouder (.ofInt binary32 0)).value? = some peak ∧
      IsGreatest (insert 0 {level | ∃ sample ∈ samples, level = loudness sample}) peak := by
  induction samples using List.reverseRecOn with
  | nil =>
      refine ⟨0, by exact_mod_cast Number.round_value represents_zero, ?_⟩
      simp [IsGreatest]
  | append_singleton samples last ih =>
      obtain ⟨peak, hpeak, hgreatest⟩ := ih
      have hset : (insert 0 {level | ∃ sample ∈ samples ++ [last], level = loudness sample} :
          Set Rat) = insert (loudness last)
            (insert 0 {level | ∃ sample ∈ samples, level = loudness sample}) := by
        ext level
        simp only [List.mem_append, List.mem_singleton, Set.mem_insert_iff,
          Set.mem_ofPred_eq, or_and_right, exists_or, exists_eq_left]
        rw [← or_assoc, or_comm]
      refine ⟨max (loudness last) peak, ?_, hset ▸ hgreatest.insert _⟩
      rw [List.foldl_append, List.foldl_cons, List.foldl_nil, keepLouder,
        Number.lt_eq hpeak (levelOf_value last)]
      by_cases hlouder : peak < loudness last
      · rw [decide_eq_true hlouder, if_pos rfl, max_eq_left (le_of_lt hlouder)]
        exact levelOf_value last
      · rw [decide_eq_false hlouder, if_neg Bool.false_ne_true, max_eq_right (not_lt.mp hlouder)]
        exact hpeak

/-- The greatest loudness in a band. -/
def IsPeak (buf : Nat → Int16) (b : Nat) (peak : Rat) : Prop :=
  IsGreatest {level | ∃ i < bandSize, level = loudness (buf (b * bandSize + i))} peak

theorem isPeak_silence (b : Nat) : IsPeak (fun _ => 0) b 0 := by
  have hzero : (0 : Int16).toInt = 0 := rfl
  have hsilent : loudness 0 = 0 := by rw [loudness, hzero, Int.cast_zero, abs_zero, zero_div]
  refine ⟨⟨0, by decide, hsilent.symm⟩, ?_⟩
  rintro level ⟨i, -, rfl⟩
  exact le_of_eq hsilent

theorem bandPeak_value (buf : Nat → Int16) (b : Nat) :
    ∃ peak, (bandPeak buf b).value? = some peak ∧ IsPeak buf b peak := by
  obtain ⟨peak, hpeak, hmem, hupper⟩ := foldl_keepLouder (band buf b)
  have hband : ∀ i < bandSize, loudness (buf (b * bandSize + i)) ≤ peak := by
    intro i hi
    apply hupper
    right
    exact ⟨_, List.mem_map_of_mem (List.mem_range.mpr hi), rfl⟩
  refine ⟨peak, hpeak, ?_, ?_⟩
  · rcases hmem with rfl | ⟨sample, hsample, rfl⟩
    · have hfirst := hband 0 (by decide)
      exact ⟨0, by decide, le_antisymm (loudness_nonneg _) hfirst⟩
    · obtain ⟨i, hi, rfl⟩ := List.mem_map.mp hsample
      exact ⟨i, List.mem_range.mp hi, rfl⟩
  · rintro level ⟨i, hi, rfl⟩
    exact hband i hi

/-! ## Runs of the monitor -/

/-- The samples that an iteration measures. -/
def heard (iteration : Iteration Meter Look Bool) : Option (Nat → Int16) :=
  played? iteration.before.lastSeq iteration.input

/-- The samples measured last, and silence before the first ones. -/
def newest (iterations : List (Iteration Meter Look Bool)) : Nat → Int16 :=
  (iterations.filterMap heard).getLast?.getD fun _ => 0

theorem next_peaks (meter : Meter) (look : Look) :
    (run.next meter look).peaks =
      match played? meter.lastSeq look with
      | some buf => bandPeak buf
      | none => meter.peaks := by
  rw [Loop.next]
  cases hplayed : played? meter.lastSeq look <;> simp [run, hplayed]

/-- The levels are those of the samples measured last. -/
theorem state_peaks (looks : List Look) (b : Nat) :
    ∃ peak, ((run.state looks).peaks b).value? = some peak ∧
      IsPeak (newest (run.run looks)) b peak := by
  apply @Loop.run_invariant _ _ _ run fun iterations meter =>
    ∃ peak, (meter.peaks b).value? = some peak ∧ IsPeak (newest iterations) b peak
  · exact ⟨0, by exact_mod_cast Number.round_value represents_zero, isPeak_silence b⟩
  · intro iterations meter look hshown
    rw [next_peaks, newest, filterMap_concat]
    cases hplayed : played? meter.lastSeq look with
    | none =>
        have hheard : heard (run.iterate meter look) = none := hplayed
        rw [hheard, Option.toList_none, List.append_nil]
        exact hshown
    | some buf =>
        have hheard : heard (run.iterate meter look) = some buf := hplayed
        rw [hheard, Option.toList_some, List.getLast?_concat, Option.getD_some]
        exact bandPeak_value buf b

/-- What is measured was copied and turned down. -/
theorem heard_damped {looks : List Look}
    (hslider : ∀ look ∈ looks, 0 ≤ look.volume.toInt ∧ look.volume.toInt ≤ 100)
    {iteration : Iteration Meter Look Bool} (hmem : iteration ∈ run.run looks)
    {played : Nat → Int16} (hheard : heard iteration = some played) :
    ∃ buf, copied? iteration.before.lastSeq iteration.input = some buf ∧
      ∀ s, Damped iteration.input.volume (buf s) (played s) := by
  obtain ⟨past, look, rest, rfl, rfl⟩ := run.mem_run_iff.mp hmem
  obtain ⟨hlow, hhigh⟩ := hslider look (List.mem_append_right past List.mem_cons_self)
  obtain ⟨buf, hcopied, rfl⟩ := Option.map_eq_some_iff.mp hheard
  exact ⟨buf, hcopied, fun s => applyVolume_damped hlow hhigh (buf s)⟩

/-! ## Drawn bars -/

/-- The bar of a band that is this loud, at its place in a widget of this size. -/
structure IsBar (w h : Int32) (peak : Rat) (b : Nat) (bar : Bar) : Prop where
  left : bar.box.x.toInt = b * (w.toInt / 8) + 1
  width : bar.box.width.toInt = w.toInt / 8 - 2
  height : bar.box.height.toInt = max 2 ⌊peak * (h.toInt - 4 : Int)⌋
  bottom : bar.box.y.toInt + bar.box.height.toInt = h.toInt - 2
  top : 0 ≤ bar.box.y.toInt
  right : bar.box.x.toInt + bar.box.width.toInt < w.toInt
  colour : bar.colour = if 4 / 5 < peak then red else if 1 / 2 < peak then yellow else green

section Bars

variable {number : Single} {sample : Int16} (hnumber : number.value? = some (loudness sample))

include hnumber

omit hnumber in
/-- The part of a height that a sample takes. -/
theorem loudness_part {height : Int} (hheight : 0 ≤ height) :
    0 ≤ loudness sample * height ∧ ⌊loudness sample * height⌋ ≤ height := by
  have hpos : (0 : Rat) ≤ height := by exact_mod_cast hheight
  have hle := mul_le_of_le_one_left hpos (loudness_le_one sample)
  refine ⟨mul_nonneg (loudness_nonneg sample) hpos, ?_⟩
  exact_mod_cast (Int.floor_le _).trans hle

/-- The product with the height has no rounding error, and so the bar has its exact height. -/
theorem barHeight_toInt {h : Int32} (hlow : 4 ≤ h.toInt) (hhigh : h.toInt ≤ 260) :
    (barHeight h number).toInt = max 2 ⌊loudness sample * (h.toInt - 4 : Int)⌋ := by
  have hfour : (4 : Int32).toInt = 4 := rfl
  have htwo : (2 : Int32).toInt = 2 := rfl
  have hsub : (h - 4).toInt = h.toInt - 4 := by
    rw [CInt.toInt_sub_eq, hfour]
    all_goals omega
  obtain ⟨value, hvalue, hbelow, habove⟩ :=
    @within_int (h - 4).toInt (by rw [hsub, abs_of_nonneg (by omega)]; omega)
  cases le_antisymm hbelow habove
  have hmagnitude : |sample.toInt| ≤ 2 ^ 15 :=
    abs_le.mpr ⟨sample.le_toInt, le_of_lt sample.toInt_lt⟩
  have hproduct := @Number.represents_shifted binary32 (|sample.toInt| * (h.toInt - 4)) 15
    (by
      rw [abs_mul, abs_abs, abs_of_nonneg (by omega : 0 ≤ h.toInt - 4)]
      calc |sample.toInt| * (h.toInt - 4) ≤ 2 ^ 15 * 2 ^ 8 :=
            mul_le_mul hmagnitude (by omega) (by omega) (by norm_num)
        _ < 2 ^ 24 := by norm_num) (by decide) (by decide)
  have hexact : (|sample.toInt| * (h.toInt - 4) : Int) / (2 : Rat) ^ 15 =
      loudness sample * (h.toInt - 4 : Int) := by
    rw [loudness]
    push_cast
    ring
  rw [hexact] at hproduct
  rw [hsub] at hvalue
  obtain ⟨hnonneg, hbound⟩ := @loudness_part sample (h.toInt - 4) (by omega)
  have htruncate : (number.mul (.ofInt binary32 (h.toInt - 4))).truncate? =
      some ⌊loudness sample * (h.toInt - 4 : Int)⌋ := by
    rw [Number.truncate?, Number.mul_exact hnumber hvalue represents_zero hproduct,
      Option.map_some, Number.towardsZero, if_neg (not_lt.mpr hnonneg)]
  have hfloor := Int.floor_nonneg.mpr hnonneg
  have hheight := @CInt.castToInt_of_range ⌊loudness sample * (h.toInt - 4 : Int)⌋
    (by omega) (by omega)
  rw [barHeight, hsub, htruncate]
  change (if CInt.castToInt (some _) < 2 then 2 else CInt.castToInt (some _)).toInt = _
  split
  case isTrue hless =>
      rw [Int32.lt_iff_toInt_lt, hheight, htwo] at hless
      rw [htwo, max_eq_left (le_of_lt hless)]
  case isFalse hnot =>
      rw [Int32.lt_iff_toInt_lt, hheight, htwo, not_lt] at hnot
      rw [hheight, max_eq_right hnot]

omit hnumber in
/-- What lies between a level and the next one is exceeded by the next one. -/
theorem lt_loudness_iff {limit : Rat} {steps : Nat} (hbelow : steps / 2 ^ 15 ≤ limit)
    (habove : limit ≤ (2 * steps + 1) / 2 ^ 16) :
    limit < loudness sample ↔ (steps : Int) < |sample.toInt| := by
  rw [loudness, ← Int.cast_abs]
  constructor
  · intro hlt
    have hunits : (steps : Rat) < (|sample.toInt| : Int) := by linarith
    exact_mod_cast hunits
  · intro hlt
    have hunits : (steps : Rat) + 1 ≤ (|sample.toInt| : Int) := by exact_mod_cast hlt
    linarith

/-- A rounded limit between a level and the next one is compared as the exact limit. -/
theorem lt_level {limit : Rat} (steps : Nat) (hsmall : steps < 2 ^ 20)
    (hbelow : steps / 2 ^ 15 ≤ limit) (habove : limit ≤ (2 * steps + 1) / 2 ^ 16) :
    (Number.round binary32 limit).lt number = decide (limit < loudness sample) := by
  have hprecision : binary32.precision = 24 := rfl
  have hlowGrid := @Number.represents_shifted binary32 steps 15
    (by rw [hprecision, abs_of_nonneg (by omega)]; omega) (by decide) (by decide)
  have hhighGrid := @Number.represents_shifted binary32 (2 * steps + 1) 16
    (by rw [hprecision, abs_of_nonneg (by omega)]; omega) (by decide) (by decide)
  push_cast at hlowGrid hhighGrid
  obtain ⟨rounded, hrounded, hfirst, hlast⟩ :=
    Number.within_round hlowGrid hhighGrid hbelow habove
  rw [Number.lt_eq hrounded hnumber, decide_eq_decide, lt_loudness_iff hfirst hlast,
    lt_loudness_iff hbelow habove]

/-- The constants are compared as if they were exact, since the levels are multiples of 1/32768. -/
theorem barColour_eq : barColour number =
    if 4 / 5 < loudness sample then red else if 1 / 2 < loudness sample then yellow else green := by
  rw [barColour, lt_level hnumber 26214 (by norm_num) (by norm_num) (by norm_num),
    lt_level hnumber 16384 (by norm_num) (by norm_num) (by norm_num)]
  simp only [decide_eq_true_eq]

theorem isBar_bar {w h : Int32} (hw : 24 ≤ w.toInt) (hlow : 4 ≤ h.toInt) (hhigh : h.toInt ≤ 260)
    {b : Nat} (hb : b < 8) : IsBar w h (loudness sample) b (bar w h number b) := by
  have htwo : (2 : Int32).toInt = 2 := rfl
  have hone : (1 : Int32).toInt = 1 := rfl
  have hmax := w.toInt_lt
  have heighth : (w / 8).toInt = w.toInt / 8 := by
    rw [Int32.toInt_div_of_ne_right w 8 (by decide), Int.tdiv_eq_ediv_of_nonneg (by omega)]
    rfl
  have hwidth : (w / 8 - 2).toInt = w.toInt / 8 - 2 := by
    rw [CInt.toInt_sub_eq, heighth, htwo]
    all_goals omega
  have hpitch : (w / 8 - 2 + 2).toInt = w.toInt / 8 := by
    rw [CInt.toInt_add_eq, hwidth, htwo]
    all_goals omega
  have hcolumn : b * (w.toInt / 8) ≤ 7 * (w.toInt / 8) :=
    mul_le_mul_of_nonneg_right (by omega) (by omega)
  have hpos : 0 ≤ b * (w.toInt / 8) := mul_nonneg (by omega) (by omega)
  have hproduct : (Int32.ofNat b * (w / 8 - 2 + 2)).toInt = b * (w.toInt / 8) := by
    rw [CInt.toInt_mul_eq, CInt.toInt_ofNat_eq (by omega), hpitch]
    all_goals rw [CInt.toInt_ofNat_eq (by omega), hpitch]
    all_goals omega
  have hleft : (Int32.ofNat b * (w / 8 - 2 + 2) + 1).toInt = b * (w.toInt / 8) + 1 := by
    rw [CInt.toInt_add_eq, hproduct, hone]
    all_goals omega
  have hheight := barHeight_toInt hnumber hlow hhigh
  have hpart := (@loudness_part sample (h.toInt - 4) (by omega)).2
  have hleast : 2 ≤ (barHeight h number).toInt := by
    rw [hheight]
    exact le_max_left _ _
  have hmost : (barHeight h number).toInt ≤ max 2 (h.toInt - 4) := by
    rw [hheight]
    exact max_le_max_left 2 hpart
  have htop : (h - barHeight h number).toInt = h.toInt - (barHeight h number).toInt := by
    rw [CInt.toInt_sub_eq]
    all_goals omega
  have hy : (h - barHeight h number - 2).toInt = h.toInt - (barHeight h number).toInt - 2 := by
    rw [CInt.toInt_sub_eq, htop, htwo]
    all_goals omega
  exact {
    left := hleft
    width := hwidth
    height := hheight
    bottom := by
      change (h - barHeight h number - 2).toInt + (barHeight h number).toInt = _
      omega
    top := by
      change 0 ≤ (h - barHeight h number - 2).toInt
      omega
    right := by
      change (Int32.ofNat b * (w / 8 - 2 + 2) + 1).toInt + (w / 8 - 2).toInt < _
      omega
    colour := barColour_eq hnumber }

end Bars

/-! ## What the window shows -/

/--
Whatever the monitor finds, the level of a band is exactly how loud the loudest of
the samples is that were measured last, and its bar shows that and stays inside of
the widget.  What was measured is what was copied, turned down to about the volume.
The window reads one level after the other, so the bars may belong to two states.
-/
theorem bars_shown (looks : List Look)
    (hslider : ∀ look ∈ looks, 0 ≤ look.volume.toInt ∧ look.volume.toInt ≤ 100) {w h : Int32}
    (hw : 24 ≤ w.toInt) (hlow : 4 ≤ h.toInt) (hhigh : h.toInt ≤ 260) :
    (∀ b < 8, ∃ peak, ((run.state looks).peaks b).value? = some peak ∧
        IsPeak (newest (run.run looks)) b peak ∧
        IsBar w h peak b (bar w h ((run.state looks).peaks b) b)) ∧
      ∀ iteration ∈ run.run looks, ∀ played, heard iteration = some played →
        ∃ buf, copied? iteration.before.lastSeq iteration.input = some buf ∧
          ∀ s, Damped iteration.input.volume (buf s) (played s) := by
  constructor
  · intro b hb
    obtain ⟨peak, hshown, hpeak⟩ := state_peaks looks b
    refine ⟨peak, hshown, hpeak, ?_⟩
    obtain ⟨i, -, rfl⟩ := hpeak.1
    exact isBar_bar hshown hw hlow hhigh hb
  · exact fun iteration hmem played hheard => heard_damped hslider hmem hheard

/-- One loud period at half volume. -/
def loudLook : Look where
  enabled := true
  volume := 50
  mapping := some ⟨totalBytes 1024, k4wShmWriteFrame
    { zeroHeader with magic := k4wShmMagic, frameSize := 1024 } (fun _ => 0x7f) 1024 0⟩
  before := fun _ => 0

theorem bars_shown_loudLook :
    (∀ b < 8, ∃ peak, ((run.state [loudLook]).peaks b).value? = some peak ∧
        IsPeak (newest (run.run [loudLook])) b peak ∧
        IsBar 180 40 peak b (bar 180 40 ((run.state [loudLook]).peaks b) b)) ∧
      ∀ iteration ∈ run.run [loudLook], ∀ played, heard iteration = some played →
        ∃ buf, copied? iteration.before.lastSeq iteration.input = some buf ∧
          ∀ s, Damped iteration.input.volume (buf s) (played s) :=
  bars_shown [loudLook] (by simp [loudLook]) (by decide) (by decide) (by decide)

end K4W.Gui.Levels
