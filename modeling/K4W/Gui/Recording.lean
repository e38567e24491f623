import K4W.Gui.Views
import K4W.Library.Volumes

/-!
# Recordings of the control window

`onRecordToggle` begins and ends a recording, and `onRefreshFrame` saves every
picture that it shows in between.  The iterations of the daemon, the refreshes,
and the clicks come in any order.  The files of a recording are the volumes of a
tape: numbered from zero, one for each picture, and no file is written twice
unless two recordings begin in the same second.
-/

namespace K4W.Gui.Recording

open K4W.Library
open K4W.Shm
open K4W.Daemon.Publishing
open K4W.Gui.Views

/-! ## Files -/

/-- The current time as `yyyyMMdd_HHmmss`. -/
structure Stamp where
  text : String
  length : text.length = 15

/-- `m_recordDir` of a recording that begins at this time. -/
def recordDirOf (stamp : Stamp) : String :=
  "kinect_rec_" ++ stamp.text

/-- `QString::arg` of an `int` with width 6 and `'0'` to fill it. -/
def paddedNumber (n : Int32) : List Char :=
  let digits := Nat.toDigits 10 n.toInt.natAbs
  if n < 0 then '-' :: digits.leftpad 5 '0' else digits.leftpad 6 '0'

def framePath (dir : String) (count : Int32) : String :=
  dir ++ "/frame_" ++ String.ofList (paddedNumber count) ++ ".png"

/-- `QTime(0, 0, 0).addMSecs(ms).toString("HH:mm:ss")`; `addMSecs` takes an `int`. -/
def clockText (ms : Nat) : String :=
  let seconds := ((Int32.ofNat ms).toInt % 86400000).toNat / 1000
  let field (n : Nat) := String.ofList ((Nat.toDigits 10 n).leftpad 2 '0')
  field (seconds / 3600) ++ ":" ++ field (seconds / 60 % 60) ++ ":" ++ field (seconds % 60)

/-! ## The window -/

structure Window where
  cameraMode : Int32
  recording : Bool
  recordDir : String
  recordFrameCount : Int32
  /-- `m_recordTimerTick` is active. -/
  ticking : Bool
  recordVisible : Bool
  stopVisible : Bool
  timerLabel : String

/-- The constructor leaves `m_recordFrameCount` to the first recording. -/
def Window.constructed : Window where
  cameraMode := 0
  recording := false
  recordDir := ""
  recordFrameCount := 0
  ticking := false
  recordVisible := true
  stopVisible := false
  timerLabel := "00:00:00"

def onRecordToggle (window : Window) (stamp : Stamp) : Window :=
  if !window.recording then
    { window with
      recordDir := recordDirOf stamp
      recordFrameCount := 0
      recording := true
      ticking := true
      recordVisible := false
      stopVisible := true }
  else
    { window with
      recording := false
      ticking := false
      recordVisible := true
      stopVisible := false
      timerLabel := "00:00:00" }

/-- What a refresh shows, and the file that it saves. -/
structure Refreshed where
  shown : Option QImage
  saved : Option (String × QImage)

/-- `onRefreshFrame` with the picture that it has read and drawn. -/
def onRefreshFrame (window : Window) (picture : Option QImage) : Window × Refreshed :=
  match picture with
  | none => (window, ⟨none, none⟩)
  | some frame =>
      if window.recording && !window.recordDir.isEmpty then
        ({ window with recordFrameCount := window.recordFrameCount + 1 },
          ⟨some frame, some (framePath window.recordDir window.recordFrameCount, frame)⟩)
      else
        (window, ⟨some frame, none⟩)

/-! ## Daemon and window -/

inductive Input where
  | daemon (polled : Polled)
  /-- The sizes of the mappings, and what the tracker draws. -/
  | refresh (sizes : Kind → Option Nat) (drawSkeleton : QImage → QImage)
  | recordToggle (stamp : Stamp)
  | recordTick (elapsedMs : Nat)
  | modeChanged (index : Int32)
  /-- The user has closed the warning of `onModeChanged`. -/
  | modelsFailed

structure System where
  site : Site
  window : Window

variable (v4l2Fd : Int32) (painter : Painter)

def picture (system : System) (sizes : Kind → Option Nat) (drawSkeleton : QImage → QImage) :
    Option QImage :=
  let mapping := mappingsOf system.site.outputs.segments sizes
  refreshPicture painter drawSkeleton system.window.cameraMode (mapping .video) (mapping .depth)

/-- One iteration of `k4w_kinect_run`, or one slot of the window. -/
def system : Loop System Input Refreshed where
  initial := ⟨(publishing v4l2Fd startSegment).initial, .constructed⟩
  step := fun system input =>
    let window := system.window
    match input with
    | .daemon polled =>
        ({ system with site := ((publishing v4l2Fd startSegment).step system.site polled).1 },
          ⟨none, none⟩)
    | .refresh sizes drawSkeleton =>
        let result := onRefreshFrame window (picture painter system sizes drawSkeleton)
        ({ system with window := result.1 }, result.2)
    | .recordToggle stamp =>
        ({ system with window := onRecordToggle window stamp }, ⟨none, none⟩)
    | .recordTick elapsedMs =>
        let timerLabel := if window.ticking then clockText elapsedMs else window.timerLabel
        ({ system with window := { window with timerLabel := timerLabel } }, ⟨none, none⟩)
    | .modeChanged index =>
        ({ system with window := { window with cameraMode := index } }, ⟨none, none⟩)
    | .modelsFailed =>
        ({ system with window := { window with cameraMode := 0 } }, ⟨none, none⟩)

abbrev SystemIteration := Iteration System Input Refreshed

/-- What the iterations of the daemon meet. -/
def polls (inputs : List Input) : List Polled :=
  inputs.filterMap fun
    | .daemon polled => some polled
    | _ => none

/-- The frames that the camera handed over, first one first. -/
def published (kind : Kind) (inputs : List Input) : List Frame :=
  cameraFrames kind ((publishing v4l2Fd startSegment).run (polls inputs))

/-! ## What the window shows -/

section Shown

variable {v4l2Fd : Int32} {painter : Painter}

theorem site_state (inputs : List Input) :
    ((system v4l2Fd painter).state inputs).site =
      (publishing v4l2Fd startSegment).state (polls inputs) := by
  induction inputs using List.reverseRecOn with
  | nil => rfl
  | append_singleton inputs last ih =>
      have hpolls : polls (inputs ++ [last]) = polls inputs ++ polls [last] := List.filterMap_append
      rw [Loop.state_append, hpolls]
      cases last with
      | daemon polled =>
          change _ = (publishing v4l2Fd startSegment).state (polls inputs ++ [polled])
          rw [Loop.state_append, ← ih]
          rfl
      | refresh | recordToggle | recordTick | modeChanged | modelsFailed =>
          change _ = (publishing v4l2Fd startSegment).state (polls inputs ++ [])
          rw [List.append_nil, ← ih]
          rfl

theorem showsStream_state (inputs : List Input) (kind : Kind) :
    ShowsStream kind (((system v4l2Fd painter).state inputs).site.outputs.segments kind)
      (published v4l2Fd kind inputs) := by
  have hshows := (showsCamera_state v4l2Fd (polls inputs)).1
  rw [← @site_state v4l2Fd painter] at hshows
  refine ⟨hshows.segments kind, hshows.represents kind, fun frame hmem => ?_⟩
  obtain ⟨iteration, -, hframe⟩ := List.mem_filterMap.mp hmem
  exact size_of_handedOver hframe

/-- The mode that an input selects. -/
def modeOf : Input → Option Int32
  | .modeChanged index => some index
  | .modelsFailed => some 0
  | .daemon _ | .refresh _ _ | .recordToggle _ | .recordTick _ => none

/-- The mode selected last. -/
def selectedMode (inputs : List Input) : Int32 :=
  ((inputs.filterMap modeOf).getLast?).getD 0

theorem cameraMode_state (inputs : List Input) :
    ((system v4l2Fd painter).state inputs).window.cameraMode = selectedMode inputs := by
  induction inputs using List.reverseRecOn with
  | nil => rfl
  | append_singleton inputs last ih =>
      rw [Loop.state_append, selectedMode, filterMap_concat]
      cases last with
      | modeChanged | modelsFailed =>
          simp only [modeOf, Option.toList_some, List.getLast?_concat, Option.getD_some]
          rfl
      | daemon | recordTick =>
          rw [modeOf, Option.toList_none, List.append_nil, ← selectedMode, ← ih]
          rfl
      | refresh sizes drawSkeleton =>
          rw [modeOf, Option.toList_none, List.append_nil, ← selectedMode, ← ih]
          change (onRefreshFrame _ _).1.cameraMode = _
          unfold onRefreshFrame
          split
          · rfl
          · split <;> rfl
      | recordToggle stamp =>
          rw [modeOf, Option.toList_none, List.append_nil, ← selectedMode, ← ih]
          change (onRecordToggle _ _).cameraMode = _
          unfold onRecordToggle
          split <;> rfl

theorem shown_onRefreshFrame (window : Window) (picture : Option QImage) :
    (onRefreshFrame window picture).2.shown = picture := by
  unfold onRefreshFrame
  split
  · rfl
  · split <;> rfl

/--
In every order of the iterations and slots, a refresh shows the newest frames of
the camera in the mode that was selected last.
-/
theorem refresh_shown (v4l2Fd : Int32) (painter : Painter) (past : List Input)
    (sizes : Kind → Option Nat) (drawSkeleton : QImage → QImage) :
    ((system v4l2Fd painter).output ((system v4l2Fd painter).state past)
        (.refresh sizes drawSkeleton)).shown =
      sceneOf painter drawSkeleton (selectedMode past) (fun kind => (sizes kind).isSome)
        (fun kind => newestBytes (published v4l2Fd kind past)) := by
  change (onRefreshFrame _ _).2.shown = _
  rw [shown_onRefreshFrame, picture, ← @cameraMode_state v4l2Fd painter]
  exact refreshPicture_newest (showsStream_state past) painter drawSkeleton _ sizes

end Shown

/-! ## Recordings -/

section Recordings

variable {v4l2Fd : Int32} {painter : Painter}

/-- What an iteration does to the tape of the recordings. -/
def recordOn (tape : Tape Stamp QImage) (iteration : SystemIteration) : Tape Stamp QImage :=
  match iteration.input with
  | .recordToggle stamp => if tape.current.isSome then tape.stop else tape.start stamp
  | .refresh _ _ => iteration.output.shown.elim tape tape.record
  | _ => tape

/-- The recordings of a run: the pictures shown between two clicks. -/
def tapeOf (run : List SystemIteration) : Tape Stamp QImage :=
  run.foldl recordOn .blank

/-- The files that a run saves, first one first. -/
def saves (run : List SystemIteration) : List (String × QImage) :=
  run.filterMap fun iteration => iteration.output.saved

/-- The file of a picture of a recording. -/
def fileOf (leaf : (Stamp × Nat) × QImage) : String × QImage :=
  (framePath (recordDirOf leaf.1.1) (Int32.ofNat leaf.1.2), leaf.2)

/-- The window works on the last volume of the tape. -/
structure Works (window : Window) (tape : Tape Stamp QImage) : Prop where
  recording : window.recording = tape.current.isSome
  recordDir : ∀ volume, tape.current = some volume → window.recordDir = recordDirOf volume.label
  recordFrameCount : ∀ volume, tape.current = some volume →
    window.recordFrameCount = Int32.ofNat volume.entries.length

/-- The controls show whether the window is recording. -/
structure ShowsRecording (window : Window) : Prop where
  recordVisible : window.recordVisible = !window.recording
  stopVisible : window.stopVisible = window.recording
  ticking : window.ticking = window.recording
  timerLabel : window.recording = false → window.timerLabel = "00:00:00"

theorem recordDirOf_nonempty (stamp : Stamp) : (recordDirOf stamp).isEmpty = false := by
  simp [recordDirOf]

/-- A click begins a volume, or finishes it. -/
theorem Works.toggle {tape : Tape Stamp QImage} {window : Window} (hworks : Works window tape)
    (stamp : Stamp) :
    let next := if tape.current.isSome then tape.stop else tape.start stamp
    Works (onRecordToggle window stamp) next ∧ ShowsRecording (onRecordToggle window stamp) ∧
      next.leaves = tape.leaves := by
  have hrecording := hworks.recording
  cases hcurrent : tape.current with
  | none =>
      rw [hcurrent, Option.isSome_none] at hrecording
      have htoggle : onRecordToggle window stamp =
          { window with
            recordDir := recordDirOf stamp
            recordFrameCount := 0
            recording := true
            ticking := true
            recordVisible := false
            stopVisible := true } := by
        simp [onRecordToggle, hrecording]
      rw [htoggle]
      refine ⟨⟨rfl, ?_, ?_⟩, ⟨rfl, rfl, rfl, fun hstopped => ?_⟩, tape.leaves_start stamp⟩
      · intro volume hvolume
        cases hvolume
        rfl
      · intro volume hvolume
        cases hvolume
        rfl
      · cases hstopped
  | some volume =>
      rw [hcurrent, Option.isSome_some] at hrecording
      have htoggle : onRecordToggle window stamp =
          { window with
            recording := false
            ticking := false
            recordVisible := true
            stopVisible := false
            timerLabel := "00:00:00" } := by
        simp [onRecordToggle, hrecording]
      rw [htoggle]
      exact ⟨⟨rfl, fun _ hnone => (Option.some_ne_none _ hnone.symm).elim,
        fun _ hnone => (Option.some_ne_none _ hnone.symm).elim⟩, ⟨rfl, rfl, rfl, fun _ => rfl⟩,
        tape.leaves_stop⟩

/-- A picture becomes the next entry of the current volume, and the next file. -/
theorem Works.refresh {tape : Tape Stamp QImage} {window : Window} (hworks : Works window tape)
    (hshows : ShowsRecording window) (frame : QImage) :
    let result := onRefreshFrame window (some frame)
    Works result.1 (tape.record frame) ∧ ShowsRecording result.1 ∧
      (tape.record frame).leaves.map fileOf =
        tape.leaves.map fileOf ++ result.2.saved.toList := by
  have hrecording := hworks.recording
  cases hcurrent : tape.current with
  | none =>
      rw [hcurrent, Option.isSome_none] at hrecording
      have hrefresh : onRefreshFrame window (some frame) = (window, ⟨some frame, none⟩) := by
        simp [onRefreshFrame, hrecording]
      have hrecord : tape.record frame = tape := by
        rw [Tape.record, hcurrent, Option.map_none, ← hcurrent]
      rw [hrefresh, hrecord]
      exact ⟨hworks, hshows, (List.append_nil _).symm⟩
  | some volume =>
      rw [hcurrent, Option.isSome_some] at hrecording
      have hdir := hworks.recordDir volume hcurrent
      have hcount := hworks.recordFrameCount volume hcurrent
      have hrefresh : onRefreshFrame window (some frame) =
          ({ window with recordFrameCount := window.recordFrameCount + 1 },
            ⟨some frame, some (framePath window.recordDir window.recordFrameCount, frame)⟩) := by
        simp [onRefreshFrame, hrecording, hdir, recordDirOf_nonempty]
      have hrecord : (tape.record frame).current = some (volume.add frame) := by
        rw [Tape.record, hcurrent, Option.map_some]
      rw [hrefresh]
      refine ⟨⟨?_, ?_, ?_⟩, ⟨hshows.1, hshows.2, hshows.3, hshows.4⟩, ?_⟩
      · rw [hrecord]
        exact hrecording
      · intro other hother
        rw [hrecord] at hother
        cases hother
        exact hdir
      · intro other hother
        rw [hrecord] at hother
        cases hother
        change window.recordFrameCount + 1 = Int32.ofNat (volume.entries ++ [frame]).length
        rw [hcount, List.length_append, Int32.ofNat_add]
        rfl
      · rw [Tape.leaves_record hcurrent, List.map_append]
        change _ = _ ++ [(framePath window.recordDir window.recordFrameCount, frame)]
        rw [hdir, hcount]
        rfl

/-- One iteration keeps the window at work on the tape. -/
theorem Works.iterate {tape : Tape Stamp QImage} {site : Site} {window : Window}
    (hworks : Works window tape) (hshows : ShowsRecording window) (input : Input) :
    let iteration := (system v4l2Fd painter).iterate ⟨site, window⟩ input
    let next := recordOn tape iteration
    Works iteration.after.window next ∧ ShowsRecording iteration.after.window ∧
      next.leaves.map fileOf = tape.leaves.map fileOf ++ iteration.output.saved.toList := by
  cases input with
  | daemon polled => exact ⟨hworks, hshows, (List.append_nil _).symm⟩
  | modeChanged index => exact ⟨⟨hworks.1, hworks.2, hworks.3⟩,
      ⟨hshows.1, hshows.2, hshows.3, hshows.4⟩, (List.append_nil _).symm⟩
  | modelsFailed => exact ⟨⟨hworks.1, hworks.2, hworks.3⟩,
      ⟨hshows.1, hshows.2, hshows.3, hshows.4⟩, (List.append_nil _).symm⟩
  | recordTick elapsedMs =>
      refine ⟨⟨hworks.1, hworks.2, hworks.3⟩, ⟨hshows.1, hshows.2, hshows.3, fun hstopped => ?_⟩,
        (List.append_nil _).symm⟩
      change window.recording = false at hstopped
      change (if window.ticking then clockText elapsedMs else window.timerLabel) = "00:00:00"
      rw [hshows.ticking, hstopped]
      exact hshows.timerLabel hstopped
  | recordToggle stamp =>
      obtain ⟨hnext, hcontrols, hleaves⟩ := hworks.toggle stamp
      refine ⟨hnext, hcontrols, ?_⟩
      change (if tape.current.isSome then tape.stop else tape.start stamp).leaves.map fileOf = _
      rw [hleaves]
      exact (List.append_nil _).symm
  | refresh sizes drawSkeleton =>
      let frame := picture painter ⟨site, window⟩ sizes drawSkeleton
      change Works (onRefreshFrame window frame).1
          ((onRefreshFrame window frame).2.shown.elim tape tape.record) ∧
        ShowsRecording (onRefreshFrame window frame).1 ∧
        ((onRefreshFrame window frame).2.shown.elim tape tape.record).leaves.map fileOf =
          tape.leaves.map fileOf ++ (onRefreshFrame window frame).2.saved.toList
      rw [shown_onRefreshFrame]
      cases frame with
      | none => exact ⟨hworks, hshows, (List.append_nil _).symm⟩
      | some frame => exact hworks.refresh hshows frame

theorem tapeOf_append (run : List SystemIteration) (iteration : SystemIteration) :
    tapeOf (run ++ [iteration]) = recordOn (tapeOf run) iteration :=
  List.foldl_concat ..

/-- The window works on the tape of the run, and the files are its leaves. -/
theorem works_run (v4l2Fd : Int32) (painter : Painter) (inputs : List Input) :
    let run := (system v4l2Fd painter).run inputs
    let window := ((system v4l2Fd painter).state inputs).window
    Works window (tapeOf run) ∧ ShowsRecording window ∧
      saves run = (tapeOf run).leaves.map fileOf := by
  refine @Loop.run_invariant _ _ _ (system v4l2Fd painter) (fun run system =>
    Works system.window (tapeOf run) ∧ ShowsRecording system.window ∧
      saves run = (tapeOf run).leaves.map fileOf) ?_ ?_ inputs
  · exact ⟨⟨rfl, fun _ hnone => (Option.some_ne_none _ hnone.symm).elim,
      fun _ hnone => (Option.some_ne_none _ hnone.symm).elim⟩, ⟨rfl, rfl, rfl, fun _ => rfl⟩, rfl⟩
  · rintro run ⟨site, window⟩ input ⟨hworks, hshows, hsaves⟩
    obtain ⟨hnext, hcontrols, hleaves⟩ := @Works.iterate v4l2Fd painter _ site _ hworks hshows input
    rw [tapeOf_append]
    refine ⟨hnext, hcontrols, ?_⟩
    rw [hleaves, ← hsaves]
    exact filterMap_concat _ run _

/-! ## Names -/

theorem paddedNumber_injective {first second : Nat} (hfirst : first < 2 ^ 31)
    (hsecond : second < 2 ^ 31)
    (hsame : paddedNumber (Int32.ofNat first) = paddedNumber (Int32.ofNat second)) :
    first = second := by
  have hpadded : ∀ {n : Nat}, n < 2 ^ 31 →
      paddedNumber (Int32.ofNat n) = (Nat.toDigits 10 n).leftpad 6 '0' := by
    intro n hn
    have hint := Int32.toInt_ofNat_of_lt hn
    have hnot : ¬ Int32.ofNat n < 0 := by
      rw [Int32.lt_iff_toInt_lt, hint]
      exact not_lt.mpr (Int.natCast_nonneg n)
    rw [paddedNumber, if_neg hnot, hint, Int.natAbs_natCast]
  have hvalue : ∀ n : Nat, Nat.ofDigitChars 10 ((Nat.toDigits 10 n).leftpad 6 '0') 0 = n := by
    intro n
    rw [List.leftpad, Nat.ofDigitChars_append, Nat.ofDigitChars_replicate_zero, Nat.mul_zero,
      Nat.ofDigitChars_ten_toDigits]
  rw [hpadded hfirst, hpadded hsecond] at hsame
  rw [← hvalue first, hsame, hvalue]

theorem framePath_injective {first second : Stamp} {i j : Nat} (hi : i < 2 ^ 31) (hj : j < 2 ^ 31)
    (hsame : framePath (recordDirOf first) (Int32.ofNat i) =
      framePath (recordDirOf second) (Int32.ofNat j)) : first = second ∧ i = j := by
  have hchars := congrArg String.toList hsame
  simp only [framePath, recordDirOf, String.toList_append, String.toList_ofList,
    List.append_assoc, List.append_cancel_left_eq] at hchars
  have htext : first.text.toList.length = second.text.toList.length := by
    rw [String.length_toList, String.length_toList, first.length, second.length]
  obtain ⟨hstamp, hrest⟩ := List.append_inj hchars htext
  rw [List.append_cancel_left_eq, List.append_cancel_right_eq] at hrest
  refine ⟨?_, paddedNumber_injective hi hj hrest⟩
  obtain ⟨text, hlength⟩ := first
  obtain ⟨other, _⟩ := second
  have hequal : text = other := String.toList_inj.mp hstamp
  subst hequal
  rfl

/--
In every order of the iterations and slots, the files of the recordings are the
pictures shown while a recording was on: numbered from zero in their order, in
the directory of their recording.  When all recordings begin in different
seconds, no file is written twice.
-/
theorem recording_files (v4l2Fd : Int32) (painter : Painter) (inputs : List Input) :
    let run := (system v4l2Fd painter).run inputs
    let window := ((system v4l2Fd painter).state inputs).window
    saves run = (tapeOf run).leaves.map fileOf ∧
      (window.recording = (tapeOf run).current.isSome ∧ ShowsRecording window) ∧
      ((tapeOf run).labels.Nodup → (saves run).length < 2 ^ 31 →
        ((saves run).map Prod.fst).Nodup) := by
  intro run window
  obtain ⟨hworks, hshows, hsaves⟩ := works_run v4l2Fd painter inputs
  refine ⟨hsaves, ⟨hworks.recording, hshows⟩, fun hlabels hfew => ?_⟩
  have hleaves : (tapeOf run).leaves.length < 2 ^ 31 := by
    have hlength := congrArg List.length hsaves
    rw [List.length_map] at hlength
    exact hlength ▸ hfew
  have hnumber : ∀ key ∈ (tapeOf run).leaves.map Prod.fst, key.2 < 2 ^ 31 :=
    fun key hkey => Nat.lt_trans (Tape.number_lt hkey) hleaves
  have hpaths : (saves run).map Prod.fst = ((tapeOf run).leaves.map Prod.fst).map fun key =>
      framePath (recordDirOf key.1) (Int32.ofNat key.2) := by
    rw [hsaves, List.map_map, List.map_map]
    rfl
  rw [hpaths]
  refine List.Nodup.map_on ?_ (Tape.keys_nodup hlabels)
  intro first hfirst second hsecond hsame
  obtain ⟨hstamp, hindex⟩ :=
    framePath_injective (hnumber first hfirst) (hnumber second hsecond) hsame
  exact Prod.ext hstamp hindex

end Recordings

def plainPainter : Painter where
  scaled := fun image _ _ => image
  drawRect := fun image _ _ _ _ => image
  drawImage := fun image _ _ _ => image

/-- Two recordings, one of two pictures and one of a single picture. -/
def twoRecordings : List Input :=
  let look : Input := .refresh (fun _ => some 2000000) id
  [.recordToggle ⟨"20260102_101500", rfl⟩, look, look, .recordToggle ⟨"20260102_101502", rfl⟩,
    look, .recordToggle ⟨"20260102_101503", rfl⟩, look]

theorem recording_files_twoRecordings :
    let run := (system 0 plainPainter).run twoRecordings
    saves run = (tapeOf run).leaves.map fileOf ∧
      (saves run).map Prod.fst = ["kinect_rec_20260102_101500/frame_000000.png",
        "kinect_rec_20260102_101500/frame_000001.png",
        "kinect_rec_20260102_101503/frame_000000.png"] ∧
      ((saves run).map Prod.fst).Nodup := by
  intro run
  have hfiles := recording_files 0 plainPainter twoRecordings
  have hlabels : (tapeOf run).labels =
      [⟨"20260102_101500", rfl⟩, ⟨"20260102_101503", rfl⟩] := rfl
  have hlength : (saves run).length = 3 := rfl
  have hpaths : (saves run).map Prod.fst = ["kinect_rec_20260102_101500/frame_000000.png",
      "kinect_rec_20260102_101500/frame_000001.png",
      "kinect_rec_20260102_101503/frame_000000.png"] := by decide +kernel
  refine ⟨hfiles.1, hpaths, hfiles.2.2 ?_ ?_⟩
  · change (tapeOf run).labels.Nodup
    rw [hlabels]
    refine List.nodup_cons.mpr ⟨fun hmem => ?_, List.nodup_singleton _⟩
    have htext := congrArg Stamp.text (List.mem_singleton.mp hmem)
    exact absurd htext (by decide)
  · change (saves run).length < 2 ^ 31
    rw [hlength]
    decide

end K4W.Gui.Recording
