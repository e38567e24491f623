import K4W.Daemon.DeviceLoss
import K4W.Shm.LastFrames

/-!
# Publishing what the camera hands over

The iterations of `k4w_kinect_run` with the contents of the polled frames.  All
outputs of the daemon show the same frames of the camera in the same order, and
WirePlumber is restarted once, after the first frame that reaches the loopback
device.
-/

namespace K4W.Daemon.Publishing

open K4W.Library
open K4W.Shm
open DeviceLoss

/-! ## The loop with contents -/

inductive Kind where
  | depth
  | video
deriving DecidableEq

/-- `K4W_DEPTH_BPP` and `K4W_VIDEO_BPP` -/
def Kind.bpp : Kind → UInt32
  | .depth => 2
  | .video => 3

def Kind.frameBytes (kind : Kind) : UInt32 :=
  640 * 480 * kind.bpp

/-- What an iteration meets, with the frames that libfreenect holds and the clock. -/
structure Polled where
  observed : Observed
  bytes : Kind → Nat → UInt8
  nowMs : Kind → UInt64

def Polled.frame (polled : Polled) (kind : Kind) : Frame where
  data := polled.bytes kind
  size := kind.frameBytes
  nowMs := polled.nowMs kind

/-- The segments, and the frames given to the other outputs. -/
structure Outputs where
  segments : Kind → K4wShmHeader
  v4l2 : List (Nat → UInt8)
  pipeWire : List (Nat → UInt8)
  restarts : Nat

def Outputs.writeShm (outputs : Outputs) (kind : Kind) (frame : Frame) : Outputs :=
  { outputs with
    segments := Function.update outputs.segments kind (writeFrame (outputs.segments kind) frame) }

/-- What a call of an iteration does to the outputs. -/
def perform (polled : Polled) (outputs : Outputs) : Call → Outputs
  | .writeDepth => outputs.writeShm .depth (polled.frame .depth)
  | .writeVideo => outputs.writeShm .video (polled.frame .video)
  | .v4l2WriteFrame => { outputs with v4l2 := outputs.v4l2 ++ [polled.bytes .video] }
  | .pwPushFrame => { outputs with pipeWire := outputs.pipeWire ++ [polled.bytes .video] }
  | .restartWirePlumber => { outputs with restarts := outputs.restarts + 1 }
  | .syncGetDepth | .syncStop | .syncGetVideo | .usleep _ => outputs

structure Site where
  loop : State
  outputs : Outputs

/-- Both segments are mapped whenever `k4w_kinect_init` succeeds. -/
def streamsOf (v4l2Fd : Int32) : Streams where
  depthShm := true
  videoShm := true
  v4l2Fd := v4l2Fd

/-- `k4w_kinect_run` over segments that contain no frame yet. -/
def publishing (v4l2Fd : Int32) (start : Kind → K4wShmHeader) : Loop Site Polled (List Call) where
  initial := ⟨.initial, ⟨start, [], [], 0⟩⟩
  step := fun site polled =>
    let result := (kinectRun (streamsOf v4l2Fd)).step site.loop polled.observed
    (⟨result.1, result.2.foldl (perform polled) site.outputs⟩, result.2)

abbrev PublishingIteration := Iteration Site Polled (List Call)

/-! ## The frames of the camera -/

/-- The frame that libfreenect handed over in an iteration with these calls. -/
def handedOver (kind : Kind) (polled : Polled) (calls : List Call) : Option Frame :=
  match polled.observed, kind with
  | .motorPaused, _ => none
  | .polled depth _, .depth =>
      if .syncGetDepth ∈ calls ∧ depth.status = 0 ∧ depth.data then some (polled.frame .depth)
      else none
  | .polled _ video, .video =>
      if .syncGetVideo ∈ calls ∧ video.status = 0 ∧ video.data then some (polled.frame .video)
      else none

/-- The frames that the camera handed over in a run, first one first. -/
def cameraFrames (kind : Kind) (run : List PublishingIteration) : List Frame :=
  run.filterMap fun iteration => handedOver kind iteration.input iteration.output

/-- Frames are handed over whole. -/
theorem size_of_handedOver {kind : Kind} {polled : Polled} {calls : List Call} {frame : Frame}
    (hframe : handedOver kind polled calls = some frame) : frame.size = kind.frameBytes := by
  have hpolled : frame = polled.frame kind := by
    unfold handedOver at hframe
    split at hframe
    · cases hframe
    · split at hframe
      · exact (Option.some.inj hframe).symm
      · cases hframe
    · split at hframe
      · exact (Option.some.inj hframe).symm
      · cases hframe
  rw [hpolled]
  rfl

/-- A site before and after calls that published these frames. -/
structure Publishes (v4l2Fd : Int32) (frames : Kind → Option Frame) (before after : Site) :
    Prop where
  segments : ∀ kind, after.outputs.segments kind =
    writeFrames (before.outputs.segments kind) (frames kind).toList
  v4l2 : after.outputs.v4l2 = before.outputs.v4l2 ++
    if 0 ≤ v4l2Fd then (frames .video).toList.map Frame.data else []
  pipeWire : after.outputs.pipeWire =
    before.outputs.pipeWire ++ (frames .video).toList.map Frame.data
  restarts : after.outputs.restarts = before.outputs.restarts +
    if !before.loop.wpRestarted && (frames .video).isSome && decide (0 ≤ v4l2Fd) then 1 else 0
  restarted : after.loop.wpRestarted =
    (before.loop.wpRestarted || ((frames .video).isSome && decide (0 ≤ v4l2Fd)))

def depthFrame (polled : Polled) (depth : SyncFrame) : Option Frame :=
  if depth.status = 0 ∧ depth.data then some (polled.frame .depth) else none

def videoFrame (polled : Polled) (video : SyncFrame) : Option Frame :=
  if video.status = 0 ∧ video.data then some (polled.frame .video) else none

/-- A frame of the depth and one of the video. -/
def framesOf (depth video : Option Frame) : Kind → Option Frame
  | .depth => depth
  | .video => video

section Step

variable {v4l2Fd : Int32}

theorem Publishes.nothing {before after : Site} (houtputs : after.outputs = before.outputs)
    (hrestarted : after.loop.wpRestarted = before.loop.wpRestarted) :
    Publishes v4l2Fd (framesOf none none) before after := by
  refine ⟨?_, ?_, ?_, ?_, ?_⟩
  · intro kind
    rw [houtputs]
    cases kind <;> rfl
  · simp [houtputs, framesOf]
  · simp [houtputs, framesOf]
  · simp [houtputs, framesOf]
  · simp [hrestarted, framesOf]

/-- Of the site before, only its outputs and the static matter. -/
theorem Publishes.since {frames : Kind → Option Frame} {before other after : Site}
    (hpublishes : Publishes v4l2Fd frames other after) (houtputs : other.outputs = before.outputs)
    (hrestarted : other.loop.wpRestarted = before.loop.wpRestarted) :
    Publishes v4l2Fd frames before after := by
  obtain ⟨hsegments, hv4l2, hpipeWire, hrestarts, hflag⟩ := hpublishes
  rw [houtputs] at hsegments hv4l2 hpipeWire hrestarts
  rw [hrestarted] at hrestarts hflag
  exact ⟨hsegments, hv4l2, hpipeWire, hrestarts, hflag⟩

/-- A frame of the depth, and then one of the video. -/
theorem Publishes.both {depth video : Option Frame} {before middle after : Site}
    (hdepth : Publishes v4l2Fd (framesOf depth none) before middle)
    (hvideo : Publishes v4l2Fd (framesOf none video) middle after) :
    Publishes v4l2Fd (framesOf depth video) before after := by
  have hflag : middle.loop.wpRestarted = before.loop.wpRestarted := by
    simpa [framesOf] using hdepth.restarted
  refine ⟨?_, ?_, ?_, ?_, ?_⟩
  · intro kind
    have hfirst := hdepth.segments kind
    have hsecond := hvideo.segments kind
    cases kind with
    | depth => exact hsecond.trans hfirst
    | video => rw [hsecond, hfirst]; rfl
  · rw [hvideo.v4l2, hdepth.v4l2]
    simp [framesOf]
  · rw [hvideo.pipeWire, hdepth.pipeWire]
    simp [framesOf]
  · rw [hvideo.restarts, hdepth.restarts, hflag]
    simp [framesOf]
  · rw [hvideo.restarted, hflag]
    simp [framesOf]

variable (v4l2Fd) (polled : Polled)

/-- The poll of the video publishes its frame to every output. -/
theorem publishes_pollVideo (site : Site) (video : SyncFrame) :
    let result := pollVideo (streamsOf v4l2Fd) site.loop video
    Publishes v4l2Fd (framesOf none (videoFrame polled video)) site
      ⟨result.1, result.2.foldl (perform polled) site.outputs⟩ := by
  obtain ⟨state, outputs⟩ := site
  by_cases hframe : video.status = 0 ∧ video.data = true
  · obtain ⟨hstatus, hdata⟩ := hframe
    have hvideo : videoFrame polled video = some (polled.frame .video) := by
      simp [videoFrame, hstatus, hdata]
    have hresult : (pollVideo (streamsOf v4l2Fd) state video).2.foldl (perform polled) outputs =
        { segments := Function.update outputs.segments .video
            (writeFrame (outputs.segments .video) (polled.frame .video))
          v4l2 := outputs.v4l2 ++ if 0 ≤ v4l2Fd then [polled.bytes .video] else []
          pipeWire := outputs.pipeWire ++ [polled.bytes .video]
          restarts := outputs.restarts +
            if !state.wpRestarted && decide (0 ≤ v4l2Fd) then 1 else 0 } := by
      by_cases hfd : 0 ≤ v4l2Fd <;> cases hrestarted : state.wpRestarted <;>
        simp [pollVideo, hstatus, hdata, streamsOf, hfd, hrestarted, perform, Outputs.writeShm]
    dsimp only
    rw [hresult, hvideo]
    refine ⟨?_, rfl, rfl, ?_, ?_⟩
    · intro kind
      cases kind with
      | depth => simp [framesOf, writeFrames]
      | video => simp [framesOf, writeFrames]
    · simp [framesOf]
    · simp only [pollVideo, hstatus, hdata, streamsOf, if_true, Bool.true_and]
      rfl
  · have hvideo : videoFrame polled video = none := if_neg hframe
    rw [hvideo]
    by_cases hstatus : video.status = 0
    · have hdata : video.data = false := Bool.eq_false_iff.mpr fun h => hframe ⟨hstatus, h⟩
      exact Publishes.nothing (by simp [pollVideo, hstatus, hdata, perform])
        (by simp [pollVideo, hstatus, hdata])
    · exact Publishes.nothing (by simp [pollVideo, hstatus, perform])
        (by simp [pollVideo, hstatus])

/-- A successful poll of the depth publishes its frame to the segment. -/
theorem publishes_writeDepth (site : Site) {state : State}
    (hrestarted : state.wpRestarted = site.loop.wpRestarted) (depth : SyncFrame)
    (hstatus : depth.status = 0) :
    Publishes v4l2Fd (framesOf (depthFrame polled depth) none) site
      ⟨state, (if depth.data && (streamsOf v4l2Fd).depthShm then [Call.writeDepth] else []).foldl
        (perform polled) site.outputs⟩ := by
  cases hdata : depth.data with
  | false =>
      have hframe : depthFrame polled depth = none := by simp [depthFrame, hdata]
      rw [hframe]
      exact Publishes.nothing rfl hrestarted
  | true =>
      have hframe : depthFrame polled depth = some (polled.frame .depth) := by
        simp [depthFrame, hdata, hstatus]
      rw [hframe]
      refine ⟨?_, ?_, ?_, ?_, ?_⟩
      · intro kind
        cases kind with
        | depth => simp [framesOf, writeFrames, streamsOf, perform, Outputs.writeShm]
        | video => simp [framesOf, writeFrames, streamsOf, perform, Outputs.writeShm]
      · simp [framesOf, streamsOf, perform, Outputs.writeShm]
      · simp [framesOf, streamsOf, perform, Outputs.writeShm]
      · simp [framesOf, streamsOf, perform, Outputs.writeShm]
      · simp [framesOf, hrestarted]

variable {polled} in
/-- The frames of an iteration that has polled the depth. -/
theorem handedOver_eq {depth video : SyncFrame} (hobserved : polled.observed = .polled depth video)
    {calls : List Call} (hdepth : .syncGetDepth ∈ calls) :
    (fun kind => handedOver kind polled calls) = framesOf (depthFrame polled depth)
      (if .syncGetVideo ∈ calls then videoFrame polled video else none) := by
  funext kind
  cases kind with
  | depth => simp [handedOver, hobserved, hdepth, framesOf, depthFrame]
  | video =>
      by_cases hvideo : .syncGetVideo ∈ calls <;>
        simp [handedOver, hobserved, hvideo, framesOf, videoFrame]

/-- What an iteration that polls publishes: the frames that its calls were handed. -/
theorem publishes_pollDepth (site : Site) (depth video : SyncFrame) :
    let result := pollDepth (streamsOf v4l2Fd) site.loop depth video
    .syncGetDepth ∈ result.2 ∧
      Publishes v4l2Fd
        (framesOf (depthFrame polled depth)
          (if .syncGetVideo ∈ result.2 then videoFrame polled video else none)) site
        ⟨result.1, result.2.foldl (perform polled) site.outputs⟩ := by
  by_cases hstatus : depth.status = 0
  · let success := { site.loop with consecutiveErrors := 0, deviceOk := true }
    obtain ⟨hvideo, -⟩ := pollVideo_calls (streamsOf v4l2Fd) success video
    have hfirst := @publishes_writeDepth v4l2Fd polled site success rfl depth hstatus
    have hboth := hfirst.both (publishes_pollVideo v4l2Fd polled _ video)
    simp only [pollDepth, if_pos hstatus]
    rw [if_pos (List.mem_append_right _ hvideo), List.foldl_append, List.foldl_cons]
    exact ⟨List.mem_append_left _ List.mem_cons_self, hboth⟩
  · have hnone : depthFrame polled depth = none := if_neg fun h => hstatus h.1
    let failed := { site.loop with consecutiveErrors := site.loop.consecutiveErrors + 1 }
    rw [hnone]
    simp only [pollDepth, if_neg hstatus]
    split
    case isTrue =>
        have hvideo : .syncGetVideo ∉ Call.syncGetDepth ::
            (if site.loop.deviceOk then [Call.syncStop] else []) ++ [Call.usleep 2000000] := by
          cases site.loop.deviceOk <;> simp
        rw [if_neg hvideo]
        refine ⟨List.mem_append_left _ List.mem_cons_self, Publishes.nothing ?_ rfl⟩
        dsimp only
        cases site.loop.deviceOk <;> rfl
    case isFalse =>
        obtain ⟨hvideo, -⟩ := pollVideo_calls (streamsOf v4l2Fd) failed video
        rw [if_pos (List.mem_cons_of_mem _ hvideo), List.foldl_cons]
        have hpublishes := publishes_pollVideo v4l2Fd polled ⟨failed, site.outputs⟩ video
        exact ⟨List.mem_cons_self, hpublishes.since rfl rfl⟩

/-- One iteration of the loop publishes the frames that it was handed. -/
theorem publishes_step (start : Kind → K4wShmHeader) (site : Site) :
    let result := (publishing v4l2Fd start).step site polled
    Publishes v4l2Fd (fun kind => handedOver kind polled result.2) site result.1 := by
  cases hobserved : polled.observed with
  | motorPaused =>
      have hnone : ∀ calls, (fun kind => handedOver kind polled calls) = framesOf none none := by
        intro calls
        funext kind
        cases kind <;> simp [handedOver, hobserved, framesOf]
      dsimp only
      rw [hnone]
      exact Publishes.nothing (by simp [publishing, hobserved, kinectRun, perform])
        (by simp [publishing, hobserved, kinectRun])
  | polled depth video =>
      let resumed := resume site.loop
      have hrestarted : resumed.1.wpRestarted = site.loop.wpRestarted := by
        simp only [resumed, resume]
        split <;> rfl
      have hquiet : resumed.2.foldl (perform polled) site.outputs = site.outputs ∧
          .syncGetVideo ∉ resumed.2 := by
        simp only [resumed, resume]
        split
        · exact ⟨rfl, by simp⟩
        · exact ⟨rfl, List.not_mem_nil⟩
      obtain ⟨hdepth, hpublishes⟩ :=
        publishes_pollDepth v4l2Fd polled ⟨resumed.1, site.outputs⟩ depth video
      have hvideo : .syncGetVideo ∈ resumed.2 ++
          (pollDepth (streamsOf v4l2Fd) resumed.1 depth video).2 ↔
          .syncGetVideo ∈ (pollDepth (streamsOf v4l2Fd) resumed.1 depth video).2 := by
        rw [List.mem_append, or_iff_right hquiet.2]
      simp only [publishing, hobserved, kinectRun]
      rw [handedOver_eq hobserved (List.mem_append_right _ hdepth), List.foldl_append, hquiet.1]
      rw [if_congr hvideo rfl rfl]
      exact hpublishes.since rfl hrestarted

end Step

/-! ## Runs -/

/-- The segment of a kind as `k4w_kinect_init` leaves it. -/
def startSegment (kind : Kind) : K4wShmHeader :=
  { zeroHeader with
    magic := k4wShmMagic, frameSize := kind.frameBytes, w := 640, h := 480, bpp := kind.bpp }

/-- Every creation that succeeds leaves these headers, once their geometry is stored. -/
def LeftByCreate (start : Kind → K4wShmHeader) : Prop :=
  ∀ (kind : Kind) (calls : CreateCalls) (mapping : Mapping),
    k4wShmCreate calls kind.frameBytes = .ok mapping →
      start kind = mapping.hdr.withGeometry 640 480 kind.bpp

theorem leftByCreate_startSegment : LeftByCreate startSegment := by
  intro kind calls mapping hcreate
  rw [k4wShmCreate_ok hcreate]
  rfl

theorem represents_startSegment (kind : Kind) : Represents (startSegment kind) [] :=
  represents_nil rfl rfl

/-- Three frames of a kind fit in 32 bits. -/
theorem frameBytes_fit (kind : Kind) : 3 * (startSegment kind).frameSize.toNat < 2 ^ 32 := by
  cases kind <;> decide

/-- What the outputs show after a run: the frames that the camera handed over. -/
structure ShowsCamera (v4l2Fd : Int32) (run : List PublishingIteration) (site : Site) :
    Prop where
  segments : ∀ kind, site.outputs.segments kind =
    writeFrames (startSegment kind) (cameraFrames kind run)
  represents : ∀ kind, Represents (site.outputs.segments kind) (cameraFrames kind run)
  v4l2 : site.outputs.v4l2 =
    if 0 ≤ v4l2Fd then (cameraFrames .video run).map Frame.data else []
  pipeWire : site.outputs.pipeWire = (cameraFrames .video run).map Frame.data
  restarts : site.outputs.restarts =
    if 0 ≤ v4l2Fd ∧ cameraFrames .video run ≠ [] then 1 else 0

/-- The static that guards the restart. -/
def Guards (v4l2Fd : Int32) (run : List PublishingIteration) (site : Site) : Prop :=
  site.loop.wpRestarted = (!(cameraFrames .video run).isEmpty && decide (0 ≤ v4l2Fd))

theorem writeFrames_append (hdr : K4wShmHeader) (front back : List Frame) :
    writeFrames hdr (front ++ back) = writeFrames (writeFrames hdr front) back :=
  List.foldl_append

theorem cameraFrames_append (kind : Kind) (run : List PublishingIteration)
    (iteration : PublishingIteration) :
    cameraFrames kind (run ++ [iteration]) =
      cameraFrames kind run ++ (handedOver kind iteration.input iteration.output).toList :=
  filterMap_concat _ run iteration

/-- One restart, for the first frame that reaches the loopback device. -/
theorem restarts_next (v4l2Fd : Int32) (frames : List Frame) (next : Option Frame) :
    let restarted := !frames.isEmpty && decide (0 ≤ v4l2Fd)
    ((if 0 ≤ v4l2Fd ∧ frames ≠ [] then 1 else 0) +
        if !restarted && next.isSome && decide (0 ≤ v4l2Fd) then 1 else 0) =
      if 0 ≤ v4l2Fd ∧ frames ++ next.toList ≠ [] then 1 else 0 := by
  by_cases hfd : 0 ≤ v4l2Fd <;> cases frames <;> cases next <;> simp [hfd]

theorem guards_next (v4l2Fd : Int32) (frames : List Frame) (next : Option Frame) :
    ((!frames.isEmpty && decide (0 ≤ v4l2Fd)) || (next.isSome && decide (0 ≤ v4l2Fd))) =
      (!(frames ++ next.toList).isEmpty && decide (0 ≤ v4l2Fd)) := by
  cases frames <;> cases next <;> simp

/-- One iteration keeps what the outputs show. -/
theorem showsCamera_next {v4l2Fd : Int32} {run : List PublishingIteration} {site : Site}
    (hshows : ShowsCamera v4l2Fd run site) (hguards : Guards v4l2Fd run site) (polled : Polled) :
    let iteration := (publishing v4l2Fd startSegment).iterate site polled
    ShowsCamera v4l2Fd (run ++ [iteration]) iteration.after ∧
      Guards v4l2Fd (run ++ [iteration]) iteration.after := by
  intro iteration
  obtain ⟨hsegments, hv4l2, hpipeWire, hrestarts, hflag⟩ :=
    publishes_step v4l2Fd polled startSegment site
  have hframes := fun kind => cameraFrames_append kind run iteration
  have hwritten : ∀ kind, iteration.after.outputs.segments kind =
      writeFrames (startSegment kind) (cameraFrames kind (run ++ [iteration])) := by
    intro kind
    rw [hframes, writeFrames_append, ← hshows.segments kind]
    exact hsegments kind
  rw [Guards] at hguards ⊢
  refine ⟨⟨hwritten, fun kind => ?_, hv4l2.trans ?_, hpipeWire.trans ?_, hrestarts.trans ?_⟩,
    hflag.trans ?_⟩
  · rw [hwritten kind]
    exact (represents_startSegment kind).writeFrames (frameBytes_fit kind) _
  · rw [hframes, hshows.v4l2]
    split
    · rw [List.map_append]
      rfl
    · rfl
  · rw [hframes, hshows.pipeWire, List.map_append]
    rfl
  · rw [hframes, hshows.restarts, hguards]
    exact restarts_next v4l2Fd _ _
  · rw [hframes, hguards]
    exact guards_next v4l2Fd _ _

theorem showsCamera_state (v4l2Fd : Int32) (polls : List Polled) :
    let loop := publishing v4l2Fd startSegment
    ShowsCamera v4l2Fd (loop.run polls) (loop.state polls) ∧
      Guards v4l2Fd (loop.run polls) (loop.state polls) := by
  intro loop
  refine @Loop.run_invariant _ _ _ loop (fun run site =>
    ShowsCamera v4l2Fd run site ∧ Guards v4l2Fd run site) ?_ ?_ polls
  · exact ⟨⟨fun _ => rfl, represents_startSegment, by split <;> rfl, rfl,
      (if_neg fun h => h.2 rfl).symm⟩, rfl⟩
  · exact fun polled hboth => showsCamera_next hboth.1 hboth.2 polled

/--
From the segments that `k4w_shm_create` leaves, and whatever the loop of
`k4w_kinect_run` meets, both segments represent the frames that the camera handed
over, the loopback device and PipeWire get the same video frames, and WirePlumber
is restarted once, with the first of them.
-/
theorem showsCamera_run (v4l2Fd : Int32) (polls : List Polled) :
    let loop := publishing v4l2Fd startSegment
    LeftByCreate loop.initial.outputs.segments ∧
      ShowsCamera v4l2Fd (loop.run polls) (loop.state polls) :=
  ⟨leftByCreate_startSegment, (showsCamera_state v4l2Fd polls).1⟩

/-- A poll with a depth frame and a video frame. -/
def bothFrames : Polled where
  observed := .polled ⟨0, true⟩ ⟨0, true⟩
  bytes := fun _ i => UInt8.ofNat i
  nowMs := fun _ => 40

theorem showsCamera_run_bothFrames :
    let loop := publishing 3 startSegment
    let run := loop.run [bothFrames]
    let outputs := (loop.state [bothFrames]).outputs
    (k4wShmCreate ⟨true, true, true⟩ 921600).map
        (fun mapping => mapping.hdr.withGeometry 640 480 3) =
      .ok (loop.initial.outputs.segments .video) ∧
      cameraFrames .video run = [bothFrames.frame .video] ∧
      outputs.segments .video = writeFrame (startSegment .video) (bothFrames.frame .video) ∧
      outputs.v4l2 = [fun i => UInt8.ofNat i] ∧ outputs.restarts = 1 := by
  obtain ⟨hcreated, hshows⟩ := showsCamera_run 3 [bothFrames]
  have hstart := hcreated .video ⟨true, true, true⟩ _ rfl
  refine ⟨congrArg Except.ok hstart.symm, rfl, hshows.segments .video, ?_, ?_⟩
  · exact hshows.v4l2
  · exact hshows.restarts

end K4W.Daemon.Publishing
