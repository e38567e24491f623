import K4W.Library.Ownership
import K4W.Shm.Segment

/-!
# What the daemon takes and gives back

The calls of `main`, in order, that take a resource of the process or of the
system, use one, or give one back.  The outcomes of the calls are inputs.  The
ALSA handle and the sockets of the clients belong to the other threads and are
not in this ledger; libfreenect keeps its own.
-/

namespace K4W.Daemon.Lifecycle

open K4W.Library
open K4W.Library.Ownership
open K4W.Shm

/-! ## Resources -/

inductive Segment where
  | depth
  | video
  | audio
deriving DecidableEq

inductive Resource where
  -- the PID file, its descriptor, and the stream that reads an old one
  | pidFile
  | pidFd
  | oldPid
  | usbContext
  | usbHandle
  | fwFile
  | fwInterface
  | stateLock
  | shmFd
  | shmName (segment : Segment)
  | shmMap (segment : Segment)
  -- the stream from `pactl`, the two modules it loads, and the playback stream
  | pactl
  | nullSink
  | remapSource
  | pulseSink
  | v4l2Fd
  | motorContext
  | frameBuf
  | pwLoop
  | pwContext
  | pwCore
  | pwStream
  | pwThread
  | audioThread
  | socketFd
  | socketPath
  | socketThread
deriving DecidableEq

/--
The threads that work with memory of another one.  Two orders of the source are
outside the list: `main` closes the listening socket before it joins the thread
that polls it, and `k4w_pw_source_stop` destroys the stream and the context
before it stops the thread of the loop.
-/
def users : Resource → List Resource
  | .pulseSink => [.audioThread]
  | .shmMap .audio => [.audioThread]
  | .frameBuf => [.pwThread]
  | _ => []

/-- The resource would outlive the process. -/
def outlives : Resource → Bool
  | .pidFile | .shmName _ | .nullSink | .remapSource | .socketPath => true
  | _ => false

inductive Home where
  | lock
  | usb
  | state
  | shm
  | segment (segment : Segment)
  | pulse
  | v4l2
  | motor
  | pipeWire
  | audio
  | socket
deriving DecidableEq

def home : Resource → Home
  | .pidFile | .pidFd | .oldPid => .lock
  | .usbContext | .usbHandle | .fwFile | .fwInterface => .usb
  | .stateLock => .state
  | .shmFd => .shm
  | .shmName segment | .shmMap segment => .segment segment
  | .pactl | .nullSink | .remapSource | .pulseSink => .pulse
  | .v4l2Fd => .v4l2
  | .motorContext => .motor
  | .frameBuf | .pwLoop | .pwContext | .pwCore | .pwStream | .pwThread => .pipeWire
  | .audioThread => .audio
  | .socketFd | .socketPath | .socketThread => .socket

abbrev Deeds : Type := List (Deed Resource)

/-! ## The PID file -/

structure PidAnswers where
  firstOpen : Bool
  /-- `errno` is `EEXIST` after the first `open`. -/
  fileExists : Bool
  fopen : Bool
  oldAlive : Bool
  secondOpen : Bool

/-- Whether `acquire_pid_lock` returns 0, and what it does. -/
def acquirePidLock (answers : PidAnswers) : Bool × Deeds :=
  let opened : Deeds := [.take .pidFile, .take .pidFd]
  if answers.firstOpen then
    (true, opened)
  else if !answers.fileExists then
    (false, [])
  else
    let read : Deeds := if answers.fopen then [.take .oldPid, .give .oldPid] else []
    if answers.fopen && answers.oldAlive then
      (false, read)
    else if answers.secondOpen then
      (true, read ++ [.clear .pidFile] ++ opened)
    else
      (false, read ++ [.clear .pidFile])

/-- `release_pid_lock` after a successful `acquire_pid_lock`. -/
def releasePidLock : Deeds :=
  [.give .pidFd, .clear .pidFile]

/-! ## The firmware -/

/-- `libusb_init`, whose result no caller looks at. -/
def initUsb (ok : Bool) : Deeds :=
  if ok then [.take .usbContext] else []

/-- `libusb_open_device_with_vid_pid` on the context that `libusb_init` was to make. -/
def openUsb (found : Bool) : Deeds :=
  [.use .usbContext] ++ if found then [.take .usbHandle] else []

structure UploadAnswers where
  fopen : Bool
  usbInit : Bool
  found : Bool
  claimed : Bool

/-- Whether `upload_uac_firmware` returns 0, and what it does. -/
def uploadUacFirmware (answers : UploadAnswers) : Bool × Deeds :=
  if !answers.fopen then
    (false, [])
  else
    let opened : Deeds := [.take .fwFile] ++ initUsb answers.usbInit ++ openUsb answers.found
    if !answers.found then
      (false, opened ++ [.give .fwFile, .give .usbContext])
    else if !answers.claimed then
      (false, opened ++ [.give .usbHandle, .give .usbContext, .give .fwFile])
    else
      (true, opened ++ [.take .fwInterface, .use .usbHandle, .use .fwFile, .give .fwInterface,
        .give .usbHandle, .give .usbContext, .give .fwFile])

/-- `usbAgain` is the result of the `libusb_init` after an upload that failed. -/
structure FirmwareAnswers where
  usbInit : Bool
  bootloader : Bool
  upload : UploadAnswers
  usbAgain : Bool
  uac : Bool

/-- The end of `k4w_firmware_setup`. -/
def checkUac (uac : Bool) : Deeds :=
  openUsb uac ++ (if uac then [.give .usbHandle] else []) ++ [.give .usbContext]

def k4wFirmwareSetup (answers : FirmwareAnswers) : Deeds :=
  let opened := initUsb answers.usbInit ++ openUsb answers.bootloader
  if answers.bootloader then
    let uploaded := uploadUacFirmware answers.upload
    opened ++ [.give .usbHandle, .give .usbContext] ++ uploaded.2 ++
      if uploaded.1 then [] else initUsb answers.usbAgain ++ checkUac answers.uac
  else
    opened ++ checkUac answers.uac

/-! ## Segments, PulseAudio and the loopback device -/

/-- Whether `k4w_shm_create` returns 0, and what it does. -/
def k4wShmCreate (segment : Segment) (calls : CreateCalls) : Bool × Deeds :=
  if !calls.shmOpen then
    (false, [])
  else if !calls.ftruncate then
    (false, [.take (.shmName segment), .take .shmFd, .give .shmFd, .clear (.shmName segment)])
  else if !calls.mmap then
    (false, [.take (.shmName segment), .take .shmFd, .give .shmFd, .clear (.shmName segment)])
  else
    (true, [.take (.shmName segment), .take .shmFd, .take (.shmMap segment), .give .shmFd])

/-- `popen` of `pactl load-module`; a loaded module has printed its index. -/
structure PactlAnswers where
  popen : Bool
  loaded : Bool

structure PulseAnswers where
  nullSink : PactlAnswers
  remap : PactlAnswers
  opened : Bool

/-- The pointer to the playback stream, and the statics of `audio.c`. -/
structure Pulse where
  sink : Bool
  nullSink : Bool
  remap : Bool

def Pulse.none : Pulse where
  sink := false
  nullSink := false
  remap := false

def loadModule (answers : PactlAnswers) (module : Resource) : Bool × Deeds :=
  if !answers.popen then (false, [])
  else if answers.loaded then (true, [.take .pactl, .take module, .give .pactl])
  else (false, [.take .pactl, .give .pactl])

/-- `ensure_null_sink`: which modules are loaded, and what it does. -/
def ensureNullSink (answers : PulseAnswers) : (Bool × Bool) × Deeds :=
  let loaded := loadModule answers.nullSink .nullSink
  if loaded.1 then
    let remapped := loadModule answers.remap .remapSource
    ((true, remapped.1), loaded.2 ++ remapped.2)
  else
    ((false, false), loaded.2)

def unloadNullSink (nullSink remap : Bool) : Deeds :=
  (if nullSink then [.give .nullSink] else []) ++ if remap then [.give .remapSource] else []

def k4wAudioPulseOpen (answers : PulseAnswers) : Pulse × Deeds :=
  let ensured := ensureNullSink answers
  if answers.opened then
    (⟨true, ensured.1.1, ensured.1.2⟩, ensured.2 ++ [.take .pulseSink])
  else
    (.none, ensured.2 ++ unloadNullSink ensured.1.1 ensured.1.2)

def k4wAudioPulseClose (pulse : Pulse) : Deeds :=
  (if pulse.sink then [.give .pulseSink] else []) ++ unloadNullSink pulse.nullSink pulse.remap

structure V4l2Answers where
  opened : Bool
  mjpeg : Bool
  yuyv : Bool
  rgb24 : Bool

/-- Whether `k4w_v4l2_open` returns a descriptor, and what it does. -/
def k4wV4l2Open (answers : V4l2Answers) : Bool × Deeds :=
  if !answers.opened then (false, [])
  else if answers.mjpeg || answers.yuyv || answers.rgb24 then (true, [.take .v4l2Fd])
  else (false, [.take .v4l2Fd, .give .v4l2Fd])

def k4wV4l2Close (opened : Bool) : Deeds :=
  if opened then [.give .v4l2Fd] else []

/-! ## The camera -/

structure InitAnswers where
  /-- The first `freenect_sync_get_depth` succeeds. -/
  syncOk : Bool
  usbInit : Bool
  cameraFound : Bool
  /-- One of the five attempts after the reset succeeds. -/
  retryOk : Bool
  depth : CreateCalls
  video : CreateCalls
  audio : CreateCalls
  pulse : PulseAnswers
  v4l2 : V4l2Answers

/-- `enable_audio` and `enable_v4l2` of the configuration. -/
structure Enabled where
  audio : Bool
  v4l2 : Bool

/-- What `k4w_kinect_init` leaves in the state when it succeeds. -/
structure Kinect where
  audioShm : Bool
  pulse : Pulse
  v4l2Fd : Bool

/-- The reset of the camera after the first poll has failed. -/
def resetCamera (usbInit found : Bool) : Deeds :=
  initUsb usbInit ++ openUsb found ++
    (if found then [.use .usbHandle, .give .usbHandle] else []) ++ [.give .usbContext]

def initAudio (enabled : Bool) (answers : InitAnswers) : (Bool × Pulse) × Deeds :=
  if enabled then
    let created := k4wShmCreate .audio answers.audio
    if created.1 then
      let opened := k4wAudioPulseOpen answers.pulse
      ((true, opened.1), created.2 ++ opened.2)
    else
      ((false, .none), created.2)
  else
    ((false, .none), [])

def initV4l2 (enabled : Bool) (answers : V4l2Answers) : Bool × Deeds :=
  if enabled then k4wV4l2Open answers else (false, [])

/-- `k4w_kinect_init` up to its last look at `r`. -/
def checkSync (answers : InitAnswers) : Deeds :=
  [.take .stateLock] ++
    if answers.syncOk then [] else resetCamera answers.usbInit answers.cameraFound

/-- The state when `k4w_kinect_init` returns 0, and what it does. -/
def k4wKinectInit (enabled : Enabled) (answers : InitAnswers) : Option Kinect × Deeds :=
  if !(answers.syncOk || answers.retryOk) then
    (none, checkSync answers)
  else
    let depth := k4wShmCreate .depth answers.depth
    if !depth.1 then
      (none, checkSync answers ++ depth.2)
    else
      let video := k4wShmCreate .video answers.video
      if !video.1 then
        (none, checkSync answers ++ depth.2 ++ video.2 ++ [.clear (.shmName .depth)])
      else
        let audio := initAudio enabled.audio answers
        let v4l2 := initV4l2 enabled.v4l2 answers.v4l2
        (some ⟨audio.1.1, audio.1.2, v4l2.1⟩,
          checkSync answers ++ depth.2 ++ video.2 ++ audio.2 ++ v4l2.2)

/-- `k4w_kinect_stop`; `tid` tells whether `g_audio_tid` is not zero. -/
def k4wKinectStop (kinect : Kinect) (tid : Bool) : Deeds :=
  (if tid then [.give .audioThread] else []) ++ [.use .stateLock] ++
    k4wV4l2Close kinect.v4l2Fd ++ k4wAudioPulseClose kinect.pulse ++
    [.clear (.shmName .depth), .clear (.shmName .video), .clear (.shmName .audio),
      .give .stateLock]

/-! ## PipeWire -/

structure PwAnswers where
  calloc : Bool
  loop : Bool
  context : Bool
  core : Bool
  stream : Bool
  started : Bool
  connected : Bool

/-- The pointers that `k4w_pw_source_init` leaves, and whether the loop thread runs. -/
structure PwSource where
  frameBuf : Bool
  running : Bool
  threadStarted : Bool

/-- The context takes its core with it when it is destroyed. -/
def destroyContext : Deeds :=
  [.clear .pwCore, .give .pwContext]

def k4wPwSourceInit (answers : PwAnswers) : PwSource × Deeds :=
  let buffer : Deeds := if answers.calloc then [.take .frameBuf] else []
  let failed : PwSource := ⟨answers.calloc, false, false⟩
  if !answers.loop then
    (failed, buffer)
  else if !answers.context then
    (failed, buffer ++ [.take .pwLoop, .give .pwLoop])
  else if !answers.core then
    (failed, buffer ++ [.take .pwLoop, .take .pwContext] ++ destroyContext ++ [.give .pwLoop])
  else if !answers.stream then
    (failed, buffer ++ [.take .pwLoop, .take .pwContext, .take .pwCore, .give .pwCore] ++
      destroyContext ++ [.give .pwLoop])
  else
    let thread : Deeds := if answers.started then [.take .pwThread] else []
    let opened := buffer ++ [.take .pwLoop, .take .pwContext, .take .pwCore, .take .pwStream] ++
      thread
    if !answers.connected then
      (failed, opened ++ [.give .pwStream, .clear .pwThread] ++ destroyContext ++ [.give .pwLoop])
    else
      (⟨answers.calloc, true, answers.started⟩, opened)

/-- What one iteration of `k4w_kinect_run` works with. -/
def iterationUses (kinect : Kinect) (source : PwSource) : List Resource :=
  [.shmMap .depth, .shmMap .video] ++ (if kinect.v4l2Fd then [.v4l2Fd] else []) ++
    if source.running && source.frameBuf then [.frameBuf] else []

def k4wKinectRun (kinect : Kinect) (source : PwSource) (iterations : Nat) : Deeds :=
  ((List.replicate iterations (iterationUses kinect source)).flatten).map .use

def k4wPwSourceStop (source : PwSource) : Deeds :=
  (if source.running then
    [.give .pwStream] ++ destroyContext ++ [.clear .pwThread, .give .pwLoop]
  else []) ++ if source.frameBuf then [.give .frameBuf] else []

/-! ## Threads and the socket -/

/-- `pthread_create`; after a failure the identifier is undefined, and may be stored. -/
structure ThreadAnswers where
  created : Bool
  tidStored : Bool

/-- `k4w_kinect_start_audio`, when enabled: whether `g_audio_tid` is not zero, and what it does. -/
def k4wKinectStartAudio (enabled : Bool) (kinect : Kinect) (answers : ThreadAnswers) :
    Bool × Deeds :=
  if enabled && (kinect.audioShm || kinect.pulse.sink) then
    if answers.created then (true, [.take .audioThread]) else (answers.tidStored, [])
  else
    (false, [])

structure SocketAnswers where
  socket : Bool
  bind : Bool
  listen : Bool
  threadCreated : Bool

/-- Whether `k4w_socket_init` returns a descriptor, and what it does. -/
def k4wSocketInit (answers : SocketAnswers) : Bool × Deeds :=
  if !answers.socket then (false, [])
  else if !answers.bind then (false, [.take .socketFd, .clear .socketPath, .give .socketFd])
  else if !answers.listen then
    (false, [.take .socketFd, .clear .socketPath, .take .socketPath, .give .socketFd,
      .clear .socketPath])
  else (true, [.take .socketFd, .clear .socketPath, .take .socketPath])

/-- Whether `main` has a listening socket, and what it does for it and its thread. -/
def openSocket (answers : SocketAnswers) : Bool × Deeds :=
  let socket := k4wSocketInit answers
  (socket.1, socket.2 ++ if socket.1 && answers.threadCreated then [.take .socketThread] else [])

/-- The end of the socket thread; it is joined whether it was created or not. -/
def joinSocketThread (sockOk : Bool) : Deeds :=
  if sockOk then [.give .socketFd, .clear .socketPath, .give .socketThread] else []

/-! ## `main` -/

structure MainAnswers where
  setupOnly : Bool
  pid : PidAnswers
  firmware : FirmwareAnswers
  enabled : Enabled
  init : InitAnswers
  motorInit : Bool
  pw : PwAnswers
  audioThread : ThreadAnswers
  socket : SocketAnswers
  iterations : Nat

/-- `k4w_motor_init`; without a context of its own the motor works with the default one. -/
def k4wMotorInit (ok : Bool) : Deeds :=
  if ok then [.take .motorContext] else []

/-- `main` after a successful `k4w_kinect_init`. -/
def serve (answers : MainAnswers) (kinect : Kinect) : Deeds :=
  let source := k4wPwSourceInit answers.pw
  let audio := k4wKinectStartAudio answers.enabled.audio kinect answers.audioThread
  let socket := openSocket answers.socket
  k4wMotorInit answers.motorInit ++ source.2 ++ audio.2 ++ socket.2 ++
    k4wKinectRun kinect source.1 answers.iterations ++
    k4wPwSourceStop source.1 ++ k4wKinectStop kinect audio.1 ++ joinSocketThread socket.1

def main (answers : MainAnswers) : Deeds :=
  if answers.setupOnly then
    k4wFirmwareSetup answers.firmware
  else
    let locked := acquirePidLock answers.pid
    if !locked.1 then
      locked.2
    else
      let kinect := k4wKinectInit answers.enabled answers.init
      locked.2 ++ k4wFirmwareSetup answers.firmware ++ kinect.2 ++
        (match kinect.1 with
          | none => []
          | some kinect => serve answers kinect) ++ releasePidLock

/-! ## What each function takes -/

/-- Deeds that start with nothing and stay at their homes. -/
structure Adds (homes : List Home) (deeds : Deeds) (held : Finset Resource) : Prop where
  leads : Leads users ∅ deeds held
  stays : StaysIn home users homes deeds

instance (homes : List Home) (deeds : Deeds) (held : Finset Resource) :
    Decidable (Adds homes deeds held) :=
  decidable_of_iff (Leads users ∅ deeds held ∧ StaysIn home users homes deeds)
    ⟨fun h => ⟨h.1, h.2⟩, fun h => ⟨h.leads, h.stays⟩⟩

/-- Deeds with other homes add to what the first ones have left. -/
theorem Adds.append {homes further : List Home} {front back : Deeds} {held next : Finset Resource}
    (hfront : Adds homes front held) (hback : Adds further back next)
    (helse : Elsewhere home further held) :
    Adds (homes ++ further) (front ++ back) (next ∪ held) where
  leads := hfront.leads.thenAlso hback.leads hback.stays helse
  stays := (hfront.stays.mono (List.subset_append_left _ _)).append
    (hback.stays.mono (List.subset_append_right _ _))

/-- What deeds take is not at homes they do not visit. -/
theorem Adds.elsewhere {homes further : List Home} {deeds : Deeds} {held : Finset Resource}
    (hadds : Adds homes deeds held) (hapart : ∀ place ∈ homes, place ∉ further) :
    Elsewhere home further held := by
  intro resource hmem hhome
  rcases hadds.leads.held_or_home hadds.stays hmem with hheld | hheld
  · exact absurd hheld (Finset.notMem_empty _)
  · exact hapart _ hheld hhome

theorem Adds.mono {homes more : List Home} {deeds : Deeds} {held : Finset Resource}
    (hadds : Adds homes deeds held) (hsub : homes ⊆ more) : Adds more deeds held where
  leads := hadds.leads
  stays := hadds.stays.mono hsub

def lockHeld : Finset Resource :=
  {.pidFile, .pidFd}

theorem acquirePidLock_adds (answers : PidAnswers) :
    Adds [.lock] (acquirePidLock answers).2
      (if (acquirePidLock answers).1 then lockHeld else ∅) := by
  obtain ⟨firstOpen, fileExists, fopen, oldAlive, secondOpen⟩ := answers
  cases firstOpen <;> cases fileExists <;> cases fopen <;> cases oldAlive <;>
    cases secondOpen <;> decide

theorem releasePidLock_leads :
    Leads users lockHeld releasePidLock ∅ ∧ StaysIn home users [.lock] releasePidLock := by
  decide

/-- Every `libusb_init` that the upload comes to succeeds. -/
def uploadReady (answers : UploadAnswers) : Bool :=
  !answers.fopen || answers.usbInit

/-- Every `libusb_init` that `k4w_firmware_setup` comes to succeeds. -/
def firmwareReady (answers : FirmwareAnswers) : Bool :=
  answers.usbInit && (!answers.bootloader || (uploadReady answers.upload &&
    ((uploadUacFirmware answers.upload).1 || answers.usbAgain)))

theorem uploadUacFirmware_stays (answers : UploadAnswers) :
    StaysIn home users [.usb] (uploadUacFirmware answers).2 := by
  obtain ⟨fopen, usbInit, found, claimed⟩ := answers
  cases fopen <;> cases usbInit <;> cases found <;> cases claimed <;> decide

theorem uploadUacFirmware_after (answers : UploadAnswers) :
    after users ∅ (uploadUacFirmware answers).2 =
      if uploadReady answers then some ∅ else none := by
  obtain ⟨fopen, usbInit, found, claimed⟩ := answers
  cases fopen <;> cases usbInit <;> cases found <;> cases claimed <;> decide

/-- The two looks at the device, the second one with or without a context of its own. -/
theorem checkUac_after (ready uac : Bool) :
    after users ∅ (initUsb ready ++ checkUac uac) = (if ready then some ∅ else none) ∧
      after users ∅ (initUsb ready ++ openUsb false ++ checkUac uac) =
        (if ready then some ∅ else none) ∧
      StaysIn home users [.usb] (initUsb ready ++ checkUac uac) := by
  cases ready <;> cases uac <;> decide

theorem findBootloader_after (ready : Bool) :
    after users ∅ (initUsb ready ++ openUsb true ++ [.give .usbHandle, .give .usbContext]) =
      if ready then some ∅ else none := by
  cases ready <;> decide

theorem openUsb_stays (ready found : Bool) :
    StaysIn home users [.usb] (initUsb ready ++ openUsb found) := by
  cases ready <;> cases found <;> decide

theorem k4wFirmwareSetup_after (answers : FirmwareAnswers) :
    after users ∅ (k4wFirmwareSetup answers) =
      if firmwareReady answers then some ∅ else none := by
  cases hbootloader : answers.bootloader with
  | false =>
      have hsetup : k4wFirmwareSetup answers =
          initUsb answers.usbInit ++ openUsb false ++ checkUac answers.uac := by
        simp [k4wFirmwareSetup, hbootloader]
      have hready : firmwareReady answers = answers.usbInit := by
        simp [firmwareReady, hbootloader]
      rw [hsetup, hready, (checkUac_after answers.usbInit answers.uac).2.1]
  | true =>
      have hsetup : k4wFirmwareSetup answers =
          initUsb answers.usbInit ++ openUsb true ++ [.give .usbHandle, .give .usbContext] ++
            (uploadUacFirmware answers.upload).2 ++
            if (uploadUacFirmware answers.upload).1 then []
            else initUsb answers.usbAgain ++ checkUac answers.uac := by
        simp [k4wFirmwareSetup, hbootloader]
      rw [hsetup, after_append, after_append, findBootloader_after, firmwareReady, hbootloader]
      cases answers.usbInit with
      | false => rfl
      | true =>
          rw [if_pos rfl, Option.bind_some, uploadUacFirmware_after]
          cases uploadReady answers.upload with
          | false => rfl
          | true =>
              rw [if_pos rfl, Option.bind_some]
              cases (uploadUacFirmware answers.upload).1 with
              | true => rfl
              | false => exact (checkUac_after answers.usbAgain answers.uac).1

theorem k4wFirmwareSetup_stays (answers : FirmwareAnswers) :
    StaysIn home users [.usb] (k4wFirmwareSetup answers) := by
  have hopened := openUsb_stays answers.usbInit answers.bootloader
  have hgives : StaysIn home users [.usb] [.give .usbHandle, .give .usbContext] := by decide
  have hupload := (hopened.append hgives).append (uploadUacFirmware_stays answers.upload)
  have hlast := (checkUac_after answers.usbAgain answers.uac).2.2
  have hcheck := (checkUac_after true answers.uac).2.2
  unfold k4wFirmwareSetup
  split
  · refine hupload.append ?_
    split
    · decide
    · exact hlast
  · exact hopened.append fun deed hmem => hcheck deed (List.mem_append_right _ hmem)

/-- The name and the mapping of a segment. -/
def segmentHeld (segment : Segment) : Finset Resource :=
  {.shmName segment, .shmMap segment}

theorem k4wShmCreate_adds (segment : Segment) (calls : CreateCalls) :
    Adds [.shm, .segment segment] (k4wShmCreate segment calls).2
      (if (k4wShmCreate segment calls).1 then segmentHeld segment else ∅) := by
  obtain ⟨shmOpen, ftruncate, mmap⟩ := calls
  cases segment <;> cases shmOpen <;> cases ftruncate <;> cases mmap <;> decide

def Pulse.held (pulse : Pulse) : Finset Resource :=
  (if pulse.sink then {.pulseSink} else ∅) ∪ (if pulse.nullSink then {.nullSink} else ∅) ∪
    if pulse.remap then {.remapSource} else ∅

theorem k4wAudioPulseOpen_adds (answers : PulseAnswers) :
    Adds [.pulse] (k4wAudioPulseOpen answers).2 (k4wAudioPulseOpen answers).1.held := by
  obtain ⟨⟨popen, loaded⟩, ⟨repopen, reloaded⟩, opened⟩ := answers
  cases popen <;> cases loaded <;> cases repopen <;> cases reloaded <;> cases opened <;> decide

theorem initV4l2_adds (enabled : Bool) (answers : V4l2Answers) :
    Adds [.v4l2] (initV4l2 enabled answers).2
      (if (initV4l2 enabled answers).1 then {.v4l2Fd} else ∅) := by
  obtain ⟨opened, mjpeg, yuyv, rgb24⟩ := answers
  cases enabled <;> cases opened <;> cases mjpeg <;> cases yuyv <;> cases rgb24 <;> decide

def audioHeld (shm : Bool) (pulse : Pulse) : Finset Resource :=
  pulse.held ∪ if shm then segmentHeld .audio else ∅

theorem initAudio_adds (enabled : Bool) (answers : InitAnswers) :
    Adds [.shm, .segment .audio, .pulse] (initAudio enabled answers).2
      (audioHeld (initAudio enabled answers).1.1 (initAudio enabled answers).1.2) := by
  have hcreate := k4wShmCreate_adds .audio answers.audio
  have hnone : audioHeld false .none = ∅ := by decide
  cases enabled with
  | false =>
      change Adds _ [] (audioHeld false .none)
      decide
  | true =>
      cases hcreated : (k4wShmCreate .audio answers.audio).1 with
      | false =>
          have hinit : initAudio true answers =
              ((false, .none), (k4wShmCreate .audio answers.audio).2) := by
            simp [initAudio, hcreated]
          rw [hcreated] at hcreate
          rw [hinit, hnone]
          exact hcreate.mono (List.subset_append_left _ [Home.pulse])
      | true =>
          have hopened := k4wAudioPulseOpen_adds answers.pulse
          have hinit : initAudio true answers = ((true, (k4wAudioPulseOpen answers.pulse).1),
              (k4wShmCreate .audio answers.audio).2 ++ (k4wAudioPulseOpen answers.pulse).2) := by
            simp [initAudio, hcreated]
          rw [hcreated] at hcreate
          rw [hinit]
          exact hcreate.append hopened (by decide)

/-- The `libusb_init` that `k4w_kinect_init` comes to, if any, succeeds. -/
def syncReady (answers : InitAnswers) : Bool :=
  answers.syncOk || answers.usbInit

theorem checkSync_after (answers : InitAnswers) :
    after users ∅ (checkSync answers) =
        (if syncReady answers then some {.stateLock} else none) ∧
      StaysIn home users [.state, .usb] (checkSync answers) := by
  unfold checkSync syncReady
  cases answers.syncOk <;> cases answers.usbInit <;> cases answers.cameraFound <;> decide

theorem checkSync_adds {answers : InitAnswers} (hready : syncReady answers = true) :
    Adds [.state, .usb] (checkSync answers) {.stateLock} := by
  obtain ⟨hafter, hstays⟩ := checkSync_after answers
  rw [hready] at hafter
  exact ⟨hafter, hstays⟩

/-- What a successful `k4w_kinect_init` has taken. -/
def Kinect.held (kinect : Kinect) : Finset Resource :=
  (if kinect.v4l2Fd then {.v4l2Fd} else ∅) ∪ (audioHeld kinect.audioShm kinect.pulse ∪
    (segmentHeld .video ∪ (segmentHeld .depth ∪ {.stateLock})))

/-- What a failed `k4w_kinect_init` leaves. -/
def abandoned (answers : InitAnswers) : Finset Resource :=
  if (answers.syncOk || answers.retryOk) && (k4wShmCreate .depth answers.depth).1 then
    {.shmMap .depth, .stateLock}
  else
    {.stateLock}

/-- What `k4w_kinect_init` has taken when it returns. -/
def initHeld (enabled : Enabled) (answers : InitAnswers) : Finset Resource :=
  match (k4wKinectInit enabled answers).1 with
  | some kinect => kinect.held
  | none => abandoned answers

def cameraHomes : List Home :=
  [.usb, .state, .shm, .segment .depth, .segment .video, .segment .audio, .pulse, .v4l2]

theorem k4wKinectInit_adds (enabled : Enabled) {answers : InitAnswers}
    (hready : syncReady answers = true) :
    Adds cameraHomes (k4wKinectInit enabled answers).2 (initHeld enabled answers) := by
  have hchecked := checkSync_adds hready
  have hdepth := k4wShmCreate_adds .depth answers.depth
  have hvideo := k4wShmCreate_adds .video answers.video
  cases hok : answers.syncOk || answers.retryOk with
  | false =>
      have hinit : k4wKinectInit enabled answers = (none, checkSync answers) := by
        simp [k4wKinectInit, hok]
      have hheld : initHeld enabled answers = {.stateLock} := by
        simp [initHeld, abandoned, hinit, hok]
      rw [hinit, hheld]
      exact hchecked.mono (by decide)
  | true =>
      cases hdepthOk : (k4wShmCreate .depth answers.depth).1 with
      | false =>
          have hinit : k4wKinectInit enabled answers =
              (none, checkSync answers ++ (k4wShmCreate .depth answers.depth).2) := by
            simp [k4wKinectInit, hok, hdepthOk]
          have hheld : initHeld enabled answers = {.stateLock} := by
            simp [initHeld, abandoned, hinit, hdepthOk]
          rw [hdepthOk] at hdepth
          rw [hinit, hheld]
          exact (hchecked.append hdepth (by decide)).mono (by decide)
      | true =>
          rw [hdepthOk] at hdepth
          have hboth := hchecked.append hdepth (by decide)
          cases hvideoOk : (k4wShmCreate .video answers.video).1 with
          | false =>
              have hinit : k4wKinectInit enabled answers =
                  (none, checkSync answers ++ (k4wShmCreate .depth answers.depth).2 ++
                    (k4wShmCreate .video answers.video).2 ++ [.clear (.shmName .depth)]) := by
                simp [k4wKinectInit, hok, hdepthOk, hvideoOk]
              have hheld : initHeld enabled answers = {.shmMap .depth, .stateLock} := by
                simp [initHeld, abandoned, hinit, hok, hdepthOk]
              rw [hvideoOk] at hvideo
              rw [hinit, hheld]
              have hsofar : Adds cameraHomes _ _ := (hboth.append hvideo (by decide)).mono (by decide)
              have hclear : Leads users (∅ ∪ (segmentHeld .depth ∪ {.stateLock}))
                  [.clear (.shmName .depth)] {.shmMap .depth, .stateLock} := by
                decide
              exact ⟨hsofar.leads.append hclear, hsofar.stays.append (by decide)⟩
          | true =>
              have hinit : k4wKinectInit enabled answers =
                  (some ⟨(initAudio enabled.audio answers).1.1, (initAudio enabled.audio answers).1.2,
                    (initV4l2 enabled.v4l2 answers.v4l2).1⟩,
                  checkSync answers ++ (k4wShmCreate .depth answers.depth).2 ++
                    (k4wShmCreate .video answers.video).2 ++ (initAudio enabled.audio answers).2 ++
                    (initV4l2 enabled.v4l2 answers.v4l2).2) := by
                simp [k4wKinectInit, hok, hdepthOk, hvideoOk]
              rw [hvideoOk] at hvideo
              rw [initHeld, hinit]
              have haudio := (hboth.append hvideo (by decide)).append
                (initAudio_adds enabled.audio answers) (by decide)
              exact (haudio.append (initV4l2_adds enabled.v4l2 answers.v4l2)
                (haudio.elsewhere (by decide))).mono (by decide)

/-- Without a context for the reset, `k4w_kinect_init` is refused whatever it does afterwards. -/
theorem k4wKinectInit_refused (enabled : Enabled) {answers : InitAnswers}
    (hready : syncReady answers = false) {held : Finset Resource}
    (helse : Elsewhere home [.state, .usb] held) :
    after users held (k4wKinectInit enabled answers).2 = none := by
  obtain ⟨hafter, hstays⟩ := checkSync_after answers
  rw [hready] at hafter
  have hchecked := refused_frame hafter hstays helse
  unfold k4wKinectInit
  dsimp only
  split
  · exact hchecked
  · split
    · exact refused_append hchecked _
    · split
      · exact refused_append (refused_append (refused_append hchecked _) _) _
      · exact refused_append (refused_append (refused_append (refused_append hchecked _) _) _) _

def PwSource.held (source : PwSource) : Finset Resource :=
  (if source.frameBuf then {.frameBuf} else ∅) ∪
    (if source.running then {.pwLoop, .pwContext, .pwCore, .pwStream} else ∅) ∪
    if source.threadStarted then {.pwThread} else ∅

theorem k4wPwSource_turns (answers : PwAnswers) :
    Adds [.pipeWire] (k4wPwSourceInit answers).2 (k4wPwSourceInit answers).1.held ∧
      Leads users (k4wPwSourceInit answers).1.held (k4wPwSourceStop (k4wPwSourceInit answers).1) ∅ ∧
      StaysIn home users [.pipeWire] (k4wPwSourceStop (k4wPwSourceInit answers).1) := by
  obtain ⟨calloc, loop, context, core, stream, started, connected⟩ := answers
  cases calloc <;> cases loop <;> cases context <;> cases core <;> cases stream <;>
    cases started <;> cases connected <;> decide

/-- The audio thread is created. -/
def audioStarted (enabled : Bool) (kinect : Kinect) (answers : ThreadAnswers) : Bool :=
  enabled && (kinect.audioShm || kinect.pulse.sink) && answers.created

/-- `g_audio_tid` is not zero although no thread has been created. -/
def strayAudio (enabled : Bool) (kinect : Kinect) (answers : ThreadAnswers) : Bool :=
  enabled && (kinect.audioShm || kinect.pulse.sink) && !answers.created && answers.tidStored

def audioThreadHeld (started : Bool) : Finset Resource :=
  if started then {.audioThread} else ∅

theorem k4wKinectStartAudio_adds (enabled : Bool) (kinect : Kinect) (answers : ThreadAnswers) :
    Adds [.audio] (k4wKinectStartAudio enabled kinect answers).2
      (audioThreadHeld (audioStarted enabled kinect answers)) := by
  obtain ⟨created, tidStored⟩ := answers
  unfold k4wKinectStartAudio audioStarted
  cases enabled <;> cases kinect.audioShm <;> cases kinect.pulse.sink <;> cases created <;>
    cases tidStored <;> decide

theorem k4wKinectStartAudio_tid (enabled : Bool) (kinect : Kinect) (answers : ThreadAnswers) :
    (k4wKinectStartAudio enabled kinect answers).1 =
      (audioStarted enabled kinect answers || strayAudio enabled kinect answers) := by
  unfold k4wKinectStartAudio audioStarted strayAudio
  cases enabled <;> cases kinect.audioShm <;> cases kinect.pulse.sink <;>
    cases answers.created <;> rfl

/-- There is a socket, and no thread for it. -/
def straySocket (answers : SocketAnswers) : Bool :=
  (openSocket answers).1 && !answers.threadCreated

def socketHeld (answers : SocketAnswers) : Finset Resource :=
  if (openSocket answers).1 then
    {.socketFd, .socketPath} ∪ if answers.threadCreated then {.socketThread} else ∅
  else
    ∅

theorem openSocket_adds (answers : SocketAnswers) :
    Adds [.socket] (openSocket answers).2 (socketHeld answers) := by
  obtain ⟨socket, bind, listen, threadCreated⟩ := answers
  cases socket <;> cases bind <;> cases listen <;> cases threadCreated <;> decide

/-! ## What each function gives back -/

def Kinect.maps (kinect : Kinect) : Finset Resource :=
  {.shmMap .depth, .shmMap .video} ∪ if kinect.audioShm then {.shmMap .audio} else ∅

def stopHomes : List Home :=
  .audio :: cameraHomes

theorem k4wKinectStop_leads (kinect : Kinect) (started : Bool) :
    Leads users (kinect.held ∪ audioThreadHeld started) (k4wKinectStop kinect started)
        kinect.maps ∧
      StaysIn home users stopHomes (k4wKinectStop kinect started) := by
  obtain ⟨audioShm, ⟨sink, nullSink, remap⟩, v4l2Fd⟩ := kinect
  cases started <;> cases audioShm <;> cases sink <;> cases nullSink <;> cases remap <;>
    cases v4l2Fd <;> decide

theorem join_refused {held : Finset Resource} {thread : Resource} (hthread : thread ∉ held) :
    after users held [.give thread] = none := by
  rw [after, enter, if_neg fun hboth => hthread hboth.1]
  rfl

theorem joinSocketThread_leads (answers : SocketAnswers) (hstray : straySocket answers = false) :
    Leads users (socketHeld answers) (joinSocketThread (openSocket answers).1) ∅ ∧
      StaysIn home users [.socket] (joinSocketThread (openSocket answers).1) := by
  obtain ⟨socket, bind, listen, threadCreated⟩ := answers
  revert hstray
  cases socket <;> cases bind <;> cases listen <;> cases threadCreated <;> decide

/-! ## The whole of `main` -/

/-- `serve` until the frames stop. -/
def serveFrames (answers : MainAnswers) (kinect : Kinect) : Deeds :=
  let source := k4wPwSourceInit answers.pw
  k4wMotorInit answers.motorInit ++ source.2 ++
    (k4wKinectStartAudio answers.enabled.audio kinect answers.audioThread).2 ++
    (openSocket answers.socket).2 ++
    k4wKinectRun kinect source.1 answers.iterations ++ k4wPwSourceStop source.1

theorem serve_eq (answers : MainAnswers) (kinect : Kinect) :
    serve answers kinect = serveFrames answers kinect ++
      k4wKinectStop kinect
        (k4wKinectStartAudio answers.enabled.audio kinect answers.audioThread).1 ++
      joinSocketThread (openSocket answers.socket).1 :=
  rfl

theorem iterationUses_held (kinect : Kinect) (source : PwSource) :
    ∀ resource ∈ iterationUses kinect source, resource ∈ source.held ∪ kinect.held := by
  obtain ⟨audioShm, ⟨sink, nullSink, remap⟩, v4l2Fd⟩ := kinect
  obtain ⟨frameBuf, running, threadStarted⟩ := source
  cases audioShm <;> cases sink <;> cases nullSink <;> cases remap <;> cases v4l2Fd <;>
    cases frameBuf <;> cases running <;> cases threadStarted <;> decide

theorem k4wKinectRun_leads (kinect : Kinect) (source : PwSource) (iterations : Nat)
    {held : Finset Resource} (hheld : source.held ∪ kinect.held ⊆ held) :
    Leads users held (k4wKinectRun kinect source iterations) held := by
  refine Leads.uses fun resource hmem => hheld (iterationUses_held kinect source resource ?_)
  obtain ⟨uses, huses, hmem⟩ := List.mem_flatten.mp hmem
  rw [List.eq_of_mem_replicate huses] at hmem
  exact hmem

/-- Nothing of `main` around the camera lives where the camera's resources do. -/
theorem Kinect.held_elsewhere (kinect : Kinect) :
    Elsewhere home [.lock, .motor, .pipeWire, .audio, .socket] kinect.held := by
  obtain ⟨audioShm, ⟨sink, nullSink, remap⟩, v4l2Fd⟩ := kinect
  cases audioShm <;> cases sink <;> cases nullSink <;> cases remap <;> cases v4l2Fd <;> decide

def motorHeld (ok : Bool) : Finset Resource :=
  if ok then {.motorContext} else ∅

theorem k4wMotorInit_adds (ok : Bool) : Adds [.motor] (k4wMotorInit ok) (motorHeld ok) := by
  cases ok <;> decide

theorem motorHeld_elsewhere (ok : Bool) :
    Elsewhere home (.lock :: .pipeWire :: .socket :: stopHomes) (motorHeld ok) := by
  cases ok <;> decide

/-- The threads, the socket and the motor, while `main` serves. -/
def serviceHeld (answers : MainAnswers) (kinect : Kinect) : Finset Resource :=
  audioThreadHeld (audioStarted answers.enabled.audio kinect answers.audioThread) ∪
    (socketHeld answers.socket ∪ motorHeld answers.motorInit)

theorem serveFrames_leads (answers : MainAnswers) (kinect : Kinect) :
    Leads users (kinect.held ∪ lockHeld) (serveFrames answers kinect)
      (serviceHeld answers kinect ∪ (kinect.held ∪ lockHeld)) := by
  obtain ⟨hinit, hstop, hstopStays⟩ := k4wPwSource_turns answers.pw
  have haudio := k4wKinectStartAudio_adds answers.enabled.audio kinect answers.audioThread
  have hsocket := openSocket_adds answers.socket
  have hmotor := k4wMotorInit_adds answers.motorInit
  have hlock : Elsewhere home [.motor, .pipeWire, .audio, .socket] lockHeld := by decide
  have hkinect := kinect.held_elsewhere.mono (List.subset_cons_self Home.lock _)
  -- what `main` opens before the frames
  have hplaying := hmotor.append hinit (hmotor.elsewhere (by decide))
  have hlistening := hplaying.append haudio (hplaying.elsewhere (by decide))
  have hopened := hlistening.append hsocket (hlistening.elsewhere (by decide))
  have hserving := hopened.leads.frame hopened.stays (hkinect.union hlock)
  rw [Finset.empty_union] at hserving
  have hframes := hserving.append (k4wKinectRun_leads kinect _ answers.iterations (by
    intro resource hmem
    simp only [Finset.mem_union] at hmem ⊢
    tauto))
  -- the frame buffer and the loop go
  have hothers : Elsewhere home [.pipeWire]
      (serviceHeld answers kinect ∪ (kinect.held ∪ lockHeld)) := by
    refine Elsewhere.union ((haudio.elsewhere (by decide)).union
      ((hsocket.elsewhere (by decide)).union ((motorHeld_elsewhere _).mono (by decide)))) ?_
    exact (hkinect.mono (by decide)).union (hlock.mono (by decide))
  have hregroup : ∀ thread source socket motor camera : Finset Resource,
      socket ∪ (thread ∪ (source ∪ motor)) ∪ camera = source ∪ (thread ∪ (socket ∪ motor) ∪ camera) := by
    intros
    ac_rfl
  rw [hregroup] at hframes
  have hclosed := hframes.thenOn hstop hstopStays hothers
  rw [Finset.empty_union] at hclosed
  exact hclosed

/-- `k4w_kinect_stop` joins the audio thread, and takes the streams and the names away. -/
theorem serveStop_leads (answers : MainAnswers) (kinect : Kinect)
    (hstray : strayAudio answers.enabled.audio kinect answers.audioThread = false) :
    Leads users (kinect.held ∪ lockHeld)
      (serveFrames answers kinect ++ k4wKinectStop kinect
        (k4wKinectStartAudio answers.enabled.audio kinect answers.audioThread).1)
      (socketHeld answers.socket ∪ (motorHeld answers.motorInit ∪ kinect.maps ∪ lockHeld)) := by
  have hframes := serveFrames_leads answers kinect
  have hsocket := openSocket_adds answers.socket
  rw [k4wKinectStartAudio_tid, hstray, Bool.or_false]
  obtain ⟨hstop, hstays⟩ := k4wKinectStop_leads kinect
    (audioStarted answers.enabled.audio kinect answers.audioThread)
  have hothers : Elsewhere home stopHomes
      (socketHeld answers.socket ∪ (motorHeld answers.motorInit ∪ lockHeld)) :=
    (hsocket.elsewhere (by decide)).union
      (((motorHeld_elsewhere _).mono (by decide)).union (by decide))
  have hregroup : ∀ thread socket motor camera lock : Finset Resource,
      thread ∪ (socket ∪ motor) ∪ (camera ∪ lock) = camera ∪ thread ∪ (socket ∪ (motor ∪ lock)) := by
    intros
    ac_rfl
  rw [serviceHeld, hregroup] at hframes
  have hstopped := hframes.thenOn hstop hstays hothers
  have hfinal : ∀ maps socket motor lock : Finset Resource,
      maps ∪ (socket ∪ (motor ∪ lock)) = socket ∪ (motor ∪ maps ∪ lock) := by
    intros
    ac_rfl
  rw [hfinal] at hstopped
  exact hstopped

theorem Kinect.maps_elsewhere (kinect : Kinect) :
    Elsewhere home [.lock, .motor, .pipeWire, .audio, .socket] kinect.maps := by
  unfold Kinect.maps
  cases kinect.audioShm <;> decide

theorem serve_leads (answers : MainAnswers) (kinect : Kinect)
    (haudio : strayAudio answers.enabled.audio kinect answers.audioThread = false)
    (hsocket : straySocket answers.socket = false) :
    Leads users (kinect.held ∪ lockHeld) (serve answers kinect)
      (motorHeld answers.motorInit ∪ kinect.maps ∪ lockHeld) := by
  obtain ⟨hjoin, hstays⟩ := joinSocketThread_leads answers.socket hsocket
  have hothers : Elsewhere home [.socket] (motorHeld answers.motorInit ∪ kinect.maps ∪ lockHeld) :=
    (((motorHeld_elsewhere _).mono (by decide)).union
      (kinect.maps_elsewhere.mono (by decide))).union (by decide)
  have hjoined := (serveStop_leads answers kinect haudio).thenOn hjoin hstays hothers
  rw [Finset.empty_union] at hjoined
  exact hjoined

theorem serve_refused (answers : MainAnswers) (kinect : Kinect)
    (hstray : strayAudio answers.enabled.audio kinect answers.audioThread = true ∨
      straySocket answers.socket = true) :
    after users (kinect.held ∪ lockHeld) (serve answers kinect) = none := by
  rw [serve_eq]
  cases haudio : strayAudio answers.enabled.audio kinect answers.audioThread with
  | true =>
      have hnot : audioStarted answers.enabled.audio kinect answers.audioThread = false := by
        simp only [strayAudio, audioStarted, Bool.and_eq_true, Bool.not_eq_true'] at haudio ⊢
        rw [haudio.1.2, Bool.and_false]
      have hframes := serveFrames_leads answers kinect
      have hsocket := openSocket_adds answers.socket
      have helse : Elsewhere home [.audio]
          (serviceHeld answers kinect ∪ (kinect.held ∪ lockHeld)) := by
        rw [serviceHeld, hnot]
        refine Elsewhere.union (Elsewhere.union (by decide) ?_)
          ((kinect.held_elsewhere.mono (by decide)).union (by decide))
        exact (hsocket.elsewhere (by decide)).union ((motorHeld_elsewhere _).mono (by decide))
      have hjoin : after users (serviceHeld answers kinect ∪ (kinect.held ∪ lockHeld))
          (k4wKinectStop kinect true) = none :=
        refused_append (join_refused (notMem_of_home helse (by decide))) _
      rw [k4wKinectStartAudio_tid, haudio, Bool.or_true]
      exact refused_append (refuses_append hframes hjoin) _
  | false =>
      have hsocket := hstray.resolve_left (by rw [haudio]; decide)
      have hstopped := serveStop_leads answers kinect haudio
      rw [straySocket, Bool.and_eq_true, Bool.not_eq_true'] at hsocket
      have hheld : socketHeld answers.socket = {.socketFd, .socketPath} := by
        rw [socketHeld, hsocket.1, hsocket.2]
        rfl
      have hothers : Elsewhere home [.socket] (motorHeld answers.motorInit ∪ kinect.maps ∪ lockHeld) :=
        (((motorHeld_elsewhere _).mono (by decide)).union
      (kinect.maps_elsewhere.mono (by decide))).union (by decide)
      have hclose : Leads users {.socketFd, .socketPath}
          [.give .socketFd, .clear .socketPath] ∅ := by
        decide
      rw [hheld] at hstopped
      have hclosed := hstopped.thenOn hclose (by decide) hothers
      rw [Finset.empty_union] at hclosed
      have hjoin : after users (motorHeld answers.motorInit ∪ kinect.maps ∪ lockHeld)
          [.give .socketThread] = none :=
        join_refused (notMem_of_home hothers (by decide))
      have hrefused := refuses_append hclosed hjoin
      rw [List.append_assoc] at hrefused
      rw [hsocket.1]
      exact hrefused

/-- `main` joins a thread that `pthread_create` has not made. -/
def joinsNothing (answers : MainAnswers) : Bool :=
  !answers.setupOnly && (acquirePidLock answers.pid).1 &&
    match (k4wKinectInit answers.enabled answers.init).1 with
    | none => false
    | some kinect =>
        strayAudio answers.enabled.audio kinect answers.audioThread || straySocket answers.socket

/-- `main` works with a context that `libusb_init` has not made. -/
def missesContext (answers : MainAnswers) : Bool :=
  if answers.setupOnly then !firmwareReady answers.firmware
  else (acquirePidLock answers.pid).1 &&
    !(firmwareReady answers.firmware && syncReady answers.init)

/-- What `main` leaves to the end of the process. -/
def untilExit (answers : MainAnswers) : Finset Resource :=
  if answers.setupOnly || !(acquirePidLock answers.pid).1 then
    ∅
  else
    match (k4wKinectInit answers.enabled answers.init).1 with
    | none => abandoned answers.init
    | some kinect => motorHeld answers.motorInit ∪ kinect.maps

theorem untilExit_ends (answers : MainAnswers) :
    ∀ resource ∈ untilExit answers, outlives resource = false := by
  unfold untilExit
  split
  · decide
  · split
    case h_1 =>
        unfold abandoned
        split <;> decide
    case h_2 kinect _ =>
        unfold Kinect.maps
        cases answers.motorInit <;> cases kinect.audioShm <;> decide

/-- `main` when it has the lock. -/
theorem main_locked (answers : MainAnswers) (hsetup : answers.setupOnly = false)
    (hlocked : (acquirePidLock answers.pid).1 = true) :
    main answers = (acquirePidLock answers.pid).2 ++ k4wFirmwareSetup answers.firmware ++
      (k4wKinectInit answers.enabled answers.init).2 ++
        (match (k4wKinectInit answers.enabled answers.init).1 with
          | none => []
          | some kinect => serve answers kinect) ++ releasePidLock := by
  simp [main, hsetup, hlocked]

theorem main_prefix_leads (answers : MainAnswers)
    (hlocked : (acquirePidLock answers.pid).1 = true)
    (hfirmwareReady : firmwareReady answers.firmware = true)
    (hsyncReady : syncReady answers.init = true) :
    Leads users ∅ ((acquirePidLock answers.pid).2 ++ k4wFirmwareSetup answers.firmware ++
      (k4wKinectInit answers.enabled answers.init).2)
      (initHeld answers.enabled answers.init ∪ lockHeld) := by
  have hlock := acquirePidLock_adds answers.pid
  rw [hlocked] at hlock
  have hsetup : Adds [.usb] (k4wFirmwareSetup answers.firmware) ∅ := by
    have hafter := k4wFirmwareSetup_after answers.firmware
    rw [hfirmwareReady] at hafter
    exact ⟨hafter, k4wFirmwareSetup_stays answers.firmware⟩
  have hfirmware := hlock.append hsetup (by decide)
  have hinit := hfirmware.append (k4wKinectInit_adds answers.enabled hsyncReady) (by decide)
  have hleads := hinit.leads
  rw [Finset.empty_union] at hleads
  exact hleads

/-- Without a context, the ledger refuses the first call that works with it. -/
theorem main_prefix_refused (answers : MainAnswers)
    (hlocked : (acquirePidLock answers.pid).1 = true)
    (hmisses : firmwareReady answers.firmware = false ∨ syncReady answers.init = false) :
    after users ∅ ((acquirePidLock answers.pid).2 ++ k4wFirmwareSetup answers.firmware ++
      (k4wKinectInit answers.enabled answers.init).2) = none := by
  have hlock := acquirePidLock_adds answers.pid
  have hsetup := k4wFirmwareSetup_after answers.firmware
  have hstays := k4wFirmwareSetup_stays answers.firmware
  rw [hlocked] at hlock
  cases hfirmware : firmwareReady answers.firmware with
  | false =>
      rw [hfirmware] at hsetup
      have hrefused := refused_frame hsetup hstays
        (by decide : Elsewhere home [.usb] (if true then lockHeld else ∅))
      exact refused_append (refuses_append hlock.leads hrefused) _
  | true =>
      rw [hfirmware] at hsetup
      have hsync := hmisses.resolve_left (by rw [hfirmware]; decide)
      have hready := hlock.leads.thenAlso hsetup hstays (by decide)
      exact refuses_append hready
        (k4wKinectInit_refused answers.enabled hsync (by decide))

/-- The run of `main` that has the lock: it gives it back at the end. -/
theorem main_locked_after (answers : MainAnswers) (hsetup : answers.setupOnly = false)
    (hlocked : (acquirePidLock answers.pid).1 = true)
    (hfirmwareReady : firmwareReady answers.firmware = true)
    (hsyncReady : syncReady answers.init = true) :
    after users ∅ (main answers) =
      if joinsNothing answers then none else some (untilExit answers) := by
  have hprefix := main_prefix_leads answers hlocked hfirmwareReady hsyncReady
  obtain ⟨hrelease, hstays⟩ := releasePidLock_leads
  have hinitHome := (k4wKinectInit_adds answers.enabled hsyncReady).elsewhere
    (by decide : ∀ place ∈ cameraHomes, place ∉ [Home.lock])
  rw [main_locked answers hsetup hlocked]
  cases hinit : (k4wKinectInit answers.enabled answers.init).1 with
  | none =>
      have hleft : initHeld answers.enabled answers.init = abandoned answers.init := by
        rw [initHeld, hinit]
      rw [hleft] at hprefix hinitHome
      have hjoins : joinsNothing answers = false := by
        simp [joinsNothing, hinit]
      have huntil : untilExit answers = abandoned answers.init := by
        simp [untilExit, hsetup, hlocked, hinit]
      rw [Finset.union_comm] at hprefix
      have hreleased := hprefix.thenOn hrelease hstays hinitHome
      rw [Finset.empty_union] at hreleased
      rw [hjoins, huntil, List.append_nil]
      exact hreleased
  | some kinect =>
      have hheld : initHeld answers.enabled answers.init = kinect.held := by
        rw [initHeld, hinit]
      rw [hheld] at hprefix
      have huntil : untilExit answers = motorHeld answers.motorInit ∪ kinect.maps := by
        simp [untilExit, hsetup, hlocked, hinit]
      have hjoins : joinsNothing answers =
          (strayAudio answers.enabled.audio kinect answers.audioThread ||
            straySocket answers.socket) := by
        simp [joinsNothing, hsetup, hlocked, hinit]
      rw [hjoins, huntil]
      cases hstray : strayAudio answers.enabled.audio kinect answers.audioThread ||
          straySocket answers.socket with
      | true =>
          have hrefused := serve_refused answers kinect (Bool.or_eq_true_iff.mp hstray)
          exact refused_append (refuses_append hprefix hrefused) _
      | false =>
          obtain ⟨haudio, hsocket⟩ := Bool.or_eq_false_iff.mp hstray
          have hserved := hprefix.append (serve_leads answers kinect haudio hsocket)
          have helse : Elsewhere home [.lock] (motorHeld answers.motorInit ∪ kinect.maps) :=
            ((motorHeld_elsewhere _).mono (by decide)).union
              (kinect.maps_elsewhere.mono (by decide))
          rw [Finset.union_comm] at hserved
          have hreleased := hserved.thenOn hrelease hstays helse
          rw [Finset.empty_union] at hreleased
          exact hreleased

/--
Whatever calls fail, and however long the daemon runs, every resource is taken
before it is used and given back once, after the threads in `users` that work
with it have ended; and nothing is left that outlives the process.  The
exceptions are the runs that work with a context after `libusb_init` has failed,
and those that join a thread that was never created.
-/
theorem main_ledger (answers : MainAnswers) :
    after users ∅ (main answers) =
        (if missesContext answers || joinsNothing answers then none
          else some (untilExit answers)) ∧
      ∀ resource ∈ untilExit answers, outlives resource = false := by
  refine ⟨?_, untilExit_ends answers⟩
  cases hsetup : answers.setupOnly with
  | true =>
      have hmain : main answers = k4wFirmwareSetup answers.firmware := by
        simp [main, hsetup]
      rw [hmain, k4wFirmwareSetup_after]
      cases hready : firmwareReady answers.firmware <;>
        simp [missesContext, joinsNothing, untilExit, hsetup, hready]
  | false =>
      cases hlocked : (acquirePidLock answers.pid).1 with
      | false =>
          have hlock := (acquirePidLock_adds answers.pid).leads
          have hmain : main answers = (acquirePidLock answers.pid).2 := by
            simp [main, hsetup, hlocked]
          rw [hlocked] at hlock
          rw [hmain, hlock]
          simp [missesContext, joinsNothing, untilExit, hsetup, hlocked]
      | true =>
          cases hready : firmwareReady answers.firmware && syncReady answers.init with
          | false =>
              have hmisses : missesContext answers = true := by
                simp [missesContext, hsetup, hlocked, hready]
              have hrefused := main_prefix_refused answers hlocked
                (Bool.and_eq_false_iff.mp hready)
              rw [main_locked answers hsetup hlocked, hmisses]
              exact refused_append (refused_append hrefused _) _
          | true =>
              obtain ⟨hfirmware, hsync⟩ := Bool.and_eq_true_iff.mp hready
              have hmisses : missesContext answers = false := by
                simp [missesContext, hsetup, hlocked, hready]
              rw [hmisses, main_locked_after answers hsetup hlocked hfirmware hsync]
              rfl

end K4W.Daemon.Lifecycle
