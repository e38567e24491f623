import Mathlib.Logic.Function.Basic
import K4W.Daemon.Lifecycle
import K4W.Library.CText
import K4W.Library.Shell

/-!
# The PulseAudio modules of the daemon

`k4w_config_load` takes the name of the sink from the environment, and `audio.c`
has `pactl` load a sink of this name and a source behind it, by commands that the
shell reads.  What `pactl` prints are the numbers by which the modules are
unloaded again.  `pactl` and the server that it talks to are parameters; what is
relied on of them is stated as their documentation has it.
-/

namespace K4W.Daemon.PulseModules

open K4W.Library
open K4W.Library.CText

/-! ## The configuration -/

/-- The results of `getenv` for the four variables. -/
structure Environment where
  v4l2Device : Option CString
  audioSource : Option CString
  noV4l2 : Option CString
  noAudio : Option CString

/-- `k4w_config_t`; the texts are arrays of 128 characters. -/
structure K4wConfig where
  v4l2Width : Int32
  v4l2Height : Int32
  enableAudio : Bool
  enableV4l2 : Bool
  v4l2Device : List Char
  audioSource : List Char

/-- `strncpy` of a default to a zeroed array, and of the value of a variable over it. -/
def loadText (default : List Char) (value : Option CString) : List Char :=
  let array := strncpy (List.replicate 128 '\x00') default 127
  match value with
  | none => array
  | some text => strncpy array text.chars 127

/-- `v && strcmp(v, "1") == 0` -/
def isOne (value : Option CString) : Bool :=
  value.any fun text => text.chars == ['1']

def k4wConfigLoad (env : Environment) : K4wConfig where
  v4l2Width := 640
  v4l2Height := 480
  enableAudio := !isOne env.noAudio
  enableV4l2 := !isOne env.noV4l2
  v4l2Device := loadText "/dev/video100".toList env.v4l2Device
  audioSource := loadText "k4w-mic".toList env.audioSource

/-! ## `pactl` and the shell -/

/-- What a command leaves: the server, what was printed, and whether the status is 0. -/
structure Ran (Server : Type) where
  server : Server
  printed : List Char
  ok : Bool

/-- `pactl`, with the server behind it. -/
structure Pactl (Server : Type) where
  run : Server → List (List Char) → Ran Server
  /-- The module of a number, by the arguments it was loaded with. -/
  modules : Server → Nat → Option (List (List Char))
  /-- The number under which the server loads a module with these arguments, or none. -/
  loads : Server → List (List Char) → Option Nat
  /-- The module of the first number may go when that of the second one is unloaded. -/
  needs : Nat → Nat → Prop

section Documentation

variable {Server : Type} (pactl : Pactl Server)

def Pactl.load (server : Server) (arguments : List (List Char)) : Ran Server :=
  pactl.run server ("load-module".toList :: arguments)

def Pactl.unload (server : Server) (number : Nat) : Ran Server :=
  pactl.run server ["unload-module".toList, decimal number]

/--
The manual: `load-module` prints the number of the module that it has loaded, and
`unload-module` unloads the module of a number, with what cannot do without it, or
fails.  A server does not give a number twice; it is taken to have given fewer
than 2^31.
-/
structure Documented : Prop where
  printed : ∀ server arguments, (pactl.load server arguments).printed =
    (pactl.loads server arguments).elim [] fun number => decimal number ++ ['\n']
  status : ∀ server arguments,
    (pactl.load server arguments).ok = (pactl.loads server arguments).isSome
  loaded : ∀ server arguments number,
    pactl.modules (pactl.load server arguments).server number =
      if pactl.loads server arguments = some number then some arguments
      else pactl.modules server number
  fresh : ∀ server arguments, ∀ number ∈ pactl.loads server arguments,
    pactl.modules server number = none
  range : ∀ server arguments, ∀ number ∈ pactl.loads server arguments, number < 2 ^ 31
  unloaded : ∀ server number other,
    pactl.modules (pactl.unload server number).server other = pactl.modules server other ∨
      (other = number ∨ pactl.needs other number) ∧
        pactl.modules (pactl.unload server number).server other = none

/-- The server does not refuse to unload a module. -/
def Obliging : Prop :=
  ∀ server number, pactl.modules (pactl.unload server number).server number = none

/-- The shell runs a command; no other program than `pactl` comes up. -/
def runShell (server : Server) (command : List Char) : Ran Server :=
  match Shell.readCommand command with
  | some (program :: arguments) =>
      if program = "pactl".toList then pactl.run server arguments else ⟨server, [], false⟩
  | some [] | none => ⟨server, [], false⟩

end Documentation

/-! ## `audio.c` -/

/-- Whether `popen` makes a process for each command, and whether `pa_simple_new` succeeds. -/
structure OpenCalls where
  sinkPopen : Bool
  remapPopen : Bool
  opened : Bool
deriving DecidableEq

/-- Whether `system` has a shell for each of the two commands of `unload_null_sink`. -/
structure UnloadCalls where
  sink : Bool
  remap : Bool
deriving DecidableEq

/-- `g_null_sink_module` and `g_remap_module`. -/
structure Statics where
  nullSink : Int32
  remap : Int32
deriving DecidableEq

def initialStatics : Statics where
  nullSink := -1
  remap := -1

/-- The first `cmd` of `ensure_null_sink`. -/
def nullSinkCommand (sinkName : List Char) : List Char :=
  snprintf 256 ("pactl load-module module-null-sink sink_name=".toList ++ sinkName ++
    " sink_properties=device.description=\"Kinect+Microphone\" rate=16000 channels=1".toList)

/-- The second one. -/
def remapCommand (sinkName : List Char) : List Char :=
  snprintf 256 ("pactl load-module module-remap-source master=".toList ++ sinkName ++
    ".monitor source_name=Kinect-Microphone ".toList ++
    "source_properties=device.description=\"Kinect Microphone\"".toList)

section Source

variable {Server : Type} (pactl : Pactl Server)

/-- `popen`, `fgets` into `line`, and `pclose`; nothing if there is no process. -/
def readLine (server : Server) (popen : Bool) (command : List Char) :
    Option (Option (List Char) × Bool) × Server :=
  if popen then
    let ran := runShell pactl server command
    (some (fgets 64 ran.printed, ran.ok), ran.server)
  else (none, server)

/-- The second half of `ensure_null_sink`, which sets `g_remap_module`. -/
def ensureRemap (sinkName : List Char) (popen : Bool) (statics : Statics) (server : Server) :
    Statics × Server :=
  let asked := readLine pactl server popen (remapCommand sinkName)
  match asked.1 with
  | some (some line, _) => ({ statics with remap := atoi line }, asked.2)
  | some (none, _) | none => (statics, asked.2)

/-- `ensure_null_sink`: what it returns, and the statics and the server after it. -/
def ensureNullSink (sinkName : List Char) (calls : OpenCalls) (statics : Statics)
    (server : Server) : Int32 × Statics × Server :=
  let asked := readLine pactl server calls.sinkPopen (nullSinkCommand sinkName)
  match asked.1 with
  | none => (-1, statics, asked.2)
  | some (line, ok) =>
      let moduleIdx := line.elim (-1) atoi
      if !ok || moduleIdx < 0 then (-1, statics, asked.2)
      else (moduleIdx, ensureRemap pactl sinkName calls.remapPopen statics asked.2)

def unloadCommand (moduleIdx : Int32) : List Char :=
  snprintf 128 ("pactl unload-module ".toList ++ decimal moduleIdx.toInt.toNat)

/-- `system` of the command, for a number that is not negative. -/
def unload (shell : Bool) (moduleIdx : Int32) (server : Server) : Server :=
  if 0 ≤ moduleIdx then
    if shell then (runShell pactl server (unloadCommand moduleIdx)).server else server
  else server

def unloadNullSink (calls : UnloadCalls) (moduleIdx : Int32) (statics : Statics)
    (server : Server) : Statics × Server :=
  let unloaded := unload pactl calls.sink moduleIdx server
  if 0 ≤ statics.remap then
    ({ statics with remap := -1 }, unload pactl calls.remap statics.remap unloaded)
  else (statics, unloaded)

/-- What `k4w_audio_pulse_open` leaves; `stream` tells whether it returns one. -/
structure Pulse (Server : Type) where
  stream : Bool
  statics : Statics
  server : Server

def k4wAudioPulseOpen (sourceName : List Char) (calls : OpenCalls) (unloads : UnloadCalls)
    (statics : Statics) (server : Server) : Pulse Server :=
  let ensured := ensureNullSink pactl sourceName calls statics server
  let statics := { ensured.2.1 with nullSink := ensured.1 }
  if calls.opened then ⟨true, statics, ensured.2.2⟩
  else
    let unloaded := unloadNullSink pactl unloads statics.nullSink statics ensured.2.2
    ⟨false, { unloaded.1 with nullSink := -1 }, unloaded.2⟩

/-- With and without a stream, the modules are unloaded in the same way. -/
def k4wAudioPulseClose (unloads : UnloadCalls) (statics : Statics) (server : Server) :
    Statics × Server :=
  let unloaded := unloadNullSink pactl unloads statics.nullSink statics server
  ({ unloaded.1 with nullSink := -1 }, unloaded.2)

end Source

/-! ## The name of the sink -/

/-- The name that `k4w_kinect_init` passes on. -/
def sourceName (env : Environment) : List Char :=
  textOf (k4wConfigLoad env).audioSource

/-- Whatever the default was, the array holds what there is room for of the variable. -/
theorem textOf_loadText {default : List Char} (hdefault : '\x00' ∉ default)
    (value : Option CString) :
    textOf (loadText default value) = (value.elim default CString.chars).take 127 := by
  have hblank : (List.replicate 128 '\x00')[127]? = some '\x00' := rfl
  cases value with
  | none => exact textOf_strncpy hblank hdefault
  | some text =>
      have harray := (getElem?_strncpy (List.replicate 128 '\x00') default 127).trans hblank
      exact textOf_strncpy harray text.noNull

theorem sourceName_eq (env : Environment) :
    sourceName env = (env.audioSource.elim "k4w-mic".toList CString.chars).take 127 :=
  textOf_loadText (by decide) env.audioSource

theorem length_sourceName_le (env : Environment) : (sourceName env).length ≤ 127 := by
  rw [sourceName_eq]
  exact List.length_take_le _ _

/-- The characters that PulseAudio allows in a name. -/
def isNameChar (char : Char) : Bool :=
  char.isAlphanum || char ∈ ['-', '_', '.']

/-- The characters that are not ordinary. -/
def specialChars : List Char :=
  [' ', '\t', '\n', ';', '&', '|', '<', '>', '(', ')', '\\', '\'', '"', '\x00']

theorem isOrdinary_of_isNameChar {char : Char} (hname : isNameChar char = true) :
    Shell.isOrdinary char = true := by
  have hnone : specialChars.any isNameChar = false := by decide
  by_contra hspecial
  have hmem : char ∈ specialChars := by
    simpa [specialChars, Shell.isOrdinary, Shell.isBlank, Shell.isOperator,
      Shell.isQuoting, or_iff_not_imp_left] using hspecial
  exact List.any_eq_false.mp hnone char hmem hname

/-! ## What the shell reads -/

/-- What the module of the sink is loaded with. -/
def sinkArguments (name : List Char) : List (List Char) :=
  ["module-null-sink".toList, "sink_name=".toList ++ name,
    "sink_properties=device.description=Kinect+Microphone".toList, "rate=16000".toList,
    "channels=1".toList]

/-- What the module of the source behind it is loaded with. -/
def remapArguments (name : List Char) : List (List Char) :=
  ["module-remap-source".toList, "master=".toList ++ name ++ ".monitor".toList,
    "source_name=Kinect-Microphone".toList,
    "source_properties=device.description=Kinect Microphone".toList]

section Commands

variable {name : List Char} (hname : ∀ char ∈ name, isNameChar char = true)

include hname

/-- A name between two plain texts is part of a plain word. -/
theorem plain_around {front back : List Char} (hfront : Shell.Plain front)
    (hback : back.all Shell.isOrdinary = true) : Shell.Plain (front ++ name ++ back) := by
  refine ⟨?_, ?_, ?_⟩
  · simp [hfront.nonempty]
  · intro char hchar
    rcases List.mem_append.mp hchar with hmem | hmem
    · rcases List.mem_append.mp hmem with hmem | hmem
      · exact hfront.ordinary char hmem
      · exact isOrdinary_of_isNameChar (hname char hmem)
    · exact List.all_eq_true.mp hback char hmem
  · rw [List.append_assoc, List.head?_append_of_ne_nil _ hfront.nonempty]
    exact hfront.noComment

/-- The words of the first command behind the name of the program. -/
def nullSinkWords (name : List Char) : List Shell.Spelling :=
  [.plain "load-module".toList, .plain "module-null-sink".toList,
    .plain ("sink_name=".toList ++ name),
    ⟨"sink_properties=device.description=".toList, some "Kinect+Microphone".toList⟩,
    .plain "rate=16000".toList, .plain "channels=1".toList]

/-- The first command is never cut off, and the shell reads its words. -/
theorem readCommand_nullSink (hlength : name.length ≤ 127) :
    Shell.readCommand (nullSinkCommand name) =
      some ("pactl".toList :: "load-module".toList :: sinkArguments name) := by
  have hwords : "pactl load-module module-null-sink sink_name=".toList ++ name ++
      " sink_properties=device.description=\"Kinect+Microphone\" rate=16000 channels=1".toList =
      Shell.unwords ("pactl".toList :: (nullSinkWords name).map Shell.Spelling.raw) := rfl
  have hfront : ("pactl load-module module-null-sink sink_name=".toList).length = 45 := rfl
  have hback :
      " sink_properties=device.description=\"Kinect+Microphone\" rate=16000 channels=1".toList.length
        = 77 := rfl
  rw [nullSinkCommand, snprintf_of_lt, hwords, Shell.readCommand_spelled (by decide) (by decide)
    (by decide)]
  · simp only [nullSinkWords, List.map_cons, List.map_nil, Shell.Spelling.text_plain]
    rfl
  · intro spelling hmem
    simp only [nullSinkWords, List.mem_cons, List.not_mem_nil, or_false] at hmem
    rcases hmem with rfl | rfl | rfl | rfl | rfl | rfl
    · decide
    · decide
    · have hplain := @plain_around _ hname "sink_name=".toList [] (by decide) rfl
      rw [List.append_nil] at hplain
      exact Shell.Spelling.plain_valid hplain
    · decide
    · decide
    · decide
  · rw [List.length_append, List.length_append, hfront, hback]
    omega

/-- The words of the second command before the one that ends in quotes. -/
def remapWords (name : List Char) : List (List Char) :=
  ["pactl".toList, "load-module".toList, "module-remap-source".toList,
    "master=".toList ++ name ++ ".monitor".toList, "source_name=Kinect-Microphone".toList]

/-- The second command up to the quotes. -/
def remapFront (name : List Char) : List Char :=
  Shell.unwords (remapWords name) ++ ' ' :: "source_properties=device.description=".toList

omit hname in
theorem remapCommand_eq (name : List Char) :
    remapCommand name = snprintf 256 (remapFront name ++
      '"' :: ("Kinect Microphone".toList ++ ['"'])) := by
  have htext : "pactl load-module module-remap-source master=".toList ++ name ++
      ".monitor source_name=Kinect-Microphone ".toList ++
      "source_properties=device.description=\"Kinect Microphone\"".toList =
      remapFront name ++ '"' :: ("Kinect Microphone".toList ++ ['"']) := by
    simp [remapFront, remapWords, Shell.unwords]
  rw [remapCommand, htext]

omit hname in
theorem length_remapFront (name : List Char) : (remapFront name).length = 121 + name.length := by
  simp [remapFront, remapWords, Shell.unwords]
  omega

theorem plain_remapWords : ∀ word ∈ remapWords name, Shell.Plain word := by
  intro word hmem
  simp only [remapWords, List.mem_cons, List.not_mem_nil, or_false] at hmem
  rcases hmem with rfl | rfl | rfl | rfl | rfl
  · decide
  · decide
  · decide
  · exact plain_around hname (by decide) (by decide)
  · decide

/-- The second command as a whole. -/
theorem readCommand_remap_short (hshort : name.length ≤ 115) :
    Shell.readCommand (remapCommand name) =
      some ("pactl".toList :: "load-module".toList :: remapArguments name) := by
  let spellings := (remapWords name).tail.map Shell.Spelling.plain ++
    [⟨"source_properties=device.description=".toList, some "Kinect Microphone".toList⟩]
  have hwords : remapFront name ++ '"' :: ("Kinect Microphone".toList ++ ['"']) =
      Shell.unwords ("pactl".toList :: spellings.map Shell.Spelling.raw) := by
    simp [spellings, remapFront, remapWords, Shell.unwords, Shell.Spelling.raw,
      Shell.Spelling.plain]
  have hvalid : ∀ spelling ∈ spellings, spelling.Valid := by
    intro spelling hmem
    rcases List.mem_append.mp hmem with hplain | hquoted
    · obtain ⟨word, hword, rfl⟩ := List.mem_map.mp hplain
      exact Shell.Spelling.plain_valid (plain_remapWords hname word (List.mem_of_mem_tail hword))
    · rw [List.mem_singleton.mp hquoted]
      decide
  rw [remapCommand_eq, snprintf_of_lt, hwords,
    Shell.readCommand_spelled (by decide) (by decide) (by decide) hvalid]
  · simp [spellings, remapWords, remapArguments, Shell.Spelling.text, Shell.Spelling.plain]
  · have hlength := length_remapFront name
    simp
    omega

/-- Cut off, it ends inside the quotes. -/
theorem readCommand_remap_long (hlong : 115 < name.length) (hlength : name.length ≤ 127) :
    Shell.readCommand (remapCommand name) = none := by
  have hfront := length_remapFront name
  have hquoted : ("Kinect Microphone".toList).length = 17 := rfl
  obtain ⟨room, hcut⟩ : ∃ room, 255 - (remapFront name).length = room + 1 :=
    ⟨133 - name.length, by omega⟩
  have hcommand : remapCommand name = Shell.unwords (remapWords name) ++
      ' ' :: ("source_properties=device.description=".toList ++
        '"' :: "Kinect Microphone".toList.take room) := by
    rw [remapCommand_eq, snprintf, List.take_append, List.take_of_length_le (by omega), hcut,
      List.take_succ_cons, List.take_append_of_le_length (by omega), remapFront, List.append_assoc,
      List.cons_append]
  have hplain : ("Kinect Microphone".toList).all Shell.isPlainInDouble = true := by decide
  rw [hcommand]
  exact Shell.readCommand_unclosed (List.cons_ne_nil _ _) (plain_remapWords hname) (by decide)
    fun char hmem => List.all_eq_true.mp hplain char (List.mem_of_mem_take hmem)

omit hname in
/-- The command that unloads a module. -/
theorem readCommand_unload (moduleIdx : Int32) {number : Nat} (hnumber : number < 2 ^ 31)
    (hidx : moduleIdx.toInt = number) : Shell.readCommand (unloadCommand moduleIdx) =
      some ["pactl".toList, "unload-module".toList, decimal number] := by
  have hlength := length_decimal_le hnumber
  have hfront : ("pactl unload-module ".toList).length = 20 := rfl
  have hplain : Shell.Plain (decimal number) := by
    refine ⟨decimal_ne_nil number, ?_, ?_⟩
    · intro char hmem
      exact isOrdinary_of_isNameChar (by simp [isNameChar, Char.isAlphanum, isDigit_decimal hmem])
    · intro hhash
      cases isDigit_decimal (List.mem_of_mem_head? (Option.mem_def.mpr hhash))
  have hwords : "pactl unload-module ".toList ++ decimal number =
      Shell.unwords ["pactl".toList, "unload-module".toList, decimal number] := rfl
  rw [unloadCommand, hidx, Int.toNat_natCast, snprintf_of_lt, hwords]
  · refine (Shell.readCommand_unwords_iff _ _).mpr ⟨?_, by decide, by decide⟩
    simp only [List.forall_mem_cons]
    exact ⟨by decide, by decide, hplain, List.forall_mem_nil _⟩
  · rw [List.length_append, hfront]
    omega

end Commands

/-! ## Numbers -/

/-- The static holds the number, or -1. -/
def Records (moduleIdx : Int32) (number : Option Nat) : Prop :=
  moduleIdx.toInt = number.elim (-1) Nat.cast

theorem records_initial : Records (-1) none := rfl

theorem Records.nonneg_iff {moduleIdx : Int32} {number : Option Nat}
    (hrecords : Records moduleIdx number) : 0 ≤ moduleIdx ↔ number.isSome = true := by
  have hzero : (0 : Int32).toInt = 0 := rfl
  rw [Int32.le_iff_toInt_le, hzero, hrecords]
  cases number with
  | none => simp
  | some number => simp

theorem Records.decide_nonneg {moduleIdx : Int32} {number : Option Nat}
    (hrecords : Records moduleIdx number) : decide (0 ≤ moduleIdx) = number.isSome := by
  cases number with
  | none => exact decide_eq_false (mt hrecords.nonneg_iff.mp Bool.false_ne_true)
  | some number => exact decide_eq_true (hrecords.nonneg_iff.mpr rfl)

/-- What was printed is read back. -/
theorem records_printed {number : Nat} (hnumber : number < 2 ^ 31) :
    Records (atoi (decimal number ++ ['\n'])) (some number) := by
  apply atoi_decimal hnumber
  intro char hchar
  cases hchar
  rfl

/-! ## Loading -/

/-- The numbers of the two modules that are loaded. -/
structure Loaded where
  sink : Option Nat
  remap : Option Nat
deriving DecidableEq

def Loaded.has (loaded : Loaded) (number : Nat) : Prop :=
  loaded.sink = some number ∨ loaded.remap = some number

/-- Nothing of this number is unloaded with them. -/
def Loaded.spares {Server : Type} (loaded : Loaded) (pactl : Pactl Server) (number : Nat) :
    Prop :=
  ∀ given, loaded.has given → number ≠ given ∧ ¬pactl.needs number given

theorem Loaded.not_has_of_spares {Server : Type} {loaded : Loaded} {pactl : Pactl Server}
    {number : Nat} (hspares : loaded.spares pactl number) : ¬loaded.has number :=
  fun hhas => (hspares number hhas).1 rfl

section Loads

variable {Server : Type} (pactl : Pactl Server) (name : List Char)

/--
The server is asked for the sink, and for the source behind it, unless there is no
sink or the second command is cut off.
-/
def loadedBy (calls : OpenCalls) (server : Server) : Loaded :=
  let sink := if calls.sinkPopen then pactl.loads server (sinkArguments name) else none
  let behind := (pactl.load server (sinkArguments name)).server
  { sink := sink
    remap :=
      if sink.isSome ∧ calls.remapPopen ∧ name.length ≤ 115 then
        pactl.loads behind (remapArguments name)
      else none }

/-- What the statics and the server hold behind a stream. -/
structure Opened (loaded : Loaded) (before : Server) (statics : Statics) (after : Server) :
    Prop where
  nullSink : Records statics.nullSink loaded.sink
  remap : Records statics.remap loaded.remap
  modules : ∀ number, pactl.modules after number =
    if loaded.remap = some number then some (remapArguments name)
    else if loaded.sink = some number then some (sinkArguments name)
    else pactl.modules before number

variable {pactl name} (hpactl : Documented pactl)

include hpactl

/-- The line of a command that loads a module. -/
theorem fgets_printed (server : Server) (arguments : List (List Char)) :
    fgets 64 (pactl.load server arguments).printed =
      (pactl.loads server arguments).map fun number => decimal number ++ ['\n'] := by
  rw [hpactl.printed]
  cases hloads : pactl.loads server arguments with
  | none => rfl
  | some number => exact fgets_decimal (hpactl.range server arguments number hloads) (by decide)

theorem records_loads (server : Server) (arguments : List (List Char)) :
    Records (((pactl.loads server arguments).map fun number => decimal number ++ ['\n']).elim (-1)
      atoi) (pactl.loads server arguments) := by
  cases hloads : pactl.loads server arguments with
  | none => exact records_initial
  | some number => exact records_printed (hpactl.range server arguments number hloads)

/-- The numbers are new, and `atoi` can read them. -/
theorem loadedBy_new {calls : OpenCalls} {server : Server} {number : Nat}
    (hhas : (loadedBy pactl name calls server).has number) :
    number < 2 ^ 31 ∧ pactl.modules server number = none := by
  rcases hhas with hsink | hremap
  · obtain ⟨-, hloads⟩ := Option.ite_none_right_eq_some.mp hsink
    exact ⟨hpactl.range _ _ number hloads, hpactl.fresh _ _ number hloads⟩
  · obtain ⟨-, hloads⟩ := Option.ite_none_right_eq_some.mp hremap
    have hfresh := hpactl.fresh _ _ number hloads
    rw [hpactl.loaded] at hfresh
    split at hfresh
    · cases hfresh
    · exact ⟨hpactl.range _ _ number hloads, hfresh⟩

section Running

variable (hname : ∀ char ∈ name, isNameChar char = true) (hlength : name.length ≤ 127)

include hname hlength

omit hpactl in
theorem runShell_nullSink (server : Server) :
    runShell pactl server (nullSinkCommand name) = pactl.load server (sinkArguments name) := by
  rw [runShell, readCommand_nullSink hname hlength]
  rfl

omit hpactl in
theorem runShell_remap (server : Server) :
    runShell pactl server (remapCommand name) =
      if name.length ≤ 115 then pactl.load server (remapArguments name)
      else ⟨server, [], false⟩ := by
  by_cases hshort : name.length ≤ 115
  · rw [runShell, readCommand_remap_short hname hshort, if_pos hshort]
    rfl
  · rw [runShell, readCommand_remap_long hname (by omega) hlength, if_neg hshort]

/-- What `g_remap_module` and the server hold when the sink has been loaded. -/
theorem ensureRemap_spec (popen : Bool) (server : Server) :
    let number := if popen ∧ name.length ≤ 115 then pactl.loads server (remapArguments name)
      else none
    let ensured := ensureRemap pactl name popen initialStatics server
    Records ensured.1.remap number ∧
      ∀ other, pactl.modules ensured.2 other =
        if number = some other then some (remapArguments name)
        else pactl.modules server other := by
  have hskipped : Records initialStatics.remap none ∧ ∀ other, pactl.modules server other =
      if none = some other then some (remapArguments name) else pactl.modules server other :=
    ⟨records_initial, fun _ => rfl⟩
  by_cases hpopen : popen = true
  · by_cases hshort : name.length ≤ 115
    · have hrecords := records_loads hpactl server (remapArguments name)
      have hmodules := hpactl.loaded server (remapArguments name)
      simp only [ensureRemap, readLine, runShell_remap hname hlength, fgets_printed hpactl, hpopen,
        hshort, and_self, if_true]
      cases hloads : pactl.loads server (remapArguments name) with
      | none =>
          rw [hloads] at hmodules
          exact ⟨records_initial, hmodules⟩
      | some number =>
          rw [hloads] at hrecords hmodules
          exact ⟨hrecords, hmodules⟩
    · simp only [ensureRemap, readLine, if_pos hpopen, runShell_remap hname hlength, hshort,
        and_false, if_false]
      exact hskipped
  · simp only [ensureRemap, readLine, hpopen]
    exact hskipped

theorem readLine_nullSink (server : Server) :
    readLine pactl server true (nullSinkCommand name) =
      (some ((pactl.loads server (sinkArguments name)).map fun number => decimal number ++ ['\n'],
        (pactl.loads server (sinkArguments name)).isSome),
        (pactl.load server (sinkArguments name)).server) := by
  rw [← fgets_printed hpactl, ← hpactl.status, readLine, if_pos rfl,
    runShell_nullSink hname hlength]

/-- Without the sink nothing is loaded. -/
theorem ensureNullSink_none {calls : OpenCalls} {server : Server}
    (hnone : calls.sinkPopen = true → pactl.loads server (sinkArguments name) = none) :
    let ensured := ensureNullSink pactl name calls initialStatics server
    loadedBy pactl name calls server = ⟨none, none⟩ ∧ ensured.1 = -1 ∧
      ensured.2.1 = initialStatics ∧
      ∀ number, pactl.modules ensured.2.2 number = pactl.modules server number := by
  by_cases hpopen : calls.sinkPopen = true
  · have hloads := hnone hpopen
    have hread := readLine_nullSink hpactl hname hlength server
    have hmodules := hpactl.loaded server (sinkArguments name)
    rw [hloads] at hread hmodules
    rw [ensureNullSink, hpopen, hread]
    exact ⟨by simp [loadedBy, hloads], rfl, rfl, hmodules⟩
  · have hfails : calls.sinkPopen = false := Bool.eq_false_iff.mpr hpopen
    rw [ensureNullSink, readLine, hfails]
    exact ⟨by simp [loadedBy, hfails], rfl, rfl, fun _ => rfl⟩

/-- Behind the sink, the source: what the statics and the server hold. -/
theorem ensureNullSink_spec (calls : OpenCalls) (server : Server) :
    let ensured := ensureNullSink pactl name calls initialStatics server
    Opened pactl name (loadedBy pactl name calls server) server ⟨ensured.1, ensured.2.1.remap⟩
      ensured.2.2 := by
  intro ensured
  by_cases hsome : calls.sinkPopen = true ∧ ∃ number,
      pactl.loads server (sinkArguments name) = some number
  · obtain ⟨hpopen, number, hloads⟩ := hsome
    have hread := readLine_nullSink hpactl hname hlength server
    have hmodules := hpactl.loaded server (sinkArguments name)
    rw [hloads] at hread hmodules
    have hprinted := records_printed (hpactl.range server _ number hloads)
    have hok : ¬(!true || decide (atoi (decimal number ++ ['\n']) < 0)) = true := by
      rw [decide_eq_false (Int32.not_lt.mpr (hprinted.nonneg_iff.mpr rfl))]
      decide
    let behind := (pactl.load server (sinkArguments name)).server
    have hensured : ensured = (atoi (decimal number ++ ['\n']),
        ensureRemap pactl name calls.remapPopen initialStatics behind) := by
      change ensureNullSink pactl name calls initialStatics server = _
      rw [ensureNullSink, hpopen, hread]
      exact if_neg hok
    have hloaded : loadedBy pactl name calls server = ⟨some number,
        if calls.remapPopen ∧ name.length ≤ 115 then pactl.loads behind (remapArguments name)
        else none⟩ := by
      simp [loadedBy, hpopen, hloads, behind]
    obtain ⟨hremap, hbehind⟩ := ensureRemap_spec hpactl hname hlength calls.remapPopen behind
    rw [hensured, hloaded]
    exact ⟨hprinted, hremap, fun other => by rw [hbehind other, hmodules other]⟩
  · have hnone : calls.sinkPopen = true → pactl.loads server (sinkArguments name) = none := by
      intro hpopen
      by_contra hne
      exact hsome ⟨hpopen, Option.ne_none_iff_exists'.mp hne⟩
    obtain ⟨hloaded, hidx, hstatics, hmodules⟩ :=
      ensureNullSink_none hpactl hname hlength hnone
    change ensured.1 = -1 at hidx
    change ensured.2.1 = initialStatics at hstatics
    rw [hloaded, hidx, hstatics]
    exact ⟨records_initial, records_initial, hmodules⟩

end Running

end Loads

/-! ## Unloading -/

section Unloads

variable {Server : Type} (pactl : Pactl Server)

/-- Of the modules only these were unloaded, with what needs them, and all if nothing failed. -/
structure Unloaded (unloads : UnloadCalls) (loaded : Loaded) (before after : Server) : Prop where
  spared : ∀ number, loaded.spares pactl number →
    pactl.modules after number = pactl.modules before number
  gone : Obliging pactl → unloads = ⟨true, true⟩ → ∀ number, loaded.has number →
    pactl.modules after number = none

variable {pactl} {loaded : Loaded} (hrange : ∀ number, loaded.has number → number < 2 ^ 31)

/-- The command, for a static that records the number. -/
theorem unload_records (shell : Bool) {moduleIdx : Int32} {number : Option Nat}
    (hrecords : Records moduleIdx number) (hnumber : ∀ given ∈ number, given < 2 ^ 31)
    (server : Server) : unload pactl shell moduleIdx server =
      match number with
      | some given => if shell then (pactl.unload server given).server else server
      | none => server := by
  cases number with
  | none => exact if_neg (mt hrecords.nonneg_iff.mp Bool.false_ne_true)
  | some given =>
      rw [unload, if_pos (hrecords.nonneg_iff.mpr rfl), runShell,
        readCommand_unload moduleIdx (hnumber given rfl) hrecords]
      rfl

/-- One command leaves a module as it is, or unloads it with that of the number. -/
theorem unload_cases (hpactl : Documented pactl) (shell : Bool) {moduleIdx : Int32}
    {number : Option Nat} (hrecords : Records moduleIdx number)
    (hnumber : ∀ given ∈ number, given < 2 ^ 31) (server : Server) (other : Nat) :
    let after := unload pactl shell moduleIdx server
    pactl.modules after other = pactl.modules server other ∨
      (∃ given, number = some given ∧ (other = given ∨ pactl.needs other given)) ∧
        pactl.modules after other = none := by
  intro after
  change pactl.modules (unload pactl shell moduleIdx server) other = _ ∨
    _ ∧ pactl.modules (unload pactl shell moduleIdx server) other = none
  rw [unload_records shell hrecords hnumber]
  cases number with
  | none => exact .inl rfl
  | some given =>
      dsimp only
      split
      · exact (hpactl.unloaded server given other).imp_right fun hgone =>
          ⟨⟨given, rfl, hgone.1⟩, hgone.2⟩
      · exact .inl rfl

theorem unload_gone (hobliging : Obliging pactl) {moduleIdx : Int32} {number : Nat}
    (hrecords : Records moduleIdx (some number)) (hnumber : number < 2 ^ 31) (server : Server) :
    pactl.modules (unload pactl true moduleIdx server) number = none := by
  have hgiven : ∀ given ∈ some number, given < 2 ^ 31 := by
    rintro given ⟨⟩
    exact hnumber
  rw [unload_records true hrecords hgiven]
  exact hobliging server number

/-- Whether or not `g_remap_module` is set, it is as if both commands were given. -/
theorem unloadNullSink_eq {statics : Statics} (hremap : Records statics.remap loaded.remap)
    (unloads : UnloadCalls) (moduleIdx : Int32) (server : Server) :
    unloadNullSink pactl unloads moduleIdx statics server =
      ({ statics with remap := -1 }, unload pactl unloads.remap statics.remap
        (unload pactl unloads.sink moduleIdx server)) := by
  rw [unloadNullSink]
  split
  case isTrue => rfl
  case isFalse hneg =>
      -- nothing is unloaded, and the static is -1 already
      have hinitial : statics.remap = -1 := by
        cases hloaded : loaded.remap with
        | none =>
            rw [hloaded] at hremap
            exact Int32.toInt_inj.mp hremap
        | some number =>
            rw [hloaded] at hremap
            exact absurd (hremap.nonneg_iff.mpr rfl) hneg
      have hskipped : unload pactl unloads.remap statics.remap
          (unload pactl unloads.sink moduleIdx server) =
          unload pactl unloads.sink moduleIdx server := if_neg hneg
      rw [hskipped, ← hinitial]

include hrange

/-- Both commands, the second one for `g_remap_module`. -/
theorem unloadNullSink_spec (hpactl : Documented pactl) (unloads : UnloadCalls)
    {moduleIdx : Int32} {statics : Statics} (hsink : Records moduleIdx loaded.sink)
    (hremap : Records statics.remap loaded.remap) (server : Server) :
    Unloaded pactl unloads loaded server
      (unloadNullSink pactl unloads moduleIdx statics server).2 := by
  have hsinkRange : ∀ given ∈ loaded.sink, given < 2 ^ 31 :=
    fun given hgiven => hrange given (.inl hgiven)
  have hremapRange : ∀ given ∈ loaded.remap, given < 2 ^ 31 :=
    fun given hgiven => hrange given (.inr hgiven)
  have hfirst := unload_cases hpactl unloads.sink hsink hsinkRange server
  have hsecond := unload_cases hpactl unloads.remap hremap hremapRange
    (unload pactl unloads.sink moduleIdx server)
  rw [unloadNullSink_eq hremap]
  constructor
  · intro number hspares
    have hsame : ∀ given, loaded.has given → ¬(number = given ∨ pactl.needs number given) :=
      fun given hhas => not_or.mpr (hspares given hhas)
    refine ((hsecond number).resolve_right ?_).trans ((hfirst number).resolve_right ?_)
    · rintro ⟨⟨given, hgiven, htouched⟩, -⟩
      exact hsame given (.inr hgiven) htouched
    · rintro ⟨⟨given, hgiven, htouched⟩, -⟩
      exact hsame given (.inl hgiven) htouched
  · rintro hobliging rfl number hhas
    rcases hhas with hgiven | hgiven
    · -- the second command does not load it again
      rw [hgiven] at hsink
      have hgone := unload_gone hobliging hsink (hsinkRange number hgiven) server
      exact (hsecond number).elim (fun hkept => hkept.trans hgone) And.right
    · rw [hgiven] at hremap
      exact unload_gone hobliging hremap (hremapRange number hgiven) _

end Unloads

/-! ## The sink from the configuration to the end -/

/-- What the ledger of the daemon is told about the commands. -/
def answersOf (calls : OpenCalls) (loaded : Loaded) : Lifecycle.PulseAnswers where
  nullSink := ⟨calls.sinkPopen, loaded.sink.isSome⟩
  remap := ⟨calls.remapPopen, loaded.remap.isSome⟩
  opened := calls.opened

section Ends

variable {Server : Type} {pactl : Pactl Server} {name : List Char}

theorem ledger_ensured (calls : OpenCalls) (server : Server) :
    let loaded := loadedBy pactl name calls server
    (Lifecycle.ensureNullSink (answersOf calls loaded)).1 =
      (loaded.sink.isSome, loaded.remap.isSome) := by
  intro loaded
  have hsink : calls.sinkPopen = false → loaded.sink = none := by
    intro hfails
    exact if_neg (by rw [hfails]; exact Bool.false_ne_true)
  have hremap : calls.remapPopen = false ∨ loaded.sink = none → loaded.remap = none := by
    refine fun hor => if_neg fun hall => ?_
    rcases hor with hfails | hnone
    · exact Bool.false_ne_true (hfails.symm.trans hall.2.1)
    · exact Bool.false_ne_true ((congrArg Option.isSome hnone).symm.trans hall.1)
  unfold Lifecycle.ensureNullSink Lifecycle.loadModule answersOf
  cases hpopen : calls.sinkPopen with
  | false => simp [hsink hpopen, hremap (.inr (hsink hpopen))]
  | true =>
      cases hloaded : loaded.sink with
      | none => simp [hremap (.inr hloaded)]
      | some number =>
          cases hremapPopen : calls.remapPopen with
          | false => simp [hremap (.inl hremapPopen)]
          | true => cases loaded.remap <;> simp

theorem ledger_pulse (calls : OpenCalls) (server : Server) :
    let loaded := loadedBy pactl name calls server
    (Lifecycle.k4wAudioPulseOpen (answersOf calls loaded)).1 =
      if calls.opened then ⟨true, loaded.sink.isSome, loaded.remap.isSome⟩
      else Lifecycle.Pulse.none := by
  intro loaded
  have hledger := @ledger_ensured _ pactl name calls server
  rw [Lifecycle.k4wAudioPulseOpen, hledger]
  exact apply_ite Prod.fst _ _ _

/-- What was loaded stays for a stream. -/
theorem k4wAudioPulseOpen_opened {calls : OpenCalls} (hopened : calls.opened = true)
    (unloads : UnloadCalls) (server : Server) :
    let ensured := ensureNullSink pactl name calls initialStatics server
    k4wAudioPulseOpen pactl name calls unloads initialStatics server =
      ⟨true, ⟨ensured.1, ensured.2.1.remap⟩, ensured.2.2⟩ :=
  if_pos hopened

/-- What was loaded is unloaded again when there is none. -/
theorem k4wAudioPulseOpen_failed {calls : OpenCalls} (hfailed : calls.opened = false)
    (unloads : UnloadCalls) {server : Server} {loaded : Loaded}
    (hremap : Records (ensureNullSink pactl name calls initialStatics server).2.1.remap
      loaded.remap) :
    let ensured := ensureNullSink pactl name calls initialStatics server
    k4wAudioPulseOpen pactl name calls unloads initialStatics server =
      ⟨false, initialStatics, (unloadNullSink pactl unloads ensured.1
        ⟨ensured.1, ensured.2.1.remap⟩ ensured.2.2).2⟩ := by
  intro ensured
  let statics : Statics := ⟨ensured.1, ensured.2.1.remap⟩
  have hrecords : Records statics.remap loaded.remap := hremap
  have hstatics : (unloadNullSink pactl unloads ensured.1 statics ensured.2.2).1 =
      ⟨ensured.1, -1⟩ := by
    rw [unloadNullSink_eq hrecords]
  have hclosed : ¬calls.opened = true := by
    rw [hfailed]
    exact Bool.false_ne_true
  refine (if_neg hclosed).trans ?_
  change (⟨false, { (unloadNullSink pactl unloads _ _ _).1 with nullSink := -1 }, _⟩ :
    Pulse Server) = _
  rw [hstatics]
  rfl

end Ends

/-- A stream has both modules behind it; without one none is left, unless unloading fails. -/
def AfterOpen {Server : Type} (pactl : Pactl Server) (name : List Char) (calls : OpenCalls)
    (unloads : UnloadCalls) (before : Server) (pulse : Pulse Server) : Prop :=
  let loaded := loadedBy pactl name calls before
  if calls.opened then Opened pactl name loaded before pulse.statics pulse.server
  else pulse.statics = initialStatics ∧ Unloaded pactl unloads loaded before pulse.server

/-- Whatever others have done to the server, closing unloads what the stream had behind it. -/
def AfterClose {Server : Type} (pactl : Pactl Server) (loaded : Loaded) (statics : Statics) :
    Prop :=
  ∀ unloads later, (k4wAudioPulseClose pactl unloads statics later).1 = initialStatics ∧
    Unloaded pactl unloads loaded later (k4wAudioPulseClose pactl unloads statics later).2

section Outcomes

variable {Server : Type} {pactl : Pactl Server} (hpactl : Documented pactl)

include hpactl

theorem afterClose {loaded : Loaded} (hrange : ∀ number, loaded.has number → number < 2 ^ 31)
    {statics : Statics} (hsink : Records statics.nullSink loaded.sink)
    (hremap : Records statics.remap loaded.remap) : AfterClose pactl loaded statics := by
  intro unloads later
  refine ⟨?_, unloadNullSink_spec hrange hpactl unloads hsink hremap later⟩
  rw [k4wAudioPulseClose, unloadNullSink_eq hremap]
  rfl

/-- There is nothing to unload when there is no stream. -/
theorem afterClose_initial : AfterClose pactl ⟨none, none⟩ initialStatics := by
  have hnothing : ∀ number, (⟨none, none⟩ : Loaded).has number → number < 2 ^ 31 := by
    rintro number (hsink | hremap)
    · cases hsink
    · cases hremap
  exact afterClose hpactl hnothing records_initial records_initial

omit hpactl in
/-- What was loaded for a stream that fails is unloaded from the server as it was before. -/
theorem unloaded_before {name : List Char} {loaded : Loaded} {before ensured after : Server}
    {statics : Statics} {unloads : UnloadCalls}
    (hopened : Opened pactl name loaded before statics ensured)
    (hunloaded : Unloaded pactl unloads loaded ensured after) :
    Unloaded pactl unloads loaded before after := by
  refine ⟨fun number hspares => ?_, hunloaded.gone⟩
  obtain ⟨hnotSink, hnotRemap⟩ := not_or.mp (Loaded.not_has_of_spares hspares)
  rw [hunloaded.spared number hspares, hopened.modules, if_neg hnotRemap, if_neg hnotSink]

end Outcomes

/--
With a name that PulseAudio allows, the commands load the sink of this name and,
unless the name is too long for them, the source behind it; closing, and a failure
of `pa_simple_new`, unload what has the numbers that were printed, and spare what
can do without.  The ledger of the daemon knows which modules are loaded.
-/
theorem pulse_modules {Server : Type} {pactl : Pactl Server} (hpactl : Documented pactl)
    (env : Environment) (hname : ∀ char ∈ sourceName env, isNameChar char = true)
    (calls : OpenCalls) (unloads : UnloadCalls) (server : Server) :
    let name := sourceName env
    let loaded := loadedBy pactl name calls server
    let pulse := k4wAudioPulseOpen pactl name calls unloads initialStatics server
    name = (env.audioSource.elim "k4w-mic".toList CString.chars).take 127 ∧
      pulse.stream = calls.opened ∧
      AfterOpen pactl name calls unloads server pulse ∧
      AfterClose pactl (if calls.opened then loaded else ⟨none, none⟩) pulse.statics ∧
      (⟨pulse.stream, decide (0 ≤ pulse.statics.nullSink), decide (0 ≤ pulse.statics.remap)⟩ :
          Lifecycle.Pulse) =
        (Lifecycle.k4wAudioPulseOpen (answersOf calls loaded)).1 := by
  intro name loaded pulse
  let ensured := ensureNullSink pactl name calls initialStatics server
  have hensured : Opened pactl name loaded server ⟨ensured.1, ensured.2.1.remap⟩ ensured.2.2 :=
    ensureNullSink_spec hpactl hname (length_sourceName_le env) calls server
  have hrange : ∀ number, loaded.has number → number < 2 ^ 31 :=
    fun number hhas => (loadedBy_new hpactl hhas).1
  rw [AfterOpen, ledger_pulse]
  refine ⟨sourceName_eq env, ?_⟩
  cases hopened : calls.opened with
  | true =>
      have hpulse := @k4wAudioPulseOpen_opened _ pactl name calls hopened unloads server
      rw [show pulse = _ from hpulse, if_pos rfl, if_pos rfl, if_pos rfl, Lifecycle.Pulse.mk.injEq]
      exact ⟨rfl, hensured, afterClose hpactl hrange hensured.nullSink hensured.remap, rfl,
        hensured.nullSink.decide_nonneg, hensured.remap.decide_nonneg⟩
  | false =>
      have hpulse := k4wAudioPulseOpen_failed hopened unloads hensured.remap
      rw [show pulse = _ from hpulse, if_neg Bool.false_ne_true, if_neg Bool.false_ne_true,
        if_neg Bool.false_ne_true]
      have hunloaded := unloadNullSink_spec hrange hpactl unloads hensured.nullSink hensured.remap
        ensured.2.2
      exact ⟨rfl, ⟨rfl, unloaded_before hensured hunloaded⟩, afterClose_initial hpactl, rfl⟩

/-! ## A small server -/

structure SmallServer where
  modules : List (Nat × List (List Char))
  /-- The kinds of modules that can be loaded. -/
  kinds : List (List Char)

/-- The number after all that are in use. -/
def SmallServer.next (server : SmallServer) : Nat :=
  server.modules.foldr (fun module number => max (module.1 + 1) number) 0

def SmallServer.loads (server : SmallServer) (arguments : List (List Char)) : Option Nat :=
  if server.kinds.any (fun kind => arguments.head? == some kind) ∧ server.next < 2 ^ 31 then
    some server.next
  else none

def SmallServer.run (server : SmallServer) : List (List Char) → Ran SmallServer
  | [] => ⟨server, [], false⟩
  | verb :: arguments =>
      if verb = "load-module".toList then
        match server.loads arguments with
        | some number =>
            ⟨{ server with modules := server.modules ++ [(number, arguments)] },
              decimal number ++ ['\n'], true⟩
        | none => ⟨server, [], false⟩
      else if verb = "unload-module".toList then
        ⟨{ server with modules := server.modules.filter fun module =>
            !(arguments.map readDigits).contains module.1 }, [], true⟩
      else ⟨server, [], false⟩

def smallPactl : Pactl SmallServer where
  run := SmallServer.run
  modules := fun server number =>
    (server.modules.find? fun module => module.1 == number).map Prod.snd
  loads := SmallServer.loads
  needs := fun _ _ => False

theorem lt_next {server : SmallServer} {module : Nat × List (List Char)}
    (hmem : module ∈ server.modules) : module.1 < server.next := by
  unfold SmallServer.next
  generalize server.modules = modules at hmem ⊢
  induction modules with
  | nil => cases hmem
  | cons first rest ih =>
      rw [List.foldr_cons]
      rcases List.mem_cons.mp hmem with rfl | hrest
      · exact Nat.lt_of_lt_of_le (Nat.lt_succ_self _) (Nat.le_max_left _ _)
      · exact Nat.lt_of_lt_of_le (ih hrest) (Nat.le_max_right _ _)

theorem loads_eq_some {server : SmallServer} {arguments : List (List Char)} {number : Nat}
    (hloads : server.loads arguments = some number) : number = server.next ∧ number < 2 ^ 31 := by
  obtain ⟨⟨-, hrange⟩, hnext⟩ := Option.ite_none_right_eq_some.mp hloads
  cases hnext
  exact ⟨rfl, hrange⟩

theorem small_fresh {server : SmallServer} {arguments : List (List Char)} {number : Nat}
    (hloads : server.loads arguments = some number) :
    server.modules.find? (fun module => module.1 == number) = none := by
  rw [List.find?_eq_none]
  intro module hmem hsame
  have hlt := lt_next hmem
  rw [beq_iff_eq.mp hsame, (loads_eq_some hloads).1] at hlt
  exact Nat.lt_irrefl _ hlt

theorem small_load (server : SmallServer) (arguments : List (List Char)) :
    smallPactl.load server arguments =
      match server.loads arguments with
      | some number =>
          ⟨{ server with modules := server.modules ++ [(number, arguments)] },
            decimal number ++ ['\n'], true⟩
      | none => ⟨server, [], false⟩ :=
  rfl

theorem small_unload (server : SmallServer) (number : Nat) :
    (smallPactl.unload server number).server =
      { server with modules := server.modules.filter fun module => module.1 != number } := by
  have hdigits := @readDigits_decimal number [] (by simp)
  rw [List.append_nil] at hdigits
  change { server with modules := server.modules.filter fun module =>
    !([decimal number].map readDigits).contains module.1 } = _
  rw [List.map_singleton, hdigits]
  congr 2
  funext module
  simp only [List.contains_cons, List.contains_nil, Bool.or_false]
  rfl

theorem documented_small : Documented smallPactl where
  printed := by
    intro server arguments
    rw [small_load]
    change _ = (server.loads arguments).elim _ _
    cases server.loads arguments <;> rfl
  status := by
    intro server arguments
    rw [small_load]
    change _ = (server.loads arguments).isSome
    cases server.loads arguments <;> rfl
  loaded := by
    intro server arguments number
    rw [small_load]
    change _ = if server.loads arguments = some number then _ else _
    cases hloads : server.loads arguments with
    | none => rfl
    | some given =>
        dsimp only [smallPactl]
        rw [List.find?_append]
        by_cases hsame : given = number
        · rw [hsame] at hloads
          simp [hsame, small_fresh hloads]
        · simp [hsame]
  fresh := by
    intro server arguments number hloads
    exact congrArg (Option.map Prod.snd) (small_fresh hloads)
  range := fun server arguments number hloads => (loads_eq_some hloads).2
  unloaded := by
    intro server number other
    rw [small_unload]
    dsimp only [smallPactl]
    rw [List.find?_filter]
    by_cases hother : other = number
    · right
      rw [hother, List.find?_eq_none.mpr]
      · exact ⟨.inl rfl, rfl⟩
      · simp
    · left
      congr 2
      funext module
      by_cases hsame : module.1 = other
      · simp [hsame, hother]
      · simp [hsame]

theorem obliging_small : Obliging smallPactl := by
  intro server number
  rw [small_unload]
  dsimp only [smallPactl]
  rw [List.find?_filter, List.find?_eq_none.mpr]
  · rfl
  · simp

def studio : Environment where
  v4l2Device := none
  audioSource := some ⟨"studio".toList, by decide⟩
  noV4l2 := none
  noAudio := none

def oneModule : SmallServer where
  modules := [(7, ["module-udev-detect".toList])]
  kinds := ["module-null-sink".toList, "module-remap-source".toList]

/-- A server that has no module for the source. -/
def noRemap : SmallServer :=
  { oneModule with kinds := ["module-null-sink".toList] }

theorem pulse_modules_studio :
    let pulse := k4wAudioPulseOpen smallPactl (sourceName studio) ⟨true, true, true⟩ ⟨true, true⟩
      initialStatics oneModule
    let failed := k4wAudioPulseOpen smallPactl (sourceName studio) ⟨true, true, false⟩ ⟨true, true⟩
      initialStatics noRemap
    Opened smallPactl "studio".toList ⟨some 8, some 9⟩ oneModule pulse.statics pulse.server ∧
      AfterClose smallPactl ⟨some 8, some 9⟩ pulse.statics ∧
      failed.statics = initialStatics ∧ smallPactl.modules failed.server 8 = none ∧
      smallPactl.modules failed.server 7 = some ["module-udev-detect".toList] := by
  intro pulse failed
  have hname : (sourceName studio).all isNameChar = true := by decide
  have hboth := pulse_modules documented_small studio (List.all_eq_true.mp hname)
    ⟨true, true, true⟩ ⟨true, true⟩ oneModule
  have hnone := pulse_modules documented_small studio (List.all_eq_true.mp hname)
    ⟨true, true, false⟩ ⟨true, true⟩ noRemap
  have hunloaded : Unloaded smallPactl ⟨true, true⟩ ⟨some 8, none⟩ noRemap failed.server :=
    hnone.2.2.1.2
  have hspares : (⟨some 8, none⟩ : Loaded).spares smallPactl 7 := by
    rintro given (hsink | hremap)
    · cases hsink
      exact ⟨by decide, id⟩
    · cases hremap
  exact ⟨hboth.2.2.1, hboth.2.2.2.1, hnone.2.2.1.1, hunloaded.gone obliging_small rfl 8 (.inl rfl),
    hunloaded.spared 7 hspares⟩

end K4W.Daemon.PulseModules
