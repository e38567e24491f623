import K4W.Library.Shell

/-!
# Commands run as root

`sudoExec` and `sudoStartDetached` write their command to a script that `bash`
reads.  The words are joined by blanks and nothing is quoted, so a command is
run as given only when the shell reads all of its words as they stand.
-/

namespace K4W.Gui

open K4W.Library

/-- What `sudoExec` writes to the script. -/
def sudoExecScript (args : List (List Char)) : List Char :=
  List.intercalate [' '] args

/-- What `sudoStartDetached` writes to the script. -/
def sudoStartDetachedScript (program : List Char) (args : List (List Char)) : List Char :=
  args.foldl (fun allCmd arg => allCmd ++ ' ' :: arg) program

/-- The script is one simple command, the program with its arguments. -/
def RunsAsGiven (script program : List Char) (args : List (List Char)) : Prop :=
  Shell.readCommand script = some (program :: args)

/-- Every word is read as it stands, and the first one names a command. -/
structure PlainCommand (program : List Char) (args : List (List Char)) : Prop where
  words : ∀ word ∈ program :: args, Shell.Plain word
  notReserved : Shell.isReserved program = false
  notAssignment : Shell.isAssignment program = false

/-! ## The text of the scripts -/

theorem sudoExecScript_eq (args : List (List Char)) :
    sudoExecScript args = Shell.unwords args := by
  unfold sudoExecScript
  induction args with
  | nil => rfl
  | cons word rest ih =>
      cases rest with
      | nil => simp
      | cons next rest =>
          rw [List.intercalate_cons_cons, ih, Shell.unwords_cons_cons]
          simp

theorem sudoStartDetachedScript_eq (program : List Char) (args : List (List Char)) :
    sudoStartDetachedScript program args = Shell.unwords (program :: args) := by
  unfold sudoStartDetachedScript
  induction args generalizing program with
  | nil => rfl
  | cons arg rest ih =>
      rw [List.foldl_cons, ih, Shell.unwords_cons_cons]
      cases rest with
      | nil => rfl
      | cons next rest =>
          rw [Shell.unwords_cons_cons, Shell.unwords_cons_cons, List.append_assoc,
            List.cons_append]

theorem runsAsGiven_unwords_iff (program : List Char) (args : List (List Char)) :
    RunsAsGiven (Shell.unwords (program :: args)) program args ↔ PlainCommand program args := by
  refine (Shell.readCommand_unwords_iff program args).trans ?_
  exact ⟨fun ⟨hwords, hreserved, hassignment⟩ => ⟨hwords, hreserved, hassignment⟩,
    fun hplain => ⟨hplain.words, hplain.notReserved, hplain.notAssignment⟩⟩

/-- A command is run as given exactly when it is plain. -/
theorem runsAsGiven_iff_plainCommand (program : List Char) (args : List (List Char)) :
    (RunsAsGiven (sudoStartDetachedScript program args) program args ↔
      PlainCommand program args) ∧
    (RunsAsGiven (sudoExecScript (program :: args)) program args ↔
      PlainCommand program args) := by
  rw [sudoStartDetachedScript_eq, sudoExecScript_eq]
  exact ⟨runsAsGiven_unwords_iff program args, runsAsGiven_unwords_iff program args⟩

example : Shell.readCommand (sudoExecScript ["echo".toList, "5$".toList]) =
    some ["echo".toList, "5$".toList] := by decide

/-! ## The commands of the window -/

/-- The binding commands for the device that was found, if any. -/
def findKinectUSBBind : Option (List Char) → List Char
  | some entry =>
      "echo ".toList ++ entry ++
        ":1.2 > /sys/bus/usb/drivers/snd-usb-audio/bind 2>/dev/null; ".toList ++
        "echo ".toList ++ entry ++
        ":1.3 > /sys/bus/usb/drivers/snd-usb-audio/bind 2>/dev/null".toList
  | none =>
      "echo 1-6.1:1.2 > /sys/bus/usb/drivers/snd-usb-audio/bind 2>/dev/null; ".toList ++
        "echo 1-6.1:1.3 > /sys/bus/usb/drivers/snd-usb-audio/bind 2>/dev/null".toList

/-- The script of `onStartDaemon`. -/
def setupScript (device : Option (List Char)) : List Char :=
  "modprobe v4l2loopback video_nr=100 card_label='KinectCam' exclusive_caps=1 2>/dev/null; ".toList ++
    "killall -9 pipewire-pulse 2>/dev/null; ".toList ++
    "sleep 1; ".toList ++
    findKinectUSBBind device ++ "; ".toList ++
    "sleep 1; ".toList ++
    "/usr/local/bin/k4wd & ".toList ++
    "sleep 4; ".toList ++
    "pipewire-pulse &".toList

/-- The script of `onResetDaemon`. -/
def resetScript (device : Option (List Char)) : List Char :=
  "for d in /sys/bus/usb/devices/*/; do".toList ++
    "  vid=$(cat $d/idVendor 2>/dev/null);".toList ++
    "  pid=$(cat $d/idProduct 2>/dev/null);".toList ++
    "  if [ \"$vid\" = \"045e\" ] && [ \"$pid\" = \"02bb\" ]; then".toList ++
    "    dev=$(basename $d);".toList ++
    "    echo $dev > /sys/bus/usb/drivers/usb/unbind 2>/dev/null;".toList ++
    "    sleep 2;".toList ++
    "    echo $dev > /sys/bus/usb/drivers/usb/bind 2>/dev/null;".toList ++
    "    sleep 3;".toList ++
    "  fi;".toList ++
    "done; ".toList ++
    findKinectUSBBind device ++ "; ".toList ++
    "sleep 1; ".toList ++
    "/usr/local/bin/k4wd & ".toList ++
    "sleep 4; ".toList ++
    "pipewire-pulse &".toList

/-- A command with a blank inside an argument is not plain. -/
theorem not_plainCommand_of_blank {program arg : List Char} {args : List (List Char)}
    (harg : arg ∈ args) (hblank : ' ' ∈ arg) : ¬PlainCommand program args := by
  intro hplain
  have hordinary := (hplain.words arg (List.mem_cons_of_mem program harg)).ordinary ' ' hblank
  revert hordinary
  decide

/-- None of the commands that the window runs as root is run as given. -/
theorem not_runsAsGiven_window (device : Option (List Char)) {script : List Char}
    (hscript : script ∈ [setupScript device, resetScript device, findKinectUSBBind device]) :
    ¬RunsAsGiven (sudoStartDetachedScript "bash".toList ["-c".toList, script]) "bash".toList
        ["-c".toList, script] ∧
      ¬RunsAsGiven (sudoExecScript ["bash".toList, "-c".toList, script]) "bash".toList
        ["-c".toList, script] := by
  have hblank : ' ' ∈ script := by
    simp only [List.mem_cons, List.not_mem_nil, or_false] at hscript
    rcases hscript with rfl | rfl | rfl
    · exact List.mem_append_right _ (by decide)
    · exact List.mem_append_right _ (by decide)
    · cases device <;> exact List.mem_append_right _ (by decide)
  have hplain := @not_plainCommand_of_blank "bash".toList script ["-c".toList, script]
    (by simp) hblank
  rw [sudoStartDetachedScript_eq, sudoExecScript_eq, runsAsGiven_unwords_iff]
  exact ⟨hplain, hplain⟩

/-- Binding the audio driver when no device is found. -/
theorem not_runsAsGiven_bindFallback :
    ¬RunsAsGiven (sudoExecScript ["bash".toList, "-c".toList, findKinectUSBBind none])
      "bash".toList ["-c".toList, findKinectUSBBind none] :=
  (not_runsAsGiven_window none (by simp)).2

end K4W.Gui
