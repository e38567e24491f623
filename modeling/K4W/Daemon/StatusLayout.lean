import K4W.Daemon.SocketHandle
import K4W.Library.Interchange
import K4W.Library.Messages

/-!
# Requests and replies as bytes

A request is two integers and a reply one `k4w_status_t`, both as they lie in
memory.  The handler finds the command and its argument in the bytes of a
request, and a client finds every field of the reply in the bytes of a status.
-/

namespace K4W.Daemon.SocketHandle

open K4W.Library
open K4W.Library.Binary
open K4W.Library.ByteField
open K4W.Motor

/-! ## Requests -/

/-- `int cmd[2]` -/
def requestBytes (type arg : Int32) : List UInt8 :=
  signedWord.encode type ++ signedWord.encode arg

theorem length_requestBytes (type arg : Int32) : (requestBytes type arg).length = 8 :=
  rfl

theorem int32At_byteOf (bytes : List UInt8) (offset : Nat) :
    int32At (byteOf bytes) offset = signedWord.read bytes offset := by
  have hbyte : ∀ i, (bytes.drop offset).getD i 0 = byteOf bytes (offset + i) := by
    intro i
    rw [byteOf, List.getD_eq_getElem?_getD, List.getD_eq_getElem?_getD, List.getElem?_drop]
  change _ = (wordOf (bytes.drop offset)).toInt32
  rw [wordOf, hbyte, hbyte, hbyte, hbyte]
  rfl

theorem commandOf_requestBytes (type arg : Int32) :
    commandOf (requestBytes type arg) = .ofInt type := by
  rw [commandOf, int32At_byteOf, requestBytes, ByteField.read_here trivial]

theorem argOf_requestBytes (type arg : Int32) : argOf (requestBytes type arg) = arg := by
  have hsize : signedWord.size = 4 := rfl
  rw [argOf, int32At_byteOf, requestBytes, ByteField.read_skip _ (by decide), hsize, Nat.sub_self,
    ByteField.read_last trivial]

/-! ## Replies -/

/-- A `float` by its code. -/
def single : ByteField Single :=
  word.coded (fun value => .ofNat value.toCode) (fun code => .ofCode binary32 code.toNat) <| by
    intro value
    have hlt : value.toCode < 2 ^ 32 :=
      lt_of_lt_of_eq (Number.toCode_lt interchanges_binary32 value)
        (by rw [signCode_binary32]; rfl)
    rw [UInt32.toNat_ofNat', Nat.mod_eq_of_lt hlt]
    exact Number.ofCode_toCode interchanges_binary32 value

/-- The bytes of a `k4w_status_t`. -/
def Status.bytes (status : Status) : List UInt8 :=
  alignedBool.encode status.ok ++ single.encode status.tiltDeg ++
    single.encode status.accelX ++ single.encode status.accelY ++ single.encode status.accelZ ++
    (text 64).encode status.v4l2Dev ++ (text 64).encode status.audioSrc ++
    word.encode status.depthSeq ++ word.encode status.videoSeq ++ word.encode status.audioSeq

/-- The fields of the `k4w_status_t` that lies in the bytes. -/
def Status.ofBytes (bytes : List UInt8) : Status where
  ok := alignedBool.read bytes 0
  tiltDeg := single.read bytes 4
  accelX := single.read bytes 8
  accelY := single.read bytes 12
  accelZ := single.read bytes 16
  v4l2Dev := (text 64).read bytes 20
  audioSrc := (text 64).read bytes 84
  depthSeq := word.read bytes 148
  videoSeq := word.read bytes 152
  audioSeq := word.read bytes 156

theorem Status.length_bytes (status : Status) : status.bytes.length = 160 := by
  simp only [bytes, List.length_append, ByteField.length_encode]
  rfl

/-- The texts fit into their arrays. -/
structure Status.Fits (status : Status) : Prop where
  v4l2Dev : (text 64).Valid status.v4l2Dev
  audioSrc : (text 64).Valid status.audioSrc

/-- Every field of a status is found in its bytes. -/
theorem Status.ofBytes_bytes {status : Status} (hfits : status.Fits) :
    Status.ofBytes status.bytes = status := by
  obtain ⟨hv4l2Dev, haudioSrc⟩ := hfits
  have hok : alignedBool.Valid status.ok := trivial
  have hsingle : ∀ value, single.Valid value := fun _ => trivial
  have hword : ∀ value, word.Valid value := fun _ => trivial
  have hsize : alignedBool.size = 4 ∧ single.size = 4 ∧ (text 64).size = 64 ∧ word.size = 4 :=
    ⟨rfl, rfl, rfl, rfl⟩
  simp [ofBytes, bytes, read_here, read_last, read_skip, *]

theorem copiedText_valid (source : List UInt8) : (text 64).Valid (copiedText source) := by
  constructor
  · exact Nat.lt_succ_of_le (List.length_take_le _ _)
  · intro byte hbyte
    simpa using List.mem_takeWhile_imp (List.mem_of_mem_take hbyte)

/-- No command changes the texts of the reply. -/
theorem processCommand_fits (state : State) (command : Command) (arg : Int32)
    (answers : Answers) (locals : Locals) :
    (processCommand state command arg answers locals).status.Fits := by
  have hinitial : (initialStatus state).Fits :=
    ⟨copiedText_valid state.v4l2Device, copiedText_valid state.audioSource⟩
  cases command with
  | accel =>
      simp only [processCommand, processAccel]
      split
      case isTrue => exact ⟨hinitial.v4l2Dev, hinitial.audioSrc⟩
      case isFalse => exact ⟨hinitial.v4l2Dev, hinitial.audioSrc⟩
  | tilt | led | motorInfo | status | other => exact ⟨hinitial.v4l2Dev, hinitial.audioSrc⟩

end K4W.Daemon.SocketHandle
