import K4W.Daemon.StatusLayout
import K4W.Gui.SensorPoll

/-!
# Exchanges over the socket

`sendDaemonCmd` and the handler exchange one request and one reply over a stream
socket.  Each end makes one call for the whole message of the other, so an
exchange succeeds exactly when the stream delivers both messages unsplit.  The
poll thread reads its replies in the same way.
-/

namespace K4W.Gui.Framing

open K4W.Library
open K4W.Library.ByteField
open K4W.Daemon.SocketHandle
open K4W.Shm

/-! ## The client -/

/-- What the calls of the client return; `read` is `none` when it returns an error. -/
structure ClientAnswers where
  socket : Int32
  connect : Int32
  write : Int
  read : Option (List UInt8)

structure ClientRun where
  /-- The bytes given to `write`. -/
  written : List UInt8
  returned : Bool
  /-- The bytes of `*resp` at the end. -/
  resp : List UInt8

/-- `buf` after a `read` that stored some bytes. -/
def bufferOf (stored : List UInt8) : List UInt8 :=
  stored ++ List.replicate (256 - stored.length) 0

def sendDaemonCmd (cmdType cmdArg : Int32) (answers : ClientAnswers) (resp : List UInt8) :
    ClientRun :=
  let cmd := requestBytes cmdType cmdArg
  if answers.socket < 0 then
    ⟨[], false, resp⟩
  else if answers.connect < 0 then
    ⟨[], false, resp⟩
  else if answers.write ≠ cmd.length then
    ⟨cmd, false, resp⟩
  else
    match answers.read with
    | none => ⟨cmd, false, resp⟩
    | some stored =>
        if 160 ≤ stored.length then
          ⟨cmd, true, (bufferOf stored).take 160⟩
        else
          ⟨cmd, false, resp⟩

/-! ## An exchange -/

/-- How the stream delivers the two messages; a close without a reply can reset it. -/
structure Link where
  request : Splitting UInt8
  reply : Splitting UInt8
  reset : Bool

/-- The same connection, with every message in one piece. -/
def Link.unsplit (link : Link) : Link :=
  { link with request := Segmentation.unsplit, reply := Segmentation.unsplit }

/-- What the `read` of the client returns, after the replies of the handler. -/
def Link.answer (link : Link) : List Status → Option (List UInt8)
  | [] => if link.reset then none else some []
  | status :: _ => some (link.reply status.bytes).first

structure Exchanged where
  handled : Handled
  client : ClientRun

/--
A client that is connected writes its request, the handler of a daemon with this
state serves it, and the client reads.
-/
def exchange (state : State) (type arg : Int32) (answers : Answers) (locals : Locals)
    (link : Link) (resp : List UInt8) : Exchanged :=
  let request := link.request (requestBytes type arg)
  let handled := k4wSocketHandle (some state) (some request.first) answers locals
  { handled := handled
    client := sendDaemonCmd type arg ⟨0, 0, 8, link.answer handled.sent⟩ resp }

/-- The handler does the same as for unsplit messages, and the client gets the same status. -/
def SameAsUnsplit (state : State) (type arg : Int32) (answers : Answers) (locals : Locals)
    (link : Link) (resp : List UInt8) : Prop :=
  let exchanged := exchange state type arg answers locals link resp
  let unsplit := exchange state type arg answers locals link.unsplit resp
  exchanged.handled = unsplit.handled ∧ exchanged.client.returned = true ∧
    exchanged.client.resp = unsplit.client.resp

/-- The run of the handler that processes a command. -/
def served (processed : Processed) : Handled where
  state := some processed.state
  client := [.recv, .send processed.status, .close]
  sessions := processed.sessions

/-- The run of the handler that closes the connection at once. -/
def refused (state : State) : Handled where
  state := some state
  client := [.recv, .close]
  sessions := []

/-! ## The two ends -/

theorem k4wSocketHandle_request (state : State) (type arg : Int32) (answers : Answers)
    (locals : Locals) :
    k4wSocketHandle (some state) (some (requestBytes type arg)) answers locals =
      served (processCommand state (.ofInt type) arg answers locals) := by
  have hlength := length_requestBytes type arg
  simp [k4wSocketHandle, hlength, commandOf_requestBytes, argOf_requestBytes, served]

theorem k4wSocketHandle_short (state : State) {bytes : List UInt8} (hshort : bytes.length < 8)
    (answers : Answers) (locals : Locals) :
    k4wSocketHandle (some state) (some bytes) answers locals = refused state := by
  have hlength : bytes.length ≠ 8 := Nat.ne_of_lt hshort
  simp [k4wSocketHandle, hlength, refused]

theorem sendDaemonCmd_status (type arg : Int32) (status : Status) (resp : List UInt8) :
    sendDaemonCmd type arg ⟨0, 0, 8, some status.bytes⟩ resp =
      ⟨requestBytes type arg, true, status.bytes⟩ := by
  have hlength := status.length_bytes
  have hbuffer : (bufferOf status.bytes).take 160 = status.bytes := by
    rw [bufferOf, List.take_append_of_le_length (by omega), List.take_of_length_le (by omega)]
  simp [sendDaemonCmd, length_requestBytes, hlength, hbuffer]

theorem sendDaemonCmd_short (type arg : Int32) {stored : Option (List UInt8)}
    (hshort : ∀ bytes ∈ stored, bytes.length < 160) (resp : List UInt8) :
    sendDaemonCmd type arg ⟨0, 0, 8, stored⟩ resp = ⟨requestBytes type arg, false, resp⟩ := by
  cases stored with
  | none => rfl
  | some bytes =>
      have hlength : ¬160 ≤ bytes.length := Nat.not_le.mpr (hshort bytes rfl)
      simp [sendDaemonCmd, length_requestBytes, hlength]

/-! ## What an exchange comes to -/

section Exchange

variable {state : State} {type arg : Int32} {answers : Answers} {locals : Locals}
variable {link : Link}

theorem exchange_of_request (hrequest : (link.request (requestBytes type arg)).IsWhole)
    (resp : List UInt8) :
    exchange state type arg answers locals link resp =
      let processed := processCommand state (.ofInt type) arg answers locals
      ⟨served processed, sendDaemonCmd type arg
        ⟨0, 0, 8, some (link.reply processed.status.bytes).first⟩ resp⟩ := by
  simp only [exchange, Segmentation.first_of_isWhole hrequest, k4wSocketHandle_request]
  rfl

/-- Both messages arrive in one piece. -/
theorem exchange_of_whole (hrequest : (link.request (requestBytes type arg)).IsWhole)
    (hreply : (link.reply
      (processCommand state (.ofInt type) arg answers locals).status.bytes).IsWhole)
    (resp : List UInt8) :
    exchange state type arg answers locals link resp =
      let processed := processCommand state (.ofInt type) arg answers locals
      ⟨served processed, ⟨requestBytes type arg, true, processed.status.bytes⟩⟩ := by
  simp only [exchange_of_request hrequest, Segmentation.first_of_isWhole hreply,
    sendDaemonCmd_status]

/-- The client does not accept a part of the reply. -/
theorem exchange_of_splitReply (hrequest : (link.request (requestBytes type arg)).IsWhole)
    (hreply : ¬(link.reply
      (processCommand state (.ofInt type) arg answers locals).status.bytes).IsWhole)
    (resp : List UInt8) :
    exchange state type arg answers locals link resp =
      ⟨served (processCommand state (.ofInt type) arg answers locals),
        ⟨requestBytes type arg, false, resp⟩⟩ := by
  have hlt := Segmentation.length_first_lt hreply
  rw [Status.length_bytes] at hlt
  rw [exchange_of_request hrequest]
  dsimp only
  rw [sendDaemonCmd_short type arg]
  rintro bytes ⟨⟩
  exact hlt

/-- The handler does not accept a part of the request. -/
theorem exchange_of_splitRequest
    (hrequest : ¬(link.request (requestBytes type arg)).IsWhole) (resp : List UInt8) :
    exchange state type arg answers locals link resp =
      ⟨refused state, ⟨requestBytes type arg, false, resp⟩⟩ := by
  have hlt := Segmentation.length_first_lt hrequest
  rw [length_requestBytes] at hlt
  have hanswer : ∀ bytes ∈ link.answer (refused state).sent, bytes.length < 160 := by
    intro bytes hbytes
    change bytes ∈ (if link.reset then none else some []) at hbytes
    split at hbytes
    case isTrue => cases hbytes
    case isFalse =>
        cases hbytes
        decide
  simp only [exchange, k4wSocketHandle_short state hlt, sendDaemonCmd_short type arg hanswer]

/-- After a split message the client has nothing. -/
theorem exchange_of_split
    (hsplit : ¬((link.request (requestBytes type arg)).IsWhole ∧ (link.reply
      (processCommand state (.ofInt type) arg answers locals).status.bytes).IsWhole))
    (resp : List UInt8) :
    (exchange state type arg answers locals link resp).client =
      ⟨requestBytes type arg, false, resp⟩ := by
  by_cases hrequest : (link.request (requestBytes type arg)).IsWhole
  · have hreply := fun hreply => hsplit ⟨hrequest, hreply⟩
    rw [exchange_of_splitReply hrequest hreply]
  · rw [exchange_of_splitRequest hrequest]

theorem exchange_unsplit (resp : List UInt8) :
    exchange state type arg answers locals link.unsplit resp =
      let processed := processCommand state (.ofInt type) arg answers locals
      ⟨served processed, ⟨requestBytes type arg, true, processed.status.bytes⟩⟩ :=
  exchange_of_whole (Segmentation.isWhole_unsplit _) (Segmentation.isWhole_unsplit _) resp

theorem sameAsUnsplit_iff {resp : List UInt8} :
    SameAsUnsplit state type arg answers locals link resp ↔
      (link.request (requestBytes type arg)).IsWhole ∧ (link.reply
        (processCommand state (.ofInt type) arg answers locals).status.bytes).IsWhole := by
  constructor
  · rintro ⟨-, hreturned, -⟩
    by_contra hsplit
    rw [exchange_of_split hsplit] at hreturned
    exact Bool.false_ne_true hreturned
  · rintro ⟨hrequest, hreply⟩
    rw [SameAsUnsplit, exchange_of_whole hrequest hreply, exchange_unsplit]
    exact ⟨rfl, rfl, rfl⟩

end Exchange

/--
Each end takes what its first call returns for the whole message.  The exchange is
that of unsplit messages exactly when both arrive in one piece; a split request is
refused without effect, and after a split message the client reports a failure and
keeps what it had.
-/
theorem exchange_of_pieces (state : State) (type arg : Int32) (answers : Answers)
    (locals : Locals) (link : Link) (resp : List UInt8) :
    let processed := processCommand state (.ofInt type) arg answers locals
    let unsplit := exchange state type arg answers locals link.unsplit resp
    let exchanged := exchange state type arg answers locals link resp
    let wholeRequest := (link.request (requestBytes type arg)).IsWhole
    let wholeReply := (link.reply processed.status.bytes).IsWhole
    (unsplit.handled = served processed ∧ unsplit.client.returned = true ∧
      Status.ofBytes unsplit.client.resp = processed.status) ∧
    (SameAsUnsplit state type arg answers locals link resp ↔ wholeRequest ∧ wholeReply) ∧
    (wholeRequest → exchanged.handled = unsplit.handled) ∧
    (¬wholeRequest → exchanged.handled = refused state) ∧
    (¬(wholeRequest ∧ wholeReply) →
      exchanged.client.returned = false ∧ exchanged.client.resp = resp) := by
  intro processed unsplit exchanged wholeRequest wholeReply
  have hunsplit : unsplit =
      ⟨served processed, ⟨requestBytes type arg, true, processed.status.bytes⟩⟩ :=
    exchange_unsplit resp
  refine ⟨⟨?_, ?_, ?_⟩, sameAsUnsplit_iff, ?_, ?_, ?_⟩
  · rw [hunsplit]
  · rw [hunsplit]
  · rw [hunsplit]
    exact Status.ofBytes_bytes (processCommand_fits state (.ofInt type) arg answers locals)
  · intro hrequest
    have hserved : exchanged.handled = served processed :=
      congrArg Exchanged.handled (exchange_of_request hrequest resp)
    rw [hserved, hunsplit]
  · intro hrequest
    exact congrArg Exchanged.handled (exchange_of_splitRequest hrequest resp)
  · intro hsplit
    have hclient : exchanged.client = ⟨requestBytes type arg, false, resp⟩ :=
      exchange_of_split hsplit resp
    rw [hclient]
    exact ⟨rfl, rfl⟩

/-- A stream that delivers the first half of a request on its own. -/
def halves : Link where
  request := Segmentation.cut 4
  reply := Segmentation.unsplit
  reset := false

/-- A `STATUS` request of a resting daemon is refused when it arrives in two halves. -/
theorem not_sameAsUnsplit_halves :
    ¬SameAsUnsplit restingState 2 0 (answersOf true fullXfer) (filledLocals 0) halves [] := by
  rintro ⟨-, hreturned, -⟩
  have hsplit : ¬(halves.request (requestBytes 2 0)).IsWhole := by decide
  rw [exchange_of_splitRequest hsplit] at hreturned
  exact Bool.false_ne_true hreturned

/-! ## The poll thread -/

theorem word_byteOf (bytes : List UInt8) (size offset : Nat) :
    MappedBytes.word ⟨size, byteOf bytes⟩ offset = word.read bytes offset :=
  congrArg Int32.toUInt32 (int32At_byteOf bytes offset)

/-- The readings of the status that was sent. -/
def sentReadings (status : Status) : SensorPoll.Readings where
  ax := .ofNat status.accelX.toCode
  ay := .ofNat status.accelY.toCode
  az := .ofNat status.accelZ.toCode
  tiltDeg := .ofNat status.tiltDeg.toCode
  motorOk := status.ok

/-- The poll thread finds the readings of a status in its bytes. -/
theorem readingsOf_bytes (status : Status) :
    SensorPoll.readingsOf (byteOf status.bytes) = sentReadings status := by
  have hok : alignedBool.Valid status.ok := trivial
  have hword : ∀ value, word.Valid value := fun _ => trivial
  have hsingle : ∀ value, single.encode value = word.encode (.ofNat value.toCode) :=
    fun _ => rfl
  have hsize : alignedBool.size = 4 ∧ word.size = 4 := ⟨rfl, rfl⟩
  have hmotorOk : (byteOf status.bytes 0 != 0) = alignedBool.read status.bytes 0 := rfl
  simp only [SensorPoll.readingsOf, sentReadings, hmotorOk, word_byteOf]
  simp [Status.bytes, read_here, read_skip, *]

/-- A split reply is no reply to the poll thread, and does not count as a failure either. -/
theorem run_first {status : Status} (failCount : Int32) (reply : Segmentation status.bytes) :
    SensorPoll.run.step failCount (.received reply.first.length (byteOf reply.first)) =
      if reply.IsWhole then
        (0, [.dataReady (sentReadings status), .daemonStatus true])
      else
        (failCount, []) := by
  have hlength := status.length_bytes
  split
  case isTrue hwhole =>
      rw [Segmentation.first_of_isWhole hwhole]
      simp [SensorPoll.run, SensorPoll.statusBytes, hlength, readingsOf_bytes]
  case isFalse hsplit =>
      have hlt := Segmentation.length_first_lt hsplit
      have hshort : ¬SensorPoll.statusBytes ≤ reply.first.length := by
        simp only [SensorPoll.statusBytes]
        omega
      simp [SensorPoll.run, hshort]

end K4W.Gui.Framing
