import K4W.Motor.Usb

/-!
# The firmware upload

`upload_uac_firmware` sends the firmware file to the audio bootloader page by
page, and each page in packets of at most 512 bytes.  The pages that `fread`
returns and the answers of libusb are inputs; the calls on the bootloader, with
their answers, are recorded in order.
-/

namespace K4W.Firmware

open K4W.Motor

def blMagic : UInt32 := 0x06022009
def blReplyMagic : UInt32 := 0x0a6fe000

structure BlCmd where
  magic : UInt32
  seq : UInt32
  bytes : UInt32
  cmd : UInt32
  addr : UInt32
  unk : UInt32
deriving DecidableEq

/-- A call on the bootloader with its answer. -/
inductive Call where
  | kernelDriverActive (result : Int32)
  | detachKernelDriver
  | setAutoDetachKernelDriver
  | claimInterface (result : Int32)
  | command (cmd : BlCmd) (result : Xfer)
  | data (bytes : List UInt8) (result : Xfer)
  | reply (result : Xfer)
  | releaseInterface
  | close

/-- `bl_get_reply`, for the transfer it makes. -/
def blGetReply (result : Xfer) : Int32 :=
  if result.rc ≠ 0 ∨ result.count 0 < 12 then
    -1
  else if (int32At result.data 0).toUInt32 ≠ blReplyMagic then
    -1
  else
    0

/-- The answers to the transfers of one page; the data packets are told apart by `sent`. -/
structure PageAnswers where
  cmd : Xfer
  data : Nat → Xfer
  reply : Xfer

structure Answers where
  fopen : Bool
  found : Bool
  kernelDriverActive : Int32
  claim : Int32
  first : Xfer
  firstReply : Xfer
  secondReply : Xfer
  page : Nat → PageAnswers
  launch : Xfer
  launchReply : Xfer

/-! ## The loops -/

/-- `ts`, the size of the next packet. -/
def packetSize (left : Nat) : Nat :=
  if 512 < left then 512 else left

/-- The packet loop of a page: whether it sent all of the page, and its calls. -/
def dataLoop (data : Nat → Xfer) (page : List UInt8) (sent : Nat) : Bool × List Call :=
  if sent < page.length then
    let ts := packetSize (page.length - sent)
    let packet := (page.drop sent).take ts
    if (data sent).rc ≠ 0 then
      (false, [.data packet (data sent)])
    else
      let rest := dataLoop data page (sent + ts)
      (rest.1, .data packet (data sent) :: rest.2)
  else
    (true, [])
termination_by page.length - sent
decreasing_by
  unfold packetSize
  split <;> omega

/-- How the page loop is left: at the end of the file, by `break`, or by `goto out`. -/
inductive LoopExit where
  | finished
  | broke
  | jumped
deriving DecidableEq

/-- The counters that outlive a page. -/
structure Counters where
  seq : UInt32
  addr : UInt32
  total : Int32

structure PageLoop where
  left : LoopExit
  counters : Counters
  calls : List Call

def writeCmd (counters : Counters) (page : List UInt8) : BlCmd where
  magic := blMagic
  seq := counters.seq
  bytes := UInt32.ofNat page.length
  cmd := 0x03
  addr := counters.addr
  unk := 0

def Counters.next (counters : Counters) (page : List UInt8) : Counters where
  seq := counters.seq + 1
  addr := counters.addr + UInt32.ofNat page.length
  total := counters.total + Int32.ofNat page.length

/--
The page loop over the pages that `fread` still returns, from page number
`index` on.  The result of `bl_get_reply` is dropped.
-/
def pageLoop (answers : Nat → PageAnswers) (index : Nat) (counters : Counters) :
    List (List UInt8) → PageLoop
  | [] => { left := .finished, counters := counters, calls := [] }
  | page :: rest =>
      let answer := answers index
      let sent : List Call := [.command (writeCmd counters page) answer.cmd]
      if answer.cmd.rc ≠ 0 then
        { left := .broke, counters := counters, calls := sent }
      else
        let loop := dataLoop answer.data page 0
        if !loop.1 then
          { left := .jumped, counters := counters, calls := sent ++ loop.2 }
        else
          let after := pageLoop answers (index + 1) (counters.next page) rest
          { after with calls := sent ++ loop.2 ++ [.reply answer.reply] ++ after.calls }

def firstCmd : BlCmd where
  magic := blMagic
  seq := 1
  bytes := 0x60
  cmd := 0
  addr := 0x15
  unk := 0

def launchCmd (counters : Counters) : BlCmd where
  magic := blMagic
  seq := counters.seq
  bytes := 0
  cmd := 0x04
  addr := 0x00080030
  unk := 0

def startCounters : Counters where
  seq := 2
  addr := 0x00080000
  total := 0

/-- The calls up to the claim of the interface. -/
def openCalls (answers : Answers) : List Call :=
  [.kernelDriverActive answers.kernelDriverActive] ++
    (if answers.kernelDriverActive = 1 then [.detachKernelDriver] else []) ++
    [.setAutoDetachKernelDriver, .claimInterface answers.claim]

/-- `upload_uac_firmware`: its result and the calls it makes on the bootloader. -/
def uploadUacFirmware (answers : Answers) (pages : List (List UInt8)) : Int32 × List Call :=
  if !answers.fopen then
    (-1, [])
  else if !answers.found then
    (-1, [])
  else if answers.claim ≠ 0 then
    (-1, openCalls answers ++ [.close])
  else
    let first : List Call := [.command firstCmd answers.first, .reply answers.firstReply,
      .reply answers.secondReply]
    let loop := pageLoop answers.page 0 startCounters pages
    -- `goto out` skips the launch, `break` does not
    let launch : List Call :=
      if loop.left = .jumped then []
      else [.command (launchCmd loop.counters) answers.launch, .reply answers.launchReply]
    (0, openCalls answers ++ first ++ loop.calls ++ launch ++ [.releaseInterface, .close])

/-! ## Inputs of an upload -/

/-- The pages in which `fread` returns a whole file. -/
structure Reading (file : List UInt8) (pages : List (List UInt8)) : Prop where
  nonempty : ∀ page ∈ pages, page ≠ []
  bounded : ∀ page ∈ pages, page.length ≤ 0x4000
  whole : pages.flatten = file

/-- The file was opened and the bootloader claimed. -/
def Answers.Claimed (answers : Answers) : Prop :=
  answers.fopen = true ∧ answers.found = true ∧ answers.claim = 0

instance (answers : Answers) : Decidable answers.Claimed :=
  inferInstanceAs (Decidable (_ ∧ _ ∧ _))

/-- The command and all data packets of a page are transferred. -/
structure PageAnswers.Sends (answers : PageAnswers) (page : List UInt8) : Prop where
  cmd : answers.cmd.rc = 0
  data : ∀ sent < page.length, 512 ∣ sent → (answers.data sent).rc = 0

/-! ## What follows the write commands -/

/-- The calls after every write command, with the command, satisfy a predicate. -/
def AfterWrites (Holds : BlCmd → List Call → Prop) : List Call → Prop
  | .command cmd _ :: rest => (cmd.cmd = 0x03 → Holds cmd rest) ∧ AfterWrites Holds rest
  | _ :: rest => AfterWrites Holds rest
  | [] => True

def Call.command? : Call → Option BlCmd
  | .command cmd _ => some cmd
  | _ => none

theorem afterWrites_append {Holds : BlCmd → List Call → Prop} {front : List Call}
    (hfront : ∀ call ∈ front, call.command? = none) (back : List Call) :
    AfterWrites Holds (front ++ back) ↔ AfterWrites Holds back := by
  induction front with
  | nil => rfl
  | cons call rest ih =>
      have hrest := ih fun other hmem => hfront other (List.mem_cons_of_mem _ hmem)
      have hcall := hfront call List.mem_cons_self
      cases call with
      | command cmd result => cases hcall
      | _ => exact hrest

theorem openCalls_command (answers : Answers) :
    ∀ call ∈ openCalls answers, call.command? = none := by
  intro call hcall
  simp only [openCalls, List.mem_append, List.mem_cons, List.not_mem_nil, or_false] at hcall
  rcases hcall with (rfl | hdetach) | rfl | rfl
  · rfl
  · split at hdetach
    · rw [List.mem_singleton.mp hdetach]
      rfl
    · cases hdetach
  · rfl
  · rfl

/-! ## The packets of a page -/

/-- The bytes that a call transfers from the file; a result of 0 means its whole buffer. -/
def Call.payload : Call → List UInt8
  | .data bytes result => if result.rc = 0 then bytes else []
  | _ => []

/-- A data packet of a size that the bootloader takes. -/
def Call.IsPacket (call : Call) : Prop :=
  ∃ bytes result, call = .data bytes result ∧ 1 ≤ bytes.length ∧ bytes.length ≤ 512

theorem Call.IsPacket.command {call : Call} (hpacket : call.IsPacket) :
    call.command? = none := by
  obtain ⟨bytes, result, rfl, -⟩ := hpacket
  rfl

theorem packetSize_le {left : Nat} (hleft : 0 < left) :
    1 ≤ packetSize left ∧ packetSize left ≤ 512 ∧ packetSize left ≤ left := by
  unfold packetSize
  split <;> omega

theorem packet_length {page : List UInt8} {sent : Nat} (hsent : sent < page.length) :
    ((page.drop sent).take (packetSize (page.length - sent))).length =
      packetSize (page.length - sent) := by
  have hsize := packetSize_le (show 0 < page.length - sent by omega)
  rw [List.length_take, List.length_drop]
  omega

/-- The packet loop makes data transfers only. -/
theorem dataLoop_packets (data : Nat → Xfer) (page : List UInt8) (sent : Nat) :
    ∀ call ∈ (dataLoop data page sent).2, call.IsPacket := by
  fun_induction dataLoop data page sent with
  | case1 sent hsent ts packet hfailed =>
      intro call hcall
      have hsize := packetSize_le (show 0 < page.length - sent by omega)
      rw [List.mem_singleton.mp hcall]
      refine ⟨_, _, rfl, ?_, ?_⟩ <;> rw [packet_length hsent]
      · exact hsize.1
      · exact hsize.2.1
  | case2 sent hsent ts packet hdone rest ih =>
      intro call hcall
      have hsize := packetSize_le (show 0 < page.length - sent by omega)
      rcases List.mem_cons.mp hcall with rfl | hrest
      · refine ⟨_, _, rfl, ?_, ?_⟩ <;> rw [packet_length hsent]
        · exact hsize.1
        · exact hsize.2.1
      · exact ih call hrest
  | case3 sent hsent => exact fun _ hcall => absurd hcall List.not_mem_nil

/-- A loop that runs to its end has transferred the rest of the page. -/
theorem dataLoop_payload {data : Nat → Xfer} {page : List UInt8} {sent : Nat}
    (hdone : (dataLoop data page sent).1 = true) :
    (dataLoop data page sent).2.flatMap Call.payload = page.drop sent := by
  fun_induction dataLoop data page sent with
  | case1 sent hsent ts packet hfailed => cases hdone
  | case2 sent hsent ts packet hrc rest ih =>
      have hpacket : Call.payload (.data packet (data sent)) = packet :=
        if_pos (not_not.mp hrc)
      rw [List.flatMap_cons, hpacket, ih hdone, ← List.drop_drop]
      exact List.take_append_drop ts (page.drop sent)
  | case3 sent hsent => rw [List.drop_eq_nil_of_le (Nat.le_of_not_lt hsent)]; rfl

/-- The loop runs to its end exactly when none of its transfers fails. -/
theorem dataLoop_done (data : Nat → Xfer) (page : List UInt8) (sent : Nat) :
    (dataLoop data page sent).1 = true ↔
      ∀ offset, sent ≤ offset → offset < page.length → 512 ∣ offset - sent →
        (data offset).rc = 0 := by
  fun_induction dataLoop data page sent with
  | case1 sent hsent ts packet hfailed =>
      refine ⟨nofun, fun hall => ?_⟩
      exact absurd (hall sent (Nat.le_refl _) hsent (by simp)) hfailed
  | case2 sent hsent ts packet hrc rest ih =>
      have hts : ts = packetSize (page.length - sent) := rfl
      unfold packetSize at hts
      rw [ih]
      constructor
      · intro hrest offset hle hlt hdvd
        by_cases hnow : offset = sent
        · rw [hnow]
          exact not_not.mp hrc
        · refine hrest offset ?_ hlt ?_
          · split at hts <;> omega
          · split at hts <;> omega
      · intro hall offset hle hlt hdvd
        refine hall offset (by omega) hlt ?_
        split at hts <;> omega
  | case3 sent hsent =>
      exact ⟨fun _ offset hle hlt => absurd (Nat.lt_of_le_of_lt hle hlt) hsent, fun _ => rfl⟩

/-- The packet loop of a whole page runs to its end when its packets are transferred. -/
theorem dataLoop_sends {answers : PageAnswers} {page : List UInt8} :
    answers.Sends page ↔ answers.cmd.rc = 0 ∧ (dataLoop answers.data page 0).1 = true := by
  rw [dataLoop_done]
  constructor
  · exact fun hsends => ⟨hsends.cmd, fun sent _ hlt hdvd => hsends.data sent hlt hdvd⟩
  · exact fun hdone => ⟨hdone.1, fun sent hlt hdvd => hdone.2 sent (Nat.zero_le _) hlt hdvd⟩

/-! ## One page of the loop -/

theorem answers_shift (answers : Nat → PageAnswers) (index : Nat) :
    (fun i => answers (index + (i + 1))) = fun i => answers (index + 1 + i) := by
  funext i
  rw [Nat.add_right_comm, ← Nat.add_assoc]

/-- A page whose transfers succeed is followed by its reply and the rest of the loop. -/
theorem pageLoop_cons {answers : Nat → PageAnswers} {index : Nat} {page : List UInt8}
    (hsends : (answers index).Sends page) (counters : Counters) (rest : List (List UInt8)) :
    let after := pageLoop answers (index + 1) (counters.next page) rest
    pageLoop answers index counters (page :: rest) = { after with
      calls := .command (writeCmd counters page) (answers index).cmd ::
        ((dataLoop (answers index).data page 0).2 ++
          .reply (answers index).reply :: after.calls) } := by
  obtain ⟨hcmd, hdone⟩ := dataLoop_sends.mp hsends
  intro after
  simp [pageLoop, hcmd, hdone, after]

end K4W.Firmware
