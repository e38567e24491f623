import K4W.Firmware.Upload
import Mathlib.Algebra.Ring.Nat
import Mathlib.Data.List.Nodup
import Mathlib.Logic.Function.Basic

/-!
# What the bootloader stores

The other end of the upload: a bootloader that takes the data packets after each
write command and stores them from the address of the command on.  When all
transfers succeed it ends up with the file, however `fread` cuts it into pages.
-/

namespace K4W.Firmware

open K4W.Motor

/-! ## The bootloader -/

/-- The next address, the bytes still expected, and the bytes stored so far. -/
structure Bootloader where
  addr : UInt32
  expected : Nat
  written : List (UInt32 × UInt8)

/-- Consecutive bytes with their addresses, which wrap at `2 ^ 32`. -/
def storesFrom (addr : UInt32) : List UInt8 → List (UInt32 × UInt8)
  | [] => []
  | byte :: rest => (addr, byte) :: storesFrom (addr + 1) rest

/-- A call brings its whole buffer when its result is 0, and nothing otherwise. -/
def Bootloader.receive (state : Bootloader) : Call → Bootloader
  | .command cmd result =>
      if result.rc ≠ 0 then state
      else if cmd.cmd = 0x03 then
        { state with addr := cmd.addr, expected := cmd.bytes.toNat }
      else { state with expected := 0 }
  | .data bytes result =>
      if result.rc ≠ 0 then state
      else
        let stored := bytes.take state.expected
        { addr := state.addr + UInt32.ofNat stored.length
          expected := state.expected - stored.length
          written := state.written ++ storesFrom state.addr stored }
  | _ => state

def bootloaderReset : Bootloader where
  addr := 0
  expected := 0
  written := []

/-- The bytes that the bootloader stores during the calls, in order. -/
def written (calls : List Call) : List (UInt32 × UInt8) :=
  (calls.foldl Bootloader.receive bootloaderReset).written

/-- The memory after the stores. -/
def memoryAfter (memory : UInt32 → UInt8) (stores : List (UInt32 × UInt8)) : UInt32 → UInt8 :=
  stores.foldl (fun memory store => Function.update memory store.1 store.2) memory

/-! ## Stores at consecutive addresses -/

theorem storesFrom_append (addr : UInt32) (front back : List UInt8) :
    storesFrom addr (front ++ back) =
      storesFrom addr front ++ storesFrom (addr + UInt32.ofNat front.length) back := by
  induction front generalizing addr with
  | nil => simp [storesFrom]
  | cons byte rest ih =>
      rw [List.cons_append, storesFrom, storesFrom, ih, List.cons_append, List.length_cons]
      rw [UInt32.add_assoc, ← UInt32.ofNat_one, ← UInt32.ofNat_add, Nat.add_comm 1]

/-- An address that no store names keeps its byte. -/
theorem memoryAfter_outside (memory : UInt32 → UInt8) {addr start : UInt32}
    {bytes : List UInt8} (houtside : ∀ i < bytes.length, addr ≠ start + UInt32.ofNat i) :
    memoryAfter memory (storesFrom start bytes) addr = memory addr := by
  induction bytes generalizing memory start with
  | nil => rfl
  | cons byte rest ih =>
      have hrest : ∀ i < rest.length, addr ≠ start + 1 + UInt32.ofNat i := by
        intro i hi
        have hne := houtside (i + 1) (Nat.succ_lt_succ hi)
        rw [UInt32.ofNat_add, UInt32.add_comm (UInt32.ofNat i), ← UInt32.add_assoc] at hne
        exact hne
      have hne : addr ≠ start := by
        have hfirst := houtside 0 (Nat.succ_pos _)
        simpa using hfirst
      rw [storesFrom, memoryAfter, List.foldl_cons, ← memoryAfter, ih _ hrest]
      exact Function.update_of_ne hne _ _

/-- The last byte stored at an address is the one that stays. -/
theorem memoryAfter_inside (memory : UInt32 → UInt8) (start : UInt32) (bytes : List UInt8)
    {i : Nat} (hi : i < bytes.length) (hlast : bytes.length ≤ i + 2 ^ 32) :
    memoryAfter memory (storesFrom start bytes) (start + UInt32.ofNat i) = bytes[i] := by
  induction bytes generalizing memory start i with
  | nil => cases hi
  | cons byte rest ih =>
      rw [List.length_cons] at hi hlast
      rw [storesFrom, memoryAfter, List.foldl_cons, ← memoryAfter]
      cases i with
      | zero =>
          rw [memoryAfter_outside]
          · simp
          · intro j hj heq
            have haddr := congrArg UInt32.toNat heq
            have hstart := start.toNat_lt
            simp only [UInt32.toNat_add, UInt32.toNat_ofNat', UInt32.toNat_one] at haddr
            omega
      | succ i =>
          have hshift : start + UInt32.ofNat (i + 1) = start + 1 + UInt32.ofNat i := by
            rw [UInt32.ofNat_add, UInt32.add_comm (UInt32.ofNat i), ← UInt32.add_assoc]
            rfl
          rw [hshift]
          exact ih _ _ (Nat.lt_of_succ_lt_succ hi) (by omega)

theorem storesFrom_addresses (start : UInt32) (bytes : List UInt8) :
    (storesFrom start bytes).map Prod.fst =
      (List.range bytes.length).map (fun i => start + UInt32.ofNat i) := by
  induction bytes generalizing start with
  | nil => rfl
  | cons byte rest ih =>
      have hnext : ∀ i, start + 1 + UInt32.ofNat i = start + UInt32.ofNat (i + 1) := by
        intro i
        rw [UInt32.ofNat_add, UInt32.add_comm (UInt32.ofNat i), ← UInt32.add_assoc]
        rfl
      rw [storesFrom, List.map_cons, ih, List.length_cons, List.range_succ_eq_map, List.map_cons,
        List.map_map]
      simp [Function.comp_def, hnext]

/-- No address is stored twice before the addresses wrap. -/
theorem storesFrom_nodup (start : UInt32) {bytes : List UInt8} (hlength : bytes.length ≤ 2 ^ 32) :
    ((storesFrom start bytes).map Prod.fst).Nodup := by
  rw [storesFrom_addresses]
  refine List.Nodup.map_on ?_ List.nodup_range
  intro i hi j hj heq
  have hi := List.mem_range.mp hi
  have hj := List.mem_range.mp hj
  have haddr := congrArg UInt32.toNat heq
  have hstart := start.toNat_lt
  simp only [UInt32.toNat_add, UInt32.toNat_ofNat'] at haddr
  omega

/-! ## The stores of an upload -/

/-- The transfers of every page succeed. -/
def PagesSend (answers : Nat → PageAnswers) (pages : List (List UInt8)) : Prop :=
  ∀ index page, pages[index]? = some page → (answers index).Sends page

/-- All transfers to the bootloader succeed; the replies may be anything. -/
structure Answers.Transfers (answers : Answers) (pages : List (List UInt8)) : Prop where
  claimed : answers.Claimed
  first : answers.first.rc = 0
  pages : PagesSend answers.page pages
  launch : answers.launch.rc = 0

theorem pagesSend_cons {answers : Nat → PageAnswers} {index : Nat} {page : List UInt8}
    {rest : List (List UInt8)} (hsends : PagesSend (fun i => answers (index + i)) (page :: rest)) :
    (answers index).Sends page ∧ PagesSend (fun i => answers (index + 1 + i)) rest := by
  rw [← answers_shift]
  exact ⟨hsends 0 page rfl, fun i other hother => hsends (i + 1) other hother⟩

/-- Packets that fit what is expected are stored one after the other. -/
theorem receive_packets {packets : List Call} (hpackets : ∀ call ∈ packets, call.IsPacket)
    (state : Bootloader) (hfits : (packets.flatMap Call.payload).length ≤ state.expected) :
    packets.foldl Bootloader.receive state = {
      addr := state.addr + UInt32.ofNat (packets.flatMap Call.payload).length
      expected := state.expected - (packets.flatMap Call.payload).length
      written := state.written ++ storesFrom state.addr (packets.flatMap Call.payload) } := by
  induction packets generalizing state with
  | nil => simp [storesFrom]
  | cons call rest ih =>
      obtain ⟨bytes, result, rfl, -⟩ := hpackets call List.mem_cons_self
      have hrest := fun other hmem => hpackets other (List.mem_cons_of_mem _ hmem)
      rw [List.flatMap_cons, List.length_append] at hfits
      rw [List.foldl_cons, List.flatMap_cons]
      by_cases hrc : result.rc = 0
      · have hpayload : Call.payload (.data bytes result) = bytes := if_pos hrc
        rw [hpayload] at hfits ⊢
        have hall : bytes.take state.expected = bytes := List.take_of_length_le (by omega)
        simp only [Bootloader.receive, hrc, ne_eq, not_true_eq_false, if_false, hall]
        rw [ih hrest _ (by dsimp only; omega)]
        simp only [storesFrom_append, List.length_append, List.append_assoc, UInt32.ofNat_add,
          UInt32.add_assoc, Nat.sub_sub]
      · have hpayload : Call.payload (.data bytes result) = [] := if_neg hrc
        rw [hpayload] at hfits ⊢
        rw [List.length_nil, Nat.zero_add] at hfits
        simp only [Bootloader.receive, hrc, ne_eq, not_false_eq_true, if_true]
        exact ih hrest state hfits

/-- The loop stores its pages from the address of its counters on. -/
theorem receive_pageLoop {answers : Nat → PageAnswers} {pages : List (List UInt8)}
    {index : Nat} (counters : Counters) (hsends : PagesSend (fun i => answers (index + i)) pages)
    (hbounded : ∀ page ∈ pages, page.length ≤ 0x4000) (state : Bootloader) :
    ((pageLoop answers index counters pages).calls.foldl Bootloader.receive state).written =
      state.written ++ storesFrom counters.addr pages.flatten := by
  induction pages generalizing index counters state with
  | nil => simp [pageLoop, storesFrom]
  | cons page rest ih =>
      obtain ⟨hfirst, hrest⟩ := pagesSend_cons hsends
      obtain ⟨hcmd, hdone⟩ := dataLoop_sends.mp hfirst
      have hpackets := dataLoop_packets (answers index).data page 0
      have hpayload := dataLoop_payload hdone
      rw [List.drop_zero] at hpayload
      have hpage := hbounded page List.mem_cons_self
      have hbytes : (UInt32.ofNat page.length).toNat = page.length :=
        UInt32.toNat_ofNat_of_lt' (by
          have hsize : UInt32.size = 2 ^ 32 := rfl
          omega)
      rw [pageLoop_cons hfirst, List.foldl_cons, List.foldl_append, List.foldl_cons]
      simp only [Bootloader.receive, hcmd, writeCmd, ne_eq, not_true_eq_false, if_false, if_true]
      rw [receive_packets hpackets _ (by rw [hpayload, hbytes]), hpayload,
        ih (counters.next page) hrest fun other hmem => hbounded other (List.mem_cons_of_mem _ hmem)]
      rw [List.flatten_cons, storesFrom_append, List.append_assoc]
      rfl

/-! ## Commands and packets -/

/-- The commands among the calls, in order. -/
def commandsOf (calls : List Call) : List BlCmd :=
  calls.filterMap Call.command?

/-- The size of the packets that the calls begin with. -/
def packetBytes : List Call → Nat
  | .data bytes _ :: rest => bytes.length + packetBytes rest
  | _ => 0

/-- The packets right after a command make up its `bytes`. -/
def PacketsFill (cmd : BlCmd) (rest : List Call) : Prop :=
  packetBytes rest = cmd.bytes.toNat

theorem commandsOf_eq_nil {calls : List Call} (hcalls : ∀ call ∈ calls, call.command? = none) :
    commandsOf calls = [] :=
  List.filterMap_eq_nil_iff.mpr hcalls

theorem commandsOf_append (front back : List Call) :
    commandsOf (front ++ back) = commandsOf front ++ commandsOf back :=
  List.filterMap_append

/-- Packets that are transferred are as long as their payload. -/
theorem packetBytes_dataLoop {data : Nat → Xfer} {page : List UInt8} {sent : Nat}
    (hdone : (dataLoop data page sent).1 = true) (result : Xfer) (rest : List Call) :
    packetBytes ((dataLoop data page sent).2 ++ .reply result :: rest) = page.length - sent := by
  fun_induction dataLoop data page sent with
  | case1 sent hsent ts packet hfailed => cases hdone
  | case2 sent hsent ts packet hrc after ih =>
      have hsize := packetSize_le (show 0 < page.length - sent by omega)
      have hlength : packet.length = ts := packet_length hsent
      have hts : ts = packetSize (page.length - sent) := rfl
      rw [List.cons_append, packetBytes, ih hdone, hlength]
      omega
  | case3 sent hsent =>
      have hstop : packetBytes (.reply result :: rest) = 0 := rfl
      rw [List.nil_append, hstop]
      omega

/-- The sequence numbers of the loop count on from those of its counters. -/
theorem seq_pageLoop {answers : Nat → PageAnswers} {pages : List (List UInt8)}
    {index : Nat} (counters : Counters) (hsends : PagesSend (fun i => answers (index + i)) pages) :
    let loop := pageLoop answers index counters pages
    loop.left = .finished ∧ loop.counters.seq = counters.seq + UInt32.ofNat pages.length ∧
      (commandsOf loop.calls).map BlCmd.seq =
        (List.range pages.length).map (fun i => counters.seq + UInt32.ofNat i) := by
  induction pages generalizing index counters with
  | nil => simp [pageLoop, commandsOf]
  | cons page rest ih =>
      obtain ⟨hfirst, hrest⟩ := pagesSend_cons hsends
      obtain ⟨hleft, hseq, hcommands⟩ := ih (counters.next page) hrest
      have hpackets := dataLoop_packets (answers index).data page 0
      have hnone := commandsOf_eq_nil fun call hcall => (hpackets call hcall).command
      have hnext : ∀ i, (counters.next page).seq + UInt32.ofNat i =
          counters.seq + UInt32.ofNat (i + 1) := by
        intro i
        rw [UInt32.ofNat_add, UInt32.add_comm (UInt32.ofNat i), ← UInt32.add_assoc]
        rfl
      intro loop
      have hloop := pageLoop_cons hfirst counters rest
      refine ⟨?_, ?_, ?_⟩ <;> simp only [loop, hloop]
      · exact hleft
      · rw [hseq, hnext, List.length_cons]
      · rw [show ∀ call calls, commandsOf (call :: calls) = commandsOf [call] ++ commandsOf calls
          from fun call calls => commandsOf_append [call] calls, commandsOf_append, hnone]
        rw [show ∀ result calls, commandsOf (.reply result :: calls) = commandsOf calls
          from fun _ _ => rfl, List.map_append, List.nil_append, hcommands]
        rw [List.length_cons, List.range_succ_eq_map, List.map_cons, List.map_map]
        simp only [Function.comp_def, hnext]
        simp [commandsOf, Call.command?, writeCmd]

/-- The packets after each write command of the loop make up its `bytes`. -/
theorem packetBytes_pageLoop {answers : Nat → PageAnswers} {pages : List (List UInt8)}
    {index : Nat} (counters : Counters) (hsends : PagesSend (fun i => answers (index + i)) pages)
    (hbounded : ∀ page ∈ pages, page.length ≤ 0x4000) {tail : List Call}
    (htail : AfterWrites PacketsFill tail) :
    AfterWrites PacketsFill ((pageLoop answers index counters pages).calls ++ tail) := by
  induction pages generalizing index counters with
  | nil => exact htail
  | cons page rest ih =>
      obtain ⟨hfirst, hrest⟩ := pagesSend_cons hsends
      have hpackets := dataLoop_packets (answers index).data page 0
      have hdone := (dataLoop_sends.mp hfirst).2
      have hpage := hbounded page List.mem_cons_self
      have hbytes : (UInt32.ofNat page.length).toNat = page.length :=
        UInt32.toNat_ofNat_of_lt' (by
          have hsize : UInt32.size = 2 ^ 32 := rfl
          omega)
      rw [pageLoop_cons hfirst, List.cons_append, List.append_assoc, List.cons_append]
      refine ⟨fun _ => ?_, ?_⟩
      · rw [PacketsFill, packetBytes_dataLoop hdone, writeCmd, hbytes, Nat.sub_zero]
      · rw [afterWrites_append fun call hcall => (hpackets call hcall).command]
        exact ih (counters.next page) hrest fun other hmem =>
          hbounded other (List.mem_cons_of_mem _ hmem)

/-- Every data packet of the loop has between 1 and 512 bytes. -/
theorem packet_pageLoop (answers : Nat → PageAnswers) (pages : List (List UInt8))
    (index : Nat) (counters : Counters) {bytes : List UInt8} {result : Xfer}
    (hmem : .data bytes result ∈ (pageLoop answers index counters pages).calls) :
    1 ≤ bytes.length ∧ bytes.length ≤ 512 := by
  have hpacket : ∀ page index, .data bytes result ∈ (dataLoop (answers index).data page 0).2 →
      1 ≤ bytes.length ∧ bytes.length ≤ 512 := by
    intro page index hdata
    obtain ⟨_, _, heq, hsize⟩ := dataLoop_packets (answers index).data page 0 _ hdata
    cases heq
    exact hsize
  induction pages generalizing index counters with
  | nil => cases hmem
  | cons page rest ih =>
      simp only [pageLoop] at hmem
      split at hmem
      · cases List.mem_singleton.mp hmem
      · split at hmem
        · rcases List.mem_append.mp hmem with hcmd | hdata
          · cases List.mem_singleton.mp hcmd
          · exact hpacket page index hdata
        · simp only [List.mem_append, List.mem_singleton, reduceCtorEq, false_or, or_false]
            at hmem
          rcases hmem with hdata | hrest
          · exact hpacket page index hdata
          · exact ih (index + 1) (counters.next page) hrest

/-! ## The whole upload -/

/-- The calls of an upload whose transfers succeed. -/
theorem uploadUacFirmware_transfers {answers : Answers} {pages : List (List UInt8)}
    (htransfers : answers.Transfers pages) :
    let loop := pageLoop answers.page 0 startCounters pages
    uploadUacFirmware answers pages = (0,
      openCalls answers ++ (.command firstCmd answers.first :: .reply answers.firstReply ::
        .reply answers.secondReply :: (loop.calls ++ [.command (launchCmd loop.counters)
          answers.launch, .reply answers.launchReply, .releaseInterface, .close]))) := by
  obtain ⟨hfopen, hfound, hclaim⟩ := htransfers.claimed
  have hpages : PagesSend (fun i => answers.page (0 + i)) pages := by
    simpa only [Nat.zero_add] using htransfers.pages
  have hleft := (seq_pageLoop startCounters hpages).1
  simp [uploadUacFirmware, hfopen, hfound, hclaim, hleft]

theorem receive_openCalls (answers : Answers) (state : Bootloader) :
    (openCalls answers).foldl Bootloader.receive state = state := by
  unfold openCalls
  split <;> rfl

/-- The bootloader stores the pages, one byte after the other. -/
theorem written_upload {file : List UInt8} {pages : List (List UInt8)}
    (hreading : Reading file pages) {answers : Answers} (htransfers : answers.Transfers pages) :
    written (uploadUacFirmware answers pages).2 = storesFrom 0x00080000 file := by
  have hpages : PagesSend (fun i => answers.page (0 + i)) pages := by
    simpa only [Nat.zero_add] using htransfers.pages
  rw [uploadUacFirmware_transfers htransfers, written, List.foldl_append, receive_openCalls]
  simp only [List.foldl_cons, List.foldl_append, List.foldl_nil]
  have hstart : bootloaderReset.receive (.command firstCmd answers.first) = bootloaderReset := by
    simp [Bootloader.receive, htransfers.first, firstCmd, bootloaderReset]
  have hlaunch : ∀ state : Bootloader, ∀ counters,
      (state.receive (.command (launchCmd counters) answers.launch)).written = state.written := by
    intro state counters
    simp [Bootloader.receive, htransfers.launch, launchCmd]
  have hother : ∀ state : Bootloader, ∀ result, state.receive (.reply result) = state :=
    fun _ _ => rfl
  have hclose : ∀ state : Bootloader,
      (state.receive .releaseInterface).receive .close = state := fun _ => rfl
  rw [hstart, hother, hother, hclose, hother, hlaunch,
    receive_pageLoop startCounters hpages hreading.bounded, hreading.whole]
  rfl

/-- What an upload transmits: the file, in packets and commands that fit together. -/
structure Transmits (file : List UInt8) (pages : List (List UInt8)) (calls : List Call) :
    Prop where
  /-- Each byte is stored once, at its own offset modulo `2 ^ 32`, and nothing else is. -/
  stored : written calls = storesFrom 0x00080000 file
  once : file.length ≤ 2 ^ 32 → ((written calls).map Prod.fst).Nodup
  /-- The memory is equal to the file, up to the offsets that share an address with a later one. -/
  memory : ∀ memory offset (hlt : offset < file.length), file.length ≤ offset + 2 ^ 32 →
    memoryAfter memory (written calls) (0x00080000 + UInt32.ofNat offset) = file[offset]
  outside : ∀ memory addr, (∀ offset < file.length, addr ≠ 0x00080000 + UInt32.ofNat offset) →
    memoryAfter memory (written calls) addr = memory addr
  packets : ∀ bytes result, .data bytes result ∈ calls → 1 ≤ bytes.length ∧ bytes.length ≤ 512
  filled : AfterWrites PacketsFill calls
  seq : (commandsOf calls).map BlCmd.seq =
    (List.range (pages.length + 2)).map (fun i => UInt32.ofNat (i + 1))
  launch : ∃ launch, (commandsOf calls).getLast? = some launch ∧ launch.cmd = 0x04 ∧
    launch.seq = UInt32.ofNat (pages.length + 2)

/-- When all transfers succeed, the upload returns 0 and transmits exactly the file. -/
theorem transmits_of_transfers {file : List UInt8} {pages : List (List UInt8)}
    (hreading : Reading file pages) {answers : Answers} (htransfers : answers.Transfers pages) :
    (uploadUacFirmware answers pages).1 = 0 ∧
      Transmits file pages (uploadUacFirmware answers pages).2 := by
  have hpages : PagesSend (fun i => answers.page (0 + i)) pages := by
    simpa only [Nat.zero_add] using htransfers.pages
  have hwritten := written_upload hreading htransfers
  obtain ⟨-, hseq, hcommands⟩ := seq_pageLoop startCounters hpages
  have hcalls := uploadUacFirmware_transfers htransfers
  have hopen := openCalls_command answers
  let loop := pageLoop answers.page 0 startCounters pages
  have hall : commandsOf (uploadUacFirmware answers pages).2 =
      firstCmd :: (commandsOf loop.calls ++ [launchCmd loop.counters]) := by
    rw [hcalls, commandsOf_append, commandsOf_eq_nil hopen]
    simp [commandsOf, List.filterMap_cons, List.filterMap_append, Call.command?, loop]
  have hlast : (launchCmd loop.counters).seq = UInt32.ofNat (pages.length + 2) := by
    rw [launchCmd, hseq, UInt32.ofNat_add, UInt32.add_comm]
    rfl
  refine ⟨by rw [hcalls], ⟨hwritten, ?_, ?_, ?_, ?_, ?_, ?_, ?_⟩⟩
  · intro hlength
    rw [hwritten]
    exact storesFrom_nodup _ hlength
  · intro memory offset hlt hwrap
    rw [hwritten]
    exact memoryAfter_inside memory _ file hlt hwrap
  · intro memory addr hne
    rw [hwritten]
    exact memoryAfter_outside memory hne
  · intro bytes result hmem
    rw [hcalls] at hmem
    simp only [List.mem_append, List.mem_cons, reduceCtorEq, List.not_mem_nil, or_false,
      false_or] at hmem
    rcases hmem with hmem | hmem
    · simp [openCalls] at hmem
    · exact packet_pageLoop answers.page pages 0 startCounters hmem
  · rw [hcalls, afterWrites_append hopen]
    refine ⟨fun hwrite => absurd hwrite (by decide),
      packetBytes_pageLoop startCounters hpages hreading.bounded
        ⟨fun hwrite => absurd hwrite (show (0x04 : UInt32) ≠ 0x03 by decide), trivial⟩⟩
  · rw [hall, List.map_cons, List.map_append, hcommands, List.map_singleton, hlast]
    rw [List.range_succ, List.range_succ_eq_map, List.map_append, List.map_cons, List.map_map,
      List.map_singleton, List.cons_append]
    congr 2
    refine List.map_congr_left fun i _ => ?_
    rw [Function.comp_apply, Nat.succ_eq_add_one, Nat.add_assoc, UInt32.ofNat_add,
      UInt32.add_comm]
    rfl
  · refine ⟨launchCmd loop.counters, ?_, rfl, hlast⟩
    rw [hall, ← List.cons_append, List.getLast?_concat]

/-- A bootloader that takes every transfer. -/
def succeedingAnswers : Answers where
  fopen := true
  found := true
  kernelDriverActive := 0
  claim := 0
  first := ⟨0, some 24, fun _ => 0⟩
  firstReply := ⟨0, some 12, fun _ => 0⟩
  secondReply := ⟨0, some 12, fun _ => 0⟩
  page := fun _ => {
    cmd := ⟨0, some 24, fun _ => 0⟩
    data := fun _ => ⟨0, some 512, fun _ => 0⟩
    reply := ⟨0, some 12, fun _ => 0⟩ }
  launch := ⟨0, some 24, fun _ => 0⟩
  launchReply := ⟨0, some 12, fun _ => 0⟩

theorem succeedingAnswers_transfers (pages : List (List UInt8)) :
    succeedingAnswers.Transfers pages where
  claimed := ⟨rfl, rfl, rfl⟩
  first := rfl
  pages := fun _ _ _ => ⟨rfl, fun _ _ _ => rfl⟩
  launch := rfl

theorem transmits_threeBytes :
    Reading [7, 8, 9] [[7, 8], [9]] ∧ succeedingAnswers.Transfers [[7, 8], [9]] ∧
      (uploadUacFirmware succeedingAnswers [[7, 8], [9]]).1 = 0 ∧
      Transmits [7, 8, 9] [[7, 8], [9]] (uploadUacFirmware succeedingAnswers [[7, 8], [9]]).2 := by
  have hreading : Reading [7, 8, 9] [[7, 8], [9]] := ⟨by decide, by decide, rfl⟩
  have htransfers := succeedingAnswers_transfers [[7, 8], [9]]
  exact ⟨hreading, htransfers, transmits_of_transfers hreading htransfers⟩

/-! ## Files longer than the address space -/

/-- A file of one byte more than there are addresses. -/
def wrappingFile : List UInt8 :=
  List.replicate (2 ^ 32) 0 ++ [1]

def wrappingPages : List (List UInt8) :=
  List.replicate (2 ^ 18) (List.replicate 0x4000 0) ++ [[1]]

theorem wrapping_reading : Reading wrappingFile wrappingPages := by
  have hpage : ∀ page ∈ wrappingPages, page = List.replicate 0x4000 0 ∨ page = [1] := by
    intro page hpage
    rcases List.mem_append.mp hpage with hzero | hlast
    · exact .inl (List.eq_of_mem_replicate hzero)
    · exact .inr (List.mem_singleton.mp hlast)
  have hlength : ∀ page ∈ wrappingPages, page.length = 0x4000 ∨ page.length = 1 := by
    intro page hmem
    rcases hpage page hmem with rfl | rfl
    · exact .inl List.length_replicate
    · exact .inr rfl
  refine ⟨?_, ?_, ?_⟩
  · rintro page hmem rfl
    rcases hlength [] hmem with h | h <;> cases h
  · intro page hmem
    rcases hlength page hmem with h | h <;> omega
  · rw [wrappingPages, List.flatten_append, List.flatten_replicate_replicate, wrappingFile]
    rw [List.flatten_singleton, show 2 ^ 18 * 0x4000 = 2 ^ 32 from by decide]

/--
The last byte of such a file takes the place of the first one.  The first
command, which is no write command, has `bytes = 0x60` and no data at all.
-/
theorem not_transmitsExactly_wrappingFile : Reading wrappingFile wrappingPages ∧
    ¬((∀ offset (hlt : offset < wrappingFile.length),
        memoryAfter (fun _ => 0) (written (uploadUacFirmware succeedingAnswers wrappingPages).2)
          (0x00080000 + UInt32.ofNat offset) = wrappingFile[offset]) ∨
      (∀ front cmd result back,
        (uploadUacFirmware succeedingAnswers []).2 = front ++ .command cmd result :: back →
          PacketsFill cmd back)) := by
  have hlength : wrappingFile.length = 2 ^ 32 + 1 := by
    rw [wrappingFile, List.length_append, List.length_replicate, List.length_singleton]
  refine ⟨wrapping_reading, ?_⟩
  rintro (hmemory | hfill)
  · have hfirst := hmemory 0 (by omega)
    have hlast := hmemory (2 ^ 32) (by omega)
    have haddr : UInt32.ofNat (2 ^ 32) = UInt32.ofNat 0 := rfl
    have hzero : wrappingFile[0] = 0 := by
      simp only [wrappingFile]
      rw [List.getElem_append_left (by rw [List.length_replicate]; omega), List.getElem_replicate]
    have hone : wrappingFile[2 ^ 32] = 1 := by
      simp only [wrappingFile]
      rw [List.getElem_append_right (by rw [List.length_replicate])]
      simp only [List.length_replicate, Nat.sub_self, List.getElem_singleton]
    rw [haddr, hfirst, hzero, hone] at hlast
    cases hlast
  · have hbytes := hfill [.kernelDriverActive 0, .setAutoDetachKernelDriver, .claimInterface 0]
      firstCmd succeedingAnswers.first _ rfl
    cases hbytes

end K4W.Firmware
