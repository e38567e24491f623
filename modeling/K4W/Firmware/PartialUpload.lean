import K4W.Firmware.Upload

/-!
# Partial uploads

`upload_uac_firmware` leaves its page loop in three ways.  Only `goto out` skips
the launch command, every exit returns 0, and no reply of the bootloader is
looked at, so a partial upload is always reported as done.
-/

namespace K4W.Firmware

open K4W.Motor

/-! ## What a complete upload shows -/

/-- A successful reply comes after the data packets. -/
def Replied : List Call → Prop
  | .data _ _ :: rest => Replied rest
  | .reply result :: _ => blGetReply result = 0
  | _ => False

/-- The packets of every write command are followed by a successful reply. -/
def Answered (calls : List Call) : Prop :=
  AfterWrites (fun _ rest => Replied rest) calls

/-- Every byte of the file was transferred, and `bl_get_reply` succeeded for every page. -/
structure Complete (file : List UInt8) (calls : List Call) : Prop where
  sent : calls.flatMap Call.payload = file
  answered : Answered calls

def LaunchSent (calls : List Call) : Prop :=
  ∃ cmd result, .command cmd result ∈ calls ∧ cmd.cmd = 0x04

/-- A firmware that is launched or reported as done is complete. -/
def OnlyComplete (file : List UInt8) (upload : Int32 × List Call) : Prop :=
  (LaunchSent upload.2 → Complete file upload.2) ∧ (upload.1 = 0 → Complete file upload.2)

/-- The transfers and the reply of every page succeed. -/
def PagesSucceed (answers : Nat → PageAnswers) (pages : List (List UInt8)) : Prop :=
  ∀ index page, pages[index]? = some page →
    (answers index).Sends page ∧ blGetReply (answers index).reply = 0

/-! ## Calls around the page loop -/

theorem replied_append {packets : List Call} (hpackets : ∀ call ∈ packets, call.IsPacket)
    (back : List Call) : Replied (packets ++ back) ↔ Replied back := by
  induction packets with
  | nil => rfl
  | cons call rest ih =>
      have hrest := ih fun other hmem => hpackets other (List.mem_cons_of_mem _ hmem)
      obtain ⟨bytes, result, rfl, -⟩ := hpackets call List.mem_cons_self
      exact hrest

theorem openCalls_payload (answers : Answers) :
    (openCalls answers).flatMap Call.payload = [] := by
  unfold openCalls
  split <;> rfl

/-! ## The page loop -/

theorem pagesSucceed_cons {answers : Nat → PageAnswers} {page : List UInt8}
    {rest : List (List UInt8)} :
    PagesSucceed answers (page :: rest) ↔
      ((answers 0).Sends page ∧ blGetReply (answers 0).reply = 0) ∧
        PagesSucceed (fun index => answers (index + 1)) rest := by
  constructor
  · exact fun hall => ⟨hall 0 page rfl, fun index other hother => hall (index + 1) other hother⟩
  · rintro ⟨hfirst, hrest⟩ index other hother
    cases index with
    | zero =>
        cases hother
        exact hfirst
    | succ index => exact hrest index other hother

/-- The commands of the loop are answered exactly when the pages succeed. -/
theorem answered_pageLoop {tail : List Call} (hanswered : Answered tail)
    (hreplied : ¬Replied tail) (answers : Nat → PageAnswers) (pages : List (List UInt8))
    (index : Nat) (counters : Counters) :
    Answered ((pageLoop answers index counters pages).calls ++ tail) ↔
      PagesSucceed (fun i => answers (index + i)) pages := by
  induction pages generalizing index counters with
  | nil => exact ⟨fun _ => nofun, fun _ => hanswered⟩
  | cons page rest ih =>
      have hpackets := dataLoop_packets (answers index).data page 0
      rw [pagesSucceed_cons, answers_shift, ← ih (index + 1) (counters.next page), Nat.add_zero]
      by_cases hsends : (answers index).Sends page
      · have hcommands := fun call hcall => (hpackets call hcall).command
        rw [pageLoop_cons hsends]
        simp only [List.cons_append, List.append_assoc, Answered, AfterWrites,
          replied_append hpackets, afterWrites_append hcommands, Replied, writeCmd,
          forall_const, hsends, true_and]
      · -- the loop is left inside this page, so nothing replies to its command
        have hleft : ¬Answered ((pageLoop answers index counters (page :: rest)).calls ++ tail) := by
          rw [dataLoop_sends] at hsends
          simp only [pageLoop]
          split
          case isTrue => exact fun hall => hreplied (hall.1 rfl)
          case isFalse hcmd =>
              have hstop : (dataLoop (answers index).data page 0).1 = false := by
                simpa [not_not.mp hcmd] using hsends
              rw [if_pos (by rw [hstop]; rfl)]
              rintro ⟨hall, -⟩
              exact hreplied ((replied_append hpackets tail).mp (hall rfl))
        exact ⟨fun hall => absurd hall hleft, fun hall => absurd hall.1.1 hsends⟩

theorem payload_pageLoop {answers : Nat → PageAnswers} {pages : List (List UInt8)}
    {index : Nat} (counters : Counters)
    (hall : PagesSucceed (fun i => answers (index + i)) pages) :
    (pageLoop answers index counters pages).calls.flatMap Call.payload = pages.flatten := by
  induction pages generalizing index counters with
  | nil => rfl
  | cons page rest ih =>
      obtain ⟨⟨hsends, -⟩, hrest⟩ := pagesSucceed_cons.mp hall
      rw [answers_shift] at hrest
      rw [Nat.add_zero] at hsends
      have hafter := ih (counters.next page) hrest
      have hpayload := dataLoop_payload (dataLoop_sends.mp hsends).2
      rw [pageLoop_cons hsends]
      simp [Call.payload, hpayload, hafter]

/-! ## The upload -/

/-- Without the file and the bootloader nothing is sent, and the result is -1. -/
theorem uploadUacFirmware_unclaimed {answers : Answers} (hclaimed : ¬answers.Claimed)
    (pages : List (List UInt8)) :
    (uploadUacFirmware answers pages).1 = -1 ∧ ¬LaunchSent (uploadUacFirmware answers pages).2 := by
  unfold uploadUacFirmware
  split
  · exact ⟨rfl, nofun⟩
  · split
    · exact ⟨rfl, nofun⟩
    · split
      · refine ⟨rfl, ?_⟩
        rintro ⟨cmd, result, hmem, -⟩
        rcases List.mem_append.mp hmem with hopen | hclose
        · cases openCalls_command answers _ hopen
        · cases List.mem_singleton.mp hclose
      · exact absurd ⟨by simp_all, by simp_all, by simp_all⟩ hclaimed

/-- A claimed bootloader: the calls around those of the page loop. -/
theorem uploadUacFirmware_claimed {answers : Answers} (hclaimed : answers.Claimed)
    (pages : List (List UInt8)) :
    let loop := pageLoop answers.page 0 startCounters pages
    (uploadUacFirmware answers pages).1 = 0 ∧ ∃ tail, Answered tail ∧ ¬Replied tail ∧
      tail.flatMap Call.payload = [] ∧
      (uploadUacFirmware answers pages).2 =
        openCalls answers ++ [.command firstCmd answers.first, .reply answers.firstReply,
          .reply answers.secondReply] ++ (loop.calls ++ tail) := by
  obtain ⟨hfopen, hfound, hclaim⟩ := hclaimed
  intro loop
  simp only [uploadUacFirmware, hfopen, hfound, hclaim, Bool.not_true, Bool.false_eq_true,
    if_false, ne_eq, not_true_eq_false, true_and]
  split
  · refine ⟨[.releaseInterface, .close], trivial, fun h => h, rfl, ?_⟩
    simp [loop]
  · refine ⟨[.command (launchCmd loop.counters) answers.launch, .reply answers.launchReply,
      .releaseInterface, .close], ⟨nofun, trivial⟩, fun h => h, rfl, ?_⟩
    simp [loop]

/--
A launch or a result of 0 means a complete upload exactly when nothing was
claimed, or when the whole file was read and every page succeeded.
-/
theorem onlyComplete_iff_succeeds (file : List UInt8) (pages : List (List UInt8))
    (answers : Answers) :
    OnlyComplete file (uploadUacFirmware answers pages) ↔
      ¬answers.Claimed ∨ (pages.flatten = file ∧ PagesSucceed answers.page pages) := by
  by_cases hclaimed : answers.Claimed
  · obtain ⟨hrc, tail, hanswered, hreplied, htail, hcalls⟩ :=
      uploadUacFirmware_claimed hclaimed pages
    have hpages := answered_pageLoop hanswered hreplied answers.page pages 0 startCounters
    simp only [Nat.zero_add] at hpages
    have hall : Answered (uploadUacFirmware answers pages).2 ↔ PagesSucceed answers.page pages := by
      rw [hcalls, List.append_assoc, Answered, afterWrites_append (openCalls_command answers),
        ← hpages]
      exact ⟨fun h => h.2, fun h => ⟨nofun, h⟩⟩
    have hsent : PagesSucceed answers.page pages →
        (uploadUacFirmware answers pages).2.flatMap Call.payload = pages.flatten := by
      intro hsucceed
      have hloop := @payload_pageLoop answers.page pages 0 startCounters
        (by simpa only [Nat.zero_add] using hsucceed)
      rw [hcalls]
      simp only [List.flatMap_append, openCalls_payload, hloop, htail, List.append_nil]
      rfl
    constructor
    · intro honly
      have hcomplete := honly.2 hrc
      have hsucceed := hall.mp hcomplete.answered
      exact .inr ⟨(hsent hsucceed).symm.trans hcomplete.sent, hsucceed⟩
    · rintro (hnot | ⟨hfile, hsucceed⟩)
      · exact absurd hclaimed hnot
      · have hcomplete : Complete file (uploadUacFirmware answers pages).2 :=
          ⟨(hsent hsucceed).trans hfile, hall.mpr hsucceed⟩
        exact ⟨fun _ => hcomplete, fun _ => hcomplete⟩
  · obtain ⟨hrc, hlaunch⟩ := uploadUacFirmware_unclaimed hclaimed pages
    refine ⟨fun _ => .inl hclaimed, fun _ => ⟨fun h => absurd h hlaunch, fun h => ?_⟩⟩
    rw [hrc] at h
    cases h

/-- An upload whose first page command fails: the launch command is sent all the same. -/
def commandFails : Answers where
  fopen := true
  found := true
  kernelDriverActive := 0
  claim := 0
  first := ⟨0, some 24, fun _ => 0⟩
  firstReply := ⟨0, some 12, fun _ => 0⟩
  secondReply := ⟨0, some 12, fun _ => 0⟩
  page := fun _ => {
    cmd := ⟨-1, some 0, fun _ => 0⟩
    data := fun _ => ⟨0, some 512, fun _ => 0⟩
    reply := ⟨0, some 12, fun _ => 0⟩ }
  launch := ⟨0, some 24, fun _ => 0⟩
  launchReply := ⟨0, some 12, fun _ => 0⟩

theorem not_onlyComplete_of_commandFails :
    ¬OnlyComplete [7] (uploadUacFirmware commandFails [[7]]) := by
  intro honly
  have hanswered := (honly.2 rfl).answered
  exact absurd hanswered (by simp [uploadUacFirmware, commandFails, pageLoop, openCalls,
    Answered, AfterWrites, Replied, firstCmd, writeCmd, launchCmd])

end K4W.Firmware
