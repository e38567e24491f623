import K4W.Shm.SequenceGates

/-!
# Readers across restarts of the daemon

The stream loops and the microphone monitor open the segment in every iteration,
and keep the number of the last frame for as long as they run.  A daemon that
starts zeroes the segment, or makes it anew, and counts from 0 again.  So a frame
of the next daemon can have the number that a reader has kept.
-/

namespace K4W.Shm.Restarts

open K4W.Library
open K4W.Shm.Gates

/-! ## Daemons and a reader -/

/-- A frame by the daemon that published it, and its number there. -/
structure Sent where
  daemon : Nat
  number : Nat
deriving DecidableEq

/-- One frame was published before another. -/
def Sent.Before (sent later : Sent) : Prop :=
  sent.daemon < later.daemon ∨ sent.daemon = later.daemon ∧ sent.number < later.number

theorem Sent.Before.trans {sent middle later : Sent} (hfirst : sent.Before middle)
    (hsecond : middle.Before later) : sent.Before later := by
  unfold Sent.Before at *
  omega

theorem Sent.Before.ne {sent later : Sent} (hbefore : sent.Before later) : sent ≠ later := by
  rintro rfl
  rcases hbefore with hdaemon | ⟨-, hnumber⟩
  · exact Nat.lt_irrefl _ hdaemon
  · exact Nat.lt_irrefl _ hnumber

inductive Event (Env : Type) where
  /-- A daemon starts: `k4w_shm_create`, and the geometry of the stream. -/
  | create (calls : CreateCalls) (frameSize w h bpp : UInt32)
  /-- A daemon stops: `k4w_shm_destroy`. -/
  | destroy
  | publish (frame : Frame)
  | poll (env : Env)

/-- The name of a segment, and one reader of it. -/
structure Site (Kept : Type) where
  segment : Option K4wShmHeader
  /-- How many daemons have created the segment. -/
  daemon : Nat
  /-- How many frames the last of them has published. -/
  published : Nat
  /-- The frame that the reader accepted last. -/
  accepted : Option Sent
  kept : Kept

def Site.newest {Kept : Type} (site : Site Kept) : Sent :=
  ⟨site.daemon, site.published⟩

/-- The number of the frame accepted last, or 0. -/
def Site.acceptedNumber {Kept : Type} (site : Site Kept) : Nat :=
  match site.accepted with
  | none => 0
  | some sent => sent.number

section Restarting

variable {Kept Env : Type} (reader : GatedReader Kept Env)

/-- Daemons start, publish, stop, or crash, and the reader polls, in any order. -/
def restarting : Loop (Site Kept) (Event Env) Bool where
  initial := ⟨none, 0, 0, none, reader.initial⟩
  step := fun site event =>
    match event with
    | .create calls frameSize w h bpp =>
        match k4wShmCreate calls frameSize with
        | .ok mapping =>
            ({ site with
              segment := some (mapping.hdr.withGeometry w h bpp)
              daemon := site.daemon + 1
              published := 0 }, false)
        | .error failure =>
            (if failure.unlinked then { site with segment := none } else site, false)
    | .destroy => ({ site with segment := none }, false)
    | .publish frame =>
        match site.segment with
        | none => (site, false)
        | some hdr =>
            ({ site with
              segment := some (writeFrame hdr frame)
              published := site.published + 1 }, false)
    | .poll env =>
        match site.segment with
        | none => (site, false)
        | some hdr =>
            let polled := reader.poll site.kept hdr env
            ({ site with
              kept := polled.2
              accepted := if polled.1 then some site.newest else site.accepted }, polled.1)

/-- The numbers of the segment and of the reader are those of the frames. -/
structure Tracks (site : Site Kept) : Prop where
  seq : ∀ hdr ∈ site.segment, hdr.seq = UInt32.ofNat site.published
  keeps : reader.Keeps site.kept site.acceptedNumber
  past : ∀ sent ∈ site.accepted, sent.daemon < site.daemon ∨
    sent.daemon = site.daemon ∧ sent.number ≤ site.published

variable {reader}

theorem next_publish {site : Site Kept} {hdr : K4wShmHeader} (hsegment : site.segment = some hdr)
    (frame : Frame) :
    (restarting reader).next site (.publish frame) = { site with
      segment := some (writeFrame hdr frame)
      published := site.published + 1 } := by
  simp [Loop.next, restarting, hsegment]

/-- A poll that accepts the newest frame. -/
theorem next_accepting {site : Site Kept} {hdr : K4wShmHeader} (hsegment : site.segment = some hdr)
    {env : Env} (hpassed : (reader.poll site.kept hdr env).1 = true) :
    (restarting reader).next site (.poll env) = { site with
      kept := (reader.poll site.kept hdr env).2
      accepted := some site.newest } := by
  simp [Loop.next, restarting, hsegment, hpassed]

/-- A poll that accepts nothing changes nothing. -/
theorem next_blocked {site : Site Kept} {env : Env}
    (hblocked : ∀ hdr ∈ site.segment, (reader.poll site.kept hdr env).1 = false) :
    (restarting reader).next site (.poll env) = site := by
  cases hsegment : site.segment with
  | none => simp [Loop.next, restarting, hsegment]
  | some hdr =>
      have hnext : (restarting reader).next site (.poll env) = { site with
          kept := (reader.poll site.kept hdr env).2
          accepted :=
            if (reader.poll site.kept hdr env).1 then some site.newest else site.accepted } := by
        simp [Loop.next, restarting, hsegment]
      have hpoll := hblocked hdr hsegment
      rw [hnext, reader.kept_of_blocked _ _ _ hpoll, hpoll]
      rfl

theorem Tracks.create {site : Site Kept} (htracks : Tracks reader site) (calls : CreateCalls)
    (frameSize w h bpp : UInt32) :
    Tracks reader ((restarting reader).next site (.create calls frameSize w h bpp)) := by
  obtain ⟨hseq, hkeeps, hpast⟩ := htracks
  unfold Loop.next restarting
  dsimp only
  cases hcreate : k4wShmCreate calls frameSize with
  | ok mapping =>
      refine ⟨?_, hkeeps, fun sent hmem => ?_⟩
      · rintro hdr hmem
        cases hmem
        rw [k4wShmCreate_ok hcreate]
        rfl
      · left
        rcases hpast sent hmem with hbefore | ⟨hsame, -⟩
        · exact Nat.lt_succ_of_lt hbefore
        · exact Nat.lt_succ_of_le (Nat.le_of_eq hsame)
  | error failure =>
      cases hunlinked : failure.unlinked with
      | true =>
          dsimp only
          rw [hunlinked, if_pos rfl]
          exact ⟨nofun, hkeeps, hpast⟩
      | false =>
          dsimp only
          rw [hunlinked, if_neg Bool.false_ne_true]
          exact ⟨hseq, hkeeps, hpast⟩

theorem Tracks.publish {site : Site Kept} (htracks : Tracks reader site) (frame : Frame) :
    Tracks reader ((restarting reader).next site (.publish frame)) := by
  obtain ⟨hseq, hkeeps, hpast⟩ := htracks
  cases hsegment : site.segment with
  | none =>
      have hsame : (restarting reader).next site (.publish frame) = site := by
        simp [Loop.next, restarting, hsegment]
      rw [hsame]
      exact ⟨hseq, hkeeps, hpast⟩
  | some hdr =>
      rw [next_publish hsegment]
      refine ⟨?_, hkeeps, fun sent hmem => ?_⟩
      · rintro written hmem
        cases hmem
        change hdr.seq + 1 = UInt32.ofNat (site.published + 1)
        rw [hseq hdr hsegment, UInt32.ofNat_add]
        rfl
      · exact (hpast sent hmem).imp_right fun hsame => ⟨hsame.1, Nat.le_succ_of_le hsame.2⟩

theorem Tracks.poll {site : Site Kept} (htracks : Tracks reader site) (env : Env) :
    Tracks reader ((restarting reader).next site (.poll env)) := by
  by_cases hpolled : ∃ hdr ∈ site.segment, (reader.poll site.kept hdr env).1 = true
  · obtain ⟨hdr, hsegment, hpassed⟩ := hpolled
    rw [next_accepting hsegment hpassed]
    refine ⟨htracks.seq, ?_, fun sent hmem => ?_⟩
    · exact reader.keeps_passed _ _ _ _ (htracks.seq hdr hsegment) hpassed
    · cases hmem
      exact .inr ⟨rfl, Nat.le_refl _⟩
  · have hblocked : ∀ hdr ∈ site.segment, (reader.poll site.kept hdr env).1 = false := by
      simpa using hpolled
    rw [next_blocked hblocked]
    exact htracks

theorem Tracks.next {site : Site Kept} (htracks : Tracks reader site) (event : Event Env) :
    Tracks reader ((restarting reader).next site event) := by
  cases event with
  | create calls frameSize w h bpp => exact htracks.create calls frameSize w h bpp
  | destroy => exact ⟨nofun, htracks.keeps, htracks.past⟩
  | publish frame => exact htracks.publish frame
  | poll env => exact htracks.poll env

theorem tracks_state (events : List (Event Env)) :
    Tracks reader ((restarting reader).state events) := by
  apply Loop.state_of_past
  · exact ⟨nofun, reader.keeps_initial, nofun⟩
  · exact fun event htracks => htracks.next event

end Restarting

/-! ## The accepted frames -/

section Accepting

variable {Kept Env : Type}

end Accepting

/-! ## The gates -/

section Gates

variable {Kept Env : Type} {reader : GatedReader Kept Env} {site : Site Kept}

end Gates

end K4W.Shm.Restarts
