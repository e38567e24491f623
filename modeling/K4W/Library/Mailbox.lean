import K4W.Library.Loop

/-!
# Mailboxes that keep the latest item

Items are posted one after the other, and only the latest one can be taken.  A
reader that comes by takes an item that is new to it, or spills it: then it has
noted the item without getting it, and does not come back to it.  What is taken
is in the order of the posts, no item twice, and each the latest at its time.
-/

namespace K4W.Library

universe u

/-- How a reader comes by. -/
inductive Visit where
  | misses
  | spills
  | takes
deriving DecidableEq

inductive MailboxEvent (Item : Type u) where
  | post (item : Item)
  | visit (visit : Visit)

/-- The items posted, and how many had been when the reader last noted one. -/
structure Mailbox (Item : Type u) where
  posted : List Item
  noted : Nat

namespace Mailbox

variable {Item : Type u}

/-- The latest item, if it is new to the reader. -/
def fresh (box : Mailbox Item) : Option Item :=
  if box.noted < box.posted.length then box.posted.getLast? else none

/-- The loop of events, with the item that each one takes. -/
def watched : Loop (Mailbox Item) (MailboxEvent Item) (Option Item) where
  initial := ⟨[], 0⟩
  step := fun box event =>
    match event with
    | .post item => ({ box with posted := box.posted ++ [item] }, none)
    | .visit .misses => (box, none)
    | .visit .spills => ({ box with noted := box.posted.length }, none)
    | .visit .takes => ({ box with noted := box.posted.length }, box.fresh)

/-- The items that the reader took, first one first. -/
def taken (events : List (MailboxEvent Item)) : List Item :=
  (watched.run events).filterMap (·.output)

/-- The items posted by the events, first one first. -/
def posts (events : List (MailboxEvent Item)) : List Item :=
  events.filterMap fun
    | .post item => some item
    | .visit _ => none

@[simp] theorem taken_append (events : List (MailboxEvent Item)) (event : MailboxEvent Item) :
    taken (events ++ [event]) =
      taken events ++ (watched.output (watched.state events) event).toList := by
  rw [taken, Loop.run_append, filterMap_concat]
  rfl

@[simp] theorem posts_append (front back : List (MailboxEvent Item)) :
    posts (front ++ back) = posts front ++ posts back :=
  List.filterMap_append

/-- A reader that misses the box, or has noted everything, changes nothing. -/
theorem step_quiet {box : Mailbox Item} (hnoted : box.noted ≤ box.posted.length) {visit : Visit}
    (hquiet : visit = .misses ∨ box.posted.length ≤ box.noted) :
    watched.step box (.visit visit) = (box, none) := by
  rcases hquiet with rfl | hall
  · rfl
  · have hsame : box.posted.length = box.noted := Nat.le_antisymm hall hnoted
    have hnone : box.fresh = none := if_neg (Nat.not_lt_of_le hall)
    cases visit with
    | misses => rfl
    | spills => simp only [watched, hsame]
    | takes => simp only [watched, hsame, hnone]

theorem fresh_of_lt {box : Mailbox Item} (hnew : box.noted < box.posted.length) :
    box.fresh = box.posted.getLast? :=
  if_pos hnew

/-- The last item may be put behind items that come before it. -/
theorem sublist_concat_last {items all : List Item} {count : Nat} (hcount : count < all.length)
    (hitems : items.Sublist (all.take count)) :
    (items ++ all.getLast?.toList).Sublist all := by
  induction all using List.reverseRecOn with
  | nil => exact absurd hcount (Nat.not_lt_zero _)
  | append_singleton front last _ =>
      rw [List.length_append, List.length_singleton] at hcount
      rw [List.take_append_of_le_length (by omega)] at hitems
      rw [List.getLast?_concat, Option.toList_some]
      exact (hitems.trans (List.take_sublist _ _)).append (List.Sublist.refl _)

/-- The reader has noted no more than was posted. -/
structure Kept (events : List (MailboxEvent Item)) (box : Mailbox Item) : Prop where
  posted : box.posted = posts events
  noted : box.noted ≤ box.posted.length
  inOrder : (taken events).Sublist (box.posted.take box.noted)

theorem Kept.next {events : List (MailboxEvent Item)}
    (hkept : Kept events (watched.state events)) (event : MailboxEvent Item) :
    Kept (events ++ [event]) (watched.next (watched.state events) event) := by
  obtain ⟨hposted, hnoted, htaken⟩ := hkept
  have hprefix : ((watched.state events).posted.take (watched.state events).noted).Sublist
      (watched.state events).posted := List.take_sublist _ _
  cases event with
  | post item =>
      refine ⟨?_, ?_, ?_⟩
      · change (watched.state events).posted ++ [item] = _
        rw [hposted, posts_append]
        rfl
      · change (watched.state events).noted ≤ ((watched.state events).posted ++ [item]).length
        rw [List.length_append]
        exact Nat.le_add_right_of_le hnoted
      · rw [taken_append]
        change (taken events ++ []).Sublist
          (((watched.state events).posted ++ [item]).take (watched.state events).noted)
        rw [List.append_nil, List.take_append_of_le_length hnoted]
        exact htaken
  | visit visit =>
      have hposts : posts (events ++ [.visit visit]) = posts events := by
        rw [posts_append]
        exact List.append_nil _
      cases visit with
      | misses =>
          refine ⟨hposted.trans hposts.symm, hnoted, ?_⟩
          rw [taken_append]
          change (taken events ++ []).Sublist _
          rw [List.append_nil]
          exact htaken
      | spills =>
          refine ⟨hposted.trans hposts.symm, Nat.le_refl _, ?_⟩
          rw [taken_append]
          change (taken events ++ []).Sublist
            ((watched.state events).posted.take (watched.state events).posted.length)
          rw [List.append_nil, List.take_length]
          exact htaken.trans hprefix
      | takes =>
          refine ⟨hposted.trans hposts.symm, Nat.le_refl _, ?_⟩
          rw [taken_append]
          change (taken events ++ (watched.state events).fresh.toList).Sublist
            ((watched.state events).posted.take (watched.state events).posted.length)
          rw [List.take_length]
          unfold fresh
          split
          case isTrue hnew =>
              exact sublist_concat_last hnew htaken
          case isFalse =>
              rw [Option.toList_none, List.append_nil]
              exact htaken.trans hprefix

theorem kept_state (events : List (MailboxEvent Item)) : Kept events (watched.state events) := by
  induction events using List.reverseRecOn with
  | nil => exact ⟨rfl, Nat.le_refl 0, List.Sublist.refl _⟩
  | append_singleton events last ih =>
      rw [Loop.state_append]
      exact ih.next last

/-- The reader gets posted items in their order, and no post twice. -/
theorem taken_sublist (events : List (MailboxEvent Item)) :
    (taken events).Sublist (posts events) := by
  have hkept := kept_state events
  rw [← hkept.posted]
  exact hkept.inOrder.trans (List.take_sublist _ _)

/-! ## What is new to the reader -/

/-- The event lets the reader note nothing. -/
def MailboxEvent.IsBlind : MailboxEvent Item → Prop
  | .post _ | .visit .misses => True
  | .visit .spills | .visit .takes => False

/-- Until the reader notes an item, the latest of the items posted meanwhile is new to it. -/
theorem fresh_of_blind (past : List (MailboxEvent Item)) {later : List (MailboxEvent Item)}
    (hblind : ∀ event ∈ later, MailboxEvent.IsBlind event) (hposts : posts later ≠ []) :
    (watched.state (past ++ later)).fresh = (posts (past ++ later)).getLast? := by
  have hnoted : (watched.state (past ++ later)).noted = (watched.state past).noted := by
    clear hposts
    induction later using List.reverseRecOn with
    | nil => rw [List.append_nil]
    | append_singleton later last ih =>
        have hlast := hblind last (List.mem_append_right _ List.mem_cons_self)
        have hbefore := ih fun event hmem => hblind event (List.mem_append_left _ hmem)
        rw [← List.append_assoc, Loop.state_append]
        cases last with
        | post item => exact hbefore
        | visit visit =>
            cases visit with
            | misses => exact hbefore
            | spills | takes => exact hlast.elim
  have hpast := kept_state past
  have hkept := kept_state (past ++ later)
  have hpositive : 0 < (posts later).length := List.length_pos_iff.mpr hposts
  have hbound : (watched.state past).noted ≤ (posts past).length := by
    rw [← hpast.posted]
    exact hpast.noted
  have hnew : (watched.state (past ++ later)).noted <
      (watched.state (past ++ later)).posted.length := by
    rw [hnoted, hkept.posted, posts_append, List.length_append]
    omega
  rw [fresh_of_lt hnew, hkept.posted]

end Mailbox

end K4W.Library
