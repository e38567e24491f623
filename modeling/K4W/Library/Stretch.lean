import Mathlib.Algebra.Order.Group.MinMax
import Mathlib.Tactic.Abel

/-!
# Clipped stretches

A stretch is kept as its start and its length.  Clipping brings the start up
to zero and cuts the length at the size; it does not shorten a stretch that
has lost a part in front of zero.
-/

namespace K4W.Library

structure Stretch (α : Type*) where
  start : α
  len : α

namespace Stretch

variable {α : Type*} [AddCommGroup α] [LinearOrder α] [IsOrderedAddMonoid α]

def stop (stretch : Stretch α) : α :=
  stretch.start + stretch.len

/-- The start is moved to zero, and the length is cut behind the moved start. -/
def clip (size : α) (stretch : Stretch α) : Stretch α where
  start := max 0 stretch.start
  len := min (size - max 0 stretch.start) stretch.len

/-- The stretch is a part of the one from zero to the size. -/
def Within (size : α) (stretch : Stretch α) : Prop :=
  0 ≤ stretch.start ∧ stretch.stop ≤ size

def Covers (outer inner : Stretch α) : Prop :=
  outer.start ≤ inner.start ∧ inner.stop ≤ outer.stop

/-- The same number of points more at either end. -/
def widen (margin : α) (stretch : Stretch α) : Stretch α where
  start := stretch.start - margin
  len := stretch.len + (margin + margin)

theorem clip_stop (size : α) (stretch : Stretch α) :
    (stretch.clip size).stop = min size (max 0 stretch.start + stretch.len) := by
  rw [stop, clip, ← min_add_add_left, add_sub_cancel]

theorem clip_within (size : α) (stretch : Stretch α) : (stretch.clip size).Within size := by
  refine ⟨le_max_left _ _, ?_⟩
  rw [clip_stop]
  exact min_le_left _ _

/-- A stretch keeps its parts inside when it is clipped. -/
theorem clip_covers {size : α} {outer inner : Stretch α} (hwithin : inner.Within size)
    (hcovers : outer.Covers inner) : (outer.clip size).Covers inner := by
  refine ⟨max_le hwithin.1 hcovers.1, ?_⟩
  rw [clip_stop]
  refine le_min hwithin.2 (hcovers.2.trans ?_)
  exact add_le_add_left (le_max_right _ _) _

theorem widen_covers {margin : α} (hmargin : 0 ≤ margin) (stretch : Stretch α) :
    (stretch.widen margin).Covers stretch := by
  refine ⟨sub_le_self _ hmargin, ?_⟩
  have hstop : (stretch.widen margin).stop = stretch.stop + margin := by
    simp only [stop, widen]
    abel
  rw [hstop]
  exact le_add_of_nonneg_right hmargin

/-- A stretch that covers another one is at least as long. -/
theorem Covers.len_le {outer inner : Stretch α} (hcovers : outer.Covers inner) :
    inner.len ≤ outer.len := by
  have hsum : outer.start + inner.len ≤ outer.start + outer.len :=
    (add_le_add_left hcovers.1 _).trans hcovers.2
  exact le_of_add_le_add_left hsum

end Stretch

end K4W.Library
