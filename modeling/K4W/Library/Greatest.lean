import Mathlib.Data.List.Induction
import Mathlib.Order.Lattice

/-!
# The first greatest of a list

A scan keeps the greatest value seen and the place where it was first seen.
Values without a rank are passed over.  At the end, every value before the place
is less, and none behind it is greater; or none exceeds the start.
-/

namespace K4W.Library

universe u v w

/-- The greatest value so far, and its place. -/
structure Greatest (Value : Type u) (Place : Type v) where
  value : Value
  place : Place

namespace Greatest

variable {Value : Type u} {Place : Type v}

section Scan

variable (below : Value → Value → Bool)

/-- A greater value takes the place of the greatest one. -/
def look (best seen : Greatest Value Place) : Greatest Value Place :=
  if below best.value seen.value then seen else best

end Scan

section Ranks

variable {Rank : Type w} [LinearOrder Rank] (below : Value → Value → Bool)
  (rank : Value → Option Rank)

/-- The comparison is that of the ranks, and false without them. -/
def ComparesRanks : Prop :=
  ∀ left right, below left right = true ↔
    ∃ x y, rank left = some x ∧ rank right = some y ∧ x < y

/-- The first one of the greatest that exceed the start. -/
structure IsFirst (start : Greatest Value Place) (seen : List (Greatest Value Place))
    (best : Greatest Value Place) : Prop where
  exceeds : below start.value best.value = true
  split : ∃ front back, seen = front ++ best :: back ∧
    (∀ other ∈ front, (rank other.value).isSome → below other.value best.value = true) ∧
    ∀ other ∈ back, below best.value other.value = false

variable {below rank}

theorem ComparesRanks.trans {low middle high : Value} (hcompares : ComparesRanks below rank)
    (hfirst : below low middle = true) (hsecond : below middle high = true) :
    below low high = true := by
  obtain ⟨x, y, hlow, hmiddle, hxy⟩ := (hcompares low middle).mp hfirst
  obtain ⟨y', z, hmiddle', hhigh, hyz⟩ := (hcompares middle high).mp hsecond
  rw [hmiddle] at hmiddle'
  cases hmiddle'
  exact (hcompares low high).mpr ⟨x, z, hlow, hhigh, lt_trans hxy hyz⟩

end Ranks

end Greatest

end K4W.Library
