import Mathlib.Data.List.Basic
import Mathlib.Data.Nat.Basic

/-!
# Spans of bytes

The bytes that a program reads from a block of memory, as spans of consecutive
offsets from its start.  An offset can lie in front of the block, so it is an
integer; the question is whether every byte of a list of spans lies inside.
-/

namespace K4W.Library

/-- Consecutive bytes: the offset of the first one, and their number. -/
structure Span where
  offset : Int
  len : Nat
deriving DecidableEq

namespace Span

/-- Every byte of the span is one of the first `size` bytes. -/
def Inside (size : Nat) (span : Span) : Prop :=
  ∀ i : Nat, i < span.len → 0 ≤ span.offset + i ∧ span.offset + i < size

/-- Every byte of all the spans is one of the first `size` bytes. -/
def AllInside (size : Nat) (spans : List Span) : Prop :=
  ∀ span ∈ spans, span.Inside size

/-- The first and the last byte decide. -/
theorem inside_iff {size : Nat} {span : Span} :
    span.Inside size ↔
      span.len = 0 ∨ 0 ≤ span.offset ∧ span.offset + span.len ≤ size := by
  constructor
  · intro hinside
    by_cases hlen : span.len = 0
    · exact .inl hlen
    · have hfirst := (hinside 0 (by omega)).1
      have hlast := (hinside (span.len - 1) (by omega)).2
      exact .inr (by omega)
  · rintro (hlen | ⟨hlow, hhigh⟩) i hi
    · omega
    · omega

/-- A nonempty span that starts at a natural offset. -/
theorem inside_natCast_iff {size offset len : Nat} (hlen : 0 < len) :
    Inside size ⟨offset, len⟩ ↔ offset + len ≤ size := by
  rw [inside_iff]
  dsimp only
  omega

@[simp] theorem allInside_nil (size : Nat) : AllInside size [] :=
  fun _ hspan => absurd hspan List.not_mem_nil

@[simp] theorem allInside_cons (size : Nat) (span : Span) (spans : List Span) :
    AllInside size (span :: spans) ↔ span.Inside size ∧ AllInside size spans :=
  List.forall_mem_cons

/-- The spans behind an early return. -/
@[simp] theorem allInside_unless (size : Nat) (leave : Prop) [Decidable leave]
    (spans : List Span) :
    AllInside size (if leave then [] else spans) ↔ (¬ leave → AllInside size spans) := by
  split
  case isTrue hleave => exact ⟨fun _ hstay => absurd hleave hstay, fun _ => allInside_nil size⟩
  case isFalse hstay => exact ⟨fun hall _ => hall, fun hall => hall hstay⟩

/-- The spans of a loop are inside when those of each iteration are. -/
theorem allInside_loop_iff {size count : Nat} {spans : Nat → List Span} :
    AllInside size ((List.range count).flatMap spans) ↔
      ∀ i < count, AllInside size (spans i) := by
  constructor
  · intro hall i hi span hspan
    exact hall span (List.mem_flatMap.mpr ⟨i, List.mem_range.mpr hi, hspan⟩)
  · intro hall span hspan
    obtain ⟨i, hi, hspan⟩ := List.mem_flatMap.mp hspan
    exact hall i (List.mem_range.mp hi) span hspan

/-- Row by row, the cells of a rectangle are the numbers below its area. -/
theorem forall_cell_iff {width height : Nat} {p : Nat → Prop} :
    (∀ y < height, ∀ x < width, p (y * width + x)) ↔ ∀ i < height * width, p i := by
  constructor
  · intro hcells i hi
    have hwidth : 0 < width := Nat.pos_of_lt_mul_left hi
    have hcell := hcells (i / width) (Nat.div_lt_of_lt_mul (by rwa [Nat.mul_comm]))
      (i % width) (Nat.mod_lt i hwidth)
    rwa [Nat.div_add_mod'] at hcell
  · intro hall y hy x hx
    apply hall
    calc
      y * width + x < y * width + width := Nat.add_lt_add_left hx _
      _ = (y + 1) * width := (Nat.succ_mul y width).symm
      _ ≤ height * width := Nat.mul_le_mul_right width hy

/-! ## What the cells of the spans determine -/

/-- Two memories hold the same cells in the span. -/
def SameCells {α : Type*} (span : Span) (first second : Nat → α) : Prop :=
  ∀ i : Nat, i < span.len → 0 ≤ span.offset + i →
    first (span.offset + i).toNat = second (span.offset + i).toNat

/-- Two memories hold the same cells in all the spans. -/
def Agree {α : Type*} (spans : List Span) (first second : Nat → α) : Prop :=
  ∀ span ∈ spans, span.SameCells first second

@[simp] theorem agree_cons {α : Type*} (span : Span) (spans : List Span)
    (first second : Nat → α) :
    Agree (span :: spans) first second ↔
      span.SameCells first second ∧ Agree spans first second :=
  List.forall_mem_cons

/-- The cells of a span that starts at a natural offset. -/
theorem SameCells.cell {α : Type*} {offset len : Nat} {first second : Nat → α}
    (hsame : SameCells ⟨offset, len⟩ first second) {i : Nat} (hi : i < len) :
    first (offset + i) = second (offset + i) :=
  hsame i hi (by dsimp only; omega)

end Span

end K4W.Library
