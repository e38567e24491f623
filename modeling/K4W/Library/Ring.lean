import Mathlib.Logic.Function.Basic
import Mathlib.Data.List.Basic
import Mathlib.Data.Nat.Find

/-!
# Rings of slots in a flat buffer

A buffer is a function from offsets to cells.  A ring divides it into slots of
`size` cells each and stores item number `n` at the start of slot `n % slots`.
The last items stay readable because items less than `slots` apart have
different slots, whose blocks do not meet.
-/

namespace K4W.Library.Ring

universe u v

variable {α : Type u} {Item : Type v}

/-! ## Blocks -/

/-- The buffer after the first `len` cells of `src` are copied to offset `base`. -/
def copyBlock (dst : Nat → α) (base : Nat) (src : Nat → α) (len : Nat) : Nat → α :=
  fun i => if base ≤ i ∧ i < base + len then src (i - base) else dst i

@[simp] theorem copyBlock_zero (dst : Nat → α) (base : Nat) (src : Nat → α) :
    copyBlock dst base src 0 = dst := by
  funext i
  simp only [copyBlock]
  rw [if_neg (by omega)]

theorem copyBlock_inside (dst : Nat → α) (base : Nat) (src : Nat → α) {len i : Nat}
    (hi : i < len) : copyBlock dst base src len (base + i) = src i := by
  simp only [copyBlock]
  rw [if_pos (by omega), Nat.add_sub_cancel_left]

theorem copyBlock_outside (dst : Nat → α) (base : Nat) (src : Nat → α) {len i : Nat}
    (hi : i < base ∨ base + len ≤ i) : copyBlock dst base src len i = dst i := by
  simp only [copyBlock]
  rw [if_neg (by omega)]

theorem copyBlock_congr (dst : Nat → α) (base : Nat) {src other : Nat → α} {len : Nat}
    (hcells : ∀ i < len, src i = other i) :
    copyBlock dst base src len = copyBlock dst base other len := by
  funext i
  simp only [copyBlock]
  split
  case isTrue hin => exact hcells (i - base) (by omega)
  case isFalse => rfl

/-- A block copied cell by cell: the next cell goes to the end of the block. -/
theorem copyBlock_succ (dst : Nat → α) (base : Nat) (src : Nat → α) (len : Nat) :
    copyBlock dst base src (len + 1) =
      Function.update (copyBlock dst base src len) (base + len) (src len) := by
  funext i
  by_cases hi : i = base + len
  · subst hi
    rw [Function.update_self, copyBlock_inside dst base src (Nat.lt_succ_self len)]
  · rw [Function.update_of_ne hi]
    by_cases hin : base ≤ i ∧ i < base + len
    · obtain ⟨j, rfl⟩ := Nat.exists_eq_add_of_le hin.1
      rw [copyBlock_inside dst base src (by omega), copyBlock_inside dst base src (by omega)]
    · rw [copyBlock_outside dst base src (by omega), copyBlock_outside dst base src (by omega)]

/-- When the first cells of a block are copied, storing the next one copies one cell more. -/
theorem update_copied {dst src : Nat → α} {base len : Nat}
    (hcopied : ∀ i < len, dst (base + i) = src i) :
    ∀ i < len + 1, Function.update dst (base + len) (src len) (base + i) = src i := by
  intro i hi
  rcases Nat.lt_succ_iff_lt_or_eq.mp hi with hbefore | rfl
  · have hne : base + i ≠ base + len := by omega
    rw [Function.update_of_ne hne]
    exact hcopied i hbefore
  · exact Function.update_self _ _ _

/-- A block copied cell by cell: the first cell goes before the rest. -/
theorem copyBlock_cons (dst : Nat → α) (base : Nat) (src : Nat → α) (len : Nat) :
    copyBlock dst base src (len + 1) =
      copyBlock (Function.update dst base (src 0)) (base + 1) (fun i => src (i + 1)) len := by
  funext i
  by_cases hfirst : i = base
  · subst hfirst
    rw [copyBlock_outside _ _ _ (.inl (Nat.lt_succ_self i)), Function.update_self]
    exact copyBlock_inside dst i src (Nat.succ_pos len)
  · by_cases hin : base < i ∧ i < base + (len + 1)
    · obtain ⟨j, rfl⟩ := Nat.exists_eq_add_of_lt hin.1
      have hrest := copyBlock_inside (Function.update dst base (src 0)) (base + 1)
        (fun i => src (i + 1)) (show j < len by omega)
      have hwhole := copyBlock_inside dst base src (show j + 1 < len + 1 by omega)
      rw [show base + j + 1 = base + 1 + j by omega, hrest,
        show base + 1 + j = base + (j + 1) by omega, hwhole]
    · rw [copyBlock_outside _ _ _ (by omega), copyBlock_outside _ _ _ (by omega),
        Function.update_of_ne hfirst]

/-! ## Slots -/

/-- The slot begins with the first `len` cells of `payload`. -/
def SlotHolds (data : Nat → α) (size slot : Nat) (payload : Nat → α) (len : Nat) : Prop :=
  ∀ i < len, data (slot * size + i) = payload i

/-- The two buffers differ at most inside the slot. -/
def SameOutside (size slot : Nat) (data data' : Nat → α) : Prop :=
  ∀ i, i < slot * size ∨ slot * size + size ≤ i → data' i = data i

theorem sameOutside_copyBlock (data : Nat → α) (src : Nat → α) {size slot len : Nat}
    (hlen : len ≤ size) :
    SameOutside size slot data (copyBlock data (slot * size) src len) := by
  intro i hi
  exact copyBlock_outside data _ src (by omega)

theorem sameOutside_update (data : Nat → α) (cell : α) {size slot offset : Nat}
    (hoffset : offset < size) :
    SameOutside size slot data (Function.update data (slot * size + offset) cell) := by
  intro i hi
  have hne : i ≠ slot * size + offset := by omega
  exact Function.update_of_ne hne cell data

/-- Cells of two slots have different offsets. -/
theorem offset_outside {size slot other i : Nat} (hslot : slot ≠ other) (hi : i < size) :
    slot * size + i < other * size ∨ other * size + size ≤ slot * size + i := by
  rcases Nat.lt_or_gt_of_ne hslot with hlt | hgt
  · left
    have hle : (slot + 1) * size ≤ other * size := Nat.mul_le_mul_right size hlt
    rw [Nat.succ_mul] at hle
    omega
  · right
    have hle : (other + 1) * size ≤ slot * size := Nat.mul_le_mul_right size hgt
    rw [Nat.succ_mul] at hle
    omega

theorem SlotHolds.sameOutside {data data' : Nat → α} {size slot other : Nat}
    {payload : Nat → α} {len : Nat} (hholds : SlotHolds data size slot payload len)
    (hlen : len ≤ size) (hslot : slot ≠ other)
    (hsame : SameOutside size other data data') :
    SlotHolds data' size slot payload len := by
  intro i hi
  rw [hsame _ (offset_outside hslot (Nat.lt_of_lt_of_le hi hlen))]
  exact hholds i hi

theorem slotHolds_copyBlock (data payload : Nat → α) (size slot len : Nat) :
    SlotHolds (copyBlock data (slot * size) payload len) size slot payload len :=
  fun _ hi => copyBlock_inside data _ payload hi

/-! ## Slot numbers -/

/-- Numbers less than `slots` apart have different slots. -/
theorem slot_ne_of_lt {slots first second : Nat} (hlt : first < second)
    (hnear : second < first + slots) : first % slots ≠ second % slots := by
  intro heq
  obtain ⟨gap, rfl⟩ := Nat.exists_eq_add_of_lt hlt
  have hzero : (gap + 1) % slots = 0 := by
    have hsub := Nat.sub_mod_eq_zero_of_mod_eq heq.symm
    rwa [show first + gap + 1 - first = gap + 1 by omega] at hsub
  rw [Nat.mod_eq_of_lt (by omega)] at hzero
  omega

/-- Going back `k` slots from the next slot reaches the slot of item `n - k`. -/
theorem slot_back {slots n k : Nat} (hslots : k ≤ slots) (hn : k ≤ n) :
    (n % slots + slots - k) % slots = (n - k) % slots := by
  have hsplit : n - k + slots = (n % slots + slots - k) + slots * (n / slots) := by
    have hdiv := Nat.mod_add_div n slots
    omega
  have hmod := congrArg (· % slots) hsplit
  simp only [Nat.add_mod_right, Nat.add_mul_mod_self_left] at hmod
  exact hmod.symm

/-! ## The last items -/

section LastItems

variable (slots size : Nat) (payload : Item → Nat → α) (len : Item → Nat)

/-- Each of the last `window` items is at the start of its slot. -/
def HoldsLast (window : Nat) (data : Nat → α) (items : List Item) : Prop :=
  ∀ k item, items[k]? = some item → items.length ≤ k + window →
    SlotHolds data size (k % slots) (payload item) (len item)

variable {slots size payload len}

theorem holdsLast_nil (window : Nat) (data : Nat → α) :
    HoldsLast slots size payload len window data [] := by
  intro k item hitem
  simp at hitem

theorem HoldsLast.mono {window smaller : Nat} {data : Nat → α} {items : List Item}
    (hholds : HoldsLast slots size payload len window data items) (hle : smaller ≤ window) :
    HoldsLast slots size payload len smaller data items :=
  fun k item hitem hk => hholds k item hitem (by omega)

/-- Overwriting the slot of the next item keeps all but the oldest of `slots` items. -/
theorem HoldsLast.overwrite {window : Nat} {data data' : Nat → α} {items : List Item}
    (hholds : HoldsLast slots size payload len window data items)
    (hlen : ∀ item, len item ≤ size) (hwindow : window < slots)
    (hsame : SameOutside size (items.length % slots) data data') :
    HoldsLast slots size payload len window data' items := by
  intro k item hitem hk
  have hlt : k < items.length := (List.getElem?_eq_some_iff.mp hitem).1
  have hslot : k % slots ≠ items.length % slots := slot_ne_of_lt hlt (by omega)
  exact (hholds k item hitem hk).sameOutside (hlen item) hslot hsame

/-- Once the slot of the next item holds it, the window grows by that item. -/
theorem HoldsLast.append {window : Nat} {data : Nat → α} {items : List Item} {item : Item}
    (hholds : HoldsLast slots size payload len window data items)
    (hslot : SlotHolds data size (items.length % slots) (payload item) (len item)) :
    HoldsLast slots size payload len (window + 1) data (items ++ [item]) := by
  intro k found hfound hk
  rw [List.length_append, List.length_singleton] at hk
  rcases Nat.lt_trichotomy k items.length with hlt | heq | hgt
  · rw [List.getElem?_append_left hlt] at hfound
    exact hholds k found hfound (by omega)
  · subst heq
    rw [List.getElem?_concat_length] at hfound
    cases hfound
    exact hslot
  · rw [List.getElem?_eq_none (by simp; omega)] at hfound
    cases hfound

/-- Copying one more item into its slot keeps the last `slots` items readable. -/
theorem HoldsLast.copy {data : Nat → α} {items : List Item}
    (hholds : HoldsLast slots size payload len slots data items)
    (hlen : ∀ item, len item ≤ size) (hslots : 0 < slots) (item : Item) :
    HoldsLast slots size payload len slots
      (copyBlock data (items.length % slots * size) (payload item) (len item))
      (items ++ [item]) := by
  obtain ⟨window, rfl⟩ := Nat.exists_eq_add_of_lt hslots
  rw [Nat.zero_add] at *
  have hkept := (hholds.mono (Nat.le_succ window)).overwrite hlen (Nat.lt_succ_self window)
    (sameOutside_copyBlock data (payload item) (hlen item))
  exact hkept.append (slotHolds_copyBlock data (payload item) size _ (len item))

end LastItems

/-! ## Cells of reused slots -/

/-- Item number `j` is long enough to fill cell `i` of the slot. -/
def Covers (slots : Nat) (lens : List Nat) (slot i j : Nat) : Prop :=
  j % slots = slot ∧ ∃ len, lens[j]? = some len ∧ i < len

/-- Item number `j` is the last one that fills cell `i` of the slot. -/
def LastCovers (slots : Nat) (lens : List Nat) (slot i j : Nat) : Prop :=
  Covers slots lens slot i j ∧ ∀ later, Covers slots lens slot i later → later ≤ j

section Cells

variable {slots size : Nat} {lens : List Nat} {slot i j : Nat}

theorem Covers.lt_length (hcovers : Covers slots lens slot i j) : j < lens.length := by
  obtain ⟨-, len, hlen, -⟩ := hcovers
  exact (List.getElem?_eq_some_iff.mp hlen).1

/-- A cell that some item fills is last filled by one. -/
theorem exists_lastCovers (hcovers : ∃ j, Covers slots lens slot i j) :
    ∃ j, LastCovers slots lens slot i j := by
  classical
  obtain ⟨first, hfirst⟩ := hcovers
  refine ⟨Nat.findGreatest (Covers slots lens slot i) lens.length, ?_, ?_⟩
  · exact Nat.findGreatest_spec (Nat.le_of_lt hfirst.lt_length) hfirst
  · exact fun later hlater => Nat.le_findGreatest (Nat.le_of_lt hlater.lt_length) hlater

/-- One more item fills the cells of its own slot. -/
theorem covers_append {len : Nat} :
    Covers slots (lens ++ [len]) slot i j ↔
      Covers slots lens slot i j ∨
        j = lens.length ∧ lens.length % slots = slot ∧ i < len := by
  rcases Nat.lt_trichotomy j lens.length with hlt | rfl | hgt
  · rw [Covers, List.getElem?_append_left hlt]
    exact ⟨.inl, fun hor => hor.resolve_right fun hlast => absurd hlast.1 (Nat.ne_of_lt hlt)⟩
  · have hnot : ¬Covers slots lens slot i lens.length := fun hcovers =>
      Nat.lt_irrefl _ hcovers.lt_length
    rw [Covers, List.getElem?_concat_length]
    simp [hnot]
  · have hnot : ¬Covers slots lens slot i j := fun hcovers =>
      Nat.lt_asymm hgt hcovers.lt_length
    refine iff_of_false ?_ ?_
    · intro hcovers
      have hlt := hcovers.lt_length
      rw [List.length_append, List.length_singleton] at hlt
      omega
    · rintro (hcovers | hlast)
      · exact hnot hcovers
      · exact Nat.ne_of_gt hgt hlast.1

variable (slots size)

/--
Every cell holds what the last item that fills it put there, or what was there
before the first item.
-/
structure HoldsCells (payload : Item → Nat → α) (len : Item → Nat) (initial data : Nat → α)
    (items : List Item) : Prop where
  covered : ∀ {slot i j item}, slot < slots → i < size → items[j]? = some item →
    LastCovers slots (items.map len) slot i j → data (slot * size + i) = payload item i
  untouched : ∀ {slot i}, slot < slots → i < size →
    (∀ j, ¬Covers slots (items.map len) slot i j) →
      data (slot * size + i) = initial (slot * size + i)

variable {slots size} {payload : Item → Nat → α} {len : Item → Nat} {initial data : Nat → α}

theorem holdsCells_nil : HoldsCells slots size payload len initial initial [] := by
  constructor
  · intro slot i j item _ _ hitem
    simp at hitem
  · exact fun _ _ _ => rfl

/-- Copying an item into its slot keeps the cells that the item does not fill. -/
theorem copyBlock_unfilled (src : Nat → α) {own fills : Nat} (hfills : fills ≤ size)
    (hi : i < size) (hnot : ¬(own = slot ∧ i < fills)) :
    copyBlock data (own * size) src fills (slot * size + i) = data (slot * size + i) := by
  apply copyBlock_outside
  by_cases hslot : own = slot
  · subst hslot
    exact .inr (Nat.add_le_add_left (Nat.not_lt.mp fun hlt => hnot ⟨rfl, hlt⟩) _)
  · rcases offset_outside (Ne.symm hslot) hi with hbefore | hafter
    · exact .inl hbefore
    · exact .inr (by omega)

theorem lastCovers_append_unfilled {fills : Nat}
    (hnot : ¬(lens.length % slots = slot ∧ i < fills)) :
    LastCovers slots (lens ++ [fills]) slot i j ↔ LastCovers slots lens slot i j := by
  have hcovers : ∀ j, Covers slots (lens ++ [fills]) slot i j ↔ Covers slots lens slot i j := by
    intro j
    rw [covers_append]
    exact or_iff_left fun hnew => hnot hnew.2
  simp only [LastCovers, hcovers]

/-- The item that was added is the last one to fill its cells. -/
theorem LastCovers.eq_length {fills : Nat} (hslot : lens.length % slots = slot) (hi : i < fills)
    (hlast : LastCovers slots (lens ++ [fills]) slot i j) : j = lens.length := by
  have hle := hlast.2 lens.length (covers_append.mpr (.inr ⟨rfl, hslot, hi⟩))
  have hlt := hlast.1.lt_length
  rw [List.length_append, List.length_singleton] at hlt
  exact Nat.le_antisymm (Nat.le_of_lt_succ hlt) hle

/-- Copying one more item into its slot changes the cells that it fills. -/
theorem HoldsCells.copy {items : List Item}
    (hholds : HoldsCells slots size payload len initial data items)
    (hlen : ∀ item, len item ≤ size) (item : Item) :
    HoldsCells slots size payload len initial
      (copyBlock data (items.length % slots * size) (payload item) (len item))
      (items ++ [item]) := by
  have hcount : (items.map len).length = items.length := List.length_map len
  have hmap : (items ++ [item]).map len = items.map len ++ [len item] := by simp
  constructor
  · intro slot i j found hslot hi hfound hlast
    rw [hmap] at hlast
    by_cases hnew : items.length % slots = slot ∧ i < len item
    · obtain ⟨rfl, hlt⟩ := hnew
      obtain rfl : j = items.length := (hlast.eq_length (by rw [hcount]) hlt).trans hcount
      rw [List.getElem?_concat_length] at hfound
      cases hfound
      exact copyBlock_inside data _ (payload item) hlt
    · have hold := (lastCovers_append_unfilled (by rwa [hcount])).mp hlast
      have hlt := hold.1.lt_length
      rw [hcount] at hlt
      rw [List.getElem?_append_left hlt] at hfound
      rw [copyBlock_unfilled (payload item) (hlen item) hi hnew]
      exact hholds.covered hslot hi hfound hold
  · intro slot i hslot hi hnone
    rw [hmap] at hnone
    have hnew : ¬(items.length % slots = slot ∧ i < len item) := fun ⟨heq, hlt⟩ =>
      hnone items.length (covers_append.mpr (.inr ⟨hcount.symm, by rw [hcount]; exact heq, hlt⟩))
    rw [copyBlock_unfilled (payload item) (hlen item) hi hnew]
    exact hholds.untouched hslot hi fun j hj => hnone j (covers_append.mpr (.inl hj))

end Cells

end K4W.Library.Ring
