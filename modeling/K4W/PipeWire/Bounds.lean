import K4W.PipeWire.Source
import Mathlib.Algebra.Order.Ring.Int
import Mathlib.Tactic.Linarith

/-!
# Bounds of the frame buffer

`k4w_pw_source_init` allocates the frame buffer for its own geometry, and
`on_param_changed` sets a new geometry without a new buffer.  Every access stays
inside the allocation exactly when the buffer was allocated and no negotiated
format is larger than it.
-/

namespace K4W.PipeWire

open K4W.Library
open K4W.Library.CInt

/-- `s_frame_size` is at most the number of bytes allocated. -/
def SizeFits (source : Source) : Prop :=
  source.frameSize.toInt ≤ source.allocated

/-- The action touches only bytes of the allocation. -/
def InBounds (source : Source) (action : Action) : Prop :=
  ∀ offset ∈ touched source action, 0 ≤ offset ∧ offset < source.allocated

/-- The bounds hold in every state of the run and for every access. -/
def BoundsKept (trace : List (Source × Action)) (last : Source) : Prop :=
  (∀ entry ∈ trace, SizeFits entry.1 ∧ InBounds entry.1 entry.2) ∧ SizeFits last

/-- A format with a positive size whose bytes can be counted in an `int`. -/
def Negotiable : Action → Prop
  | .paramChanged true (some size) =>
      0 < size.width.toNat ∧ 0 < size.height.toNat ∧
        4 * size.width.toNat * size.height.toNat < 2 ^ 31
  | _ => True

/-- A negotiated format needs no more bytes than the capacity. -/
def Within (capacity : Nat) : Action → Prop
  | .paramChanged true (some size) => 4 * size.width.toNat * size.height.toNat ≤ capacity
  | _ => True

/-! ## Geometry -/

/-- The statics agree with the width and the height. -/
structure Geometry (source : Source) : Prop where
  width_pos : 0 < source.width.toInt
  height_pos : 0 < source.height.toInt
  fits : 4 * source.width.toInt * source.height.toInt < 2 ^ 31
  stride : source.stride.toInt = 4 * source.width.toInt
  frameSize : source.frameSize.toInt = 4 * source.width.toInt * source.height.toInt

/-- Both functions that set the geometry compute it without overflow. -/
theorem geometry_of_size {source : Source} (hwidth : 0 < source.width.toInt)
    (hheight : 0 < source.height.toInt)
    (hfits : 4 * source.width.toInt * source.height.toInt < 2 ^ 31)
    (hstride : source.stride = source.width * 4)
    (hframeSize : source.frameSize = source.stride * source.height) : Geometry source := by
  have hrow : 4 * source.width.toInt ≤ 4 * source.width.toInt * source.height.toInt :=
    le_mul_of_one_le_right (by omega) hheight
  have hfour : (4 : Int32).toInt = 4 := rfl
  have hstrideInt : source.stride.toInt = 4 * source.width.toInt := by
    rw [hstride, toInt_mul_eq (by rw [hfour]; omega) (by rw [hfour]; omega), hfour]
    omega
  refine ⟨hwidth, hheight, hfits, hstrideInt, ?_⟩
  rw [hframeSize, toInt_mul_eq (by rw [hstrideInt]; omega) (by rw [hstrideInt]; omega),
    hstrideInt]

theorem geometry_initialized {source : Source} (hstart : Initialized source) :
    Geometry source := by
  obtain ⟨calls, width, height, hwidth, hheight, hfits, hinit⟩ := hstart
  have hsource := congrArg Prod.snd hinit
  dsimp only [k4wPwSourceInit] at hsource
  rw [← hsource]
  exact geometry_of_size hwidth hheight hfits rfl rfl

/-- The allocation is that of the geometry, or there is none. -/
theorem allocated_initialized {source : Source} (hstart : Initialized source) :
    source.frameBuf = none ∨ (source.allocated : Int) = source.frameSize.toInt := by
  have hgeometry := geometry_initialized hstart
  obtain ⟨calls, width, height, hwidth, hheight, hfits, hinit⟩ := hstart
  have hsource := congrArg Prod.snd hinit
  dsimp only [k4wPwSourceInit] at hsource
  subst hsource
  cases hcalloc : calls.calloc with
  | false => exact .inl (by simp)
  | true =>
      right
      have hpos : 0 ≤ (width * 4 * height).toInt := by
        have hsize := hgeometry.frameSize
        have hprod := Int.mul_pos (Int.mul_pos (by decide : (0 : Int) < 4) hwidth) hheight
        dsimp only at hsize
        omega
      simpa [Source.allocated] using toSizeT_eq hpos

theorem geometry_step {source next : Source} {action : Action} (hgeometry : Geometry source)
    (hnegotiable : Negotiable action) (hstep : step source action = some next) :
    Geometry next := by
  cases action with
  | paramChanged isFormat param =>
      cases hstep
      unfold onParamChanged
      split
      case h_1 size =>
          obtain ⟨hwidth, hheight, hfits⟩ := hnegotiable
          have hcols : 4 * size.width.toNat ≤ 4 * size.width.toNat * size.height.toNat :=
            Nat.le_mul_of_pos_right _ hheight
          have hrows : size.height.toNat ≤ 4 * size.width.toNat * size.height.toNat :=
            Nat.le_mul_of_pos_left _ (by omega)
          have hwidthInt := toInt_toInt32_eq (show size.width.toNat < 2 ^ 31 by omega)
          have hheightInt := toInt_toInt32_eq (show size.height.toNat < 2 ^ 31 by omega)
          apply geometry_of_size
          · rw [hwidthInt]
            exact_mod_cast hwidth
          · rw [hheightInt]
            exact_mod_cast hheight
          · rw [hwidthInt, hheightInt]
            exact_mod_cast hfits
          · rfl
          · rfl
      case h_2 => exact hgeometry
  | pushFrame rgb width height =>
      cases hstep
      unfold k4wPwSourcePushFrame
      split <;> exact ⟨hgeometry.width_pos, hgeometry.height_pos, hgeometry.fits,
        hgeometry.stride, hgeometry.frameSize⟩
  | process dequeued =>
      cases hstep
      exact hgeometry

/-- No action changes the allocation. -/
theorem allocated_step {source next : Source} {action : Action}
    (hstep : step source action = some next) : next.allocated = source.allocated := by
  cases action with
  | paramChanged isFormat param =>
      cases hstep
      unfold onParamChanged
      split <;> rfl
  | pushFrame rgb width height =>
      cases hstep
      unfold k4wPwSourcePushFrame
      split
      case h_1 hbuf => simp [Source.allocated, hbuf]
      case h_2 => rfl
  | process dequeued =>
      cases hstep
      rfl

/-! ## Accesses -/

theorem clipInt_le (pushed negotiated : Int32) :
    (clipInt pushed negotiated).toInt ≤ negotiated.toInt := by
  unfold clipInt
  split
  case isTrue hlt => exact Int.le_of_lt (Int32.lt_iff_toInt_lt.mp hlt)
  case isFalse => exact Int.le_refl _

/-- Offsets of byte `k` of the pixel in column `x` and row `y` stay below the frame size. -/
theorem pixel_offset_lt {w h x y k : Int} (hx : x < w) (hy : y < h) (hk : k < 4)
    (hw : 0 < w) : y * (4 * w) + (4 * x + k) < 4 * w * h := by
  have hrows : y * (4 * w) ≤ (h - 1) * (4 * w) :=
    Int.mul_le_mul_of_nonneg_right (by omega) (by omega)
  have hexpand : (h - 1) * (4 * w) = 4 * w * h - 4 * w := by ring
  omega

/-- The column index of a byte is computed without overflow. -/
theorem column_toInt {x : Nat} {k : Int32} (hk : 0 ≤ k.toInt ∧ k.toInt < 4)
    (hx : 4 * x + 4 ≤ 2 ^ 31) : (Int32.ofNat x * 4 + k).toInt = 4 * x + k.toInt :=
  toInt_affine (by omega) (show (0 : Int) ≤ 4 by decide) hk.1
    (show (4 : Int) * x + k.toInt < 2 ^ 31 by omega)

/-- Every store of a pixel goes to one of the four bytes of its column. -/
theorem pixelStores_dst {dstRow srcRow : Int} {x : Nat} (hx : 4 * x + 4 ≤ 2 ^ 31)
    {store : Store} (hstore : store ∈ pixelStores dstRow srcRow (Int32.ofNat x)) :
    ∃ k : Int, 0 ≤ k ∧ k < 4 ∧ store.dst = dstRow + (4 * x + k) := by
  simp only [pixelStores, List.mem_cons, List.not_mem_nil, or_false] at hstore
  rcases hstore with rfl | rfl | rfl | rfl
  · exact ⟨0, by decide, by decide, congrArg (dstRow + ·) (column_toInt (by decide) hx)⟩
  · exact ⟨1, by decide, by decide, congrArg (dstRow + ·) (column_toInt (by decide) hx)⟩
  · exact ⟨2, by decide, by decide, congrArg (dstRow + ·) (column_toInt (by decide) hx)⟩
  · exact ⟨3, by decide, by decide, congrArg (dstRow + ·) (column_toInt (by decide) hx)⟩

/-- A pushed frame of any size is stored inside the current frame size. -/
theorem pushStores_dst {source : Source} (hgeometry : Geometry source) {width height : Int32}
    {store : Store} (hstore : store ∈ pushStores source width height) :
    0 ≤ store.dst ∧ store.dst < source.frameSize.toInt := by
  obtain ⟨y, hy, hrow⟩ := List.mem_flatMap.mp hstore
  obtain ⟨x, hx, hpixel⟩ := List.mem_flatMap.mp hrow
  have hyclip := clipInt_le height source.height
  have hxclip := clipInt_le width source.width
  rw [List.mem_range] at hy hx
  have hylt : (y : Int) < source.height.toInt := by omega
  have hxlt : (x : Int) < source.width.toInt := by omega
  have hwidth := hgeometry.width_pos
  have hfits := hgeometry.fits
  have hstride := hgeometry.stride
  have hrowEnd := pixel_offset_lt hxlt hylt (show (3 : Int) < 4 by decide) hwidth
  have hrowStart : 0 ≤ (y : Int) * (4 * source.width.toInt) :=
    Int.mul_nonneg (by omega) (by omega)
  have hheight := source.height.toInt_lt
  have hdstRow : (Int32.ofNat y * source.stride).toInt = y * (4 * source.width.toInt) := by
    rw [toInt_multiple (by omega) (by omega) (by rw [hstride, Int.mul_comm]; omega), hstride,
      Int.mul_comm]
  obtain ⟨k, hk, hklt, hdst⟩ := pixelStores_dst (by omega) hpixel
  have hoffset := pixel_offset_lt hxlt hylt hklt hwidth
  rw [hdst, hdstRow, hgeometry.frameSize]
  exact ⟨by omega, hoffset⟩

/-- All accesses are inside a buffer that the frame size fits. -/
theorem inBounds_of_sizeFits {source : Source} (hgeometry : Geometry source)
    (hfits : SizeFits source) (action : Action) : InBounds source action := by
  intro offset hoffset
  rw [SizeFits] at hfits
  cases action with
  | paramChanged isFormat param => simp [touched] at hoffset
  | pushFrame rgb width height =>
      simp only [touched] at hoffset
      split at hoffset
      case isTrue =>
          obtain ⟨store, hstore, rfl⟩ := List.mem_map.mp hoffset
          obtain ⟨hlow, hhigh⟩ := pushStores_dst hgeometry hstore
          exact ⟨hlow, by omega⟩
      case isFalse => simp at hoffset
  | process dequeued =>
      simp only [touched, List.mem_map, List.mem_range] at hoffset
      obtain ⟨i, hi, rfl⟩ := hoffset
      have hreads : (processReads source dequeued : Int) ≤ source.frameSize.toInt := by
        have hwidth := hgeometry.width_pos
        have hheight := hgeometry.height_pos
        have hpos : 0 < 4 * source.width.toInt * source.height.toInt :=
          Int.mul_pos (by omega) hheight
        rw [← hgeometry.frameSize] at hpos
        unfold processReads
        split
        · exact Int.le_of_eq (toSizeT_eq (Int.le_of_lt hpos))
        · exact Int.le_of_lt hpos
      omega

/-! ## Runs -/

/-- The frame size fits the buffer while the negotiated formats fit the capacity. -/
structure BufferInvariant (capacity : Nat) (source : Source) : Prop where
  geometry : Geometry source
  sizeFits : SizeFits source
  allocated : source.allocated = capacity

/-- Only a negotiated format sets the frame size, and it sets the bytes of that format. -/
theorem frameSize_step {source next : Source} {action : Action} (hgeometry : Geometry next)
    (hnegotiable : Negotiable action) (hstep : step source action = some next) :
    (next.frameSize = source.frameSize ∧ ∀ capacity, Within capacity action) ∨
      ∃ size, action = .paramChanged true (some size) ∧
        next.frameSize.toInt = (4 * size.width.toNat * size.height.toNat : Nat) := by
  cases action with
  | paramChanged isFormat param =>
      cases hstep
      cases isFormat with
      | false => exact .inl ⟨rfl, fun _ => trivial⟩
      | true =>
          cases param with
          | none => exact .inl ⟨rfl, fun _ => trivial⟩
          | some size =>
              obtain ⟨hwidth, hheight, hfits⟩ := hnegotiable
              have hcols : 4 * size.width.toNat ≤ 4 * size.width.toNat * size.height.toNat :=
                Nat.le_mul_of_pos_right _ hheight
              have hrows : size.height.toNat ≤ 4 * size.width.toNat * size.height.toNat :=
                Nat.le_mul_of_pos_left _ (by omega)
              have hframeSize := hgeometry.frameSize
              dsimp only [onParamChanged] at hframeSize
              rw [toInt_toInt32_eq (by omega), toInt_toInt32_eq (by omega)] at hframeSize
              refine .inr ⟨size, rfl, ?_⟩
              exact_mod_cast hframeSize
  | pushFrame rgb width height =>
      cases hstep
      unfold k4wPwSourcePushFrame
      split <;> exact .inl ⟨rfl, fun _ => trivial⟩
  | process dequeued =>
      cases hstep
      exact .inl ⟨rfl, fun _ => trivial⟩

theorem bufferInvariant_step {capacity : Nat} {source next : Source} {action : Action}
    (hinv : BufferInvariant capacity source)
    (hcondition : Negotiable action ∧ Within capacity action)
    (hstep : step source action = some next) : BufferInvariant capacity next := by
  obtain ⟨hnegotiable, hwithin⟩ := hcondition
  have hgeometry := geometry_step hinv.geometry hnegotiable hstep
  have hallocated := (allocated_step hstep).trans hinv.allocated
  have hfits := hinv.sizeFits
  rw [SizeFits, hinv.allocated] at hfits
  refine ⟨hgeometry, ?_, hallocated⟩
  rw [SizeFits, hallocated]
  rcases frameSize_step hgeometry hnegotiable hstep with ⟨hsame, -⟩ | ⟨size, rfl, hsize⟩
  · rw [hsame]
    exact hfits
  · rw [hsize]
    exact Int.ofNat_le.mpr hwithin

theorem boundsKept_of_within {first last : Source} {trace : List (Source × Action)}
    (hstart : pwSource.Start first) (hrun : pwSource.Run first trace last)
    (hnegotiable : Machine.Meets (fun _ => Negotiable) trace)
    (hbuf : first.frameBuf ≠ none)
    (hwithin : Machine.Meets (fun _ => Within first.allocated) trace) :
    BoundsKept trace last := by
  have hallocated := (allocated_initialized hstart).resolve_left hbuf
  have hfirst : BufferInvariant first.allocated first :=
    ⟨geometry_initialized hstart, Int.le_of_eq hallocated.symm, rfl⟩
  obtain ⟨hall, hlast⟩ := hrun.preserves_everywhere
    (fun entry hentry => And.intro (hnegotiable entry hentry) (hwithin entry hentry))
    hfirst bufferInvariant_step
  refine ⟨fun entry hentry => ?_, hlast.sizeFits⟩
  have hinv := hall entry hentry
  exact ⟨hinv.sizeFits, inBounds_of_sizeFits hinv.geometry hinv.sizeFits entry.2⟩

theorem within_of_boundsKept {first last : Source} {trace : List (Source × Action)}
    (hstart : pwSource.Start first) (hrun : pwSource.Run first trace last)
    (hnegotiable : Machine.Meets (fun _ => Negotiable) trace)
    (hkept : BoundsKept trace last) :
    first.frameBuf ≠ none ∧ Machine.Meets (fun _ => Within first.allocated) trace := by
  obtain ⟨hall, hlast⟩ := hkept
  let kept (source : Source) : Prop :=
    Geometry source ∧ source.allocated = first.allocated
  have hfirst : kept first := ⟨geometry_initialized hstart, rfl⟩
  have hstep : ∀ {source action next}, kept source → Negotiable action →
      step source action = some next → kept next :=
    fun hkept hcondition hstep => ⟨geometry_step hkept.1 hcondition hstep,
      (allocated_step hstep).trans hkept.2⟩
  have hstates := hrun.preserves_everywhere hnegotiable hfirst hstep
  constructor
  · intro hnone
    have hfits := hrun.first_of_everywhere (fun entry hentry => (hall entry hentry).1) hlast
    have hgeometry := geometry_initialized hstart
    have hpos : 0 < 4 * first.width.toInt * first.height.toInt :=
      Int.mul_pos (Int.mul_pos (by decide) hgeometry.width_pos) hgeometry.height_pos
    rw [SizeFits, hgeometry.frameSize, Source.allocated, hnone] at hfits
    exact absurd hpos (Int.not_lt.mpr hfits)
  · let shows (source : Source) : Prop :=
      SizeFits source ∧ Geometry source ∧ source.allocated = first.allocated
    have hshows : ∀ entry ∈ trace, shows entry.1 :=
      fun entry hentry => ⟨(hall entry hentry).1, hstates.1 entry hentry⟩
    have hshowsLast : shows last := ⟨hlast, hstates.2⟩
    refine hrun.meets_of_everywhere hshows hshowsLast ?_
    intro source action next hstep hentry ⟨hfits, hgeometry, hallocated⟩
    rcases frameSize_step hgeometry (hnegotiable _ hentry) hstep with
      ⟨-, hany⟩ | ⟨size, rfl, hsize⟩
    · exact hany first.allocated
    · rw [SizeFits, hsize, hallocated] at hfits
      exact Int.ofNat_le.mp hfits

/--
The bounds hold along a run exactly when the buffer was allocated and every
negotiated format needs at most the bytes allocated for the first one.
-/
theorem boundsKept_iff_within {first last : Source} {trace : List (Source × Action)}
    (hstart : pwSource.Start first) (hrun : pwSource.Run first trace last)
    (hnegotiable : Machine.Meets (fun _ => Negotiable) trace) :
    BoundsKept trace last ↔
      first.frameBuf ≠ none ∧ Machine.Meets (fun _ => Within first.allocated) trace := by
  constructor
  · exact within_of_boundsKept hstart hrun hnegotiable
  · rintro ⟨hbuf, hwithin⟩
    exact boundsKept_of_within hstart hrun hnegotiable hbuf hwithin

def allSucceed : InitCalls := ⟨true, true, true, true, true, true⟩

/-- The source right after a successful initialisation. -/
def initialized (width height : Int32) : Source :=
  (k4wPwSourceInit allSucceed width height).2

/-- A smaller format is negotiated, and a larger frame is pushed and sent. -/
def shrinkAndSend : List Action :=
  [.paramChanged true (some ⟨1, 1⟩), .pushFrame (fun _ => 9) 2 2,
    .process (some ⟨some fun _ => 0⟩)]

theorem boundsKept_shrinkAndSend : ∃ last,
    pwSource.play (initialized 2 1) shrinkAndSend = some last ∧
      BoundsKept (pwSource.traceOf (initialized 2 1) shrinkAndSend) last := by
  have hstart : pwSource.Start (initialized 2 1) :=
    ⟨allSucceed, 2, 1, by decide, by decide, by decide, rfl⟩
  obtain ⟨last, hplay⟩ : ∃ last,
      pwSource.play (initialized 2 1) shrinkAndSend = some last := ⟨_, rfl⟩
  refine ⟨last, hplay, ?_⟩
  refine (boundsKept_iff_within hstart (Machine.run_of_play hplay) ?_).mpr ⟨nofun, ?_⟩
  · simp [Machine.Meets, Machine.traceOf, pwSource, step, shrinkAndSend, Negotiable]
  · simp [Machine.Meets, Machine.traceOf, pwSource, step, shrinkAndSend, Within]
    decide

/-- A larger format is negotiated, and a buffer is filled. -/
def growAndSend : List Action :=
  [.paramChanged true (some ⟨1920, 1080⟩), .process (some ⟨some fun _ => 0⟩)]

/-- After a larger format is negotiated, `on_process` reads past the allocation. -/
theorem not_boundsKept_of_largerFormat :
    ¬ ∀ first trace last, pwSource.Start first → pwSource.Run first trace last →
      Machine.Meets (fun _ => Negotiable) trace → BoundsKept trace last := by
  intro hall
  have hstart : pwSource.Start (initialized 640 480) :=
    ⟨allSucceed, 640, 480, by decide, by decide, by decide, rfl⟩
  obtain ⟨last, hplay⟩ : ∃ last,
      pwSource.play (initialized 640 480) growAndSend = some last := ⟨_, rfl⟩
  have hnegotiable : Machine.Meets (fun _ => Negotiable)
      (pwSource.traceOf (initialized 640 480) growAndSend) := by
    simp [Machine.Meets, Machine.traceOf, pwSource, step, growAndSend, Negotiable]
  have hkept := hall _ _ last hstart (Machine.run_of_play hplay) hnegotiable
  let grown := onParamChanged (initialized 640 480) true (some ⟨1920, 1080⟩)
  have hentry : (grown, .process (some ⟨some fun _ => 0⟩)) ∈
      pwSource.traceOf (initialized 640 480) growAndSend := by
    simp [Machine.traceOf, pwSource, step, growAndSend, grown]
  have hread : (1228800 : Int) ∈ touched grown (.process (some ⟨some fun _ => 0⟩)) :=
    List.mem_map.mpr ⟨1228800, List.mem_range.mpr (by decide), rfl⟩
  have hbound := ((hkept.1 _ hentry).2 _ hread).2
  exact absurd hbound (by decide)

end K4W.PipeWire
