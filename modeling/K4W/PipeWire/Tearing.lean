import K4W.PipeWire.Rows

/-!
# Pushing and processing, interleaved

`k4w_pw_source_push_frame` on the polling thread and `on_process` on the loop
thread share the frame buffer without a lock.  One step stores a row of the
pushed frame or copies a byte to the dequeued buffer.  The geometry is fixed, and
frames are pushed in the size of the source.

`pushed`, `origin`, and `rowsStored` are a record of the run: the frames pushed
in order, the number of the push that last stored each row, counted from 1, and
the rows stored so far.
-/

namespace K4W.PipeWire.Tearing

open K4W.Library
open K4W.Library.CInt
open K4W.Library.Ring

/-- A push under way, with its local `y`. -/
structure Push where
  rgb : Int → UInt8
  row : Nat

/-- The `memcpy` of `on_process` under way. -/
structure Copy where
  dst : Nat → UInt8
  copied : Nat
  /-- The push that the first byte was copied from, or 0. -/
  origin : Nat
  /-- Rows stored when `on_process` was called. -/
  rowsBefore : Nat

/-- A buffer given to `pw_stream_queue_buffer`, with its memory unless it has none. -/
structure Queued where
  memory : Option (Nat → UInt8)
  rowsBefore : Nat

structure State where
  source : Source
  push : Option Push
  copy : Option Copy
  pushed : List (Int → UInt8)
  origin : Nat → Nat
  rowsStored : Nat
  queued : List Queued

inductive Action where
  | callPush (rgb : Int → UInt8)
  | push
  | callProcess (dequeued : Option StreamBuffer)
  | process

/-- The next row of the loops, or the return. -/
def pushStep (state : State) : Option State :=
  let source := state.source
  match state.push, source.frameBuf with
  | some push, some buffer =>
      if push.row < pushedRows source source.height then
        let bytes := (rowStores source source.width push.row).foldl (applyStore push.rgb)
          buffer.bytes
        some { state with
          source := { source with frameBuf := some { buffer with bytes := bytes } }
          push := some { push with row := push.row + 1 }
          origin := Function.update state.origin push.row state.pushed.length
          rowsStored := state.rowsStored + 1 }
      else
        some { state with push := none }
  | _, _ => none

/-- The next byte of the copy, or the rest of `on_process`. -/
def processStep (state : State) : Option State :=
  match state.copy, state.source.frameBuf with
  | some copy, some buffer =>
      if copy.copied < toSizeT state.source.frameSize then
        some { state with
          copy := some { copy with
            dst := Function.update copy.dst copy.copied (buffer.bytes copy.copied)
            copied := copy.copied + 1
            origin := if copy.copied = 0 then state.origin 0 else copy.origin } }
      else
        some { state with
          copy := none
          queued := state.queued ++ [⟨some copy.dst, copy.rowsBefore⟩] }
  | _, _ => none

/-- A call enters its loop, or returns at once. -/
def step (state : State) : Action → Option State
  | .callPush rgb =>
      match state.push with
      | some _ => none
      | none =>
          match state.source.stream, state.source.frameBuf with
          | true, some _ => some { state with
              push := some ⟨rgb, 0⟩
              pushed := state.pushed ++ [rgb] }
          | _, _ => some state
  | .push => pushStep state
  | .callProcess dequeued =>
      match state.copy with
      | some _ => none
      | none =>
          match dequeued with
          | none => some state
          | some ⟨none⟩ => some { state with
              queued := state.queued ++ [⟨none, state.rowsStored⟩] }
          | some ⟨some dst⟩ =>
              match state.source.frameBuf with
              | none => some { state with
                  queued := state.queued ++ [⟨some dst, state.rowsStored⟩] }
              | some _ => some { state with copy := some ⟨dst, 0, 0, state.rowsStored⟩ }
  | .process => processStep state

/-- Nothing has been pushed or processed. -/
def initial (source : Source) : State where
  source := source
  push := none
  copy := none
  pushed := []
  origin := fun _ => 0
  rowsStored := 0
  queued := []

def threads : Machine State Action where
  Start state := ∃ source, Initialized source ∧ state = initial source
  step := step

/-- Bytes of one line of the frame buffer. -/
def lineBytes (source : Source) : Nat :=
  4 * source.width.toInt.toNat

/-- Bytes that `on_process` copies. -/
def frameBytes (source : Source) : Nat :=
  toSizeT source.frameSize

/-- A frame in BGRx: four bytes for every three of RGB. -/
def bgrx (rgb : Int → UInt8) (i : Nat) : UInt8 :=
  if i % 4 = 3 then 0 else rgb (3 * (i / 4) + (2 - i % 4) : Nat)

/--
Every buffer queued holds one pushed frame, or zeros if no row had been stored
when `on_process` was called.
-/
def NeverTorn (state : State) : Prop :=
  ∀ queued ∈ state.queued, ∀ memory, queued.memory = some memory →
    (∃ rgb ∈ state.pushed, ∀ i < frameBytes state.source, memory i = bgrx rgb i) ∨
      (queued.rowsBefore = 0 ∧ ∀ i < frameBytes state.source, memory i = 0)

/--
A byte is copied from a row that the same push has stored as the first byte's,
and there is a frame buffer to copy from.
-/
def Steady (state : State) : Action → Prop
  | .process =>
      match state.copy with
      | none => True
      | some copy =>
          copy.copied = 0 ∨ frameBytes state.source ≤ copy.copied ∨
            state.origin (copy.copied / lineBytes state.source) = copy.origin
  | .callProcess (some ⟨some _⟩) => state.source.frameBuf.isSome = true
  | _ => True

instance (state : State) : (action : Action) → Decidable (Steady state action)
  | .process =>
      match hcopy : state.copy with
      | none => .isTrue (by rw [Steady, hcopy]; trivial)
      | some copy => decidable_of_iff
          (copy.copied = 0 ∨ frameBytes state.source ≤ copy.copied ∨
            state.origin (copy.copied / lineBytes state.source) = copy.origin)
          (by rw [Steady, hcopy])
  | .callProcess (some ⟨some _⟩) => inferInstanceAs (Decidable (_ = true))
  | .callProcess (some ⟨none⟩) | .callProcess none | .callPush _ | .push => .isTrue trivial

/-! ## Calls that nothing interrupts -/

/-- One iteration of the row loop. -/
theorem pushStep_row {state : State} {rgb : Int → UInt8} {y : Nat} {buffer : Buffer}
    (hpush : state.push = some ⟨rgb, y⟩) (hbuffer : state.source.frameBuf = some buffer)
    (hy : y < pushedRows state.source state.source.height) :
    ∃ next, pushStep state = some next ∧ next.push = some ⟨rgb, y + 1⟩ ∧
      next.copy = state.copy ∧ next.queued = state.queued ∧
      next.source = { state.source with
        frameBuf := some { buffer with
          bytes := (rowStores state.source state.source.width y).foldl (applyStore rgb)
            buffer.bytes } } := by
  unfold pushStep
  dsimp only
  rw [hpush, hbuffer]
  dsimp only
  rw [if_pos hy]
  exact ⟨_, rfl, rfl, rfl, rfl, rfl⟩

/-- The row loop, from any row on. -/
theorem reaches_rowLoop (rgb : Int → UInt8) (remaining : Nat) {state : State} {y : Nat}
    {buffer : Buffer} (hpush : state.push = some ⟨rgb, y⟩)
    (hbuffer : state.source.frameBuf = some buffer)
    (hrows : y + remaining = pushedRows state.source state.source.height) :
    ∃ next, threads.Reaches state next ∧ next.push = some ⟨rgb, y + remaining⟩ ∧
      next.copy = state.copy ∧ next.queued = state.queued ∧
      next.source = { state.source with
        frameBuf := some { buffer with
          bytes := ((List.range' y remaining).flatMap
            (rowStores state.source state.source.width)).foldl (applyStore rgb)
              buffer.bytes } } := by
  induction remaining generalizing state y buffer with
  | zero =>
      refine ⟨state, Machine.Reaches.refl _, hpush, rfl, rfl, ?_⟩
      rw [List.range'_zero, List.flatMap_nil, List.foldl_nil, ← hbuffer]
  | succ remaining ih =>
      obtain ⟨middle, hstep, hmiddle, hcopy, hqueued, hsource⟩ :=
        pushStep_row hpush hbuffer (show y < _ by omega)
      have hframe : middle.source.frameBuf = some { buffer with
          bytes := (rowStores state.source state.source.width y).foldl (applyStore rgb)
            buffer.bytes } := by rw [hsource]
      have hleft : y + 1 + remaining =
          pushedRows middle.source middle.source.height := by
        rw [hsource]
        exact (by omega : y + 1 + remaining = pushedRows state.source state.source.height)
      obtain ⟨next, hreach, hpushed, hcopy', hqueued', hsource'⟩ := ih hmiddle hframe hleft
      refine ⟨next, (Machine.Reaches.single .push hstep).trans hreach, ?_,
        hcopy'.trans hcopy, hqueued'.trans hqueued, ?_⟩
      · rw [hpushed, Nat.add_right_comm, Nat.add_assoc]
      · rw [hsource', hsource, List.range'_succ, List.flatMap_cons, List.foldl_append]
        rfl

/-- A push that nothing interrupts has the effect of `k4w_pw_source_push_frame`. -/
theorem reaches_pushFrame {state : State} (hidle : state.push = none)
    (hstream : state.source.stream = true) {buffer : Buffer}
    (hbuffer : state.source.frameBuf = some buffer) (rgb : Int → UInt8) :
    ∃ next, threads.Reaches state next ∧ next.push = none ∧ next.copy = state.copy ∧
      next.queued = state.queued ∧
      next.source = (k4wPwSourcePushFrame state.source rgb state.source.width
        state.source.height).2 := by
  let called : State := { state with push := some ⟨rgb, 0⟩, pushed := state.pushed ++ [rgb] }
  have hcall : threads.step state (.callPush rgb) = some called := by
    simp only [threads, step, hidle, hstream, hbuffer, called]
  obtain ⟨stored, hreach, hpush, hcopy, hqueued, hsource⟩ :=
    reaches_rowLoop rgb (pushedRows state.source state.source.height)
      (show called.push = some ⟨rgb, 0⟩ from rfl) hbuffer (Nat.zero_add _)
  let last : State := { stored with push := none }
  have hreturn : threads.step stored .push = some last := by
    have hframe : stored.source.frameBuf ≠ none := by
      rw [hsource]
      exact nofun
    obtain ⟨held, hheld⟩ := Option.ne_none_iff_exists'.mp hframe
    have hdone : ¬ 0 + pushedRows state.source state.source.height <
        pushedRows stored.source stored.source.height := by
      rw [hsource, Nat.zero_add]
      exact Nat.lt_irrefl _
    simp only [threads, step, pushStep, hpush, hheld]
    rw [if_neg hdone]
  refine ⟨last, ((Machine.Reaches.single _ hcall).trans hreach).trans
    (Machine.Reaches.single _ hreturn), rfl, hcopy, hqueued, ?_⟩
  change stored.source = _
  rw [hsource, k4wPwSourcePushFrame]
  simp only [hstream, hbuffer, called]
  rw [pushStores, List.range_eq_range']
  rfl

/-- One iteration of the copy loop. -/
theorem processStep_byte {state : State} {copy : Copy} {buffer : Buffer}
    (hcopy : state.copy = some copy) (hbuffer : state.source.frameBuf = some buffer)
    (hmore : copy.copied < frameBytes state.source) :
    ∃ copied : Copy, processStep state = some { state with copy := some copied } ∧
      copied.copied = copy.copied + 1 ∧ copied.rowsBefore = copy.rowsBefore ∧
      copied.dst = Function.update copy.dst copy.copied (buffer.bytes copy.copied) := by
  have hsize : copy.copied < toSizeT state.source.frameSize := hmore
  refine ⟨{ copy with
    dst := Function.update copy.dst copy.copied (buffer.bytes copy.copied)
    copied := copy.copied + 1
    origin := if copy.copied = 0 then state.origin 0 else copy.origin }, ?_, rfl, rfl, rfl⟩
  simp only [processStep, hcopy, hbuffer]
  rw [if_pos hsize]

/-- The copy loop and the return, from any byte on. -/
theorem reaches_queue (remaining : Nat) {state : State} {copy : Copy} {buffer : Buffer}
    (hcopy : state.copy = some copy) (hbuffer : state.source.frameBuf = some buffer)
    (hleft : copy.copied + remaining = frameBytes state.source) :
    ∃ next, threads.Reaches state next ∧ next.source = state.source ∧ next.copy = none ∧
      next.push = state.push ∧
      next.queued = state.queued ++ [⟨some (copyBlock copy.dst copy.copied
        (fun i => buffer.bytes (copy.copied + i : Nat)) remaining), copy.rowsBefore⟩] := by
  induction remaining generalizing state copy with
  | zero =>
      have hdone : ¬ copy.copied < toSizeT state.source.frameSize := by
        have heq : frameBytes state.source = toSizeT state.source.frameSize := rfl
        omega
      have hstep : threads.step state .process = some { state with
          copy := none
          queued := state.queued ++ [⟨some copy.dst, copy.rowsBefore⟩] } := by
        simp only [threads, step, processStep, hcopy, hbuffer]
        rw [if_neg hdone]
      refine ⟨_, Machine.Reaches.single _ hstep, rfl, rfl, rfl, ?_⟩
      rw [copyBlock_zero]
  | succ remaining ih =>
      obtain ⟨copied, hstep, hcount, hrows, hbytes⟩ := processStep_byte hcopy hbuffer
        (show copy.copied < frameBytes state.source by omega)
      have hnext : copied.copied + remaining = frameBytes state.source := by omega
      obtain ⟨next, hreach, hsource, hidle, hpush, hqueued⟩ :=
        ih (show ({ state with copy := some copied } : State).copy = some copied from rfl)
          hbuffer hnext
      refine ⟨next, (Machine.Reaches.single .process hstep).trans hreach, hsource, hidle, hpush,
        ?_⟩
      have hshift : (fun i : Nat => buffer.bytes (copy.copied + 1 + i : Nat)) =
          fun i => buffer.bytes (copy.copied + (i + 1) : Nat) := by
        funext i
        rw [Nat.add_assoc, Nat.add_comm 1]
      rw [hqueued, hrows, hbytes, hcount, hshift, copyBlock_cons]
      rfl

/-- A call that nothing interrupts queues what `on_process` queues. -/
theorem reaches_onProcess {state : State} (hidle : state.copy = none) {buffer : Buffer}
    (hbuffer : state.source.frameBuf = some buffer) (dst : Nat → UInt8) :
    ∃ next memory, threads.Reaches state next ∧ next.source = state.source ∧
      next.copy = none ∧ next.push = state.push ∧
      next.queued = state.queued ++ [⟨some memory, state.rowsStored⟩] ∧
      onProcess state.source (some ⟨some dst⟩) =
        .queued memory { size := state.source.frameSize, stride := state.source.stride } := by
  let called : State := { state with copy := some ⟨dst, 0, 0, state.rowsStored⟩ }
  have hcall : threads.step state (.callProcess (some ⟨some dst⟩)) = some called := by
    simp only [threads, step, hidle, hbuffer, called]
  obtain ⟨next, hreach, hsource, hcopy, hpush, hqueued⟩ :=
    reaches_queue (frameBytes state.source)
      (show called.copy = some ⟨dst, 0, 0, state.rowsStored⟩ from rfl) hbuffer (Nat.zero_add _)
  refine ⟨next, _, (Machine.Reaches.single _ hcall).trans hreach, hsource, hcopy, hpush,
    hqueued, ?_⟩
  simp only [onProcess, processReads, hbuffer, Nat.zero_add]
  rfl

/-! ## Stored rows -/

theorem clipInt_self (size : Int32) : clipInt size size = size := by
  unfold clipInt
  split <;> rfl

section Rows

variable {source : Source}

theorem lineBytes_pos (hgeometry : Geometry source) : 0 < lineBytes source := by
  have hwidth := hgeometry.width_pos
  rw [lineBytes]
  omega

theorem frameBytes_eq (hgeometry : Geometry source) :
    frameBytes source = lineBytes source * pushedRows source source.height := by
  have hwidth := hgeometry.width_pos
  have hheight := hgeometry.height_pos
  have harea : 0 ≤ 4 * source.width.toInt * source.height.toInt :=
    Int.mul_nonneg (by omega) (by omega)
  have hsize : (frameBytes source : Int) = 4 * source.width.toInt * source.height.toInt := by
    rw [frameBytes, toSizeT_eq (by rw [hgeometry.frameSize]; exact harea), hgeometry.frameSize]
  have hlines : ((lineBytes source * pushedRows source source.height : Nat) : Int) =
      4 * source.width.toInt * source.height.toInt := by
    rw [lineBytes, pushedRows, clipInt_self, Nat.cast_mul, Nat.cast_mul,
      Int.toNat_of_nonneg (by omega), Int.toNat_of_nonneg (by omega)]
    rfl
  omega

theorem frameBytes_pos (hgeometry : Geometry source) : 0 < frameBytes source := by
  have hheight := hgeometry.height_pos
  rw [frameBytes_eq hgeometry, pushedRows, clipInt_self]
  exact Nat.mul_pos (lineBytes_pos hgeometry) (by omega)

/-- A row of the pushed frame is stored as the same row of the frame in BGRx. -/
theorem rowByte_eq_bgrx (rgb : Int → UInt8) (pixels k : Nat) :
    rowByte rgb (3 * pixels : Nat) k = bgrx rgb (4 * pixels + k) := by
  rw [rowByte, bgrx, show (4 * pixels + k) % 4 = k % 4 by omega,
    show (4 * pixels + k) / 4 = pixels + k / 4 by omega, ← Nat.cast_add,
    show 3 * pixels + (3 * (k / 4) + (2 - k % 4)) = 3 * (pixels + k / 4) + (2 - k % 4) by omega]

/-- Where the rows of a frame in the size of the source start, in both buffers. -/
theorem row_starts (hgeometry : Geometry source) {y : Nat}
    (hy : y < pushedRows source source.height) :
    (Int32.ofNat y * source.stride).toInt = (4 * (source.width.toInt.toNat * y) : Nat) ∧
      (Int32.ofNat y * (source.width * 3)).toInt =
        (3 * (source.width.toInt.toNat * y) : Nat) := by
  have hwidth := hgeometry.width_pos
  have hfits := hgeometry.fits
  have hstride := hgeometry.stride
  rw [pushedRows, clipInt_self] at hy
  have hrow : source.width.toInt * y ≤ source.width.toInt * source.height.toInt :=
    Int.mul_le_mul_of_nonneg_left (by omega) (by omega)
  have hline : source.width.toInt ≤ source.width.toInt * source.height.toInt :=
    le_mul_of_one_le_right (by omega) hgeometry.height_pos
  rw [Int.mul_assoc] at hfits
  have hpixels : ((source.width.toInt.toNat * y : Nat) : Int) = source.width.toInt * y := by
    rw [Nat.cast_mul, Int.toNat_of_nonneg (by omega)]
  have hthree : (source.width * 3).toInt = source.width.toInt * 3 :=
    toInt_mul_eq (show _ ≤ source.width.toInt * 3 by omega)
      (show source.width.toInt * 3 < _ by omega)
  have hheight := source.height.toInt_lt
  constructor
  · rw [toInt_multiple (by omega) (by omega) (by rw [hstride, Int.mul_assoc]; omega), hstride,
      Int.mul_assoc]
    omega
  · rw [toInt_multiple (by omega) (by omega) (by rw [hthree, Int.mul_right_comm]; omega), hthree,
      Int.mul_right_comm]
    omega

/-- A stored row holds the row of the frame in BGRx, and the other rows stay. -/
theorem foldl_row (hgeometry : Geometry source) (rgb bytes : Int → UInt8) {y : Nat}
    (hy : y < pushedRows source source.height) (i : Nat) :
    (rowStores source source.width y).foldl (applyStore rgb) bytes i =
      if i / lineBytes source = y then bgrx rgb i else bytes i := by
  have hwidth := hgeometry.width_pos
  have hfits := hgeometry.fits
  have hline : 4 * source.width.toInt ≤ 4 * source.width.toInt * source.height.toInt :=
    le_mul_of_one_le_right (by omega) hgeometry.height_pos
  have hcolumns : pushedColumns source source.width = source.width.toInt.toNat := by
    rw [pushedColumns, clipInt_self]
  obtain ⟨hdst, hsrc⟩ := row_starts hgeometry hy
  rw [foldl_rowStores source rgb bytes source.width y (by rw [hcolumns]; omega), hdst, hsrc,
    hcolumns]
  have hrow : i / lineBytes source = y ↔
      4 * (source.width.toInt.toNat * y) ≤ i ∧
        i < 4 * (source.width.toInt.toNat * y) + 4 * source.width.toInt.toNat := by
    rw [Nat.div_eq_iff (lineBytes_pos hgeometry), lineBytes, Nat.mul_comm y, Nat.mul_assoc]
    omega
  by_cases hin : i / lineBytes source = y
  · obtain ⟨hlow, hhigh⟩ := hrow.mp hin
    rw [if_pos hin, if_pos (by omega), rowByte_eq_bgrx]
    congr 1
    omega
  · rw [if_neg hin, if_neg (by rw [hrow] at hin; omega)]

end Rows

/-! ## What the frame buffer shows -/

/-- The bytes of a push by its number; 0 stands for the zeros of the allocation. -/
def shown (pushed : List (Int → UInt8)) : Nat → Nat → UInt8
  | 0, _ => 0
  | number + 1, i =>
      match pushed[number]? with
      | none => 0
      | some rgb => bgrx rgb i

/-- The frame of an earlier push stays when one more frame is pushed. -/
theorem shown_append {pushed : List (Int → UInt8)} {number : Nat}
    (hnumber : number ≤ pushed.length) (rgb : Int → UInt8) (i : Nat) :
    shown (pushed ++ [rgb]) number i = shown pushed number i := by
  cases number with
  | zero => rfl
  | succ number => rw [shown, shown, List.getElem?_append_left (by omega)]

theorem shown_last {pushed : List (Int → UInt8)} {rgb : Int → UInt8}
    (hlast : pushed.getLast? = some rgb) (i : Nat) :
    shown pushed pushed.length i = bgrx rgb i := by
  obtain ⟨front, rfl⟩ := List.getLast?_eq_some_iff.mp hlast
  rw [List.length_append, List.length_singleton, shown,
    List.getElem?_append_right (Nat.le_refl _), Nat.sub_self]
  rfl

/-- The bytes of a push are those of a pushed frame, or zeros. -/
theorem shown_cases (pushed : List (Int → UInt8)) {number : Nat}
    (hnumber : number ≤ pushed.length) :
    number = 0 ∨ ∃ rgb ∈ pushed, ∀ i, shown pushed number i = bgrx rgb i := by
  cases number with
  | zero => exact .inl rfl
  | succ number =>
      right
      have hsome : pushed[number]? = some pushed[number] := List.getElem?_eq_getElem hnumber
      refine ⟨pushed[number], List.getElem_mem _, fun i => ?_⟩
      rw [shown, hsome]

/-- What the frame buffer and the push under way have to do with the record of the run. -/
structure SharedInvariant (state : State) : Prop where
  geometry : Geometry state.source
  /-- Each row of the frame buffer is that of the push that last stored it. -/
  buffer : ∀ buffer, state.source.frameBuf = some buffer → ∀ i < frameBytes state.source,
    buffer.bytes i = shown state.pushed (state.origin (i / lineBytes state.source)) i
  origin : ∀ row, state.origin row ≤ state.pushed.length
  /-- The push under way is the last one. -/
  push : ∀ push, state.push = some push → state.pushed.getLast? = some push.rgb
  /-- A push stores the first row before the others. -/
  first : state.origin 0 = 0 →
    state.rowsStored = 0 ∧ ∀ push, state.push = some push → push.row = 0

theorem sharedInvariant_initial {source : Source} (hstart : Initialized source) :
    SharedInvariant (initial source) := by
  refine ⟨geometry_initialized hstart, ?_, fun _ => Nat.le_refl 0, nofun,
    fun _ => ⟨rfl, nofun⟩⟩
  intro buffer hbuffer i _
  obtain ⟨calls, width, height, -, -, -, hinit⟩ := hstart
  have hsource := congrArg Prod.snd hinit
  dsimp only [k4wPwSourceInit] at hsource
  subst hsource
  dsimp only [initial] at hbuffer
  split at hbuffer
  · cases hbuffer
    rfl
  · cases hbuffer

/-- The steps of `on_process` change nothing that the invariant is about. -/
theorem SharedInvariant.frame {state next : State} (hinv : SharedInvariant state)
    (hsource : next.source = state.source) (hpush : next.push = state.push)
    (hpushed : next.pushed = state.pushed) (horigin : next.origin = state.origin)
    (hrows : next.rowsStored = state.rowsStored) : SharedInvariant next := by
  obtain ⟨hgeometry, hbuffer, hle, hlast, hfirst⟩ := hinv
  constructor
  · rwa [hsource]
  · rwa [hsource, hpushed, horigin]
  · rwa [horigin, hpushed]
  · rwa [hpush, hpushed]
  · rwa [horigin, hrows, hpush]

theorem sharedInvariant_callPush {state next : State} {rgb : Int → UInt8}
    (hinv : SharedInvariant state) (hstep : step state (.callPush rgb) = some next) :
    SharedInvariant next := by
  simp only [step] at hstep
  split at hstep
  case h_1 => cases hstep
  case h_2 hidle =>
      split at hstep
      case h_2 =>
          cases hstep
          exact hinv
      case h_1 =>
          cases hstep
          refine ⟨hinv.geometry, fun buffer hbuffer i hi => ?_, fun row => ?_, ?_, ?_⟩
          · rw [shown_append (hinv.origin _)]
            exact hinv.buffer buffer hbuffer i hi
          · rw [List.length_append]
            exact Nat.le_add_right_of_le (hinv.origin row)
          · intro push hpush
            cases hpush
            exact List.getLast?_concat
          · intro hzero
            refine ⟨(hinv.first hzero).1, fun push hpush => ?_⟩
            cases hpush
            rfl

/-- After a row is stored, it shows the push under way, and the other rows what they showed. -/
theorem SharedInvariant.stored_row {state : State} (hinv : SharedInvariant state) {push : Push}
    (hpush : state.push = some push) {buffer : Buffer}
    (hbuffer : state.source.frameBuf = some buffer)
    (hrow : push.row < pushedRows state.source state.source.height) {i : Nat}
    (hi : i < frameBytes state.source) :
    (rowStores state.source state.source.width push.row).foldl (applyStore push.rgb)
        buffer.bytes i =
      shown state.pushed (Function.update state.origin push.row state.pushed.length
        (i / lineBytes state.source)) i := by
  rw [foldl_row hinv.geometry push.rgb buffer.bytes hrow]
  by_cases hin : i / lineBytes state.source = push.row
  · rw [if_pos hin, hin, Function.update_self, shown_last (hinv.push push hpush)]
  · rw [if_neg hin, Function.update_of_ne hin, hinv.buffer buffer hbuffer i hi]

theorem sharedInvariant_push {state next : State} (hinv : SharedInvariant state)
    (hstep : pushStep state = some next) : SharedInvariant next := by
  unfold pushStep at hstep
  dsimp only at hstep
  split at hstep
  case h_2 => cases hstep
  case h_1 push buffer hpush hbuffer =>
      have hlast := hinv.push push hpush
      have hsome : 0 < state.pushed.length := by
        obtain ⟨front, hfront⟩ := List.getLast?_eq_some_iff.mp hlast
        rw [hfront, List.length_append]
        exact Nat.succ_pos _
      split at hstep
      case isFalse =>
          cases hstep
          exact ⟨hinv.geometry, hinv.buffer, hinv.origin, nofun,
            fun hzero => ⟨(hinv.first hzero).1, nofun⟩⟩
      case isTrue hrow =>
          cases hstep
          refine ⟨⟨hinv.geometry.width_pos, hinv.geometry.height_pos, hinv.geometry.fits,
            hinv.geometry.stride, hinv.geometry.frameSize⟩, ?_, ?_, ?_, ?_⟩
          · intro stored hstored i hi
            cases hstored
            exact hinv.stored_row hpush hbuffer hrow hi
          · intro row
            dsimp only
            by_cases hsame : row = push.row
            · rw [hsame, Function.update_self]
            · rw [Function.update_of_ne hsame]
              exact hinv.origin row
          · intro current hcurrent
            cases hcurrent
            exact hlast
          · intro hzero
            dsimp only at hzero
            by_cases hfirst : push.row = 0
            · rw [hfirst, Function.update_self] at hzero
              omega
            · rw [Function.update_of_ne (Ne.symm hfirst)] at hzero
              exact absurd ((hinv.first hzero).2 push hpush) hfirst

/-- All that a step of `on_process` can do. -/
theorem processStep_cases {state next : State} (hstep : processStep state = some next) :
    ∃ copy buffer, state.copy = some copy ∧ state.source.frameBuf = some buffer ∧
      ((copy.copied < frameBytes state.source ∧ next = { state with
          copy := some { copy with
            dst := Function.update copy.dst copy.copied (buffer.bytes copy.copied)
            copied := copy.copied + 1
            origin := if copy.copied = 0 then state.origin 0 else copy.origin } }) ∨
        (frameBytes state.source ≤ copy.copied ∧ next = { state with
          copy := none
          queued := state.queued ++ [⟨some copy.dst, copy.rowsBefore⟩] })) := by
  unfold processStep at hstep
  split at hstep
  case h_2 => cases hstep
  case h_1 copy buffer hcopy hbuffer =>
      refine ⟨copy, buffer, hcopy, hbuffer, ?_⟩
      split at hstep
      case isTrue hmore => exact .inl ⟨hmore, (Option.some.inj hstep).symm⟩
      case isFalse hdone => exact .inr ⟨Nat.not_lt.mp hdone, (Option.some.inj hstep).symm⟩

/-- All that a call of `on_process` can do. -/
theorem callProcess_cases {state next : State} {dequeued : Option StreamBuffer}
    (hstep : step state (.callProcess dequeued) = some next) :
    state.copy = none ∧
      (next = state ∨
        (next = { state with queued := state.queued ++ [⟨none, state.rowsStored⟩] }) ∨
        ∃ dst, dequeued = some ⟨some dst⟩ ∧
          ((state.source.frameBuf = none ∧ next = { state with
              queued := state.queued ++ [⟨some dst, state.rowsStored⟩] }) ∨
            next = { state with copy := some ⟨dst, 0, 0, state.rowsStored⟩ })) := by
  simp only [step] at hstep
  split at hstep
  case h_1 => cases hstep
  case h_2 hidle =>
      refine ⟨hidle, ?_⟩
      split at hstep
      case h_1 => exact .inl (Option.some.inj hstep).symm
      case h_2 => exact .inr (.inl (Option.some.inj hstep).symm)
      case h_3 dst =>
          refine .inr (.inr ⟨dst, rfl, ?_⟩)
          split at hstep
          case h_1 hnone => exact .inl ⟨hnone, (Option.some.inj hstep).symm⟩
          case h_2 => exact .inr (Option.some.inj hstep).symm

theorem sharedInvariant_step {state next : State} {action : Action}
    (hinv : SharedInvariant state) (hstep : step state action = some next) :
    SharedInvariant next := by
  cases action with
  | callPush rgb => exact sharedInvariant_callPush hinv hstep
  | push => exact sharedInvariant_push hinv hstep
  | callProcess dequeued =>
      obtain ⟨-, rfl | rfl | ⟨dst, -, ⟨-, rfl⟩ | rfl⟩⟩ := callProcess_cases hstep
      · exact hinv
      all_goals exact hinv.frame rfl rfl rfl rfl rfl
  | process =>
      obtain ⟨copy, buffer, -, -, ⟨-, rfl⟩ | ⟨-, rfl⟩⟩ := processStep_cases hstep
      all_goals exact hinv.frame rfl rfl rfl rfl rfl

/-- What the polling thread does to the record that the copies depend on. -/
theorem pushing_cases {state next : State} {action : Action}
    (haction : action = .push ∨ ∃ rgb, action = .callPush rgb)
    (hstep : step state action = some next) :
    next.copy = state.copy ∧ next.queued = state.queued ∧
      frameBytes next.source = frameBytes state.source ∧
      state.rowsStored ≤ next.rowsStored ∧
      (next.pushed = state.pushed ∨ ∃ rgb, next.pushed = state.pushed ++ [rgb]) := by
  rcases haction with rfl | ⟨rgb, rfl⟩
  · simp only [step, pushStep] at hstep
    split at hstep
    case h_2 => cases hstep
    case h_1 =>
        split at hstep
        case isTrue =>
            cases hstep
            exact ⟨rfl, rfl, rfl, Nat.le_succ _, .inl rfl⟩
        case isFalse =>
            cases hstep
            exact ⟨rfl, rfl, rfl, Nat.le_refl _, .inl rfl⟩
  · simp only [step] at hstep
    split at hstep
    case h_1 => cases hstep
    case h_2 =>
        split at hstep
        case h_1 =>
            cases hstep
            exact ⟨rfl, rfl, rfl, Nat.le_refl _, .inr ⟨rgb, rfl⟩⟩
        case h_2 =>
            cases hstep
            exact ⟨rfl, rfl, rfl, Nat.le_refl _, .inl rfl⟩

/-! ## Copies from one push -/

/-- The bytes copied so far are those of the push that the first one came from. -/
structure CopyInvariant (state : State) (copy : Copy) : Prop where
  rowsBefore : copy.rowsBefore ≤ state.rowsStored
  origin : copy.origin ≤ state.pushed.length
  unstored : 0 < copy.copied → copy.origin = 0 → copy.rowsBefore = 0
  bytes : ∀ i < copy.copied, copy.dst i = shown state.pushed copy.origin i

structure Invariant (state : State) : Prop extends SharedInvariant state where
  copy : ∀ copy, state.copy = some copy → CopyInvariant state copy
  queued : NeverTorn state

/-- A copy survives whatever stores rows and pushes frames. -/
theorem CopyInvariant.mono {state next : State} {copy : Copy}
    (hcopy : CopyInvariant state copy) (hrows : state.rowsStored ≤ next.rowsStored)
    (hpushed : next.pushed = state.pushed ∨ ∃ rgb, next.pushed = state.pushed ++ [rgb]) :
    CopyInvariant next copy := by
  obtain ⟨hbefore, horigin, hunstored, hbytes⟩ := hcopy
  rcases hpushed with heq | ⟨rgb, heq⟩
  · exact ⟨hbefore.trans hrows, heq ▸ horigin, hunstored, heq ▸ hbytes⟩
  · refine ⟨hbefore.trans hrows, ?_, hunstored, fun i hi => ?_⟩
    · rw [heq, List.length_append]
      exact Nat.le_add_right_of_le horigin
    · rw [heq, shown_append horigin]
      exact hbytes i hi

theorem invariant_pushing {state next : State} {action : Action} (hinv : Invariant state)
    (haction : action = .push ∨ ∃ rgb, action = .callPush rgb)
    (hstep : step state action = some next) : Invariant next := by
  obtain ⟨hcopy, hqueued, hsize, hrows, hpushed⟩ := pushing_cases haction hstep
  refine ⟨sharedInvariant_step hinv.toSharedInvariant hstep, ?_, ?_⟩
  · intro copy hcurrent
    rw [hcopy] at hcurrent
    exact (hinv.copy copy hcurrent).mono hrows hpushed
  · intro queued hold memory hmemory
    rw [hqueued] at hold
    rw [hsize]
    rcases hinv.queued queued hold memory hmemory with ⟨frame, hframe, hbytes⟩ | hzero
    · refine .inl ⟨frame, ?_, hbytes⟩
      rcases hpushed with heq | ⟨rgb, heq⟩
      · rwa [heq]
      · rw [heq]
        exact List.mem_append_left _ hframe
    · exact .inr hzero

/-- A queued buffer that holds the bytes of one push keeps the property. -/
theorem NeverTorn.queue {state : State} (htorn : NeverTorn state) {memory : Nat → UInt8}
    {number rowsBefore : Nat} (hnumber : number ≤ state.pushed.length)
    (hzero : number = 0 → rowsBefore = 0)
    (hbytes : ∀ i < frameBytes state.source, memory i = shown state.pushed number i) :
    NeverTorn { state with
      copy := none, queued := state.queued ++ [⟨some memory, rowsBefore⟩] } := by
  intro queued hqueued held hheld
  rcases List.mem_append.mp hqueued with hold | hnew
  · exact htorn queued hold held hheld
  · rw [List.mem_singleton.mp hnew] at hheld ⊢
    cases hheld
    rcases shown_cases state.pushed hnumber with rfl | ⟨rgb, hrgb, hshown⟩
    · exact .inr ⟨hzero rfl, hbytes⟩
    · exact .inl ⟨rgb, hrgb, fun i hi => (hbytes i hi).trans (hshown i)⟩

theorem invariant_callProcess {state next : State} {dequeued : Option StreamBuffer}
    (hinv : Invariant state) (hsteady : Steady state (.callProcess dequeued))
    (hstep : step state (.callProcess dequeued) = some next) : Invariant next := by
  have hshared := sharedInvariant_step hinv.toSharedInvariant hstep
  obtain ⟨-, rfl | rfl | ⟨dst, rfl, ⟨hnone, -⟩ | rfl⟩⟩ := callProcess_cases hstep
  · exact hinv
  · refine ⟨hshared, fun copy hcopy => (hinv.copy copy hcopy).mono (Nat.le_refl _) (.inl rfl), ?_⟩
    intro queued hqueued memory hmemory
    rcases List.mem_append.mp hqueued with hold | hnew
    · exact hinv.queued queued hold memory hmemory
    · rw [List.mem_singleton.mp hnew] at hmemory
      cases hmemory
  · have hallocated : state.source.frameBuf.isSome = true := hsteady
    rw [hnone] at hallocated
    cases hallocated
  · refine ⟨hshared, fun copy hcopy => ?_, hinv.queued⟩
    cases hcopy
    exact ⟨Nat.le_refl _, Nat.zero_le _, nofun, nofun⟩

/-- A byte copied under the condition comes from the push of the first one. -/
theorem origin_of_steady {state : State} {copy : Copy} (hcopy : state.copy = some copy)
    (hsteady : Steady state .process) (hmore : copy.copied < frameBytes state.source) :
    state.origin (copy.copied / lineBytes state.source) =
      if copy.copied = 0 then state.origin 0 else copy.origin := by
  rw [Steady, hcopy] at hsteady
  split
  case isTrue hfirst => rw [hfirst, Nat.zero_div]
  case isFalse hlater =>
      exact (hsteady.resolve_left hlater).resolve_left (Nat.not_le.mpr hmore)

/-- One more byte of the copy, from the push that `origin` names. -/
theorem Invariant.copied_byte {state : State} (hinv : Invariant state) {copy : Copy}
    (hcopy : state.copy = some copy) {byte : UInt8} {origin : Nat}
    (horigin : origin = if copy.copied = 0 then state.origin 0 else copy.origin)
    (hlength : origin ≤ state.pushed.length)
    (hbyte : byte = shown state.pushed origin copy.copied) :
    CopyInvariant state { copy with
      dst := Function.update copy.dst copy.copied byte
      copied := copy.copied + 1
      origin := origin } := by
  obtain ⟨hbefore, -, hunstored, hbytes⟩ := hinv.copy copy hcopy
  refine ⟨hbefore, hlength, fun _ hzero => ?_, fun i hi => ?_⟩
  · dsimp only at hzero ⊢
    rw [horigin] at hzero
    split at hzero
    case isTrue => exact Nat.le_zero.mp ((hinv.first hzero).1 ▸ hbefore)
    case isFalse hlater => exact hunstored (Nat.pos_of_ne_zero hlater) hzero
  · dsimp only at hi ⊢
    by_cases hlast : i = copy.copied
    · rw [hlast, Function.update_self, hbyte]
    · rw [Function.update_of_ne hlast, horigin, if_neg (by omega)]
      exact hbytes i (by omega)

theorem invariant_process {state next : State} (hinv : Invariant state)
    (hsteady : Steady state .process) (hstep : step state .process = some next) :
    Invariant next := by
  have hshared := sharedInvariant_step hinv.toSharedInvariant hstep
  obtain ⟨copy, buffer, hcopy, hbuffer, ⟨hmore, rfl⟩ | ⟨hdone, rfl⟩⟩ := processStep_cases hstep
  · have hsame := origin_of_steady hcopy hsteady hmore
    have hbyte := hinv.buffer buffer hbuffer copy.copied hmore
    rw [hsame] at hbyte
    have hnext := hinv.copied_byte hcopy rfl (hsame ▸ hinv.origin _) hbyte
    refine ⟨hshared, fun current hcurrent => ?_, hinv.queued⟩
    cases hcurrent
    exact ⟨hnext.rowsBefore, hnext.origin, hnext.unstored, hnext.bytes⟩
  · obtain ⟨-, horigin, hunstored, hbytes⟩ := hinv.copy copy hcopy
    have hpositive := frameBytes_pos hinv.geometry
    exact ⟨hshared, nofun,
      hinv.queued.queue horigin (hunstored (by omega)) fun i hi => hbytes i (by omega)⟩

theorem invariant_step {state next : State} {action : Action} (hinv : Invariant state)
    (hsteady : Steady state action) (hstep : step state action = some next) :
    Invariant next := by
  cases action with
  | callPush rgb => exact invariant_pushing hinv (.inr ⟨rgb, rfl⟩) hstep
  | push => exact invariant_pushing hinv (.inl rfl) hstep
  | callProcess dequeued => exact invariant_callProcess hinv hsteady hstep
  | process => exact invariant_process hinv hsteady hstep

/--
No buffer is torn in a run whose copies take every byte from the push that the
first byte came from.
-/
theorem neverTorn_of_steady {first last : State} {trace : List (State × Action)}
    (hstart : threads.Start first) (hrun : threads.Run first trace last)
    (hsteady : Machine.Meets Steady trace) : NeverTorn last := by
  obtain ⟨source, hsource, rfl⟩ := hstart
  have hfirst : Invariant (initial source) := ⟨sharedInvariant_initial hsource, nofun, nofun⟩
  exact (hrun.preserves hsteady hfirst invariant_step).queued

/-- The loop thread copies each row of a frame after the polling thread has stored it. -/
def readBehind : List Action :=
  [.callPush fun _ => 9, .push, .callProcess (some ⟨some fun _ => 7⟩), .process, .process,
    .process, .process, .push, .process, .process, .process, .process, .push, .process]

/-- The frame is queued whole. -/
theorem neverTorn_readBehind : ∃ last,
    threads.play (initial (initialized 1 2)) readBehind = some last ∧
      last.queued.length = 1 ∧ NeverTorn last := by
  have hstart : threads.Start (initial (initialized 1 2)) :=
    ⟨_, ⟨allSucceed, 1, 2, by decide, by decide, by decide, rfl⟩, rfl⟩
  obtain ⟨last, hplay, hlength⟩ : ∃ last,
      threads.play (initial (initialized 1 2)) readBehind = some last ∧
        last.queued.length = 1 := ⟨_, rfl, rfl⟩
  exact ⟨last, hplay, hlength,
    neverTorn_of_steady hstart (Machine.run_of_play hplay) (by decide)⟩

/-- The polling thread stores a frame while the loop thread copies the second row. -/
def pushBetweenRows : List Action :=
  [.callProcess (some ⟨some fun _ => 7⟩), .process, .process, .process, .process,
    .callPush fun _ => 9, .push, .push, .push, .process, .process, .process, .process, .process]

/-- A buffer is queued whose first row is not that of the frame and whose second row is. -/
def mixed (state : State) : Bool :=
  frameBytes state.source == 8 && (state.pushed.all fun rgb => bgrx rgb 0 == 9) &&
    state.queued.any fun queued =>
      match queued.memory with
      | none => false
      | some memory => memory 0 == 0 && memory 4 == 9

/-- A frame pushed during the copy is queued in part. -/
theorem not_neverTorn : ¬ ∀ state, threads.Reachable state → NeverTorn state := by
  intro hall
  have hstart : threads.Start (initial (initialized 1 2)) :=
    ⟨_, ⟨allSucceed, 1, 2, by decide, by decide, by decide, rfl⟩, rfl⟩
  obtain ⟨last, hreach, hmixed⟩ := Machine.exists_reachable_of_play hstart
    (show (threads.play (initial (initialized 1 2)) pushBetweenRows).any mixed = true by decide)
  simp only [mixed, Bool.and_eq_true, beq_iff_eq, List.all_eq_true, List.any_eq_true] at hmixed
  obtain ⟨⟨hsize, hpushed⟩, queued, hqueued, hbytes⟩ := hmixed
  cases hmemory : queued.memory with
  | none => simp [hmemory] at hbytes
  | some memory =>
      simp only [hmemory, Bool.and_eq_true, beq_iff_eq] at hbytes
      rcases hall last hreach queued hqueued memory hmemory with ⟨rgb, hrgb, hframe⟩ | ⟨-, hzero⟩
      · have hfirst := hframe 0 (by omega)
        rw [hbytes.1, hpushed rgb hrgb] at hfirst
        exact absurd hfirst (by decide)
      · have hlater := hzero 4 (by omega)
        rw [hbytes.2] at hlater
        exact absurd hlater (by decide)

/-! ## Copies from two pushes -/

/-- The first byte of a copy comes from the push that `origin` names, in every run. -/
def StartsFromOrigin (state : State) : Prop :=
  ∀ copy, state.copy = some copy → 0 < copy.copied →
    copy.origin ≤ state.pushed.length ∧ copy.dst 0 = shown state.pushed copy.origin 0

theorem startsFromOrigin_step {state next : State} {action : Action}
    (hinv : SharedInvariant state) (hstarts : StartsFromOrigin state)
    (hstep : step state action = some next) : StartsFromOrigin next := by
  have hpushing : (action = .push ∨ ∃ rgb, action = .callPush rgb) → StartsFromOrigin next := by
    intro haction copy hcopy hcopied
    obtain ⟨hsame, -, -, -, hpushed⟩ := pushing_cases haction hstep
    rw [hsame] at hcopy
    obtain ⟨horigin, hfirst⟩ := hstarts copy hcopy hcopied
    rcases hpushed with heq | ⟨rgb, heq⟩
    · rw [heq]
      exact ⟨horigin, hfirst⟩
    · rw [heq, List.length_append, shown_append horigin]
      exact ⟨Nat.le_add_right_of_le horigin, hfirst⟩
  cases action with
  | callPush rgb => exact hpushing (.inr ⟨rgb, rfl⟩)
  | push => exact hpushing (.inl rfl)
  | callProcess dequeued =>
      obtain ⟨hidle, rfl | rfl | ⟨dst, -, ⟨-, rfl⟩ | rfl⟩⟩ := callProcess_cases hstep
      · exact hstarts
      · exact hstarts
      · exact hstarts
      · intro copy hcopy hcopied
        cases hcopy
        exact absurd hcopied (Nat.lt_irrefl 0)
  | process =>
      obtain ⟨copy, buffer, hcopy, hbuffer, ⟨hmore, rfl⟩ | ⟨-, rfl⟩⟩ := processStep_cases hstep
      · intro current hcurrent _
        cases hcurrent
        dsimp only
        by_cases hfirst : copy.copied = 0
        · have hbyte := hinv.buffer buffer hbuffer copy.copied hmore
          rw [hfirst, Nat.zero_div] at hbyte
          rw [if_pos hfirst, hfirst, Function.update_self]
          exact ⟨hinv.origin 0, hbyte⟩
        · rw [if_neg hfirst, Function.update_of_ne (Ne.symm hfirst)]
          exact hstarts copy hcopy (Nat.pos_of_ne_zero hfirst)
      · nofun

/--
From every reachable state, a byte copied against the condition leads, without a
further push, to a queued buffer whose bytes come from two different pushes.
-/
theorem exists_mixed_of_not_steady {first state next : State} {trace : List (State × Action)}
    (hstart : threads.Start first) (hrun : threads.Run first trace state)
    (hnot : ¬ Steady state .process) (hstep : step state .process = some next) :
    ∃ last memory origin number rowsBefore i, threads.Reaches next last ∧
      last.queued = state.queued ++ [⟨some memory, rowsBefore⟩] ∧ number ≠ origin ∧
      i < frameBytes state.source ∧ memory 0 = shown state.pushed origin 0 ∧
      memory i = shown state.pushed number i := by
  obtain ⟨source, hsource, rfl⟩ := hstart
  let holds (state : State) : Prop := SharedInvariant state ∧ StartsFromOrigin state
  have hmeets : Machine.Meets (fun _ _ => True) trace := fun _ _ => trivial
  have hfirst : holds (initial source) := ⟨sharedInvariant_initial hsource, nofun⟩
  have hnext : ∀ {state action next}, holds state → True → step state action = some next →
      holds next := fun hholds _ hstep => ⟨sharedInvariant_step hholds.1 hstep,
    startsFromOrigin_step hholds.1 hholds.2 hstep⟩
  obtain ⟨hinv, hstarts⟩ := hrun.preserves hmeets hfirst hnext
  obtain ⟨copy, buffer, hcopy, hbuffer, ⟨hmore, rfl⟩ | ⟨hdone, -⟩⟩ := processStep_cases hstep
  case inr =>
      rw [Steady, hcopy] at hnot
      exact absurd (.inr (.inl hdone)) hnot
  case inl =>
      rw [Steady, hcopy] at hnot
      obtain ⟨hlater, hrest⟩ := not_or.mp hnot
      obtain ⟨-, hother⟩ := not_or.mp hrest
      have hbyte := hinv.buffer buffer hbuffer copy.copied hmore
      have hstart := (hstarts copy hcopy (Nat.pos_of_ne_zero hlater)).2
      let copied : Copy := { copy with
        dst := Function.update copy.dst copy.copied (buffer.bytes copy.copied)
        copied := copy.copied + 1
        origin := if copy.copied = 0 then state.origin 0 else copy.origin }
      have hleft : copied.copied + (frameBytes state.source - (copy.copied + 1)) =
          frameBytes state.source := Nat.add_sub_cancel' hmore
      obtain ⟨last, hreach, -, -, -, hqueued⟩ := reaches_queue _
        (show ({ state with copy := some copied } : State).copy = some copied from rfl)
        hbuffer hleft
      refine ⟨last, _, copy.origin, state.origin (copy.copied / lineBytes state.source),
        copy.rowsBefore, copy.copied, hreach, hqueued, hother, hmore, ?_, ?_⟩
      · rw [copyBlock_outside _ _ _ (.inl (Nat.succ_pos _)), ← hstart]
        exact Function.update_of_ne (Ne.symm hlater) _ _
      · rw [copyBlock_outside _ _ _ (.inl (Nat.lt_succ_self _)), ← hbyte]
        exact Function.update_self _ _ _

end K4W.PipeWire.Tearing
