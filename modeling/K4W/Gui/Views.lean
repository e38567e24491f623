import K4W.Daemon.Publishing
import K4W.Gui.Readers

/-!
# The views of the control window

The images that `readRGB`, `readIR`, `readDepth`, and `readOverlay` make of the
mapped segments, and the choice of `onRefreshFrame` between them.  Of segments
that the daemon publishes to, every view shows the newest whole frames.

What `QPainter` draws and how `QImage::scaled` makes its pixels is not modelled: the
painter of the window is a parameter, and where it is asked to draw is not.
-/

namespace K4W.Gui.Views

open K4W.Shm
open K4W.Daemon.Publishing

/-! ## Images -/

structure Rgb where
  r : UInt8
  g : UInt8
  b : UInt8
deriving DecidableEq

/-- The rows of a `QImage`, top row first. -/
structure QImage where
  width : Nat
  height : Nat
  rows : List (List Rgb)
deriving DecidableEq

/-- The image whose pixels are numbered from the top left one, row after row. -/
def QImage.ofPixels (width height : Nat) (pixel : Nat → Rgb) : QImage where
  width := width
  height := height
  rows := (List.range height).map fun y => (List.range width).map fun x => pixel (y * width + x)

/-- Two images are equal when all their pixels are. -/
theorem ofPixels_eq_iff {width height : Nat} {pixel other : Nat → Rgb} :
    QImage.ofPixels width height pixel = QImage.ofPixels width height other ↔
      ∀ i < width * height, pixel i = other i := by
  have hpixels : QImage.ofPixels width height pixel = QImage.ofPixels width height other ↔
      ∀ y < height, ∀ x < width, pixel (y * width + x) = other (y * width + x) := by
    simp [QImage.ofPixels, List.map_inj_left]
  rw [hpixels]
  constructor
  · intro hsame i hi
    have hwidth : 0 < width := Nat.pos_of_lt_mul_right hi
    have hrow := hsame (i / width) (Nat.div_lt_of_lt_mul hi) (i % width) (Nat.mod_lt _ hwidth)
    rwa [Nat.div_add_mod'] at hrow
  · intro hsame y hy x hx
    have hlast : (y + 1) * width ≤ height * width := Nat.mul_le_mul_right _ hy
    rw [Nat.add_one_mul] at hlast
    exact hsame _ (by rw [Nat.mul_comm width height]; omega)

/-- An image of the geometry of the segment; one that is not positive gives a null image. -/
def toImage (source : PixelSource) (pixel : Nat → Rgb) : Option QImage :=
  let w := source.width.toInt32
  let h := source.height.toInt32
  if w < 1 || h < 1 then none
  else some (QImage.ofPixels w.toInt.toNat h.toInt.toNat pixel)

/-! ## Pixels -/

/-- A pixel of `QImage::Format_RGB888` with the bytes of the rows one after the other. -/
def rgb888 (bytes : Nat → UInt8) (i : Nat) : Rgb where
  r := bytes (3 * i)
  g := bytes (3 * i + 1)
  b := bytes (3 * i + 2)

/-- A `uint16_t` of the mapped bytes. -/
def raw16 (bytes : Nat → UInt8) (i : Nat) : Nat :=
  (bytes (2 * i)).toNat + 256 * (bytes (2 * i + 1)).toNat

/-- `(uint8_t)(raw * 255 / 2048)` -/
def grayLevel (raw : Nat) : UInt8 :=
  UInt8.ofNat (raw * 255 / 2048)

/-- The colour of a level in `depthToJET`; `(128 - v) * 2` wraps for level 0. -/
def jetColor (v : UInt8) : Rgb where
  r := if v < 128 then 0 else (v - 128) * 2
  g := if v < 64 then v * 4 else if v < 192 then 255 else (255 - v) * 4
  b := if v < 128 then (128 - v) * 2 else 0

def grayPixel (bytes : Nat → UInt8) (i : Nat) : Rgb :=
  let v := grayLevel (raw16 bytes i)
  ⟨v, v, v⟩

def jetPixel (bytes : Nat → UInt8) (i : Nat) : Rgb :=
  jetColor (grayLevel (raw16 bytes i))

/-! ## The painter -/

/-- What `readOverlay` asks of `QImage` and `QPainter`. -/
structure Painter where
  /-- `scaled` to a size, with the aspect ratio kept. -/
  scaled : QImage → Int → Int → QImage
  drawRect : QImage → (x y w h : Int) → QImage
  drawImage : QImage → (x y : Int) → QImage → QImage

/-- The depth in the top right corner of the camera image, with a frame around it. -/
def Painter.pictureInPicture (painter : Painter) (rgb depth : QImage) : QImage :=
  let pipW : Int := rgb.width / 3
  let pipH : Int := rgb.height / 3
  let depthScaled := painter.scaled depth pipW pipH
  let x := rgb.width - pipW - 10
  let y := 10
  let framed :=
    painter.drawRect rgb (x - 2) (y - 2) (depthScaled.width + 4) (depthScaled.height + 4)
  painter.drawImage framed x y depthScaled

/-! ## Frames of the window -/

def rgbImage (video : Option Mapping) : Option QImage :=
  (readRGB video).bind fun source => toImage source (rgb888 source.bytes)

def depthImage (depth : Option Mapping) : Option QImage :=
  (readDepth depth).bind fun source => toImage source (jetPixel source.bytes)

def irImage (depth : Option Mapping) : Option QImage :=
  (readIR depth).bind fun source => toImage source (grayPixel source.bytes)

def readOverlay (painter : Painter) (video depth : Option Mapping) : Option QImage :=
  match rgbImage video, depthImage depth with
  | none, depth => depth
  | some rgb, none => some rgb
  | some rgb, some depth => some (painter.pictureInPicture rgb depth)

/-- The `switch` of `onRefreshFrame` over `m_cameraMode`. -/
def readFrame (painter : Painter) (cameraMode : Int32) (video depth : Option Mapping) :
    Option QImage :=
  if cameraMode = 0 then rgbImage video
  else if cameraMode = 1 then irImage depth
  else if cameraMode = 2 then depthImage depth
  else if cameraMode = 3 then readOverlay painter video depth
  else none

/-- The picture of `onRefreshFrame`: the skeletons are drawn in the last mode only. -/
def refreshPicture (painter : Painter) (drawSkeleton : QImage → QImage) (cameraMode : Int32)
    (video depth : Option Mapping) : Option QImage :=
  (readFrame painter cameraMode video depth).map fun frame =>
    if cameraMode = 3 then drawSkeleton frame else frame

/-! ## The newest frames -/

/-- The bytes of the newest frame; a segment starts out black. -/
def newestBytes (frames : List Frame) : Nat → UInt8 :=
  match frames.getLast? with
  | some frame => frame.data
  | none => fun _ => 0

/-- The segment of a stream shows these frames. -/
structure ShowsStream (kind : Kind) (hdr : K4wShmHeader) (frames : List Frame) : Prop where
  written : hdr = writeFrames (startSegment kind) frames
  represents : Represents hdr frames
  sizes : ∀ frame ∈ frames, frame.size = kind.frameBytes

/-- A pixel that is made of the bytes of one frame. -/
def OfFrame (kind : Kind) (pixel : (Nat → UInt8) → Nat → Rgb) : Prop :=
  ∀ bytes other : Nat → UInt8, (∀ i < kind.frameBytes.toNat, bytes i = other i) →
    ∀ i < 640 * 480, pixel bytes i = pixel other i

theorem ofFrame_rgb888 : OfFrame .video rgb888 := by
  intro bytes other hsame i hi
  have hbytes : Kind.video.frameBytes.toNat = 3 * (640 * 480) := by decide
  rw [hbytes] at hsame
  rw [rgb888, rgb888, hsame _ (by omega), hsame _ (by omega), hsame _ (by omega)]

theorem raw16_congr {bytes other : Nat → UInt8}
    (hsame : ∀ i < Kind.depth.frameBytes.toNat, bytes i = other i) {i : Nat} (hi : i < 640 * 480) :
    raw16 bytes i = raw16 other i := by
  have hbytes : Kind.depth.frameBytes.toNat = 2 * (640 * 480) := by decide
  rw [hbytes] at hsame
  rw [raw16, raw16, hsame _ (by omega), hsame _ (by omega)]

theorem ofFrame_grayPixel : OfFrame .depth grayPixel := by
  intro bytes other hsame i hi
  rw [grayPixel, grayPixel, raw16_congr hsame hi]

theorem ofFrame_jetPixel : OfFrame .depth jetPixel := by
  intro bytes other hsame i hi
  rw [jetPixel, jetPixel, raw16_congr hsame hi]

section Newest

variable {kind : Kind} {hdr : K4wShmHeader} {frames : List Frame}

theorem ShowsStream.same (hshows : ShowsStream kind hdr frames) :
    SameStream (startSegment kind) hdr := by
  rw [hshows.written]
  exact sameStream_writeFrames _ _

/-- The slot before `write_idx` begins with the newest frame. -/
theorem ShowsStream.newest (hshows : ShowsStream kind hdr frames) {i : Nat}
    (hi : i < kind.frameBytes.toNat) :
    hdr.data (slotOffset hdr (latestSlot hdr.writeIdx) + i) = newestBytes frames i := by
  have hsize : hdr.frameSize = kind.frameBytes := hshows.same.frameSize
  have hidx := hshows.represents.writeIdx_lt
  have hslot := latestSlot_toNat hidx
  cases hlast : frames.getLast? with
  | none =>
      have hnil := List.getLast?_eq_none_iff.mp hlast
      rw [newestBytes, hlast, hshows.written, hnil]
      rfl
  | some frame =>
      have hpos : 1 ≤ frames.length := by
        cases frames with
        | nil => cases hlast
        | cons first rest => exact Nat.succ_le_succ (Nat.zero_le _)
      have hlatest : latest frames 1 = some frame := by
        rw [latest, ← List.getLast?_eq_getElem?]
        exact hlast
      have hholds := hshows.represents.slot_latest (Nat.le_refl 1) (by decide) hpos hlatest
      have hfit : 3 * hdr.frameSize.toNat < 2 ^ 32 := by
        rw [hsize]
        exact frameBytes_fit kind
      have hlen : frame.len hdr.frameSize = kind.frameBytes.toNat := by
        rw [Frame.len, hshows.sizes frame (List.mem_of_getLast? hlast), hsize, Nat.min_self]
      have hoffset := slotOffset_eq (by rw [hslot]; exact Nat.mod_lt _ (by decide)) hfit
      rw [newestBytes, hlast, hoffset, hslot]
      rw [hlen] at hholds
      exact hholds i hi

/-- An image of a segment shows its newest frame. -/
theorem ShowsStream.image (hshows : ShowsStream kind hdr frames) (size : Nat)
    {pixel : (Nat → UInt8) → Nat → Rgb} (hpixel : OfFrame kind pixel) :
    ((selectPixels (some ⟨size, hdr⟩)).bind fun source => toImage source (pixel source.bytes)) =
      some (QImage.ofPixels 640 480 (pixel (newestBytes frames))) := by
  have hmagic : hdr.magic = k4wShmMagic := hshows.same.magic
  have hw : hdr.w = 640 := hshows.same.w
  have hh : hdr.h = 480 := hshows.same.h
  have hpixels := hpixel _ (newestBytes frames) fun i hi => hshows.newest hi
  simp only [selectPixels, hmagic, ne_eq, not_true, if_false, Option.bind_some, toImage, hw, hh]
  exact congrArg some (ofPixels_eq_iff.mpr hpixels)

end Newest

/-! ## What the window shows -/

/-- The inset of a picture of 640 times 480 pixels: at most 213 times 160, at (417, 10). -/
def insetOf (painter : Painter) (rgb depth : QImage) : QImage :=
  let depthScaled := painter.scaled depth 213 160
  painter.drawImage
    (painter.drawRect rgb 415 8 (depthScaled.width + 4) (depthScaled.height + 4)) 417 10 depthScaled

theorem pictureInPicture_eq (painter : Painter) {rgb : QImage} (hwidth : rgb.width = 640)
    (hheight : rgb.height = 480) (depth : QImage) :
    painter.pictureInPicture rgb depth = insetOf painter rgb depth := by
  rw [Painter.pictureInPicture, hwidth, hheight]
  rfl

/-- The picture of a refresh, made of the newest frames of the segments that can be mapped. -/
def sceneOf (painter : Painter) (drawSkeleton : QImage → QImage)
    (cameraMode : Int32) (mapped : Kind → Bool) (newest : Kind → Nat → UInt8) : Option QImage :=
  let image (kind : Kind) (pixel : (Nat → UInt8) → Nat → Rgb) : Option QImage :=
    if mapped kind then some (QImage.ofPixels 640 480 (pixel (newest kind))) else none
  if cameraMode = 0 then image .video rgb888
  else if cameraMode = 1 then image .depth grayPixel
  else if cameraMode = 2 then image .depth jetPixel
  else if cameraMode = 3 then
    (match image .video rgb888, image .depth jetPixel with
      | none, depth => depth
      | some rgb, none => some rgb
      | some rgb, some depth => some (insetOf painter rgb depth)).map drawSkeleton
  else none

/-- Mappings of the segments that can be mapped. -/
def mappingsOf (segments : Kind → K4wShmHeader) (sizes : Kind → Option Nat) (kind : Kind) :
    Option Mapping :=
  (sizes kind).map (⟨·, segments kind⟩)

/-- Whatever mode is chosen, a refresh shows the newest whole frames. -/
theorem refreshPicture_newest {segments : Kind → K4wShmHeader} {frames : Kind → List Frame}
    (hshows : ∀ kind, ShowsStream kind (segments kind) (frames kind))
    (painter : Painter) (drawSkeleton : QImage → QImage) (cameraMode : Int32)
    (sizes : Kind → Option Nat) :
    refreshPicture painter drawSkeleton cameraMode (mappingsOf segments sizes .video)
        (mappingsOf segments sizes .depth) =
      sceneOf painter drawSkeleton cameraMode (fun kind => (sizes kind).isSome)
        (fun kind => newestBytes (frames kind)) := by
  have himage : ∀ kind {pixel : (Nat → UInt8) → Nat → Rgb}, OfFrame kind pixel →
      ((selectPixels (mappingsOf segments sizes kind)).bind fun source =>
          toImage source (pixel source.bytes)) =
        if (sizes kind).isSome then
          some (QImage.ofPixels 640 480 (pixel (newestBytes (frames kind))))
        else none := by
    intro kind pixel hpixel
    cases hsize : sizes kind with
    | none => simp [mappingsOf, hsize, selectPixels]
    | some size =>
        rw [mappingsOf, hsize, Option.map_some]
        exact (hshows kind).image size hpixel
  have hrgb : rgbImage (mappingsOf segments sizes .video) = _ := himage .video ofFrame_rgb888
  have hjet : depthImage (mappingsOf segments sizes .depth) = _ := himage .depth ofFrame_jetPixel
  have hgray : irImage (mappingsOf segments sizes .depth) = _ := himage .depth ofFrame_grayPixel
  by_cases hoverlay : cameraMode = 3
  · subst hoverlay
    have hinset := fun pixel depth =>
      @pictureInPicture_eq painter (QImage.ofPixels 640 480 pixel) rfl rfl depth
    simp only [refreshPicture, readFrame, readOverlay, sceneOf, hrgb, hjet]
    cases (sizes .video).isSome <;> cases (sizes .depth).isSome <;>
      simp [hinset]
  · simp only [refreshPicture, readFrame, sceneOf, hrgb, hjet, hgray, hoverlay, if_false,
      Option.map_id']

end K4W.Gui.Views
