import Blitter.Pixel.Fourcc

/-!
# Pixel formats

The formats frames come in, with the memory layout of each. `PixelFormat.layout` is the one table;
everything else about a format is read off it. Names are read back by `PixelFormat.parse`, which
folds ASCII case and admits a few short spellings.
-/
namespace Blitter

inductive PixelFormat where
  | gray
  | yuv420p | yuvj420p | yuv422p | yuvj422p
  | nv12 | nv21 | nv16 | nv24 | nv42
  | p010 | p210
  /-- Ten-bit samples packed without gaps, chroma as in `nv12`. -/
  | nv15
  /-- Ten-bit samples packed without gaps, chroma as in `nv16`. -/
  | nv20
  | yuyv | yvyu | uyvy
  | rgb555 | bgr555 | rgb565 | bgr565
  | rgb24 | bgr24
  | rgba | rgbx | bgra | bgrx | argb | xrgb | abgr | xbgr
  deriving DecidableEq, Repr

/-- How the samples of a format lie in memory. -/
structure PixelLayout where
  name : String
  isRgb : Bool
  /-- Each chroma component has a plane of its own. -/
  splitChroma : Bool
  hasAlpha : Bool
  components : Nat
  /-- Bits of the first component. -/
  depth : Nat
  /-- Chroma is halved this many times across and down. -/
  chromaShiftX : Nat
  chromaShiftY : Nat
  /-- Bits per pixel with padding, averaged over the chroma grid. -/
  bitsPerPixel : Nat
  planes : Nat
  /-- Bytes from one sample to the next in each plane, zero where samples share bytes. -/
  steps : List Nat
  fourcc : Fourcc

namespace PixelLayout

/-- Luma and chroma lie in separate planes. -/
def isPlanar (l : PixelLayout) : Bool := decide (1 < l.planes)

def packedRgb (name : String) (components depth bitsPerPixel : Nat) (fourcc : Fourcc) :
    PixelLayout where
  name := name
  isRgb := true
  splitChroma := false
  hasAlpha := decide (components = 4)
  components := components
  depth := depth
  chromaShiftX := 0
  chromaShiftY := 0
  bitsPerPixel := bitsPerPixel
  planes := 1
  steps := [bitsPerPixel / 8, 0, 0]
  fourcc := fourcc

def yuv (name : String) (planes depth chromaShiftX chromaShiftY bitsPerPixel : Nat)
    (steps : List Nat) (fourcc : Fourcc) : PixelLayout where
  name := name
  isRgb := false
  splitChroma := decide (planes = 3)
  hasAlpha := false
  components := 3
  depth := depth
  chromaShiftX := chromaShiftX
  chromaShiftY := chromaShiftY
  bitsPerPixel := bitsPerPixel
  planes := planes
  steps := steps
  fourcc := fourcc

end PixelLayout

namespace PixelFormat

/-- The table of formats. -/
def layout : PixelFormat → PixelLayout
  | gray => {
      name := "gray", isRgb := false, splitChroma := false, hasAlpha := false, components := 1,
      depth := 8, chromaShiftX := 0, chromaShiftY := 0, bitsPerPixel := 8, planes := 1,
      steps := [1, 0, 0], fourcc := .spelled 'R' '8' ' ' ' ' }
  | yuv420p => .yuv "yuv420p" 3 8 1 1 12 [1, 1, 1] (.spelled 'Y' 'U' '1' '2')
  | yuvj420p => .yuv "yuvj420p" 3 8 1 1 12 [1, 1, 1] (.spelled 'Y' 'U' '1' '2')
  | yuv422p => .yuv "yuv422p" 3 8 1 0 16 [1, 1, 1] (.spelled 'Y' 'U' '1' '6')
  | yuvj422p => .yuv "yuvj422p" 3 8 1 0 16 [1, 1, 1] (.spelled 'Y' 'U' '1' '6')
  | nv12 => .yuv "nv12" 2 8 1 1 12 [1, 2, 0] (.spelled 'N' 'V' '1' '2')
  | nv21 => .yuv "nv21" 2 8 1 1 12 [1, 2, 0] (.spelled 'N' 'V' '2' '1')
  | nv16 => .yuv "nv16" 2 8 1 0 16 [1, 2, 0] (.spelled 'N' 'V' '1' '6')
  | nv24 => .yuv "nv24" 2 8 0 0 24 [1, 2, 0] (.spelled 'N' 'V' '2' '4')
  | nv42 => .yuv "nv42" 2 8 0 0 24 [1, 2, 0] (.spelled 'N' 'V' '4' '2')
  | p010 => .yuv "p010le" 2 10 1 1 24 [2, 4, 0] (.spelled 'P' '0' '1' '0')
  | p210 => .yuv "p210le" 2 10 1 0 32 [2, 4, 0] (.spelled 'P' '2' '1' '0')
  | nv15 => .yuv "nv15" 2 10 1 1 15 [0, 0, 0] (.spelled 'N' 'V' '1' '5')
  | nv20 => .yuv "nv20" 2 10 1 0 20 [0, 0, 0] (.spelled 'N' 'V' '2' '0')
  | yuyv => .yuv "yuyv422" 1 8 1 0 16 [2, 0, 0] (.spelled 'Y' 'U' 'Y' 'V')
  | yvyu => .yuv "yvyu422" 1 8 1 0 16 [2, 0, 0] (.spelled 'Y' 'V' 'Y' 'U')
  | uyvy => .yuv "uyvy422" 1 8 1 0 16 [2, 0, 0] (.spelled 'U' 'Y' 'V' 'Y')
  | rgb555 => .packedRgb "rgb555le" 3 5 16 (.spelled 'X' 'R' '1' '5')
  | bgr555 => .packedRgb "bgr555le" 3 5 16 (.spelled 'X' 'B' '1' '5')
  | rgb565 => .packedRgb "rgb565le" 3 5 16 (.spelled 'R' 'G' '1' '6')
  | bgr565 => .packedRgb "bgr565le" 3 5 16 (.spelled 'B' 'G' '1' '6')
  | rgb24 => .packedRgb "rgb24" 3 8 24 (.spelled 'B' 'G' '2' '4')
  | bgr24 => .packedRgb "bgr24" 3 8 24 (.spelled 'R' 'G' '2' '4')
  | rgba => .packedRgb "rgba" 4 8 32 (.spelled 'A' 'B' '2' '4')
  | rgbx => .packedRgb "rgb0" 3 8 32 (.spelled 'X' 'B' '2' '4')
  | bgra => .packedRgb "bgra" 4 8 32 (.spelled 'A' 'R' '2' '4')
  | bgrx => .packedRgb "bgr0" 3 8 32 (.spelled 'X' 'R' '2' '4')
  | argb => .packedRgb "argb" 4 8 32 (.spelled 'B' 'A' '2' '4')
  | xrgb => .packedRgb "0rgb" 3 8 32 (.spelled 'B' 'X' '2' '4')
  | abgr => .packedRgb "abgr" 4 8 32 (.spelled 'R' 'A' '2' '4')
  | xbgr => .packedRgb "0bgr" 3 8 32 (.spelled 'R' 'X' '2' '4')

/-- Every format, in the order they are listed to users. -/
def all : List PixelFormat :=
  [gray, yuv420p, yuvj420p, yuv422p, yuvj422p, nv12, nv21, nv16, nv24, nv42, p010, p210, nv15,
   nv20, yuyv, yvyu, uyvy, rgb555, bgr555, rgb565, bgr565, rgb24, bgr24, rgba, rgbx, bgra, bgrx,
   argb, xrgb, abgr, xbgr]

theorem mem_all (f : PixelFormat) : f ∈ all := by cases f <;> decide

def name (f : PixelFormat) : String := f.layout.name

def isRgb (f : PixelFormat) : Bool := f.layout.isRgb

def isPlanar (f : PixelFormat) : Bool := f.layout.isPlanar

def hasAlpha (f : PixelFormat) : Bool := f.layout.hasAlpha

/-- Luma with chroma, in whatever arrangement. -/
def isYuv (f : PixelFormat) : Bool := !f.layout.isRgb && decide (2 ≤ f.layout.components)

def depth (f : PixelFormat) : Nat := f.layout.depth

/-- Bytes per pixel, a whole number of eighths. -/
def bytesPerPixel (f : PixelFormat) : Rat := (f.layout.bitsPerPixel : Rat) / 8

/-- Ten-bit samples in the high bits of two bytes, which the hardware has to expand. -/
def isPadded10 (f : PixelFormat) : Bool := f = .p010 || f = .p210

/-- Ten-bit samples packed without gaps. -/
def isPacked10 (f : PixelFormat) : Bool := f = .nv15 || f = .nv20

/-- Samples use the whole range of their bits. -/
def isFullRange (f : PixelFormat) : Bool := f = .yuvj420p || f = .yuvj422p

/-- Fourcc of the linear layout. -/
def fourcc (f : PixelFormat) : Fourcc := f.layout.fourcc

/-- Fourcc of the AFBC compressed layout, where the format has one. -/
def afbcFourcc? : PixelFormat → Option Fourcc
  | nv12 => some .yuv420Bits8
  | nv15 => some .yuv420Bits10
  | nv16 => some yuyv.fourcc
  | nv20 => some .y210
  | nv24 => some .vuy888
  | f@rgb565 | f@bgr565 | f@rgba | f@rgbx | f@bgra | f@bgrx => some f.fourcc
  | rgb24 => some bgr24.fourcc
  | bgr24 => some rgb24.fourcc
  | _ => none

/-- Fourcc of the RFBC compressed layout: row compression covers luma with chroma only. -/
def rfbcFourcc? (f : PixelFormat) : Option Fourcc :=
  if f = .nv12 || f = .nv15 || f = .nv16 || f = .nv20 || f = .nv24 then f.afbcFourcc? else none

/-! ## Names -/

/-- Short spellings and the names they stand for. -/
def shortNames : List (String × PixelFormat) :=
  [("gray8", gray), ("p010", p010), ("p210", p210), ("rgb555", rgb555), ("bgr555", bgr555),
   ("rgb565", rgb565), ("bgr565", bgr565), ("yuyv", yuyv), ("yvyu", yvyu), ("uyvy", uyvy)]

/-- A text that names no format, with ASCII case folded. -/
structure UnknownName where
  folded : String
  deriving DecidableEq

def UnknownName.message (e : UnknownName) : String := s!"unknown pixel format '{e.folded}'"

/-- The format a text names, in either case of its ASCII letters. -/
def parse (text : String) : Except UnknownName PixelFormat :=
  let folded := text.toLower
  match all.find? (·.name = folded) with
  | some f => .ok f
  | none =>
    match shortNames.lookup folded with
    | some f => .ok f
    | none => .error ⟨folded⟩

end PixelFormat
end Blitter
