import Blitter.Session.Process

/-!
# Transforms

Cutting, scaling, rotating and converting a single stream. The settings name a region of the source
and a size to reach; `fitAspect` reconciles the size with the source's proportions, and
`forcedFormat` may replace the output format by a luma and chroma one.
-/
namespace Blitter

/-- Least and greatest width and height of a filter's pads. -/
def leastSize : Int := 2
def greatestSize : Int := 8192

/-- Refuses sizes that filters do not take. -/
def checkSize (what : String) (width height : Int) : Except Error Unit :=
  if leastSize ≤ width ∧ width ≤ greatestSize ∧ leastSize ≤ height ∧ height ≤ greatestSize then
    .ok ()
  else .error (.invalidSize (.padRange what leastSize greatestSize))

/-- Turns and mirrorings of the source. -/
inductive Transpose where
  | counterclockwiseFlip
  | clockwise
  | counterclockwise
  | clockwiseFlip
  | halfTurn
  | horizontalFlip
  | verticalFlip
  deriving DecidableEq

namespace Transpose

/-- The hardware's rotation word. A mirroring on top of a turn sits in the second nibble. -/
def word : Transpose → UInt32
  | counterclockwiseFlip => 0x17
  | clockwise => 0x04
  | counterclockwise => 0x07
  | clockwiseFlip => 0x14
  | halfTurn => 0x03
  | horizontalFlip => 0x01
  | verticalFlip => 0x02

/-- Quarter turns exchange width and height. -/
def isQuarterTurn : Transpose → Bool
  | counterclockwiseFlip | clockwise | counterclockwise | clockwiseFlip => true
  | halfTurn | horizontalFlip | verticalFlip => false

end Transpose

/-- How a requested size is reconciled with the source's proportions. -/
inductive AspectPolicy where
  /-- The size is taken as it is. -/
  | ignore
  /-- One side shrinks. -/
  | shrink
  /-- One side grows. -/
  | grow
  deriving DecidableEq

/-- Which bit depth a forced luma and chroma output has. -/
inductive ForcedDepth where
  | off
  /-- That of the source, if it has ten bits. -/
  | matching
  | eight
  /-- Ten, or eight without a modern unit. -/
  | ten
  deriving DecidableEq

/-- The arrangement of chroma in a forced output. -/
inductive ForcedChroma where
  /-- That of the source. -/
  | matching
  | semiPlanar420
  | planar420
  | semiPlanar422
  | planar422
  deriving DecidableEq

/-- A region of the source; a missing corner centres it. -/
structure CropSetting where
  x : Option Int := none
  y : Option Int := none
  width : Int
  height : Int
  deriving DecidableEq

structure TransformSettings where
  /-- The source's format when absent. -/
  format : Option PixelFormat := none
  /-- The region's size when absent. -/
  size : Option (Nat × Nat) := none
  crop : Option CropSetting := none
  transpose : Option Transpose := none
  aspect : AspectPolicy := .ignore
  /-- Sides of a reconciled size are multiples of this. -/
  divisibleBy : Nat := 2
  forcedDepth : ForcedDepth := .off
  forcedChroma : ForcedChroma := .matching
  options : Options := {}
  deriving DecidableEq

/-! ## Proportions -/

/-- `a * b / c` to the nearest integer, for positive numbers. -/
def rescale (a b c : Int) : Int := (a * b + c.tdiv 2).tdiv c

/-- The sides that keep the source's proportions for the other side of the request, in multiples
of `d`. -/
def proportionalSides (inW inH w h d : Int) : Int × Int :=
  (rescale h inW (inH * d) * d, rescale w inH (inW * d) * d)

/-- Fits a requested size to the proportions of a source that has positive sides. -/
def fitAspect (inW inH w h : Int) (policy : AspectPolicy) (divisibleBy : Int) : Int × Int :=
  let d := max divisibleBy 1
  let (across, down) := proportionalSides inW inH w h d
  match policy with
  | .ignore => (w, h)
  | .shrink => ((min across w).tdiv d * d, (min down h).tdiv d * d)
  | .grow => ((max across w + d - 1).tdiv d * d, (max down h + d - 1).tdiv d * d)

/-- As `fitAspect`; a source with an empty side has no proportions, whatever the policy. -/
def fitAspect? (inW inH w h : Int) (policy : AspectPolicy) (divisibleBy : Int) :
    Option (Int × Int) :=
  if inW = 0 ∨ inH = 0 then none else some (fitAspect inW inH w h policy divisibleBy)

/-! ## Forced formats -/

namespace ForcedChroma

/-- The arrangement of chroma in a format, where it is one that can be forced. -/
def ofFormat (f : PixelFormat) : ForcedChroma :=
  if f.isYuv then
    match f.layout.chromaShiftX, f.layout.chromaShiftY, f.layout.splitChroma with
    | 1, 1, true => planar420
    | 1, 1, false => semiPlanar420
    | 1, 0, true => planar422
    | 1, 0, false => semiPlanar422
    | _, _, _ => matching
  else matching

/-- The format with this arrangement. Planar formats have eight bits. -/
def format (c : ForcedChroma) (tenBit : Bool) : PixelFormat :=
  match c with
  | planar422 => .yuv422p
  | semiPlanar422 => if tenBit then .p210 else .nv16
  | planar420 => .yuv420p
  | semiPlanar420 | matching => if tenBit then .p010 else .nv12

end ForcedChroma

/-- Whether a forced output has ten bits; nothing when none is forced. -/
def ForcedDepth.tenBit? (d : ForcedDepth) (source : PixelFormat) (hasModern : Bool) :
    Option Bool :=
  match d with
  | off => none
  | matching => if source.isPacked10 then some hasModern else none
  | eight => some false
  | ten => some hasModern

/-- The output format of a conversion from `source` that asks for `output`. -/
def forcedFormat (source output : PixelFormat) (depth : ForcedDepth) (chroma : ForcedChroma)
    (hasModern : Bool) : PixelFormat :=
  match depth.tenBit? source hasModern with
  | none => output
  | some tenBit =>
    let chroma := if chroma = .matching then ForcedChroma.ofFormat source else chroma
    chroma.format tenBit

/-! ## Sessions -/

namespace CropSetting

/-- The region the setting names in a `w` by `h` source, cut to fit. A region of the source's size
is no crop, wherever it lies. -/
def region (c : CropSetting) (w h : Int) : Option Rect :=
  if c.width = w ∧ c.height = h then none
  else
    let x := c.x.getD ((w - c.width).tdiv 2)
    let y := c.y.getD ((h - c.height).tdiv 2)
    some (Rect.clampInto ⟨x, y, c.width, c.height⟩ w h)

end CropSetting

/-- A session together with the pad it writes. -/
structure Filter where
  session : Session
  output : Pad
  deriving DecidableEq

namespace TransformSettings

/-- The size before rotation. -/
def fittedSize (t : TransformSettings) (w h : Int) : Int × Int :=
  let requested : Int × Int :=
    match t.size, t.crop with
    | some (w, h), _ => (w, h)
    | none, some c => (c.width, c.height)
    | none, none => (w, h)
  fitAspect w h requested.1 requested.2 t.aspect t.divisibleBy

/-- The output pad for a source pad. -/
def outputPad (t : TransformSettings) (version : String) (input : Pad) : Except Error Pad := do
  let (inW, inH) : Int × Int := (input.width, input.height)
  let (w, h) := t.fittedSize inW inH
  if 0x7fffffff < h * inW || 0x7fffffff < w * inH then throw (.invalidSize .fitTooLarge)
  checkSize "output" w h
  let (w, h) := if t.transpose.any (·.isQuarterTurn) then (h, w) else (w, h)
  let format := forcedFormat input.format (t.format.getD input.format) t.forcedDepth
    t.forcedChroma (Hardware.mentions version "RGA_3")
  return ⟨w.toNat, h.toNat, format⟩

def start (t : TransformSettings) (host : Host) (input : Pad) : Except Error Filter := do
  checkSize "input" input.width input.height
  let output ← t.outputPad host.version input
  let parameters : Parameters := {
    rotation := t.transpose.elim 0 (·.word)
    crop := t.crop.bind (·.region input.width input.height) }
  let session ← Session.create host [input] output parameters t.options
  return ⟨session, output⟩

end TransformSettings
end Blitter
