import Blitter.Buffer.Stride
import Blitter.Session.Basic

/-!
# Describing frames

Turning frames into surfaces. The strides of an input are known only once its frame is there, and
may move the session to the legacy unit. The frame of an output has been allocated before;
compressed output is given up for the session where the unit or the format does not allow it.
-/
namespace Blitter

/-- Block sizes of a compression. -/
structure Blocks where
  width : Int
  height : Int
  deriving DecidableEq

namespace Blocks

def afbc : Blocks := ⟨16, 16⟩
def rfbc : Blocks := ⟨64, 4⟩

end Blocks

/-- How an input buffer is compressed. -/
inductive Compression where
  | afbc
  | rfbc
  deriving DecidableEq

namespace Compression

def ofModifier? (m : Modifier) : Option Compression :=
  if m.isAfbc then some afbc else if m.isRfbc then some rfbc else none

def blocks : Compression → Blocks
  | afbc => .afbc
  | rfbc => .rfbc

def readMode : Compression → UInt32
  | afbc => ReadMode.afbc
  | rfbc => ReadMode.rfbc

def fourcc? (c : Compression) (f : PixelFormat) : Option Fourcc :=
  match c with
  | afbc => f.afbcFourcc?
  | rfbc => f.rfbcFourcc?

/-- Rows of decoder padding that lie above the picture inside a compressed surface. -/
def rowsAbove (c : Compression) (frame : Frame) : Int :=
  match c with
  | afbc => signed32 frame.cropTop
  | rfbc => 0

end Compression

/-- A surface of a format, with what padded ten-bit samples need. -/
def Surface.ofFormat (f : PixelFormat) (fd : Int) : Surface :=
  { fd := fd, code := f.surfaceCode, compact10 := f.isPadded10, bigEndian10 := f.isPadded10 }

/-- A region with strides. -/
def Rect.onSurface (r : Rect) (stride : Stride) (code : SurfaceCode) : SurfaceRect :=
  ⟨r.x, r.y, r.width, r.height, stride.width, stride.height, code⟩

/-- The layout of a frame written compressed: the first object is tagged so, and the first layer
keeps one plane at its start. -/
def BufferLayout.compressed (l : BufferLayout) (fourcc : Fourcc) (pitch : Nat) : BufferLayout where
  objects := l.objects.modifyHead fun object => { object with modifier := .afbcOutput }
  layers := l.layers.modifyHead fun layer => {
    fourcc := fourcc
    planes := (layer.planes.take 1).map fun plane => { plane with offset := 0, pitch := pitch } }

/-- Compression exchanges the channels of four-byte pixels. -/
def SurfaceCode.compressed (c : SurfaceCode) : SurfaceCode :=
  if c = .rgba8888 then .bgra8888 else if c = .bgra8888 then .rgba8888 else c

/-- A surface that is written compressed. -/
def Surface.compressed (surface : Surface) (stride : Stride) : Surface :=
  { surface with
    readMode := ReadMode.afbc
    rect := { surface.rect with
      code := surface.rect.code.compressed
      strideX := stride.width
      strideY := stride.height } }

namespace Session

/-! ## Inputs -/

/-- What an input frame's layout tells. -/
structure InputBuffer where
  layout : BufferLayout
  fd : Int
  compression : Option Compression
  /-- Strides of a linear layout; none are stated for a compressed one. -/
  stride : Stride
  deriving DecidableEq

/-- The buffer of an input frame, if the unit in force could read it. -/
def inputBuffer (s : Session) (view : View) (frame : Frame) : Except Error InputBuffer := do
  let some layout := frame.layout? | throw (.invalidFrame .inputInMemory)
  let some object := layout.objects.head? | throw (.invalidFrame .noObject)
  if object.fd < 0 then throw (.invalidFrame (.descriptor object.fd))
  match Compression.ofModifier? object.modifier with
  | none =>
    let some stride := layout.stride? view.format | throw (.invalidFrame .noStride)
    return ⟨layout, object.fd, none, stride⟩
  | some compression =>
    if !s.hardware.pro && s.unit.isLegacy then
      throw (.unsupported (.compressedOnLegacy view.format))
    return ⟨layout, object.fd, some compression, ⟨0, 0⟩⟩

/-- The part of an overlay that fits on the main picture at its place. -/
def visibleOverlay (s : Session) (view : View) : Int × Int :=
  (min (s.main.active.width - view.overlayX) view.active.width,
    min (s.main.active.height - view.overlayY) view.active.height)

/-- The region of an input that a blit reads: its active region, or the visible part of an overlay
that is put onto a canvas. -/
def inputRegion (s : Session) (role : Role) (view : View) : Rect :=
  if role = .placement then
    let (width, height) := s.visibleOverlay view
    ⟨0, 0, width, height⟩
  else view.active

/-- The surface of a compressed input: strides in whole blocks, and the picture moved below the
decoder's padding. A pitch that is not in whole blocks gives way to the width of the pad. -/
def compressedSurface (c : Compression) (view : View) (frame : Frame) (layout : BufferLayout)
    (surface : Surface) : Except Error Surface := do
  let above := c.rowsAbove frame
  let some layer := layout.layers.head? | throw (.invalidFrame .noLayer)
  if c.fourcc? view.format ≠ some layer.fourcc then
    throw (.invalidFrame (.compressedFourcc view.format))
  let pitch := layer.planes.head?.elim 0 fun plane => signed32 plane.pitch
  let some pixels := pitchToPixels? view.format.bytesPerPixel pitch
    | throw (.invalidFrame .compressedPitch)
  let strideX :=
    if pixels % c.blocks.width = 0 then pixels
    else alignUp (signed32 view.pad.width) c.blocks.width
  let strideY := alignUp (signed32 view.pad.height + above) c.blocks.height
  return { surface with
    readMode := c.readMode
    rect := { surface.rect with
      y := surface.rect.y + above, strideX := strideX, strideY := strideY } }

/-- The surface of an input frame in a role as long as its buffer counts as linear. -/
def linearSurface (s : Session) (role : Role) (view : View) (buffer : InputBuffer)
    (blended : Bool) : Surface :=
  let plain := Surface.ofFormat view.format buffer.fd
  { plain with
    rotation := if role = .source then view.rotation else 0
    blend := if role = .source ∧ blended then view.blend else 0
    rect := (s.inputRegion role view).onSurface buffer.stride view.surfaceCode }

/-- The surface of an input frame in a role, and the unit once the frame's strides are known. -/
def describeInput (s : Session) (role : Role) (view : View) (frame : Frame) (blended : Bool) :
    Except Error Surface × UnitState :=
  match s.inputBuffer view frame with
  | .error e => (.error e, s.unit)
  | .ok buffer =>
    let isAfbc : Bool := buffer.compression = some .afbc
    match s.unit.revalidate s.hardware view s.output buffer.stride.width buffer.stride.height
        isAfbc with
    | (.error e, unit) => (.error e, unit)
    | (.ok (), unit) =>
      let surface := s.linearSurface role view buffer blended
      match buffer.compression with
      | none => (.ok surface, unit)
      | some c => (compressedSurface c view frame buffer.layout surface, unit)

/-! ## Outputs -/

/-- The layout and descriptor of an allocated frame. -/
def allocatedBuffer (frame : Frame) : Except Error (BufferLayout × Int) := do
  let some layout := frame.layout? | throw (.invalidFrame .outputInMemory)
  let some fd := layout.fd?.filter (0 ≤ ·) | throw (.invalidFrame .outputDescriptor)
  return (layout, fd)

/-- Strides of a compressed output: its pad in whole blocks. -/
def compressedOutputStride (output : View) : Stride where
  width := alignUp (signed32 output.pad.width) Blocks.afbc.width
  height := alignUp (signed32 output.pad.height) Blocks.afbc.height

/-- The fourcc with which an output can be written compressed. Ten-bit surfaces need rows of 64
pixels for it. -/
def compressedOutputFourcc? (output : View) : Option Fourcc := do
  let fourcc ← output.format.afbcFourcc?
  let tenBit : Bool :=
    output.surfaceCode = .ycbcr420sp10 || output.surfaceCode = .ycbcr422sp10
  if tenBit && (compressedOutputStride output).width % 64 ≠ 0 then none else some fourcc

/-- A frame and its surface, switched to the compressed layout with these strides. -/
def compressOutput (output : View) (stride : Stride) (fourcc : Fourcc) (layout : BufferLayout)
    (frame : Frame) (surface : Surface) : Except Error (Frame × Surface) :=
  match pixelsToPitch? output.format.bytesPerPixel stride.width with
  | none => .error (.invalidFrame .outputPitch)
  | some pitch =>
    .ok ({ frame with storage := .buffers (layout.compressed fourcc pitch.toNat) },
      surface.compressed stride)

/-- The surface of an output as long as it is written linearly. -/
def linearOutput (s : Session) (stride : Stride) (fd : Int) (matrix : UInt32) : Surface :=
  let plain := Surface.ofFormat s.output.format fd
  { plain with
    completion := .fenced
    conversion := matrix
    rect := s.output.active.onSurface stride s.output.surfaceCode }

/-- The surface of an allocated output frame, given the tags of the source. Beside it, whether the
session goes on writing compressed frames. -/
def describeOutput (s : Session) (allocated source : Frame) :
    Except Error (Frame × Surface) × Bool :=
  let afbc := s.afbcOutput && !s.unit.isLegacy
  let frame := allocated.withTagsOf source
  match allocatedBuffer frame with
  | .error e => (.error e, afbc)
  | .ok (layout, fd) =>
    match layout.stride? s.output.format, afbc with
    | none, false => (.error (.invalidFrame .outputStride), afbc)
    | stride, _ =>
      let (matrix, color) := conversion s.main.format source.color s.output.format frame.color
      let frame := { frame with color := color }
      let surface := s.linearOutput (stride.getD ⟨0, 0⟩) fd matrix.word
      if afbc then
        match compressedOutputFourcc? s.output with
        | none => (.ok (frame, surface), false)
        | some fourcc =>
          let stride := compressedOutputStride s.output
          (compressOutput s.output stride fourcc layout frame surface, true)
      else (.ok (frame, surface), false)

/-- The surface of an allocated canvas, on which the visible part of the overlay is placed before
the main blit. The placement runs on the cores in force, blocks and goes before other blits. -/
def describeCanvas (s : Session) (view : View) (allocated overlay : Frame) :
    Except Error (Frame × Surface) := do
  let frame := allocated.withTagsOf overlay
  let (layout, fd) ← allocatedBuffer frame
  let some stride := layout.stride? view.format | throw (.invalidFrame .outputStride)
  let (width, height) := s.visibleOverlay view
  let region : Rect := ⟨view.overlayX, view.overlayY, width, height⟩
  let plain := Surface.ofFormat view.format fd
  return (frame, { plain with
    core := s.unit.core
    completion := .blocking
    priority := 1
    rect := region.onSurface stride view.surfaceCode })

end Session
end Blitter
