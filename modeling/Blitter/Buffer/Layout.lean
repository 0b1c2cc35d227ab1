import Blitter.Buffer.Modifier
import Blitter.Pixel.Format

/-!
# Buffer layouts

Where the planes of a picture lie in one or more memory objects. `linear` is the layout of the
blitter's own buffers: one object, each plane stacked below the one before, rows padded to `pitch`
bytes. `bufferSize` is what is reserved for it.
-/
namespace Blitter

/-- A block of memory behind a file descriptor. -/
structure BufferObject where
  fd : Int
  size : Nat
  modifier : Modifier
  deriving DecidableEq

structure Plane where
  /-- Which object holds the plane. -/
  object : Nat
  offset : Nat
  /-- Bytes from one row to the next. -/
  pitch : Nat
  deriving DecidableEq

structure Layer where
  fourcc : Fourcc
  planes : List Plane
  deriving DecidableEq

structure BufferLayout where
  objects : List BufferObject
  layers : List Layer
  deriving DecidableEq

namespace PixelFormat

/-- Bytes of one row of a plane without padding, zero where samples share bytes. -/
def rowBytes (f : PixelFormat) (width plane : Nat) : Nat :=
  let shift := if plane = 0 then 0 else f.layout.chromaShiftX
  parts width (1 <<< shift) * f.layout.steps.getD plane 0

/-- Rows of a plane. -/
def rows (f : PixelFormat) (height plane : Nat) : Nat :=
  parts height (1 <<< if plane = 0 then 0 else f.layout.chromaShiftY)

/-- Bytes from one row of a plane to the next. Packed pixels are padded to eight, planar rows to 64
bytes. Gapless ten-bit samples take an odd number of 256-sample groups, as decoders leave them. -/
def pitch (f : PixelFormat) (width plane : Nat) : Nat :=
  if f.isPacked10 then
    let samples := if plane = 1 then 2 * width else width
    padded ((padded samples 256 ||| 256) * 10 / 8) 64
  else if f.isPlanar then
    padded (f.rowBytes width plane) 64
  else
    let pixelBytes := f.layout.bitsPerPixel / 8
    padded (f.rowBytes width plane / pixelBytes) 8 * pixelBytes

/-- Rows that the linear layout keeps free for the plane before `plane`. -/
def stackedRows (f : PixelFormat) (height plane : Nat) : Nat :=
  if 1 < plane then height >>> f.layout.chromaShiftY else height

/-- Where the linear layout puts a plane. -/
def planeOffset (f : PixelFormat) (width height : Nat) : Nat → Nat
  | 0 => 0
  | plane + 1 =>
    f.planeOffset width height plane + f.pitch width plane * f.stackedRows height (plane + 1)

/-- Bytes reserved for a picture: a fifth more on each side, for decoders that pad. -/
def bufferSize (f : PixelFormat) (width height : Nat) : Nat :=
  padded (width * 6 / 5) 64 * padded (height * 6 / 5) 64 * f.layout.bitsPerPixel / 8

end PixelFormat

namespace BufferLayout

/-- One object with the planes of `f` stacked in it. -/
def linear (f : PixelFormat) (width height : Nat) (fd : Int) (size : Nat) : BufferLayout where
  objects := [⟨fd, size, .linear⟩]
  layers := [{
    fourcc := f.fourcc
    planes := (List.range f.layout.planes).map fun plane =>
      ⟨0, f.planeOffset width height plane, f.pitch width plane⟩ }]

/-- The planes of the first layer. -/
def planes? (l : BufferLayout) : Option (List Plane) := l.layers.head?.map (·.planes)

/-- File descriptor of the first object. -/
def fd? (l : BufferLayout) : Option Int := l.objects.head?.map (·.fd)

end BufferLayout
end Blitter
