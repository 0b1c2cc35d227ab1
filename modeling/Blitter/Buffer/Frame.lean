import Blitter.Buffer.Layout
import Blitter.Pixel.Colorimetry

/-!
# Frames

A picture with its tags. The pixels themselves stay in the memory objects that its layout names. A
frame may also lie in ordinary memory, where the hardware cannot reach it; of that one only the
number of bytes is kept.
-/
namespace Blitter

inductive Storage where
  | buffers (layout : BufferLayout)
  | memory (bytes : Nat)
  deriving DecidableEq

structure Frame where
  width : Nat
  height : Nat
  format : PixelFormat
  storage : Storage
  /-- Time stamp. -/
  pts : Option Int := none
  color : Colorimetry := {}
  /-- Rows of decoder padding above a compressed picture. -/
  cropTop : Nat := 0
  deriving DecidableEq

namespace Frame

def layout? (f : Frame) : Option BufferLayout :=
  match f.storage with
  | .buffers l => some l
  | .memory _ => none

def bytesInMemory? (f : Frame) : Option Nat :=
  match f.storage with
  | .buffers _ => none
  | .memory bytes => some bytes

/-- Descriptor of the first object. -/
def fd? (f : Frame) : Option Int := f.layout?.bind (·.fd?)

/-- A frame in a linear buffer of the given object. -/
def linear (format : PixelFormat) (width height : Nat) (fd : Int) (size : Nat) : Frame where
  width := width
  height := height
  format := format
  storage := .buffers (.linear format width height fd size)

/-- The frame with the time stamp and colours of `source`, and no padding above. -/
def withTagsOf (f source : Frame) : Frame :=
  { f with pts := source.pts, color := source.color, cropTop := 0 }

def text (f : Frame) : String :=
  let size := s!"{f.width}x{f.height} {f.format.name}"
  match f.storage with
  | .memory bytes => s!"{size} system:{bytes}"
  | .buffers l =>
    match l.objects.head? with
    | none => s!"{size} fd:None mod:{Modifier.linear.text}"
    | some object => s!"{size} fd:Some({object.fd}) mod:{object.modifier.text}"

end Frame

end Blitter
