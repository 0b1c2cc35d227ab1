import Blitter.Buffer.Layout
import Blitter.Number.Single

/-!
# Strides

The hardware counts strides in pixels and rows, layouts in bytes. `BufferLayout.stride?` recovers
the former from the latter; there is none when either would not be positive.
-/
namespace Blitter

/-- Distance of rows in pixels and of planes in rows. -/
structure Stride where
  width : Int
  height : Int
  deriving DecidableEq

/-- Pixels in `pitch` bytes, by a single-precision quotient. -/
def pitchToPixels? (bytesPerPixel : Rat) (pitch : Int) : Option Int :=
  if pitch ≤ 0 ∨ bytesPerPixel ≤ 0 then none
  else
    let pixels := wholePart (Single.round (Single.round pitch / bytesPerPixel))
    if 0 < pixels then some pixels else none

/-- Bytes of `pixels` pixels, by a single-precision product. -/
def pixelsToPitch? (bytesPerPixel : Rat) (pixels : Int) : Option Int :=
  if pixels ≤ 0 ∨ bytesPerPixel ≤ 0 then none
  else
    let pitch := wholePart (Single.round (Single.round pixels * bytesPerPixel))
    if 0 < pitch then some pitch else none

namespace BufferLayout

/-- Strides as a linear layout states them. A packed picture's height is what its object has room
for, in even rows unless it is RGB; a planar one's is where the second plane starts. -/
def statedStride? (l : BufferLayout) (f : PixelFormat) : Option Stride := do
  let object ← l.objects.head?
  let planes ← l.planes?
  let first ← planes.head?
  if first.pitch = 0 then none
  else if f.isPlanar then
    let second ← planes[1]?
    some ⟨signed32 first.pitch, signed32 (second.offset / first.pitch : Nat)⟩
  else
    let room := signed32 (object.size / first.pitch : Nat)
    let width := wholePart (Single.round (Single.round first.pitch / f.bytesPerPixel))
    some ⟨width, if f.isRgb then room else alignDown room 2⟩

/-- Strides the hardware can use. -/
def stride? (l : BufferLayout) (f : PixelFormat) : Option Stride :=
  (l.statedStride? f).filter fun s => 0 < s.width ∧ 0 < s.height

theorem stride?_pos {l : BufferLayout} {f : PixelFormat} {s : Stride} (h : l.stride? f = some s) :
    0 < s.width ∧ 0 < s.height := by
  simpa using (Option.filter_eq_some_iff.1 h).2

end BufferLayout

end Blitter
