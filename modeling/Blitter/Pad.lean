import Blitter.Pixel.Format

/-!
# Pads

The size and format that was agreed on for one side of a session, and for buffers that are to be
allocated.
-/
namespace Blitter

structure Pad where
  width : Nat
  height : Nat
  format : PixelFormat
  deriving DecidableEq

def Pad.pixels (p : Pad) : Nat := p.width * p.height

end Blitter
