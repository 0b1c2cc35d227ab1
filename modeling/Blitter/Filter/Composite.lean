import Blitter.Filter.Transform

/-!
# Composites

Blending an overlay onto a stream at a given place and global alpha. The output has the size of the
main stream.
-/
namespace Blitter

structure CompositeSettings where
  /-- The main stream's format when absent. -/
  format : Option PixelFormat := none
  x : Int := 0
  y : Int := 0
  alpha : UInt8 := 255
  options : Options := {}
  deriving DecidableEq

namespace CompositeSettings

def start (c : CompositeSettings) (host : Host) (main overlay : Pad) : Except Error Filter := do
  checkSize "main" main.width main.height
  checkSize "overlay" overlay.width overlay.height
  let output := { main with format := c.format.getD main.format }
  let parameters : Parameters := { alpha := c.alpha, overlayX := c.x, overlayY := c.y }
  let session ← Session.create host [main, overlay] output parameters c.options
  return ⟨session, output⟩

end CompositeSettings
end Blitter
