import Blitter.Number.Word
import Blitter.Pixel.Format
import Blitter.Role

/-!
# Surface codes

The numbers by which the hardware knows pixel formats. Several formats share a code, so the way
back picks the first format that a role admits. Overlays are RGB only.
-/
namespace Blitter

structure SurfaceCode where
  code : Int
  deriving DecidableEq

namespace SurfaceCode

/-- Codes are numbered in the second byte. -/
def numbered (n : Nat) : SurfaceCode := ⟨256 * n⟩

def rgba8888 := numbered 0x00
def rgb888 := numbered 0x02
def bgra8888 := numbered 0x03
def rgb565 := numbered 0x04
def rgba5551 := numbered 0x05
def bgr888 := numbered 0x07
def ycbcr422sp := numbered 0x08
def ycbcr422p := numbered 0x09
def ycbcr420sp := numbered 0x0a
def ycbcr420p := numbered 0x0b
def ycrcb420sp := numbered 0x0e
def ycbcr400 := numbered 0x15
def yvyu422 := numbered 0x18
def yuyv422 := numbered 0x1c
def uyvy422 := numbered 0x1e
def ycbcr420sp10 := numbered 0x20
def ycbcr422sp10 := numbered 0x22
def bgr565 := numbered 0x24
def bgra5551 := numbered 0x25
def argb8888 := numbered 0x28
def abgr8888 := numbered 0x2c
def ycbcr444sp := numbered 0x32
def ycrcb444sp := numbered 0x33

/-- The number in hexadecimal, as a 32-bit word when the code is negative. -/
def text (c : SurfaceCode) : String := hexText ((c.code.fdiv 256) % 0x100000000).toNat

end SurfaceCode

namespace PixelFormat

/-- The code of a format. Unused alpha bytes count as alpha: the codes that would leave them out
are known to the legacy unit only. -/
def surfaceCode : PixelFormat → SurfaceCode
  | gray => .ycbcr400
  | yuv420p | yuvj420p => .ycbcr420p
  | yuv422p | yuvj422p => .ycbcr422p
  | nv12 => .ycbcr420sp
  | nv21 => .ycrcb420sp
  | nv16 => .ycbcr422sp
  | nv24 => .ycbcr444sp
  | nv42 => .ycrcb444sp
  | p010 | nv15 => .ycbcr420sp10
  | p210 | nv20 => .ycbcr422sp10
  | yuyv => .yuyv422
  | yvyu => .yvyu422
  | uyvy => .uyvy422
  | rgb555 => .bgra5551
  | bgr555 => .rgba5551
  | rgb565 => .bgr565
  | bgr565 => .rgb565
  | rgb24 => .rgb888
  | bgr24 => .bgr888
  | rgba | rgbx => .rgba8888
  | bgra | bgrx => .bgra8888
  | argb | xrgb => .argb8888
  | abgr | xbgr => .abgr8888

end PixelFormat

/-- Overlays are RGB; the main stream may have any format. -/
def Role.admits : Role → PixelFormat → Bool
  | .source, _ | .destination, _ => true
  | .pattern, f | .placement, f => f.isRgb

/-- The formats of a role, in listing order. -/
def Role.formats (role : Role) : List PixelFormat := PixelFormat.all.filter role.admits

/-- The code of `f`, where the role admits it. -/
def PixelFormat.surfaceCode? (f : PixelFormat) (role : Role) : Option SurfaceCode :=
  if role.admits f then some f.surfaceCode else none

/-- The first format of a role with this code. -/
def SurfaceCode.format? (c : SurfaceCode) (role : Role) : Option PixelFormat :=
  role.formats.find? (·.surfaceCode = c)

end Blitter
