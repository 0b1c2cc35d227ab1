import Blitter.Error
import Blitter.Number.Word
import Blitter.Pad
import Blitter.Pixel.SurfaceCode
import Blitter.Rect
import Blitter.Unit.CoreMask

/-!
# Views

A view is one side of a session: its pad, the region of it that is processed, and how. Luma and
chroma share samples, so regions of formats other than RGB have even corners and sizes.
-/
namespace Blitter

structure View where
  pad : Pad
  /-- The region that is read or written. -/
  active : Rect
  /-- The region was cut out of the pad. -/
  cropped : Bool := false
  /-- Rotation word. -/
  rotation : UInt32 := 0
  /-- Blend word. -/
  blend : UInt32 := 0
  core : CoreMask := .automatic
  /-- Where an overlay goes on the main picture. -/
  overlayX : Int := 0
  overlayY : Int := 0
  deriving DecidableEq

namespace View

def format (v : View) : PixelFormat := v.pad.format

def surfaceCode (v : View) : SurfaceCode := v.format.surfaceCode

/-- Corner and size rounded toward zero to even numbers, for formats that need it. -/
def grid (f : PixelFormat) (r : Rect) : Rect :=
  if f.isRgb then r
  else ⟨alignDown r.x 2, alignDown r.y 2, alignDown r.width 2, alignDown r.height 2⟩

/-- The view of a whole pad, if the role takes its format. -/
def ofPad (pad : Pad) (role : Role) : Except Error View :=
  if role.admits pad.format then
    .ok {
      pad := pad
      active := grid pad.format ⟨0, 0, signed32 pad.width, signed32 pad.height⟩ }
  else .error (.unsupportedFormat role.padName pad.format)

/-- The view with its region cut to `r`. -/
def crop (v : View) (r : Rect) : View :=
  { v with active := grid v.format r, cropped := true }

@[simp] theorem format_crop (v : View) (r : Rect) : (v.crop r).format = v.format := rfl

end View
end Blitter
