/-!
# Rectangles

Regions of a picture in pixels. `clampInto` moves and cuts a region so that it lies in a picture
that starts at the origin.
-/
namespace Blitter

structure Rect where
  x : Int
  y : Int
  width : Int
  height : Int
  deriving DecidableEq

/-- `v` held between `low` and `high`. -/
def clamp (low high v : Int) : Int := max low (min high v)

namespace Rect

/-- Every pixel of the region is one of a `w` by `h` picture's. -/
def Inside (r : Rect) (w h : Int) : Prop :=
  0 ≤ r.x ∧ 0 ≤ r.y ∧ 0 ≤ r.width ∧ 0 ≤ r.height ∧ r.x + r.width ≤ w ∧ r.y + r.height ≤ h

instance (r : Rect) (w h : Int) : Decidable (r.Inside w h) :=
  inferInstanceAs (Decidable (_ ∧ _))

/-- One axis of `clampInto`: both ends are held in the picture, then the start gives way to the
extent. -/
def clampSpan (start extent size : Int) : Int × Int :=
  let extent := clamp 0 size extent
  let start := min (clamp 0 size start) (size - extent)
  (start, min extent (size - start))

def clampInto (r : Rect) (w h : Int) : Rect :=
  let (x, width) := clampSpan r.x r.width w
  let (y, height) := clampSpan r.y r.height h
  ⟨x, y, width, height⟩

/-- As `clampInto`; a picture of negative size holds no region. -/
def clampInto? (r : Rect) (w h : Int) : Option Rect :=
  if w < 0 ∨ h < 0 then none else some (r.clampInto w h)

end Rect
end Blitter
