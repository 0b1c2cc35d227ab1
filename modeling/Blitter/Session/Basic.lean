import Blitter.Blit.Pipeline
import Blitter.Unit.Route

/-!
# Sessions

A session runs one stream of frames through the blitter, with or without an overlay.
`Session.create` checks the pads, routes the session to a unit and settles how many blits may be in
flight.
-/
namespace Blitter

/-- Settings that every session has. -/
structure Options where
  /-- Cores asked for. -/
  core : CoreMask := .automatic
  /-- How many blits may be in flight. -/
  depth : Nat := 2
  /-- Frames are written compressed if the unit and the format allow it. -/
  afbc : Bool := false
  deriving DecidableEq

/-- What a filter asks of its session. -/
structure Parameters where
  rotation : UInt32 := 0
  /-- Region of the source, for a session without overlay. -/
  crop : Option Rect := none
  alpha : UInt8 := 0
  overlayX : Int := 0
  overlayY : Int := 0
  deriving DecidableEq

/-- The word by which an overlay is blended at a global alpha. An overlay with alpha of its own
counts as premultiplied. At the ends of the range the global alpha has no effect. -/
def blendWord (premultiplied : Bool) (alpha : UInt8) : UInt32 :=
  if 0 < alpha && alpha < 0xff then
    (if premultiplied then (0x1004 : UInt32) else 0x4) ||| (alpha.toUInt32 <<< 16) ||| 0xff000000
  else if premultiplied then 0x504
  else 0x501

structure Session where
  hardware : Hardware
  main : View
  overlay : Option View
  output : View
  unit : UnitState
  /-- Frames are written compressed. -/
  afbcOutput : Bool
  /-- The overlay's corner is on the main picture; otherwise overlays are left out. -/
  overlayFits : Bool
  pipeline : Pipeline
  deriving DecidableEq

namespace Session

def greatestDepth : Nat := 4

/-- A picture with more pixels than this allows one blit in flight only. -/
def largePixels : Nat := 3840 * 2160 * 3

/-- Blits in flight, given the pads. -/
def depthFor (depth : Nat) (pads : List Pad) : Nat :=
  if pads.any fun pad => largePixels < pad.pixels then min depth 1 else depth

/-- The overlay's corner is at least two pixels inside the main picture's far edges. -/
def offsetFits (p : Parameters) (main : Rect) : Bool :=
  p.overlayX < main.width - 2 && p.overlayY < main.height - 2

/-- The main view of a session without overlay. -/
def soloView (p : Parameters) (main : View) : View :=
  let main := { main with rotation := p.rotation }
  match p.crop with
  | none => main
  | some r => main.crop r

/-- The overlay's view, placed where the parameters say and never before the first pixel. -/
def overlayView (p : Parameters) (overlay : View) : View :=
  { overlay with overlayX := max p.overlayX 0, overlayY := max p.overlayY 0 }

/-- The views of the inputs and whether an overlay fits. -/
def inputViews (p : Parameters) (main : View) : Option View → View × Option View × Bool
  | none => (soloView p main, none, false)
  | some overlay =>
    ({ main with blend := blendWord overlay.format.hasAlpha p.alpha },
      some (overlayView p overlay), offsetFits p main.active)

/-- One or two input pads, main first. -/
def splitInputs : List Pad → Except Error (Pad × Option Pad)
  | [main] => .ok (main, none)
  | [main, overlay] => .ok (main, some overlay)
  | pads => .error (.invalidConfig (.inputCount pads.length))

def create (host : Host) (inputs : List Pad) (output : Pad) (p : Parameters) (o : Options) :
    Except Error Session := do
  let (main, overlay) ← splitInputs inputs
  if greatestDepth < o.depth then throw (.invalidConfig (.depth o.depth greatestDepth))
  let hardware ← Hardware.ofVersion host.version o.core
  let main ← View.ofPad main .source
  let overlay ← overlay.mapM (View.ofPad · .pattern)
  let (main, overlay, fits) := inputViews p main overlay
  let destination ← View.ofPad output .destination
  let r ← route hardware main destination overlay inputs.length
  return {
    hardware := hardware
    main := main
    overlay := overlay
    output := destination
    unit := ⟨r.onLegacy, r.core⟩
    afbcOutput := o.afbc
    overlayFits := fits
    pipeline := { depth := depthFor o.depth (output :: inputs) } }

/-- The output's view with the cores in force. -/
def outputView (s : Session) : View := { s.output with core := s.unit.core }

/-- Blits submitted and not yet finished. -/
def inFlight (s : Session) : Nat := s.pipeline.jobs.length

end Session
end Blitter
