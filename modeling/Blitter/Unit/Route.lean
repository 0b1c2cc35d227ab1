import Blitter.Number.Single
import Blitter.Unit.Limits

/-!
# Routing

Which unit runs a session, on which cores, and how far it may scale. `route` decides once from the
views of a session. `UnitState.revalidate` may later move a session from the modern unit to the
legacy one, for a frame with strides that the modern one cannot take.
-/
namespace Blitter

open Limits

/-- A unit for a session. -/
structure Route where
  onLegacy : Bool
  core : CoreMask
  /-- Sides may grow by this factor at most and shrink by it at most. -/
  greatestScale : Nat
  deriving DecidableEq

/-- Sides may shrink to this part at most. -/
def Route.leastScale (r : Route) : Rat := 1 / (r.greatestScale : Rat)

/-- How much a conversion scales each side. -/
structure Scale where
  width : Single
  height : Single
  deriving DecidableEq

namespace Scale

def ofViews (source destination : View) : Scale where
  width := .quotient destination.active.width source.active.width
  height := .quotient destination.active.height source.active.height

/-- Both sides are in the closed range from `low` to `high`. -/
def within (s : Scale) (low high : Rat) : Bool :=
  s.width.within low high && s.height.within low high

/-- A side is below `low` or above `high`. -/
def outside (s : Scale) (low high : Rat) : Bool :=
  s.width.below low || s.width.above high || s.height.below low || s.height.above high

/-- Nothing is scaled. -/
def isIdentity (s : Scale) : Bool := s.width = .finite 1 && s.height = .finite 1

end Scale

namespace Route

/-- The first reason, input side first, why the hardware has no unit for a side's format. -/
def checkSide (h : Hardware) (side : Side) (f : PixelFormat) : Except Error Unit :=
  if f.isPadded10 && !h.modern then .error (.unsupported (.needsModern side f))
  else if f ∈ proOnly && !h.pro then .error (.unsupported (.needsPro side f))
  else .ok ()

/-- Whether a conversion between two formats can be done at all. -/
def checkFormats (h : Hardware) (source destination : PixelFormat) : Except Error Unit := do
  checkSide h .input source
  checkSide h .output destination
  if source ∈ legacyInput && !h.legacy then
    .error (.unsupported (.needsLegacy .input source))
  else if destination ∈ legacyOutput && !h.legacy then
    .error (.unsupported (.needsLegacy .output destination))
  else if destination.isFullRange && !source.isFullRange then
    .error (.unsupported (.fullRange source destination))
  else if source.isPadded10 && destination ∈ legacyOutput then
    .error (.unsupported (.pair source destination))
  else if destination.isPadded10 && source ∈ legacyInput then
    .error (.unsupported (.pair source destination))
  else .ok ()

/-- A region that the modern unit cannot read. -/
def beyondModern (active : Rect) : Bool :=
  active.width < modernLeastWidth || modernGreatestInput < active.width
    || modernGreatestInput < active.height

/-- The legacy unit has to run the session: its formats ask for it, there is no other unit, or the
modern unit cannot take the scale or the sizes. -/
def usesLegacy (h : Hardware) (source destination : View) (overlay : Option View) : Bool :=
  let scale := Scale.ofViews source destination
  source.format ∈ legacyInput || source.format ∈ proOnly
    || destination.format ∈ legacyOutput || destination.format ∈ proOnly
    || h.needsLegacy
    || (h.modern
      && (!scale.within (1 / 8) 8
        || beyondModern source.active || destination.active.width < modernLeastWidth
        || overlay.any fun view => beyondModern view.active))

/-- The cores for a session. With an Enhance legacy unit beside it, the modern unit is asked for by
name whenever a session scales, crops, blends or expands ten-bit samples. -/
def cores (h : Hardware) (onLegacy : Bool) (source destination : View) (inputs : Nat) : CoreMask :=
  let wanted := if onLegacy then .allLegacy h.pro else h.core
  let demanding := wanted.isAutomatic || 1 < inputs
    || !(Scale.ofViews source destination).isIdentity
    || source.cropped || source.format.isPadded10 || destination.format.isPadded10
  if h.modern && h.enhance && !onLegacy && demanding then .modern else wanted

/-- How far the cores can scale. -/
def scaleLimit (h : Hardware) (onLegacy : Bool) (core : CoreMask) : Nat :=
  if (onLegacy && h.lite) || (!onLegacy && h.modern && !h.legacy) || core.isModernOnly then 8
  else 16

end Route

/-- The unit for a session with the given views; `inputs` counts the overlay. -/
def route (h : Hardware) (source destination : View) (overlay : Option View) (inputs : Nat) :
    Except Error Route := do
  Route.checkFormats h source.format destination.format
  let onLegacy := Route.usesLegacy h source destination overlay
  verify h onLegacy source destination
  let core := Route.cores h onLegacy source destination inputs
  let r : Route := ⟨onLegacy, core, Route.scaleLimit h onLegacy core⟩
  let scale := Scale.ofViews source destination
  if scale.outside r.leastScale r.greatestScale then
    .error (.scaleRatio scale.width scale.height (.finite r.leastScale) (.finite r.greatestScale))
  else .ok r

/-- The unit of a session and the cores its destination asks for. -/
structure UnitState where
  onLegacy : Bool
  core : CoreMask
  deriving DecidableEq

/-- Blits run on the legacy unit, as far as is known. -/
def UnitState.isLegacy (s : UnitState) : Bool := s.onLegacy || s.core = .legacy

/-- Holds a session on modern cores against the strides of one input. Strides that do not suit the
modern unit, other than those of compressed pictures, move the session to the legacy unit. The
state is returned also beside an error. -/
def UnitState.revalidate (s : UnitState) (h : Hardware) (source destination : View)
    (strideX strideY : Int) (isAfbc : Bool) : Except Error Unit × UnitState :=
  if !s.core.isModernOnly then (.ok (), s)
  else
    let onLegacy := s.onLegacy || (!isAfbc && !modernAddresses strideX strideY source.surfaceCode)
    match verify h onLegacy source destination with
    | .error e => (.error e, { s with onLegacy := onLegacy })
    | .ok () => (.ok (), ⟨onLegacy, if onLegacy then .legacy else s.core⟩)

end Blitter
