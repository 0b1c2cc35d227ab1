import Blitter.Unit.Hardware
import Blitter.Unit.View

/-!
# Limits of the units

What each generation can do. The modern unit has least and greatest sizes, takes strides in whole
steps only and lacks some formats. The legacy unit writes smaller pictures and knows no padded
ten-bit samples. `verify` holds a conversion against the unit that is going to run it.
-/
namespace Blitter

namespace Limits

def modernLeastWidth : Int := 68
def modernLeastHeight : Int := 2
def modernGreatestInput : Int := 8176
def modernGreatestOutput : Int := 8128
def legacyGreatestOutput : Int := 4096

/-- Formats that only the legacy unit reads. -/
def legacyInput : List PixelFormat :=
  [.gray, .yuv420p, .yuvj420p, .yuv422p, .yuvj422p, .rgb555, .bgr555]

/-- Formats that only the legacy unit writes. -/
def legacyOutput : List PixelFormat := legacyInput ++ [.argb, .xrgb, .abgr, .xbgr]

/-- Formats that only Pro hardware handles. -/
def proOnly : List PixelFormat := [.nv24, .nv42]

end Limits

open Limits

/-- Whether the chosen unit can run a conversion. -/
def verify (h : Hardware) (onLegacy : Bool) (source destination : View) : Except Error Unit :=
  let reads := source.format
  let writes := destination.format
  let target := destination.active
  if onLegacy then
    if !h.legacy then .error (.unsupported (.legacyAbsent reads writes))
    else if reads.isPadded10 || writes.isPadded10 then
      .error (.unsupported (.pairOnLegacy reads writes))
    else if writes.isPacked10 then .error (.unsupported (.outputOnLegacy writes))
    else if !h.pro && source.cropped && 10 ≤ reads.depth then
      .error (.unsupported (.cropOnLegacy reads))
    else if !h.pro
        && (legacyGreatestOutput < target.width || legacyGreatestOutput < target.height) then
      .error (.invalidSize (.greatestOutput .legacy legacyGreatestOutput))
    else .ok ()
  else if source.active.width < modernLeastWidth || source.active.height < modernLeastHeight then
    .error (.invalidSize (.leastInput .modern modernLeastWidth modernLeastHeight))
  else if modernGreatestOutput < target.width || modernGreatestOutput < target.height then
    .error (.invalidSize (.greatestOutput .modern modernGreatestOutput))
  else .ok ()

/-- The modern unit takes surfaces with this row distance and plane height. -/
def modernAddresses (width height : Int) (code : SurfaceCode) : Bool :=
  let steps (across down : Int) : Bool := width % across = 0 && height % down = 0
  if code = .ycbcr420sp || code = .ycrcb420sp || code = .ycbcr422sp then steps 16 2
  else if code = .ycbcr420sp10 || code = .ycbcr422sp10 then steps 64 2
  else if code = .yuyv422 || code = .yvyu422 || code = .uyvy422 then steps 8 2
  else if code = .rgb565 || code = .bgr565 then steps 8 1
  else if code = .rgb888 || code = .bgr888 then steps 16 1
  else if code = .rgba8888 || code = .bgra8888 || code = .argb8888 || code = .abgr8888 then
    steps 4 1
  else false

end Blitter
