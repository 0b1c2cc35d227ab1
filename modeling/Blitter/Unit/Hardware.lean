import Blitter.Error
import Blitter.Unit.CoreMask

/-!
# Hardware

Which units a driver's version text announces, and which scheduling cores a session may ask for.
A request that pins a session to one generation hides the other.
-/
namespace Blitter

structure Hardware where
  legacy : Bool
  /-- Variants of the legacy unit. -/
  lite : Bool
  enhance : Bool
  pro : Bool
  modern : Bool
  /-- Cores that may be asked for. -/
  selectable : CoreMask
  /-- The request, automatic when it was not admitted. -/
  core : CoreMask
  deriving DecidableEq

namespace Hardware

/-- Both generations are present. -/
def isMixed (h : Hardware) : Bool := h.legacy && h.modern

/-- Without a modern unit everything runs on the legacy one. -/
def needsLegacy (h : Hardware) : Bool := !h.modern

/-- `needle` occurs somewhere in a list. -/
def occurs (needle : List Char) : List Char → Bool
  | [] => needle.isEmpty
  | c :: rest => needle.isPrefixOf (c :: rest) || occurs needle rest

def mentions (text needle : String) : Bool := occurs needle.toList text.toList

/-- The units that a version text announces, with nothing asked for. -/
def announced (version : String) : Hardware :=
  let pro := mentions version "RGA_2_PRO"
  { legacy := mentions version "RGA_2"
    lite := mentions version "RGA_2_lite"
    enhance := mentions version "RGA_2_Enhance"
    pro := pro
    modern := mentions version "RGA_3"
    selectable := ⟨if pro then 0xf else 0x7⟩
    core := .automatic }

/-- The request, or automatic choice where there is nothing to choose from or the mask names cores
that do not exist. -/
def allowed (h : Hardware) (request : CoreMask) : CoreMask :=
  if (h.isMixed || h.pro) && request.isSubset h.selectable then request else .automatic

def withoutLegacy (h : Hardware) : Hardware :=
  { h with legacy := false, lite := false, enhance := false, pro := false }

def withoutModern (h : Hardware) : Hardware := { h with modern := false }

/-- Asks for cores. Asking for modern cores only hides the legacy unit. Asking for the legacy core
hides the modern unit, unless Pro hardware has a second legacy core beside it. -/
def pin (h : Hardware) (request : CoreMask) : Hardware :=
  let h := { h with core := h.allowed request }
  if h.core.isModernOnly then h.withoutLegacy
  else if h.core = .legacy && !h.pro then h.withoutModern
  else h

/-- The hardware of a version text under a request. -/
def ofVersion (version : String) (request : CoreMask) : Except Error Hardware :=
  let h := announced version
  if h.legacy || h.modern then .ok (h.pin request) else .error .noHardware

end Hardware
end Blitter
