import Blitter.Number.Single
import Blitter.Pixel.Format

/-!
# Errors

Why a session cannot be set up, a frame cannot be processed or a blit went wrong. Causes are data;
`Error.message` is the one place that words them. Every cause has an open case for texts that come
from outside.
-/
namespace Blitter

/-- The two generations of the blitter, the legacy one called RGA2 and the modern one RGA3. -/
inductive Generation where
  | legacy
  | modern
  deriving DecidableEq

def Generation.text : Generation → String
  | legacy => "RGA2"
  | modern => "RGA3"

/-- A side of a conversion, as messages call it. -/
inductive Side where
  | input
  | output
  deriving DecidableEq

def Side.text : Side → String
  | input => "Input"
  | output => "Output"

/-- A combination of formats that no available unit takes. -/
inductive Unsupported where
  | needsModern (side : Side) (format : PixelFormat)
  | needsPro (side : Side) (format : PixelFormat)
  | needsLegacy (side : Side) (format : PixelFormat)
  | fullRange (source destination : PixelFormat)
  | pair (source destination : PixelFormat)
  | legacyAbsent (source destination : PixelFormat)
  | pairOnLegacy (source destination : PixelFormat)
  | outputOnLegacy (destination : PixelFormat)
  | cropOnLegacy (source : PixelFormat)
  | compressedOnLegacy (source : PixelFormat)
  | other (text : String)
  deriving DecidableEq

def Unsupported.message : Unsupported → String
  | needsModern side f => s!"{side.text} format '{f.name}' is only supported by RGA3"
  | needsPro side f => s!"{side.text} format '{f.name}' is only supported by RGA2 Pro"
  | needsLegacy side f => s!"{side.text} format '{f.name}' is not supported by RGA3"
  | fullRange s d => s!"Unsupported full range conversion '{s.name}' to '{d.name}'"
  | pair s d => s!"'{s.name}' to '{d.name}' is not supported"
  | legacyAbsent s d => s!"RGA2 is requested but not available for '{s.name}' to '{d.name}'"
  | pairOnLegacy s d => s!"'{s.name}' to '{d.name}' is not supported by RGA2"
  | outputOnLegacy d => s!"Output format '{d.name}' is not supported by RGA2"
  | cropOnLegacy s => s!"Cropping 10-bit '{s.name}' input is not supported by RGA2"
  | compressedOnLegacy s =>
      s!"Input format '{s.name}' with AFBC/RFBC modifier is not supported by RGA2"
  | other text => text

/-- A size outside the range of a unit or of a filter. -/
inductive SizeLimit where
  | greatestOutput (unit : Generation) (side : Int)
  | leastInput (unit : Generation) (width height : Int)
  | padRange (pad : String) (least greatest : Int)
  | fitTooLarge
  | other (text : String)
  deriving DecidableEq

def SizeLimit.message : SizeLimit → String
  | greatestOutput unit side => s!"Max supported output size of {unit.text} is {side}x{side}"
  | leastInput unit w h => s!"Min supported input size of {unit.text} is {w}x{h}"
  | padRange pad least greatest =>
      s!"Supported {pad} size is range from {least}x{least} ~ {greatest}x{greatest}"
  | fitTooLarge => "Rescaled value for width or height is too big."
  | other text => text

/-- Settings that contradict each other. -/
inductive BadSetting where
  | inputCount (given : Nat)
  | depth (given greatest : Nat)
  | other (text : String)
  deriving DecidableEq

def BadSetting.message : BadSetting → String
  | inputCount given => s!"expected 1 or 2 inputs, got {given}"
  | depth given greatest => s!"async_depth {given} out of range 0..={greatest}"
  | other text => text

/-- A frame that cannot be described to the hardware. -/
inductive BadFrame where
  | inputInMemory
  | noObject
  | descriptor (fd : Int)
  | noStride
  | noLayer
  | compressedFourcc (format : PixelFormat)
  | compressedPitch
  | outputInMemory
  | outputDescriptor
  | outputStride
  | outputPitch
  | noBuffer
  | other (text : String)
  deriving DecidableEq

def BadFrame.message : BadFrame → String
  | inputInMemory => "RGA gets a wrong frame"
  | noObject => "Frame has no DRM objects"
  | descriptor fd => s!"Invalid frame fd {fd}"
  | noStride => "Failed to get frame pixel stride"
  | noLayer => "Frame has no DRM layers"
  | compressedFourcc f => s!"Input format '{f.name}' with AFBC/RFBC modifier is not supported"
  | compressedPitch => "Invalid compressed frame pitch"
  | outputInMemory => "Buffer pool returned a non-DRM frame"
  | outputDescriptor => "Buffer pool returned an invalid fd"
  | outputStride => "Failed to get output frame pixel stride"
  | outputPitch => "Invalid AFBC output pitch"
  | noBuffer => "frame has no dma-buf object"
  | other text => text

inductive Error where
  | noHardware
  | unsupportedFormat (pad : String) (format : PixelFormat)
  | unsupported (cause : Unsupported)
  | invalidSize (cause : SizeLimit)
  | scaleRatio (width height low high : Single)
  | invalidConfig (cause : BadSetting)
  | allocation (text : String)
  | io (text : String)
  | invalidFrame (cause : BadFrame)
  /-- The hardware's status for a blit. -/
  | blit (status : Int)
  | invalidFence (fence : Int)
  | sync (text : String)
  | library (text : String)
  | delivery (text : String)
  deriving DecidableEq

namespace Error

def message : Error → String
  | noHardware => "No RGA2/RGA3 hw available"
  | unsupportedFormat pad f => s!"Unsupported {pad} format: '{f.name}'"
  | unsupported cause => cause.message
  | invalidSize cause => cause.message
  | scaleRatio w h low high =>
      s!"RGA scale ratio ({w.text}x{h.text}) exceeds {low.text} ~ {high.text}"
  | invalidConfig cause => s!"Invalid configuration: {cause.message}"
  | allocation text => s!"Allocation failed: {text}"
  | io text => s!"IO error: {text}"
  | invalidFrame cause => s!"Invalid frame: {cause.message}"
  | blit status => s!"RGA blit failed: {status}"
  | invalidFence fence => s!"RGA async blit returned invalid fence_fd: {fence}"
  | sync text => s!"RGA sync failed: {text}"
  | library text => s!"RGA library error: {text}"
  | delivery text => s!"Delivery failed: {text}"

/-- The settings are at fault, so no later frame will do better. -/
def isConfiguration : Error → Bool
  | noHardware | unsupportedFormat .. | unsupported _ | invalidSize _ | scaleRatio ..
  | invalidConfig _ => true
  | _ => false

/-- A frame or its memory is at fault, so another frame may do better. -/
def isResource : Error → Bool
  | allocation _ | io _ | invalidFrame _ => true
  | _ => false

/-- The failure comes from the hardware's side. -/
def isExternal : Error → Bool
  | blit _ | invalidFence _ | sync _ | library _ => true
  | _ => false

/-- No error is of two classes. -/
theorem classes_disjoint (e : Error) :
    (e.isConfiguration && e.isResource) = false ∧ (e.isConfiguration && e.isExternal) = false ∧
      (e.isResource && e.isExternal) = false := by
  cases e <;> exact ⟨rfl, rfl, rfl⟩

end Error
end Blitter
