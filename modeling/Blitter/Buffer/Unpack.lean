import Blitter.Buffer.Frame

/-!
# Unpacking

The rows of a mapped frame one after the other, plane by plane, without the padding behind them.
Compressed pixels have no rows to pick and are copied whole.
-/
namespace Blitter

/-- Why a mapped frame cannot be unpacked. -/
inductive UnpackError where
  | noFrame
  | inMemory
  | noObject
  | noLayer
  /-- A row ends behind the mapped bytes. -/
  | shortOf (stop : Nat)
  deriving DecidableEq

def UnpackError.message : UnpackError → String
  | noFrame => "missing frame"
  | inMemory => "not a dma-buf frame"
  | noObject => "no dma-buf object"
  | noLayer => "no DRM layer"
  | shortOf stop => s!"no bytes up to {stop}"

/-- The bytes from `start`, `count` of them, if all are there. -/
def bytesAt (bytes : Array UInt8) (start count : Nat) : Except UnpackError (Array UInt8) :=
  if start + count ≤ bytes.size then .ok (bytes.extract start (start + count))
  else .error (.shortOf (start + count))

namespace Frame

/-- The start and length of every row of the `index`-th plane. -/
def rowSpans (f : Frame) (index : Nat) (plane : Plane) : List (Nat × Nat) :=
  (List.range (f.format.rows f.height index)).map fun row =>
    (plane.offset + row * plane.pitch, f.format.rowBytes f.width index)

/-- The rows of all planes of a layer, in order. -/
def layerSpans (f : Frame) (layer : Layer) : List (Nat × Nat) :=
  layer.planes.zipIdx.flatMap fun (plane, index) => f.rowSpans index plane

/-- The rows of all planes one after the other. -/
def unpack (f : Frame) (bytes : Array UInt8) : Except UnpackError (Array UInt8) := do
  let layout ← f.layout?.elim (.error .inMemory) .ok
  let object ← layout.objects.head?.elim (.error .noObject) .ok
  if object.modifier.isAfbc then .ok bytes
  else
    let layer ← layout.layers.head?.elim (.error .noLayer) .ok
    (f.layerSpans layer).foldlM
      (fun out (start, count) => do return out ++ (← bytesAt bytes start count)) #[]

end Frame

/-- Unpacking when there may be no frame. -/
def unpack? (frame : Option Frame) (bytes : Array UInt8) : Except UnpackError (Array UInt8) :=
  match frame with
  | none => .error .noFrame
  | some f => f.unpack bytes

end Blitter
