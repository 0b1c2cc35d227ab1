import Blitter.Buffer.Unpack

/-!
# Packing

Storing a tightly packed picture into a mapped frame. The rows of a file are taken one after the
other, plane by plane, and each is put where the layout has it. `Frame.unpack` reads them back.
-/
namespace Blitter

/-- Why a picture cannot be stored. -/
inductive PackError where
  /-- Samples share bytes, so that there are no rows of whole ones. -/
  | noRows (format : PixelFormat)
  /-- A row ends behind the mapped bytes. -/
  | shortOf (stop : Nat)
  deriving DecidableEq

def PackError.message : PackError → String
  | noRows format => s!"raw '{format.name}' frames are not supported"
  | shortOf stop => s!"no bytes up to {stop}"

/-- The mapping after a row was stored from `start` on. -/
def overwrite (bytes : Array UInt8) (start : Nat) (row : List UInt8) : Array UInt8 :=
  bytes.extract 0 start ++ row.toArray ++ bytes.extract (start + row.length)

/-- Stores rows from a file and tells what is left of it. There is no picture where the file ends
before them. -/
def storeRows :
    List (Nat × Nat) → Array UInt8 → List UInt8 →
      Except PackError (Option (Array UInt8 × List UInt8))
  | [], bytes, file => .ok (some (bytes, file))
  | (start, count) :: rest, bytes, file =>
    if bytes.size < start + count then .error (.shortOf (start + count))
    else if file.length < count then .ok none
    else storeRows rest (overwrite bytes start (file.take count)) (file.drop count)

namespace Frame

/-- Stores these planes, each with its index, unless the format has no rows of whole bytes. -/
def packPlanes (f : Frame) :
    List (Plane × Nat) → Array UInt8 → List UInt8 →
      Except PackError (Option (Array UInt8 × List UInt8))
  | [], bytes, file => .ok (some (bytes, file))
  | (plane, index) :: rest, bytes, file =>
    if f.format.rowBytes f.width index = 0 then .error (.noRows f.format)
    else
      match storeRows (f.rowSpans index plane) bytes file with
      | .ok (some (bytes, file)) => f.packPlanes rest bytes file
      | ended => ended

/-- Stores a picture from a file. -/
def pack (f : Frame) (bytes : Array UInt8) (file : List UInt8) :
    Except PackError (Option (Array UInt8 × List UInt8)) :=
  f.packPlanes ((f.layout?.bind (·.planes?)).getD []).zipIdx bytes file

end Frame
end Blitter
