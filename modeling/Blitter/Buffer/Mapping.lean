import Blitter.Buffer.Frame
import Blitter.Error

/-!
# Mapping a frame

Reaching the bytes behind a frame's first memory object. The files that are open are given as the
contents behind each descriptor.
-/
namespace Blitter

/-- Contents of the open files, by descriptor. -/
abbrev OpenFiles := Int → Option (Array UInt8)

namespace Errno

def badDescriptor : Nat := 9
def invalidArgument : Nat := 22

def text : Nat → String
  | 9 => "Bad file descriptor (os error 9)"
  | 22 => "Invalid argument (os error 22)"
  | n => s!"os error {n}"

end Errno

namespace Frame

/-- Descriptor of the first object, unless it is negative. -/
def fd (f : Frame) : Except Error Int :=
  match f.fd? with
  | some fd => if 0 ≤ fd then .ok fd else .error (.invalidFrame .noBuffer)
  | none => .error (.invalidFrame .noBuffer)

/-- The contents behind the frame, as a second handle to the same memory sees them. -/
def share (f : Frame) (files : OpenFiles) : Except Error (Array UInt8) := do
  let fd ← f.fd
  match files fd with
  | some bytes => .ok bytes
  | none => .error (.io (Errno.text Errno.badDescriptor))

/-- The contents behind the frame, mapped; nothing cannot be mapped. -/
def map (f : Frame) (files : OpenFiles) : Except Error (Array UInt8) := do
  let bytes ← f.share files
  if bytes.isEmpty then .error (.io (Errno.text Errno.invalidArgument)) else .ok bytes

end Frame

/-- Stores one byte into a mapping; there is no result outside it. -/
def store? (bytes : Array UInt8) (offset : Nat) (value : UInt8) : Option (Array UInt8) :=
  if offset < bytes.size then some (bytes.setIfInBounds offset value) else none

/-- Stores several bytes, the first one first. -/
def storeAll? (bytes : Array UInt8) (writes : List (Nat × UInt8)) : Option (Array UInt8) :=
  writes.foldlM (fun bytes (offset, value) => store? bytes offset value) bytes

end Blitter
