import Blitter.Blit.Host
import Blitter.Blit.Record
import Blitter.Unit.Hardware
import Blitter.Vendor.Utf8

/-!
# The vendor library

The library that drives the hardware: one entry point for version texts, one for blits. Surfaces are
handed over as records, of which the library changes the destination's fence only.
-/
namespace Blitter

/-- The library's entry points. -/
structure VendorLibrary where
  /-- The bytes of the version text up to the end of its memory, or no text. -/
  versionBytes : Option (List UInt8)
  blit : SurfaceRecord → SurfaceRecord → Option SurfaceRecord → BlitAnswer

namespace VendorLibrary

/-- The symbols that a library has to export. -/
def symbols : List String := ["querystring", "c_RkRgaBlit"]

/-- Whether a file with these exported symbols, or no file, can be used. -/
def load (exported : Option (List String)) : Except Error Unit :=
  match exported with
  | none => .error (.library "no such library")
  | some names =>
    match symbols.find? (!names.contains ·) with
    | none => .ok ()
    | some name => .error (.library s!"undefined symbol: {name}")

/-- The version text: the bytes before the first zero, decoded. -/
def version (l : VendorLibrary) : String :=
  Utf8.decode ((l.versionBytes.getD []).takeWhile (· ≠ 0))

/-- The records that a blit hands over. -/
def records (b : Blit) : SurfaceRecord × SurfaceRecord × Option SurfaceRecord :=
  (b.source.record, b.destination.record, b.pattern.map (·.record))

/-- The answer to a blit. -/
def answer (l : VendorLibrary) (b : Blit) : BlitAnswer :=
  let (source, destination, pattern) := records b
  l.blit source destination pattern

end VendorLibrary
end Blitter
