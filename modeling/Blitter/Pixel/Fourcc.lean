/-!
# Fourcc codes

Four bytes name a memory layout of pixels. The code is their little-endian word.
-/
namespace Blitter

structure Fourcc where
  code : UInt32
  deriving DecidableEq

namespace Fourcc

/-- The code of four bytes, the first one lowest. -/
def ofBytes (a b c d : UInt8) : Fourcc :=
  ⟨a.toUInt32 ||| (b.toUInt32 <<< 8) ||| (c.toUInt32 <<< 16) ||| (d.toUInt32 <<< 24)⟩

/-- The code that four ASCII characters spell. -/
def spelled (a b c d : Char) : Fourcc := ofBytes a.toUInt8 b.toUInt8 c.toUInt8 d.toUInt8

def none : Fourcc := ⟨0⟩

/-! ## Layouts that are no pixel format's linear one

Compressed surfaces are tagged with these. -/

def vuy888 : Fourcc := spelled 'V' 'U' '2' '4'
def yuv420Bits8 : Fourcc := spelled 'Y' 'U' '0' '8'
def yuv420Bits10 : Fourcc := spelled 'Y' 'U' '1' '0'
def y210 : Fourcc := spelled 'Y' '2' '1' '0'

end Fourcc
end Blitter
