import Blitter.Number.Word

/-!
# Layout modifiers

A 64-bit word beside each buffer object says whether its pixels are stored linearly or compressed.
The top byte is the vendor, the next four bits the vendor's scheme, the rest the scheme's options.
-/
namespace Blitter

structure Modifier where
  word : UInt64
  deriving DecidableEq

namespace Modifier

def armVendor : UInt64 := 0x08
def rockchipVendor : UInt64 := 0x0b

def linear : Modifier := ⟨0⟩

/-- AFBC option: blocks of 16 by 16 pixels. -/
def afbcBlock16 : UInt64 := 1
/-- AFBC option: block storage with gaps. -/
def afbcSparse : UInt64 := 0x40
/-- RFBC option: blocks of 64 by 4 pixels. -/
def rfbcBlock64x4 : UInt64 := 2

/-- Frame buffer compression with the given options. -/
def afbc (options : UInt64) : Modifier := ⟨(armVendor <<< 56) ||| options⟩

/-- Row compression with the given options. -/
def rfbc (options : UInt64) : Modifier :=
  ⟨(rockchipVendor <<< 56) ||| ((1 : UInt64) <<< 52) ||| options⟩

/-- What the blitter itself writes. -/
def afbcOutput : Modifier := afbc (afbcSparse ||| afbcBlock16)

def isAfbc (m : Modifier) : Bool := m.word >>> 52 = 0x080

def isRfbc (m : Modifier) : Bool := m.word >>> 52 = 0x0b1

def isCompressed (m : Modifier) : Bool := m.isAfbc || m.isRfbc

def text (m : Modifier) : String := hexText m.word.toNat

theorem isAfbc_afbcOutput : afbcOutput.isAfbc = true := by decide

end Modifier
end Blitter
