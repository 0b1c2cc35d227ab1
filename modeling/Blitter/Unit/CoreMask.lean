import Blitter.Number.Numeral
import Blitter.Number.Word

/-!
# Core masks

A bit for each scheduling core: two of the modern unit, then two of the legacy unit. No bit at all
leaves the choice to the driver.
-/
namespace Blitter

structure CoreMask where
  bits : UInt32
  deriving DecidableEq

namespace CoreMask

def automatic : CoreMask := ⟨0⟩
/-- Either core of the modern unit. -/
def modern : CoreMask := ⟨0x3⟩
/-- The first core of the legacy unit. -/
def legacy : CoreMask := ⟨0x4⟩
/-- The second core of the legacy unit, which only Pro hardware has. -/
def legacySecond : CoreMask := ⟨0x8⟩

def union (a b : CoreMask) : CoreMask := ⟨a.bits ||| b.bits⟩

/-- Every core of `a` is one of `b`. -/
def isSubset (a b : CoreMask) : Bool := a.bits &&& b.bits == a.bits

def isAutomatic (m : CoreMask) : Bool := m.bits == 0

/-- Cores of the modern unit and no others. -/
def isModernOnly (m : CoreMask) : Bool := !m.isAutomatic && m.isSubset modern

/-- The legacy cores that hardware has, with or without Pro. -/
def allLegacy (pro : Bool) : CoreMask := if pro then legacy.union legacySecond else legacy

def text (m : CoreMask) : String := hexText m.bits.toNat

/-- A text that is no 32-bit mask. -/
structure BadText where
  given : String
  deriving DecidableEq

/-- Reads a mask in hexadecimal after `0x`, otherwise in decimal. -/
def parse (given : String) : Except BadText CoreMask :=
  let value :=
    match given.toList with
    | '0' :: 'x' :: digits => Numeral.unsigned? 16 0x100000000 digits
    | digits => Numeral.unsigned? 10 0x100000000 digits
  match value with
  | some n => .ok ⟨n.toUInt32⟩
  | none => .error ⟨given⟩

end CoreMask
end Blitter
