import Blitter.Pixel.SurfaceCode
import Blitter.Unit.CoreMask

/-!
# Surfaces

One side of a blit as the hardware is told about it: a buffer, the region of it to read or write
with its strides, and the words that select rotation, blending, colour conversion and compression.
-/
namespace Blitter

/-- A region with the strides and the code of the surface it lies on. -/
structure SurfaceRect where
  x : Int := 0
  y : Int := 0
  width : Int := 0
  height : Int := 0
  strideX : Int := 0
  strideY : Int := 0
  code : SurfaceCode := ⟨0⟩
  deriving DecidableEq

/-- Whether a blit returns when it is done or hands out a fence. -/
inductive Completion where
  | blocking
  | fenced
  deriving DecidableEq

/-! ## Words for how pixels are stored -/

namespace ReadMode

def linear : UInt32 := 0
/-- AFBC in blocks of 16 by 16 pixels. -/
def afbc : UInt32 := 0x2
/-- RFBC in blocks of 64 by 4 pixels. -/
def rfbc : UInt32 := 0x10

end ReadMode

structure Surface where
  fd : Int := -1
  code : SurfaceCode := ⟨0⟩
  rect : SurfaceRect := {}
  blend : UInt32 := 0
  rotation : UInt32 := 0
  /-- Colour conversion word. -/
  conversion : UInt32 := 0
  completion : Completion := .blocking
  readMode : UInt32 := ReadMode.linear
  /-- Ten-bit samples are expanded. -/
  compact10 : Bool := false
  bigEndian10 : Bool := false
  /-- Fence to wait for before the blit. -/
  inFence : Int := -1
  /-- Fence that signals when the blit is done. -/
  outFence : Int := -1
  core : CoreMask := .automatic
  priority : Int := 0
  mmu : Bool := true
  deriving DecidableEq

end Blitter
