import Blitter.Blit.Surface
import Blitter.Number.Word

/-!
# Surface records

The record of signed words by which a surface is handed to the vendor library. Unsigned words are
narrowed to 32 bits, switches become zero or one, and everything unnamed is zero.
-/
namespace Blitter

structure SurfaceRecord where
  fd : Int
  format : Int
  /-- Corner, size, strides, code, and a size of zero. -/
  rect : List Int
  blend : UInt32
  rotation : Int
  colorSpaceMode : Int
  syncMode : Int
  readMode : Int
  compact10 : Nat
  endian10 : Nat
  inFence : Int
  outFence : Int
  core : Int
  priority : Int
  mmu : Nat
  bufferSize : Int
  reserve : List UInt8
  deriving DecidableEq

/-- Words that select how a blit ends. -/
def Completion.word : Completion → Int
  | blocking => 0x5017
  | fenced => 0x5018

/-- Bytes kept free for later versions of the record. -/
def SurfaceRecord.reserved : Nat := 1024

def Surface.record (s : Surface) : SurfaceRecord where
  fd := s.fd
  format := s.code.code
  rect := [s.rect.x, s.rect.y, s.rect.width, s.rect.height, s.rect.strideX, s.rect.strideY,
    s.rect.code.code, 0]
  blend := s.blend
  rotation := signed32 s.rotation.toNat
  colorSpaceMode := signed32 s.conversion.toNat
  syncMode := s.completion.word
  readMode := signed32 s.readMode.toNat
  compact10 := s.compact10.toNat
  endian10 := s.bigEndian10.toNat
  inFence := s.inFence
  outFence := s.outFence
  core := signed32 s.core.bits.toNat
  priority := s.priority
  mmu := s.mmu.toNat
  bufferSize := 0
  reserve := List.replicate SurfaceRecord.reserved 0

end Blitter
