import Blitter.Pixel.Format

/-!
# Colorimetry

The colour tags of a frame, and the conversion matrix between a source and a destination format.
`conversion` picks the matrix from the source's tags and retags the result to match it.
-/
namespace Blitter

inductive SampleRange where
  | limited
  | full
  deriving DecidableEq

/-- The names of the ranges. -/
def SampleRange.names : List (String × SampleRange) := [("limited", limited), ("full", full)]

inductive ColorSpace where
  | bt709
  /-- The tag of BT.601 content. -/
  | bt470bg
  | smpte170m
  | bt2020ncl
  deriving DecidableEq

/-- The names of the colour spaces. -/
def ColorSpace.names : List (String × ColorSpace) :=
  [("bt709", bt709), ("bt470bg", bt470bg), ("smpte170m", smpte170m), ("bt2020ncl", bt2020ncl)]

/-- Colour tags, each absent when unspecified. Transfer characteristics and primaries are code
points of H.273. -/
structure Colorimetry where
  range : Option SampleRange := none
  space : Option ColorSpace := none
  transfer : Option UInt8 := none
  primaries : Option UInt8 := none
  deriving DecidableEq

/-- A matrix the hardware can apply. -/
inductive ColorMatrix where
  | none
  | rgbToBt601Limited
  | rgbToBt709Limited
  | bt601LimitedToRgb
  | bt601FullToRgb
  | bt709LimitedToRgb
  deriving DecidableEq

namespace ColorMatrix

/-- The hardware's word for a matrix. -/
def word : ColorMatrix → UInt32
  | none => 0
  | rgbToBt601Limited => 0x8
  | rgbToBt709Limited => 0xb00
  | bt601LimitedToRgb => 1
  | bt601FullToRgb => 2
  | bt709LimitedToRgb => 3

/-- The matrix for pixels of format `source` tagged `tags` written as `destination`. -/
def choose (source : PixelFormat) (tags : Colorimetry) (destination : PixelFormat) :
    ColorMatrix :=
  match source.isRgb, destination.isRgb, tags.range, tags.space with
  | true, false, some .full, some .bt709 => rgbToBt709Limited
  | true, false, some .full, some .bt470bg => rgbToBt601Limited
  | false, true, some .limited, some .bt709 => bt709LimitedToRgb
  | false, true, some .limited, some .bt470bg => bt601LimitedToRgb
  | false, true, some .full, some .bt470bg => bt601FullToRgb
  | _, _, _, _ => none

/-- Tags of pixels that went through a matrix, given the tags they had been assigned before. -/
def retag (matrix : ColorMatrix) (tags : Colorimetry) : Colorimetry :=
  match matrix with
  | none => tags
  | rgbToBt601Limited => ⟨some .limited, some .bt470bg, .none, .none⟩
  | rgbToBt709Limited => ⟨some .limited, some .bt709, .none, .none⟩
  | bt601LimitedToRgb | bt601FullToRgb => ⟨some .full, some .bt470bg, .none, .none⟩
  | bt709LimitedToRgb => ⟨some .full, some .bt709, .none, .none⟩

end ColorMatrix

/-- The matrix for a blit, and the destination's tags once it is applied. Full-range samples that
stay luma and chroma stay full-range. -/
def conversion (source : PixelFormat) (tags : Colorimetry) (destination : PixelFormat)
    (assigned : Colorimetry) : ColorMatrix × Colorimetry :=
  let matrix := ColorMatrix.choose source tags destination
  let retagged := matrix.retag assigned
  (matrix,
    if source.isFullRange && !destination.isRgb then { retagged with range := some .full }
    else retagged)

end Blitter
