/-!
# Options of the command line

Every option has a long name; some have a letter, and all but one can be set in the environment.
An option takes no word, one word, or a fixed number of words that are lists of values themselves.
-/
namespace Blitter.CommandLine

inductive Switch where
  | input | size | format | output | outSize | outFormat | crop | transpose | aspectRatio
  | divisibleBy | forceYuv | forceChroma | overlay | overlaySize | overlayFormat | overlayPos
  | alpha | core | asyncDepth | afbc | frames | library | verbose | tracy
  deriving DecidableEq

namespace Switch

/-- All options, in the order in which the environment is consulted. -/
def all : List Switch :=
  [input, size, format, output, outSize, outFormat, crop, transpose, aspectRatio, divisibleBy,
   forceYuv, forceChroma, overlay, overlaySize, overlayFormat, overlayPos, alpha, core, asyncDepth,
   afbc, frames, library, verbose, tracy]

theorem mem_all (s : Switch) : s ∈ all := by cases s <;> decide

def long : Switch → String
  | input => "input"
  | size => "size"
  | format => "format"
  | output => "output"
  | outSize => "out-size"
  | outFormat => "out-format"
  | crop => "crop"
  | transpose => "transpose"
  | aspectRatio => "aspect-ratio"
  | divisibleBy => "divisible-by"
  | forceYuv => "force-yuv"
  | forceChroma => "force-chroma"
  | overlay => "overlay"
  | overlaySize => "overlay-size"
  | overlayFormat => "overlay-format"
  | overlayPos => "overlay-pos"
  | alpha => "alpha"
  | core => "core"
  | asyncDepth => "async-depth"
  | afbc => "afbc"
  | frames => "frames"
  | library => "library"
  | verbose => "verbose"
  | tracy => "tracy"

def letter? : Switch → Option Char
  | input => some 'i'
  | format => some 'f'
  | output => some 'o'
  | frames => some 'n'
  | verbose => some 'v'
  | _ => none

/-- Name in the environment. -/
def environment? : Switch → Option String
  | input => some "INPUT"
  | size => some "SIZE"
  | format => some "FORMAT"
  | output => some "OUTPUT"
  | outSize => some "OUT_SIZE"
  | outFormat => some "OUT_FORMAT"
  | crop => some "CROP"
  | transpose => some "TRANSPOSE"
  | aspectRatio => some "ASPECT_RATIO"
  | divisibleBy => some "DIVISIBLE_BY"
  | forceYuv => some "FORCE_YUV"
  | forceChroma => some "FORCE_CHROMA"
  | overlay => some "OVERLAY"
  | overlaySize => some "OVERLAY_SIZE"
  | overlayFormat => some "OVERLAY_FORMAT"
  | overlayPos => some "OVERLAY_POS"
  | alpha => some "ALPHA"
  | core => some "RGA_CORE"
  | asyncDepth => some "RGA_ASYNC_DEPTH"
  | afbc => some "RGA_AFBC"
  | frames => some "FRAMES"
  | library => some "LIBRGA"
  | verbose => none
  | tracy => some "TRACY"

/-- How many words follow the option on the command line. -/
def words : Switch → Nat
  | afbc | verbose | tracy => 0
  | size | outSize | overlaySize | overlayPos => 2
  | crop => 4
  | _ => 1

/-- Words are split at spaces, and giving the option again adds to its values. -/
def isList (s : Switch) : Bool := 1 < s.words

/-- Words that look like negative numbers are values of the option. -/
def takesNegatives (s : Switch) : Bool := s = overlayPos

def ofLong? (name : String) : Option Switch := all.find? (·.long = name)

def ofLetter? (c : Char) : Option Switch := all.find? (·.letter? = some c)

end Switch

/-- What is wrong with a command line, or what it asks for instead of a run. -/
inductive Usage where
  | help
  | version
  | unknownArgument (word : String)
  | missing (option : Switch)
  | wrongCount (option : Switch) (given : Nat)
  /-- Not one of the option's values, or no value at all. -/
  | badChoice (option : Switch) (given : String)
  /-- A value that cannot be read. -/
  | badValue (option : Switch) (given : String)
  | repeated (option : Switch)
  /-- A value for an option that has none. -/
  | needless (option : String)
  deriving DecidableEq

end Blitter.CommandLine
