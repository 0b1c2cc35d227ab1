import Blitter.CommandLine.Switch
import Blitter.Filter.Composite
import Blitter.Number.Numeral

/-!
# Option values

Reading the texts that follow options. `Given` holds the values of the options given so far;
`Given.assign` adds the values of one more.
-/
namespace Blitter.CommandLine

def transposeNames : List (String × Transpose) :=
  [("cclock_hflip", .counterclockwiseFlip), ("clock", .clockwise), ("cclock", .counterclockwise),
   ("clock_hflip", .clockwiseFlip), ("reversal", .halfTurn), ("hflip", .horizontalFlip),
   ("vflip", .verticalFlip)]

def aspectNames : List (String × AspectPolicy) :=
  [("disable", .ignore), ("decrease", .shrink), ("increase", .grow)]

def depthNames : List (String × ForcedDepth) :=
  [("disable", .off), ("auto", .matching), ("8bit", .eight), ("10bit", .ten)]

def chromaNames : List (String × ForcedChroma) :=
  [("auto", .matching), ("420sp", .semiPlanar420), ("420p", .planar420),
   ("422sp", .semiPlanar422), ("422p", .planar422)]

/-! ## Readers -/

/-- A reader of one value of an option. -/
abbrev Reader (α : Type) := Switch → String → Except Usage α

def readChoice {α : Type} (names : List (String × α)) : Reader α := fun s text =>
  (names.lookup text).elim (.error (.badChoice s text)) .ok

def readPath : Reader String := fun s text =>
  if text.isEmpty then .error (.badChoice s text) else .ok text

def readText : Reader String := fun _ text => .ok text

/-- A decimal integer in a range. -/
def readRanged (low high : Int) : Reader Int := fun s text =>
  (Numeral.ranged? low high text).elim (.error (.badValue s text)) .ok

def readBelow (bound : Nat) : Reader Nat := fun s text =>
  (readRanged 0 (bound - 1) s text).map Int.toNat

/-- An unsigned word of 32 bits. -/
def readWord : Reader Nat := readBelow 0x100000000

/-- A signed word of 32 bits. -/
def readSigned : Reader Int := readRanged (-0x80000000) 0x7fffffff

/-- A count; unlike a ranged number it has no minus sign, not even before zero. -/
def readCount : Reader Nat := fun s text =>
  (Numeral.unsigned? 10 0x10000000000000000 text.toList).elim (.error (.badValue s text)) .ok

def readFormat : Reader PixelFormat := fun s text =>
  match PixelFormat.parse text with
  | .ok f => .ok f
  | .error _ => .error (.badValue s text)

def readCore : Reader CoreMask := fun s text =>
  match CoreMask.parse text with
  | .ok m => .ok m
  | .error _ => .error (.badValue s text)

def readSwitch : Reader Bool := readChoice [("true", true), ("false", false)]

/-- The texts between the spaces of a word. -/
def pieces (word : String) : List String := (word.toList.splitOn ' ').map String.ofList

/-- The values of a list option, the first one that cannot be read deciding. -/
def readAll {α : Type} (read : Reader α) (s : Switch) (texts : List String) :
    Except Usage (List α) :=
  texts.mapM (read s)

/-- The only value of an option. -/
def readOne {α : Type} (read : Reader α) (s : Switch) : List String → Except Usage α
  | [text] => read s text
  | texts => .error (.wrongCount s texts.length)

/-! ## Options given -/

structure Given where
  input : Option String := none
  size : Option (List Nat) := none
  format : Option PixelFormat := none
  output : Option String := none
  outSize : Option (List Nat) := none
  outFormat : Option PixelFormat := none
  crop : Option (List Int) := none
  transpose : Option Transpose := none
  aspectRatio : Option AspectPolicy := none
  divisibleBy : Option Nat := none
  forceYuv : Option ForcedDepth := none
  forceChroma : Option ForcedChroma := none
  overlay : Option String := none
  overlaySize : Option (List Nat) := none
  overlayFormat : Option PixelFormat := none
  overlayPos : Option (List Int) := none
  alpha : Option Nat := none
  core : Option CoreMask := none
  asyncDepth : Option Nat := none
  afbc : Option Bool := none
  frames : Option Nat := none
  library : Option String := none
  verbose : Option Bool := none
  tracy : Option Bool := none
  deriving DecidableEq

namespace Given

def has (g : Given) : Switch → Bool
  | .input => g.input.isSome
  | .size => g.size.isSome
  | .format => g.format.isSome
  | .output => g.output.isSome
  | .outSize => g.outSize.isSome
  | .outFormat => g.outFormat.isSome
  | .crop => g.crop.isSome
  | .transpose => g.transpose.isSome
  | .aspectRatio => g.aspectRatio.isSome
  | .divisibleBy => g.divisibleBy.isSome
  | .forceYuv => g.forceYuv.isSome
  | .forceChroma => g.forceChroma.isSome
  | .overlay => g.overlay.isSome
  | .overlaySize => g.overlaySize.isSome
  | .overlayFormat => g.overlayFormat.isSome
  | .overlayPos => g.overlayPos.isSome
  | .alpha => g.alpha.isSome
  | .core => g.core.isSome
  | .asyncDepth => g.asyncDepth.isSome
  | .afbc => g.afbc.isSome
  | .frames => g.frames.isSome
  | .library => g.library.isSome
  | .verbose => g.verbose.isSome
  | .tracy => g.tracy.isSome

/-- More values behind those there are. -/
def extend {α : Type} (before : Option (List α)) (values : List α) : Option (List α) :=
  some (before.getD [] ++ values)

/-- Reads the texts of an option and keeps their values. -/
def assign (g : Given) (s : Switch) (texts : List String) : Except Usage Given := do
  match s with
  | .input => return { g with input := some (← readOne readPath s texts) }
  | .size => return { g with size := extend g.size (← readAll readWord s texts) }
  | .format => return { g with format := some (← readOne readFormat s texts) }
  | .output => return { g with output := some (← readOne readPath s texts) }
  | .outSize => return { g with outSize := extend g.outSize (← readAll readWord s texts) }
  | .outFormat => return { g with outFormat := some (← readOne readFormat s texts) }
  | .crop =>
    return { g with crop := extend g.crop (← readAll readSigned s texts) }
  | .transpose =>
    return { g with transpose := some (← readOne (readChoice transposeNames) s texts) }
  | .aspectRatio =>
    return { g with aspectRatio := some (← readOne (readChoice aspectNames) s texts) }
  | .divisibleBy => return { g with divisibleBy := some (← readOne readWord s texts) }
  | .forceYuv => return { g with forceYuv := some (← readOne (readChoice depthNames) s texts) }
  | .forceChroma =>
    return { g with forceChroma := some (← readOne (readChoice chromaNames) s texts) }
  | .overlay => return { g with overlay := some (← readOne readPath s texts) }
  | .overlaySize =>
    return { g with overlaySize := extend g.overlaySize (← readAll readWord s texts) }
  | .overlayFormat => return { g with overlayFormat := some (← readOne readFormat s texts) }
  | .overlayPos =>
    return { g with overlayPos := extend g.overlayPos (← readAll readSigned s texts) }
  | .alpha => return { g with alpha := some (← readOne (readBelow 256) s texts) }
  | .core => return { g with core := some (← readOne readCore s texts) }
  | .asyncDepth => return { g with asyncDepth := some (← readOne readCount s texts) }
  | .afbc => return { g with afbc := some (← readOne readSwitch s texts) }
  | .frames => return { g with frames := some (← readOne readCount s texts) }
  | .library => return { g with library := some (← readOne readText s texts) }
  | .verbose => return { g with verbose := some (← readOne readSwitch s texts) }
  | .tracy => return { g with tracy := some (← readOne readSwitch s texts) }

end Given
end Blitter.CommandLine
