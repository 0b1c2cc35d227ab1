import Blitter.CommandLine.Scan

/-!
# Arguments

A whole command line: the options given, completed from the environment and by defaults. A value in
the environment counts only where the line does not give the option. `transformSettings` and
`compositeSettings` are what the arguments ask of a filter; a list from the environment may be too
short for that.
-/
namespace Blitter.CommandLine

structure Arguments where
  input : String
  size : List Nat
  format : PixelFormat
  output : String
  outSize : Option (List Nat)
  outFormat : Option PixelFormat
  crop : Option (List Int)
  transpose : Option Transpose
  aspectRatio : AspectPolicy
  divisibleBy : Nat
  forceYuv : ForcedDepth
  forceChroma : ForcedChroma
  overlay : Option String
  overlaySize : List Nat
  overlayFormat : PixelFormat
  overlayPos : List Int
  alpha : Nat
  core : CoreMask
  asyncDepth : Nat
  afbc : Bool
  frames : Option Nat
  library : String
  verbose : Bool
  tracy : Bool
  deriving DecidableEq

/-- The environment, as far as options are concerned. -/
abbrev Environment := List (String × String)

/-- Takes an option that is not given from the environment. Its text is one word, whatever the
number of words on the line. -/
def Given.fromEnvironment (env : Environment) (g : Given) (s : Switch) : Except Usage Given :=
  if g.has s then .ok g
  else
    match s.environment?.bind fun name => List.lookup name env with
    | none => .ok g
    | some text => g.assign s (if s.isList then pieces text else [text])

/-- Completes the options given by the defaults. -/
def Given.arguments (g : Given) : Except Usage Arguments := do
  let some input := g.input | throw (.missing .input)
  let some output := g.output | throw (.missing .output)
  return {
    input := input
    size := g.size.getD [1920, 1080]
    format := g.format.getD .nv12
    output := output
    outSize := g.outSize
    outFormat := g.outFormat
    crop := g.crop
    transpose := g.transpose
    aspectRatio := g.aspectRatio.getD .ignore
    divisibleBy := g.divisibleBy.getD 2
    forceYuv := g.forceYuv.getD .off
    forceChroma := g.forceChroma.getD .matching
    overlay := g.overlay
    overlaySize := g.overlaySize.getD [256, 256]
    overlayFormat := g.overlayFormat.getD .rgba
    overlayPos := g.overlayPos.getD [0, 0]
    alpha := g.alpha.getD 255
    core := g.core.getD .automatic
    asyncDepth := g.asyncDepth.getD 2
    afbc := g.afbc.getD false
    frames := g.frames
    library := g.library.getD "librga.so.2"
    verbose := g.verbose.getD false
    tracy := g.tracy.getD false }

namespace Arguments

/-- Reads a command line in an environment. -/
def parse (argv : List String) (env : Environment) : Except Usage Arguments := do
  let given ← ({} : Scan).run argv
  let given ← Switch.all.foldlM (Given.fromEnvironment env) given
  given.arguments

def options (a : Arguments) : Options := { core := a.core, depth := a.asyncDepth, afbc := a.afbc }

/-- The first two values of a list. -/
def firstTwo? {α : Type} : List α → Option (α × α)
  | a :: b :: _ => some (a, b)
  | _ => none

/-- A region from a list of corner and size. -/
def region? : List Int → Option CropSetting
  | x :: y :: width :: height :: _ => some ⟨some x, some y, width, height⟩
  | _ => none

def transformSettings? (a : Arguments) : Option TransformSettings := do
  let size ← a.outSize.mapM firstTwo?
  let crop ← a.crop.mapM region?
  return {
    format := a.outFormat
    size := size
    crop := crop
    transpose := a.transpose
    aspect := a.aspectRatio
    divisibleBy := a.divisibleBy
    forcedDepth := a.forceYuv
    forcedChroma := a.forceChroma
    options := a.options }

def compositeSettings? (a : Arguments) : Option CompositeSettings := do
  let (x, y) ← firstTwo? a.overlayPos
  return { format := a.outFormat, x := x, y := y, alpha := a.alpha.toUInt8, options := a.options }

end Arguments
end Blitter.CommandLine
