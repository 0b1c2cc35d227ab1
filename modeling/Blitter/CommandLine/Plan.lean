import Blitter.CommandLine.Arguments

/-!
# Plans

What a command line asks to be done: one filter with the pads of its inputs. A list that came from
the environment may be too short for a plan.
-/
namespace Blitter.CommandLine

/-- A filter with the pads of its inputs. -/
inductive Plan where
  | transform (settings : TransformSettings) (input : Pad)
  | composite (settings : CompositeSettings) (main overlay : Pad)
  deriving DecidableEq

/-- A pad from a list of width and height. -/
def padOf? (format : PixelFormat) (size : List Nat) : Option Pad :=
  (Arguments.firstTwo? size).map fun (width, height) => ⟨width, height, format⟩

/-- An overlay makes the plan a composite. -/
def Arguments.plan? (a : Arguments) : Option Plan := do
  let main ← padOf? a.format a.size
  match a.overlay with
  | none => return .transform (← a.transformSettings?) main
  | some _ =>
    let overlay ← padOf? a.overlayFormat a.overlaySize
    return .composite (← a.compositeSettings?) main overlay

namespace Plan

/-- Starts the filter. -/
def start (p : Plan) (host : Host) : Except Error Filter :=
  match p with
  | transform settings input => settings.start host input
  | composite settings main overlay => settings.start host main overlay

/-- The pads that frames come from, the main one first. -/
def inputs : Plan → List Pad
  | transform _ input => [input]
  | composite _ main overlay => [main, overlay]

/-- The format asked of the output, the main input's if none is. -/
def outputFormat : Plan → PixelFormat
  | transform settings input => settings.format.getD input.format
  | composite settings main _ => settings.format.getD main.format

end Plan
end Blitter.CommandLine
