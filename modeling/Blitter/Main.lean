import Blitter.CommandLine.Message

/-!
# The program

Reads a command line in the environment and shows what it asks for. A faulty line ends with status
2, lists that are too short for a plan with status 1.
-/
namespace Blitter.CommandLine

/-- The variables of the environment that options look at. -/
def readEnvironment : IO Environment := do
  let names := Switch.all.filterMap (·.environment?)
  let found ← names.mapM fun name => return (← IO.getEnv name).map fun text => (name, text)
  return found.filterMap id

/-- Shows what a command line asks for and returns the status to end with. -/
def showPlan (argv : List String) : IO UInt32 := do
  match Arguments.parse argv (← readEnvironment) with
  | .error usage =>
    if usage.isRequest then
      IO.println usage.message
      return 0
    else
      IO.eprintln usage.message
      return 2
  | .ok arguments =>
    match arguments.plan? with
    | none =>
      IO.eprintln "a list of values is too short"
      return 1
    | some plan =>
      IO.println plan.message
      return 0

end Blitter.CommandLine

def main (argv : List String) : IO UInt32 := Blitter.CommandLine.showPlan argv
