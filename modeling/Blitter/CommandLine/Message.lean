import Blitter.CommandLine.Plan

/-!
# Messages

What the program says: the list of options, what is wrong with a command line, and what a plan is
going to do.
-/
namespace Blitter.CommandLine

/-- An option on one line: its letter, its name, the words behind it and its name in the
environment. -/
def Switch.line (s : Switch) : String :=
  let letter := s.letter?.elim "    " fun c => s!"-{c}, "
  let words := String.join (List.replicate s.words s!" <{s.long}>")
  let source := s.environment?.elim "" fun name => s!" [env: {name}]"
  s!"  {letter}--{s.long}{words}{source}"

namespace Usage

/-- The line asks for a text and is not at fault. -/
def isRequest : Usage → Bool
  | help | version => true
  | _ => false

def message : Usage → String
  | help => "\n".intercalate ("Options:" :: Switch.all.map Switch.line)
  | version => "blitter"
  | unknownArgument word => s!"unexpected argument '{word}'"
  | missing option => s!"--{option.long} is required"
  | wrongCount option given =>
      s!"--{option.long} takes {option.words} values, {given} are given"
  | badChoice option given => s!"'{given}' is no value of --{option.long}"
  | badValue option given => s!"'{given}' cannot be read as a value of --{option.long}"
  | repeated option => s!"--{option.long} is given twice"
  | needless option => s!"--{option} takes no value"

end Usage

/-- A pad by its size and format. -/
def padText (p : Pad) : String := s!"{p.width}x{p.height} {p.format.name}"

def Plan.message (p : Plan) : String :=
  let pads := " with ".intercalate (p.inputs.map padText)
  s!"{pads} to {p.outputFormat.name}"

end Blitter.CommandLine
