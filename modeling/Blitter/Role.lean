/-!
# Roles

The part a frame plays in a blit.
-/
namespace Blitter

inductive Role where
  | source
  | destination
  /-- The overlay as the main blit reads it: given so, or placed on a canvas first. -/
  | pattern
  /-- An overlay that a placement blit puts onto a canvas. -/
  | placement
  deriving DecidableEq

/-- The names of the roles. -/
def Role.names : List (String × Role) :=
  [("source", source), ("destination", destination), ("pattern", pattern),
   ("pattern_preprocessed", placement)]

/-- The pad a role belongs to, as messages call it. -/
def Role.padName : Role → String
  | source => "input"
  | destination => "output"
  | pattern | placement => "overlay"

end Blitter
