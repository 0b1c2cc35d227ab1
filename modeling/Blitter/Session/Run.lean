import Blitter.Session.Process

/-!
# Runs

A run is a list of calls on one session. Every call has an answer and leaves a session for the call
after it, also when it fails.
-/
namespace Blitter

/-- A call on a session. -/
inductive Call where
  | process (source : Frame) (overlay : Option Frame)
  | flush
  | close
  deriving DecidableEq

namespace Session

/-- Makes a call. Only processing a frame has a status to tell. -/
def call (host : Host) : Call → SessionM (Option FrameStatus)
  | .process source overlay => some <$> process host source overlay
  | .flush => do
    flush host
    return none
  | .close => do
    modify (close host)
    return none

/-- The session after a call. -/
def after (host : Host) (s : Session) (c : Call) : Session := (call host c s).2

/-- The session after a run. -/
def run (host : Host) (s : Session) (calls : List Call) : Session := calls.foldl (after host) s

/-- The answers to the calls of a run. -/
def answers (host : Host) (s : Session) : List Call → List (Except Failure (Option FrameStatus))
  | [] => []
  | c :: rest => (call host c s).1 :: answers host (s.after host c) rest

@[simp] theorem run_nil (host : Host) (s : Session) : s.run host [] = s := rfl

@[simp] theorem run_cons (host : Host) (s : Session) (c : Call) (rest : List Call) :
    s.run host (c :: rest) = (s.after host c).run host rest := rfl

theorem run_append (host : Host) (s : Session) (first rest : List Call) :
    s.run host (first ++ rest) = (s.run host first).run host rest :=
  List.foldl_append

@[simp] theorem length_answers (host : Host) (s : Session) (calls : List Call) :
    (s.answers host calls).length = calls.length := by
  induction calls generalizing s with
  | nil => rfl
  | cons c rest ih => simp [answers, ih]

end Session
end Blitter
