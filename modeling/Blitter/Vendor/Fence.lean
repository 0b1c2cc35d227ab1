/-!
# Fences

Waiting until a fence signals. Polling it may be interrupted, and is then tried again; any other
answer is the last one. A fence that was waited for is closed, however the wait ends.
-/
namespace Blitter.Fence

namespace Errno

def interrupted : Nat := 4
def ioError : Nat := 5
def badDescriptor : Nat := 9
def tryAgain : Nat := 11

end Errno

namespace Event

def readable : UInt16 := 0x001
def failed : UInt16 := 0x008
def hungUp : UInt16 := 0x010
def notOpen : UInt16 := 0x020

/-- All events that have a meaning. -/
def known : UInt16 := 0x3ff

end Event

/-- The answer to one poll. -/
inductive Poll where
  | failed (errno : Nat)
  | ready (events : UInt16)
  deriving DecidableEq

namespace Poll

/-- The poll has to be made again. -/
def isInterruption : Poll → Bool
  | failed errno => errno = Errno.interrupted || errno = Errno.tryAgain
  | ready _ => false

/-- What a last answer says about the fence. Events that are not all known say nothing. -/
def verdict : Poll → Except Nat Unit
  | failed errno => .error errno
  | ready events =>
    if events &&& Event.known = events && events &&& (Event.failed ||| Event.notOpen) ≠ 0 then
      .error Errno.ioError
    else .ok ()

end Poll

/-- What is done with a fence. -/
inductive Action where
  | poll
  | close
  deriving DecidableEq

/-- How a wait went. -/
structure Wait where
  /-- What it did with the fence, in order. -/
  actions : List Action
  /-- The answers that it did not ask for. -/
  unasked : List Poll
  result : Except Nat Unit

/-- Waits for a fence, given the answers to its polls; without a last answer the wait goes on. -/
def wait : List Poll → Option Wait
  | [] => none
  | poll :: rest =>
    if poll.isInterruption then (wait rest).map fun w => { w with actions := .poll :: w.actions }
    else some ⟨[.poll, .close], rest, poll.verdict⟩

/-- Waits for the fence with this descriptor. A negative one is no fence. -/
def sync (fence : Int) (polls : List Poll) : Option Wait :=
  if fence < 0 then some ⟨[], polls, .error Errno.badDescriptor⟩ else wait polls

end Blitter.Fence
