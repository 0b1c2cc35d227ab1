import Blitter.Blit.Surface
import Blitter.Buffer.Frame
import Blitter.Error
import Blitter.Pad

/-!
# The host

What a session asks of its surroundings: the blitter itself, a pool of buffers and a consumer of
finished frames. `Host` answers each kind of request as a function of the requests of that kind made
so far, the present one last. `Journal` keeps them, in order.
-/
namespace Blitter

/-- The surfaces of one blit. -/
structure Blit where
  source : Surface
  destination : Surface
  pattern : Option Surface
  deriving DecidableEq

/-- The hardware's answer: a status, zero for an accepted blit, and the fence left in the
destination. -/
structure BlitAnswer where
  status : Int
  fence : Int
  deriving DecidableEq

structure Host where
  /-- The driver's version text. -/
  version : String
  blit : List Blit → BlitAnswer
  /-- The text of a failure to wait for a fence. -/
  sync : List Int → Option String
  allocate : List Pad → Except Error Frame
  deliver : List Frame → Except Error Unit

namespace Blit

/-- The destination as the hardware leaves it. -/
def written (b : Blit) (answer : BlitAnswer) : Surface :=
  { b.destination with outFence := answer.fence }

/-- Holds an answer against what was promised: an accepted blit with a fence has a positive one. -/
def check (b : Blit) (answer : BlitAnswer) : Except Error Unit :=
  if answer.status ≠ 0 then .error (.blit answer.status)
  else if b.destination.completion = .fenced && answer.fence ≤ 0 then
    .error (.invalidFence answer.fence)
  else .ok ()

end Blit

/-- A blit and its answer. -/
structure BlitEntry where
  blit : Blit
  answer : BlitAnswer
  deriving DecidableEq

/-- A frame handed to the consumer, and whether it was taken. -/
structure Handover where
  frame : Frame
  taken : Bool
  deriving DecidableEq

/-- Everything that was asked of the host, each list in order. -/
structure Journal where
  blits : List BlitEntry := []
  synced : List Int := []
  requests : List Pad := []
  handed : List Handover := []
  /-- How often the end of the stream was signalled. -/
  ends : Nat := 0
  deriving DecidableEq

namespace Journal

/-- The frames that the consumer took. -/
def delivered (j : Journal) : List Frame := (j.handed.filter (·.taken)).map (·.frame)

/-- What was asked after an earlier state of the journal. -/
def since (j before : Journal) : Journal where
  blits := j.blits.drop before.blits.length
  synced := j.synced.drop before.synced.length
  requests := j.requests.drop before.requests.length
  handed := j.handed.drop before.handed.length
  ends := j.ends - before.ends

end Journal

namespace Host

/-- Issues a blit. -/
def runBlit (host : Host) (b : Blit) (j : Journal) : BlitAnswer × Journal :=
  let answer := host.blit (j.blits.map (·.blit) ++ [b])
  (answer, { j with blits := j.blits ++ [⟨b, answer⟩] })

/-- Waits for a fence. -/
def runSync (host : Host) (fence : Int) (j : Journal) : Except Error Unit × Journal :=
  let fences := j.synced ++ [fence]
  let result := match host.sync fences with
    | none => .ok ()
    | some text => .error (.sync text)
  (result, { j with synced := fences })

/-- Asks for a buffer. -/
def runAllocate (host : Host) (r : Pad) (j : Journal) : Except Error Frame × Journal :=
  let requests := j.requests ++ [r]
  (host.allocate requests, { j with requests := requests })

/-- Hands a frame over. -/
def runDeliver (host : Host) (f : Frame) (j : Journal) : Except Error Unit × Journal :=
  let result := host.deliver (j.handed.map (·.frame) ++ [f])
  (result, { j with handed := j.handed ++ [⟨f, result.isOk⟩] })

end Host
end Blitter
