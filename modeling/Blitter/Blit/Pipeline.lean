import Blitter.Blit.Host
import Blitter.Blit.SlotPool

/-!
# The pipeline

The blits that the hardware has accepted, oldest first. When more than `depth` are in flight, the
oldest one is waited for and its frame delivered: frames leave in the order in which their blits
were submitted. The slots of a job are locked from its submission until its fence has been waited
for.

Whatever an operation has changed before it fails stays changed, so each one runs in a state that
outlives the failure.
-/
namespace Blitter

/-- The slots of one blit. -/
structure Job where
  source : SlotId
  destination : SlotId
  pattern : Option SlotId
  deriving DecidableEq

structure Pipeline where
  pools : Pools := {}
  /-- Jobs in flight, the oldest one first. -/
  jobs : List Job := []
  depth : Nat
  journal : Journal := {}
  deriving DecidableEq

/-- How an operation can end without a result. -/
inductive Failure where
  | error (cause : Error)
  /-- A pool has no slot of this number. -/
  | noSlot (id : SlotId)
  deriving DecidableEq

abbrev PipelineM := ExceptT Failure (StateM Pipeline)

namespace Pipeline

/-- Ends with the error, if there is one. -/
def orFail {α : Type} : Except Error α → PipelineM α
  | .ok a => pure a
  | .error e => throw (.error e)

/-- Ends when a slot is missing. -/
def orNoSlot {α : Type} (id : SlotId) : Option α → PipelineM α
  | some a => pure a
  | none => throw (.noSlot id)

/-- Makes a request of the host. -/
def ask {α : Type} (request : Journal → α × Journal) : PipelineM α :=
  modifyGet fun p =>
    let (answer, journal) := request p.journal
    (answer, { p with journal := journal })

/-- Changes one pool through one of its slots. -/
def onSlot (role : Role) (id : SlotId) (change : SlotPool → SlotId → Option SlotPool) :
    PipelineM Unit := do
  let pool ← orNoSlot id (change ((← get).pools.get role) id)
  modify fun p => { p with pools := p.pools.set role pool }

/-- Lets go of the frames in a role's pool that no job uses. -/
def recycle (role : Role) : PipelineM Unit :=
  modify fun p => { p with pools := p.pools.set role (p.pools.get role).recycle }

/-- Takes a slot of a role's pool into use. -/
def acquire (role : Role) : PipelineM SlotId :=
  modifyGet fun p =>
    let (id, pool) := (p.pools.get role).acquire
    (id, { p with pools := p.pools.set role pool })

def surface (role : Role) (id : SlotId) : PipelineM Surface := do
  orNoSlot id (((← get).pools.get role).surface? id)

/-- Takes the frame out of a destination slot. -/
def takeFrame (id : SlotId) : PipelineM (Option Frame) := do
  let (frame, pool) ← orNoSlot id ((← get).pools.destination.takeFrame? id)
  modify fun p => { p with pools := p.pools.set .destination pool }
  return frame

/-- Marks the slots of a job as used by the hardware, or as no longer used. -/
def setLocked (job : Job) (locked : Bool) : PipelineM Unit := do
  onSlot .source job.source (·.setLocked? · locked)
  onSlot .destination job.destination (·.setLocked? · locked)
  match job.pattern with
  | none => pure ()
  | some id => onSlot .pattern id (·.setLocked? · locked)

/-- Issues the blit from `source` to the surface in a slot, which keeps the fence. -/
def blitTo (host : Host) (source : Surface) (role : Role) (id : SlotId)
    (pattern : Option Surface) : PipelineM Unit := do
  let blit : Blit := ⟨source, ← surface role id, pattern⟩
  let answer ← ask (host.runBlit blit)
  onSlot role id (·.modifySurface? · fun _ => blit.written answer)
  orFail (blit.check answer)

/-- Issues a job's blit and queues it. -/
def submit (host : Host) (job : Job) : PipelineM Unit := do
  let pattern ← match job.pattern with
    | none => pure none
    | some id => some <$> surface .pattern id
  let source ← surface .source job.source
  blitTo host source .destination job.destination pattern
  setLocked job true
  modify fun p => { p with jobs := p.jobs ++ [job] }

/-- Waits for a job. Its fence is used up whether or not the wait succeeds. -/
def wait (host : Host) (job : Job) : PipelineM (Except Error Unit) := do
  let destination ← surface .destination job.destination
  onSlot .destination job.destination
    (·.modifySurface? · fun s => { s with outFence := -1 })
  match destination.completion with
  | .blocking => return .ok ()
  | .fenced => ask (host.runSync destination.outFence)

/-- Waits for a job, unlocks its slots and takes the frame that it wrote. A failed wait does not
keep the slots. -/
def retire (host : Host) (job : Job) : PipelineM (Except Error Unit × Option Frame) := do
  let waited ← wait host job
  setLocked job false
  let frame ← takeFrame job.destination
  return (waited, frame)

/-- Hands a frame to the consumer. -/
def deliver (host : Host) (frame : Frame) : PipelineM Unit := do
  orFail (← ask (host.runDeliver frame))

/-- Finishes the oldest job if more than `depth` are in flight, and tells whether a frame was
delivered. A job whose wait fails is dropped with its frame. -/
def drainOverDepth (host : Host) : PipelineM Bool := do
  let p ← get
  match p.jobs with
  | [] => return false
  | job :: rest =>
    if rest.length < p.depth then return false
    else
      modify fun p => { p with jobs := rest }
      let (waited, frame) ← retire host job
      orFail waited
      match frame with
      | none => return false
      | some frame =>
        deliver host frame
        return true

/-- Finishes the given jobs, oldest first, and counts the frames delivered. A failed wait is passed
over. -/
def finish (host : Host) (delivering : Bool) : List Job → PipelineM Nat
  | [] => return 0
  | job :: rest => do
    modify fun p => { p with jobs := rest }
    let (_, frame) ← retire host job
    let count ← match frame with
      | some frame =>
        if delivering then
          deliver host frame
          pure 1
        else pure 0
      | none => pure 0
    return count + (← finish host delivering rest)

/-- Empties all pools. Jobs in flight keep their slot numbers. -/
def clear (p : Pipeline) : Pipeline := { p with pools := {} }

/-- Finishes every job in flight, delivering the frames or letting them go. -/
def drainAll (host : Host) (delivering : Bool) : PipelineM Nat := do
  finish host delivering (← get).jobs

end Pipeline
end Blitter
