import Blitter.Session.Describe

/-!
# Processing frames

The three things a session does: `process` one frame, with an overlay or without, `flush` what is in
flight to the consumer, and `close`, which waits for it and lets it go.

An overlay that does not cover the main picture exactly is first placed on a canvas of the main
picture's size, by a blocking blit of its own. The destination is given its cores last, when every
input has been described.
-/
namespace Blitter

/-- Whether a finished frame left the session during a call. -/
inductive FrameStatus where
  | delivered
  | notReady
  deriving DecidableEq

/-- A surface that shows a whole picture. -/
def Surface.showing (s : Surface) (picture : Rect) : Surface :=
  { s with rect := { s.rect with
      x := 0, y := 0, width := picture.width, height := picture.height } }

abbrev SessionM := ExceptT Failure (StateM Session)

namespace Session

/-- Runs an operation of the pipeline. -/
def onPipeline {α : Type} (operation : PipelineM α) : SessionM α :=
  fun s =>
    let (result, pipeline) := operation s.pipeline
    (result, { s with pipeline := pipeline })

/-- Takes a slot of a role's pool, after letting go of frames no longer used. -/
def acquire (role : Role) : SessionM SlotId :=
  onPipeline do
    Pipeline.recycle role
    Pipeline.acquire role

/-- Puts a described frame into its slot, or gives the slot back when it could not be described. -/
def settle (role : Role) (id : SlotId) : Except Error (Frame × Surface) → SessionM Unit
  | .ok (frame, surface) => onPipeline (Pipeline.onSlot role id (·.attach? · frame surface))
  | .error e => do
    onPipeline (Pipeline.onSlot role id (·.release? ·))
    throw (.error e)

/-- Takes in an input frame. -/
def submitInput (role : Role) (view : View) (frame : Frame) (blended : Bool) :
    SessionM SlotId := do
  let id ← acquire role
  let s ← get
  let (surface, unit) := s.describeInput role view frame blended
  set { s with unit := unit }
  settle role id (surface.map (frame, ·))
  return id

/-- Asks the host for a frame. -/
def allocate (host : Host) (request : Pad) : SessionM (Except Error Frame) :=
  onPipeline (Pipeline.ask (host.runAllocate request))

/-- The answer to a request for an output frame, described; without a frame nothing is decided on
compressed output. -/
def describeAnswer (s : Session) (answer : Except Error Frame) (source : Frame) :
    Except Error (Frame × Surface) × Bool :=
  match answer with
  | .error e => (.error e, s.afbcOutput)
  | .ok allocated => s.describeOutput allocated source

/-- Allocates the frame that a blit of `source` writes. -/
def queryOutput (host : Host) (source : Frame) : SessionM SlotId := do
  let id ← acquire .destination
  let s ← get
  let answer ← allocate host s.output.pad
  let (described, afbc) := s.describeAnswer answer source
  modify fun s => { s with afbcOutput := afbc }
  settle .destination id described
  return id

/-- Allocates a canvas of the main picture's size for the overlay. -/
def queryCanvas (host : Host) (view : View) (overlay : Frame) : SessionM SlotId := do
  let id ← acquire .pattern
  let s ← get
  let canvas ← allocate host { s.main.pad with format := view.format }
  settle .pattern id (canvas.bind (s.describeCanvas view · overlay))
  return id

/-- The overlay has to be placed on a canvas: it differs from the main picture in size, or does not
start at its corner. -/
def needsCanvas (s : Session) (view : View) : Bool :=
  view.active.width ≠ s.main.active.width || view.active.height ≠ s.main.active.height
    || 0 < view.overlayX || 0 < view.overlayY

/-- Changes the surface in a slot. -/
def changeSurface (role : Role) (id : SlotId) (change : Surface → Surface) : SessionM Unit :=
  onPipeline (Pipeline.onSlot role id (·.modifySurface? · change))

/-- Places an overlay on a canvas and returns the canvas's slot, which from then on shows the whole
picture. -/
def placeOverlay (host : Host) (view : View) (overlay : Frame) : SessionM SlotId := do
  let input ← submitInput .placement view overlay false
  let canvas ← queryCanvas host view overlay
  onPipeline do
    Pipeline.blitTo host (← Pipeline.surface .placement input) .pattern canvas none
  let s ← get
  changeSurface .pattern canvas (·.showing s.main.active)
  return canvas

/-- The slot from which the main blit reads the overlay. -/
def submitOverlay (host : Host) (view : View) (overlay : Frame) : SessionM SlotId := do
  if (← get).needsCanvas view then placeOverlay host view overlay
  else submitInput .pattern view overlay false

/-- Points a destination at the cores in force, which an input may have changed. -/
def setCore (id : SlotId) : SessionM Unit := do
  let s ← get
  changeSurface .destination id fun surface => { surface with core := s.unit.core }

/-- The overlay that a call blends: the session has one, it fits and a frame of it is given. -/
def activeOverlay? (s : Session) (overlay : Option Frame) : Option (View × Frame) :=
  match s.overlay, overlay with
  | some view, some frame => if s.overlayFits then some (view, frame) else none
  | _, _ => none

/-- Describes everything the main blit of a frame works on, its overlay included if there is one,
and names the slots. -/
def prepare (host : Host) (source : Frame) (overlay : Option Frame) : SessionM Job := do
  let s ← get
  let overlay := s.activeOverlay? overlay
  let input ← submitInput .source s.main source overlay.isSome
  let destination ← queryOutput host source
  let pattern ← overlay.mapM fun (view, frame) => submitOverlay host view frame
  setCore destination
  return ⟨input, destination, pattern⟩

/-- Submits a frame, with its overlay if there is one, and finishes the oldest blit if too many are
then in flight. -/
def process (host : Host) (source : Frame) (overlay : Option Frame) : SessionM FrameStatus := do
  let job ← prepare host source overlay
  onPipeline (Pipeline.submit host job)
  let delivered ← onPipeline (Pipeline.drainOverDepth host)
  return if delivered then .delivered else .notReady

/-- Finishes every blit in flight, handing its frame over, and then ends the stream. -/
def flush (host : Host) : SessionM Unit := do
  let _ ← onPipeline (Pipeline.drainAll host true)
  onPipeline <| modify fun p =>
    { p with journal := { p.journal with ends := p.journal.ends + 1 } }

/-- Waits for everything in flight, lets the frames go and empties the pools. -/
def close (host : Host) (s : Session) : Session :=
  let (_, p) := Pipeline.drainAll host false s.pipeline
  { s with pipeline := p.clear }

end Session
end Blitter
