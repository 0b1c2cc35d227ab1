import Mathlib.Control.Monad.Basic
import Blitter.Filter.Composite
import Blitter.Proofs.InFlight

/-!
# Sessions as filters make them

A transform or a composite that starts has a session that is routed to a unit, with nothing in
flight and an empty journal. `Sample` is one to try things on.
-/
namespace Blitter

/-- A session that a transform or a composite starts with. -/
inductive Started (host : Host) : Session → Prop
  | transform {settings : TransformSettings} {input : Pad} {f : Filter}
    (h : settings.start host input = .ok f) : Started host f.session
  | composite {settings : CompositeSettings} {main overlay : Pad} {f : Filter}
    (h : settings.start host main overlay = .ok f) : Started host f.session

/-- What a transform has gone through when it starts. -/
theorem TransformSettings.start_ok {t : TransformSettings} {host : Host} {input : Pad} {f : Filter}
    (h : t.start host input = .ok f) :
    checkSize "input" input.width input.height = .ok () ∧
      t.outputPad host.version input = .ok f.output ∧
      Session.create host [input] f.output
        { rotation := t.transpose.elim 0 (·.word)
          crop := t.crop.bind (·.region input.width input.height) } t.options =
        .ok f.session := by
  obtain ⟨⟨⟩, hsize, h⟩ := ok_of_bind h
  obtain ⟨output, houtput, h⟩ := ok_of_bind h
  obtain ⟨session, hcreate, h⟩ := ok_of_bind h
  cases h
  exact ⟨hsize, houtput, hcreate⟩

theorem CompositeSettings.start_ok {c : CompositeSettings} {host : Host} {main overlay : Pad}
    {f : Filter} (h : c.start host main overlay = .ok f) :
    (checkSize "main" main.width main.height = .ok () ∧
      checkSize "overlay" overlay.width overlay.height = .ok ()) ∧
      f.output = { main with format := c.format.getD main.format } ∧
      Session.create host [main, overlay] f.output
        { alpha := c.alpha, overlayX := c.x, overlayY := c.y } c.options = .ok f.session := by
  obtain ⟨⟨⟩, hmain, h⟩ := ok_of_bind h
  obtain ⟨⟨⟩, hoverlay, h⟩ := ok_of_bind h
  obtain ⟨session, hcreate, h⟩ := ok_of_bind h
  cases h
  exact ⟨⟨hmain, hoverlay⟩, rfl, hcreate⟩

/-- A route is for a unit whose limits the views keep, with its cores. -/
theorem route_ok {h : Hardware} {source destination : View} {overlay : Option View} {inputs : Nat}
    {r : Route} (hroute : route h source destination overlay inputs = .ok r) :
    r.onLegacy = Route.usesLegacy h source destination overlay ∧
      verify h r.onLegacy source destination = .ok () ∧
      r.core = Route.cores h r.onLegacy source destination inputs := by
  obtain ⟨⟨⟩, -, hroute⟩ := ok_of_bind hroute
  obtain ⟨⟨⟩, hlimits, hroute⟩ := ok_of_bind hroute
  dsimp only at hroute
  split at hroute
  · cases hroute
  · cases hroute
    exact ⟨rfl, hlimits, rfl⟩

namespace Session

variable {host : Host} {s : Session} {inputs : List Pad} {output : Pad} {p : Parameters}
  {o : Options}

/-- What creating a session has settled: the views have a route, overlays are RGB and come with
whole pictures only, and nothing is in flight. -/
structure Created (s : Session) : Prop where
  routed : ∃ r inputs, route s.hardware s.main s.output s.overlay inputs = .ok r ∧
    s.unit = ⟨r.onLegacy, r.core⟩
  overlay : ∀ view ∈ s.overlay, view.format.isRgb = true
  uncropped : ∀ view ∈ s.overlay, view.cropped = false ∧ s.main.cropped = false
  pipeline : ∃ depth, s.pipeline = { depth := depth }

theorem ofPad_ok {pad : Pad} {role : Role} {view : View} (h : View.ofPad pad role = .ok view) :
    role.admits pad.format = true ∧ view = {
      pad := pad
      active := View.grid pad.format ⟨0, 0, signed32 pad.width, signed32 pad.height⟩ } := by
  unfold View.ofPad at h
  split at h
  · next hadmits => exact ⟨hadmits, (Except.ok.inj h).symm⟩
  · cases h

/-- With an overlay, both inputs are taken as their pads have them. -/
theorem inputViews_some {p : Parameters} {main overlay view : View}
    (h : (inputViews p main (some overlay)).2.1 = some view) :
    view.format = overlay.format ∧ view.cropped = overlay.cropped ∧
      (inputViews p main (some overlay)).1.cropped = main.cropped := by
  cases h
  exact ⟨rfl, rfl, rfl⟩

/-- How a session comes about: from its pads to views, from the views to a route. -/
structure Creation (host : Host) (inputs : List Pad) (output : Pad) (p : Parameters) (o : Options)
    (mainPad : Pad) (overlayPad : Option Pad) (mainView : View) (overlayView : Option View)
    (r : Route) (s : Session) : Prop where
  pads : splitInputs inputs = .ok (mainPad, overlayPad)
  depth : o.depth ≤ greatestDepth
  hardware : Hardware.ofVersion host.version o.core = .ok s.hardware
  source : View.ofPad mainPad .source = .ok mainView
  pattern : overlayPad.mapM (View.ofPad · .pattern) = .ok overlayView
  destination : View.ofPad output .destination = .ok s.output
  main : s.main = (inputViews p mainView overlayView).1
  overlay : s.overlay = (inputViews p mainView overlayView).2.1
  routed : route s.hardware s.main s.output s.overlay inputs.length = .ok r
  unit : s.unit = ⟨r.onLegacy, r.core⟩
  pipeline : s.pipeline = { depth := depthFor o.depth (output :: inputs) }

theorem creation_of_create (h : create host inputs output p o = .ok s) :
    ∃ mainPad overlayPad mainView overlayView r,
      Creation host inputs output p o mainPad overlayPad mainView overlayView r s := by
  unfold create at h
  obtain ⟨⟨mainPad, overlayPad⟩, hpads, h⟩ := ok_of_bind h
  dsimp only at h
  split at h
  · cases h
  · next hdepth =>
    obtain ⟨hardware, hhardware, h⟩ := ok_of_bind h
    obtain ⟨mainView, hmain, h⟩ := ok_of_bind h
    obtain ⟨overlayView, hoverlay, h⟩ := ok_of_bind h
    obtain ⟨destination, hdestination, h⟩ := ok_of_bind h
    obtain ⟨r, hroute, h⟩ := ok_of_bind h
    cases h
    exact ⟨mainPad, overlayPad, mainView, overlayView, r, hpads, Nat.not_lt.1 hdepth, hhardware,
      hmain, hoverlay, hdestination, rfl, rfl, hroute, rfl, rfl⟩

/-- A session that is created has the hardware and the depth that its options lead to. -/
theorem create_ok (h : create host inputs output p o = .ok s) :
    s.Created ∧ o.depth ≤ greatestDepth ∧
      Hardware.ofVersion host.version o.core = .ok s.hardware ∧
      s.pipeline = { depth := depthFor o.depth (output :: inputs) } := by
  obtain ⟨mainPad, overlayPad, mainView, overlayView, r, hc⟩ := creation_of_create h
  have hviews : ∀ view ∈ s.overlay,
      view.format.isRgb = true ∧ view.cropped = false ∧ s.main.cropped = false := by
    intro view hview
    have hpattern := hc.pattern
    rw [hc.overlay] at hview
    rw [hc.main]
    rcases overlayPad with _ | pad
    · cases hpattern
      cases hview
    · obtain ⟨given, hgiven, hsome⟩ := ok_of_bind hpattern
      cases hsome
      obtain ⟨hformat, hcropped, hmaincropped⟩ := inputViews_some hview
      obtain ⟨hrgb, rfl⟩ := ofPad_ok hgiven
      obtain ⟨-, rfl⟩ := ofPad_ok hc.source
      exact ⟨by rw [hformat]; exact hrgb, hcropped, hmaincropped⟩
  exact ⟨⟨⟨r, _, hc.routed, hc.unit⟩, fun view hview => (hviews view hview).1,
    fun view hview => (hviews view hview).2, _, hc.pipeline⟩, hc.depth, hc.hardware, hc.pipeline⟩

/-- The views of two inputs are those of their pads, with what the parameters say. -/
theorem views_of_create {main overlay : Pad}
    (h : create host [main, overlay] output p o = .ok s) :
    ∃ mainView overlayView, View.ofPad main .source = .ok mainView ∧
      View.ofPad overlay .pattern = .ok overlayView ∧
      (s.main, s.overlay, s.overlayFits) = inputViews p mainView (some overlayView) := by
  unfold create at h
  obtain ⟨⟨mainPad, overlayPad⟩, hpads, h⟩ := ok_of_bind h
  cases hpads
  dsimp only at h
  split at h
  · cases h
  obtain ⟨hardware, -, h⟩ := ok_of_bind h
  obtain ⟨mainView, hmain, h⟩ := ok_of_bind h
  obtain ⟨overlays, hpattern, h⟩ := ok_of_bind h
  obtain ⟨overlayView, hoverlay, hsome⟩ := ok_of_bind hpattern
  cases hsome
  obtain ⟨destination, -, h⟩ := ok_of_bind h
  obtain ⟨r, -, h⟩ := ok_of_bind h
  cases h
  exact ⟨mainView, overlayView, hmain, hoverlay, rfl⟩

/-- The first input is the main one, as its pad has it. -/
theorem main_of_create (h : create host inputs output p o = .ok s) :
    inputs.head? = some s.main.pad := by
  obtain ⟨mainPad, overlayPad, mainView, overlayView, r, hc⟩ := creation_of_create h
  have hpad : s.main.pad = mainPad := by
    obtain ⟨-, rfl⟩ := ofPad_ok hc.source
    rw [hc.main]
    unfold inputViews soloView
    split
    · dsimp only
      split <;> rfl
    · rfl
  have hpads := hc.pads
  unfold splitInputs at hpads
  rw [hpad]
  split at hpads
  · cases hpads
    rfl
  · cases hpads
    rfl
  · cases hpads

/-- The whole picture is written. -/
theorem output_of_create (h : create host inputs output p o = .ok s) : s.output.pad = output ∧
    s.output.active =
      View.grid output.format ⟨0, 0, signed32 output.width, signed32 output.height⟩ := by
  obtain ⟨mainPad, overlayPad, mainView, overlayView, r, hc⟩ := creation_of_create h
  rw [(ofPad_ok hc.destination).2]
  exact ⟨rfl, rfl⟩

theorem Created.carries (h : s.Created) : s.pipeline.Carries [] := by
  obtain ⟨depth, hpipeline⟩ := h.pipeline
  rw [hpipeline]
  exact Pipeline.carries_empty

end Session

namespace Started

variable {host : Host} {s : Session}

/-- Filters create sessions and change nothing about them. -/
theorem creates (h : Started host s) :
    ∃ inputs output p o, Session.create host inputs output p o = .ok s := by
  cases h with
  | transform h => exact ⟨_, _, _, _, (TransformSettings.start_ok h).2.2⟩
  | composite h => exact ⟨_, _, _, _, (CompositeSettings.start_ok h).2.2⟩

theorem created (h : Started host s) : s.Created := by
  obtain ⟨inputs, output, p, o, h⟩ := h.creates
  exact (Session.create_ok h).1

theorem carries (h : Started host s) : s.pipeline.Carries [] := h.created.carries

theorem journal (h : Started host s) : s.pipeline.journal = {} := by
  obtain ⟨depth, hpipeline⟩ := h.created.pipeline
  rw [hpipeline]

end Started

/-! ## A session to try things on -/

namespace Sample

/-- A host with both units, which grants everything. -/
def host : Host where
  version := "RGA_3 RGA_2_Enhance"
  blit blits := ⟨0, blits.length⟩
  sync _ := none
  allocate requests :=
    match requests.getLast? with
    | none => .error (.allocation "nothing asked for")
    | some pad => .ok (.linear pad.format pad.width pad.height (10 + requests.length)
        (pad.format.bufferSize pad.width pad.height))
  deliver _ := .ok ()

def settings : CompositeSettings := { options := { depth := 1, afbc := true } }

def mainPad : Pad := ⟨128, 128, .nv12⟩

def overlayPad : Pad := ⟨128, 128, .rgba⟩

/-- A composite that writes compressed frames on the modern unit. -/
def session : Session where
  hardware := .announced host.version
  main := { pad := mainPad, active := ⟨0, 0, 128, 128⟩, blend := blendWord true 255 }
  overlay := some { pad := overlayPad, active := ⟨0, 0, 128, 128⟩ }
  output := { pad := mainPad, active := ⟨0, 0, 128, 128⟩ }
  unit := ⟨false, .modern⟩
  afbcOutput := true
  overlayFits := true
  pipeline := { depth := 1 }

theorem started : Started host session := by
  have hstart : (settings.start host mainPad overlayPad).toOption = some ⟨session, mainPad⟩ := by
    decide +kernel
  exact .composite (ok_of_toOption hstart)

/-- A frame of the main stream. -/
def frame (pts : Int) : Frame :=
  { Frame.linear .nv12 128 128 3 32768 with pts := some pts }

/-- An overlay with rows of 130 pixels, which the modern unit cannot take. -/
def unalignedOverlay : Frame where
  width := 128
  height := 128
  format := .rgba
  storage := .buffers ⟨[⟨4, 66560, .linear⟩], [⟨PixelFormat.rgba.fourcc, [⟨0, 0, 520⟩]⟩]⟩

def paddedSettings : CompositeSettings := { format := some .nv12, options := { depth := 0 } }

def paddedPad : Pad := ⟨128, 128, .p010⟩

/-- A composite of a stream with padded ten-bit samples, which only the modern unit can run. -/
def paddedSession : Session :=
  { session with
    main := { session.main with pad := paddedPad }
    afbcOutput := false
    pipeline := { depth := 0 } }

theorem paddedStarted : Started host paddedSession := by
  have hstart : (paddedSettings.start host paddedPad overlayPad).toOption =
      some ⟨paddedSession, mainPad⟩ := by
    decide +kernel
  exact .composite (ok_of_toOption hstart)

/-- A frame of the padded stream with rows of so many bytes. -/
def paddedFrame (pitch : Nat) : Frame where
  width := 128
  height := 128
  format := .p010
  storage := .buffers ⟨[⟨5, 65536, .linear⟩],
    [⟨PixelFormat.p010.fourcc, [⟨0, 0, pitch⟩, ⟨0, 128 * pitch, pitch⟩]⟩]⟩

end Sample
end Blitter
