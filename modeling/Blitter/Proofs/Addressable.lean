import Blitter.Proofs.Degradation
import Blitter.Proofs.Dispatch
import Blitter.Proofs.Envelope
import Blitter.Proofs.Strides

/-!
# Addressable blits

Every surface that reaches the hardware has a buffer and positive strides, with two exceptions. A
compressed input may sink below its pad. And an output that is meant to be compressed needs no
strides of its own, until compression turns out not to be possible for its format or size: it is
then given up, and the output goes to the hardware without strides. Other frames that state no
strides are refused, and nothing is issued for them.
-/
namespace Blitter

/-- The hardware can find the pixels of every surface. -/
structure Blit.Addressable (b : Blit) : Prop where
  source : b.source.Addressable
  destination : b.destination.Addressable
  pattern : ∀ surface ∈ b.pattern, surface.Addressable

instance (b : Blit) : Decidable b.Addressable :=
  decidable_of_iff (b.source.Addressable ∧ b.destination.Addressable ∧
    ∀ surface ∈ b.pattern, surface.Addressable)
    ⟨fun h => ⟨h.1, h.2.1, h.2.2⟩, fun h => ⟨h.1, h.2, h.3⟩⟩

/-! ## Outputs of the modern unit -/

/-- Sides that are as long as their words say, with some room above the filters' limit. -/
structure Pad.Moderate (p : Pad) : Prop where
  width : 0 < signed32 p.width ∧ signed32 p.width < 2 ^ 16
  height : 0 < signed32 p.height ∧ signed32 p.height < 2 ^ 16

theorem bounds_of_alignDown {v : Int} (hpos : 0 < alignDown v 2) :
    0 < v ∧ v ≤ alignDown v 2 + 1 := by
  have hv : 0 < v := by
    by_contra hv
    have hnonpos := alignDown_nonpos (not_lt.1 hv) (show (0 : Int) < 2 by decide)
    omega
  have hrest := Int.emod_lt_of_pos v (show (0 : Int) < 2 by decide)
  rw [alignDown_of_nonneg hv.le]
  omega

/-- The grid takes one pixel off a side at most. -/
theorem View.bounds_of_grid {f : PixelFormat} {r : Rect} :
    (0 < (grid f r).width → 0 < r.width ∧ r.width ≤ (grid f r).width + 1) ∧
      (0 < (grid f r).height → 0 < r.height ∧ r.height ≤ (grid f r).height + 1) := by
  unfold grid
  split
  · constructor <;> intro h <;> omega
  · exact ⟨bounds_of_alignDown, bounds_of_alignDown⟩

namespace Session

variable {host : Host} {s t u : Session} {source : Frame} {overlay : Option Frame} {view : View}
  {frame : Frame}

/-- A session that is created on the modern unit writes pictures of moderate size. -/
theorem moderate_of_create {inputs : List Pad} {output : Pad} {p : Parameters} {o : Options}
    (h : create host inputs output p o = .ok s) (hmodern : s.unit.onLegacy = false) :
    s.output.pad.Moderate := by
  obtain ⟨hpad, hactive⟩ := output_of_create h
  obtain ⟨r, n, hroute, hunit⟩ := (create_ok h).1.routed
  have hr : r.onLegacy = false := by rwa [hunit] at hmodern
  have hwithin := Route.withinModern_of_route hroute hr
  have hwidth := hwithin.destinationWidth
  have hheight := hwithin.destinationHeight
  have hpos := Route.height_pos_of_route hroute hr
  rw [hactive] at hwidth hheight hpos
  have hbounds := @View.bounds_of_grid output.format
    ⟨0, 0, signed32 output.width, signed32 output.height⟩
  have hw := hbounds.1 (by omega)
  have hh := hbounds.2 hpos
  dsimp only at hw hh
  rw [hpad]
  constructor <;> omega

/-- A session that writes compressed frames was created on the modern unit. -/
theorem moderate_of_writesCompressed {inputs : List Pad} {output : Pad} {p : Parameters}
    {o : Options} (h : create host inputs output p o = .ok s) (calls : List Call)
    (hwrites : ((s.run host calls).afterSource source).WritesCompressed) :
    s.output.pad.Moderate := by
  refine moderate_of_create h (Bool.eq_false_iff.2 fun hlegacy => ?_)
  have hrun := (degrades_run host s calls).unit.onLegacy hlegacy
  have hchecked : ((s.run host calls).afterSource source).unit.onLegacy = true :=
    (degrades_checkInput _ _ source).onLegacy hrun
  have hmodern := hwrites.2
  simp [UnitState.isLegacy, hchecked] at hmodern

/-! ## What is described before a blit -/

/-- The output of a load is described once the unit has been held against the source. -/
theorem Prepared.written {l : Load} (h : Prepared host s source overlay u l t) :
    ∃ allocated surface,
      host.allocate (s.pipeline.journal.requests ++ [s.output.pad]) = .ok allocated ∧
      (s.afterSource source).describeOutput allocated source =
        (.ok (l.destination.frame, surface), t.afbcOutput) ∧
      l.destination.surface = { surface with core := t.unit.core } := by
  obtain ⟨surface, houtput, hsurface⟩ := h.output
  obtain ⟨allocated, hallocated, hdescribed⟩ := describeAnswer_ok houtput
  have hunit : u.unit = (s.checkInput s.main source).2 := by
    rw [← (describeInput_checked s .source s.main source _).1, h.input]
  rw [hunit] at hdescribed
  exact ⟨allocated, surface, hallocated, hdescribed, hsurface⟩

theorem Prepared.describesFrames {l : Load} (h : Prepared host s source overlay u l t) :
    s.DescribesFrames host source (s.activeOverlay? overlay).isSome u := by
  obtain ⟨allocated, surface, hallocated, hdescribed, -⟩ := h.written
  exact ⟨h.between.settings, h.asked, ⟨_, h.input⟩, allocated, _, _, hallocated, hdescribed⟩

/-- What the main blit reads as the overlay is described as such, or it is a canvas. -/
theorem Overlaid.cases {c : Cargo} (h : Overlaid host u view frame c) :
    (u.needsCanvas view = false ∧
      ∃ unit, u.describeInput .pattern view frame false = (.ok c.surface, unit)) ∨
    ∃ unit input canvas, u.LaysOut host view frame unit input canvas ∧
      (c.surface.Addressable ↔ canvas.Addressable) := by
  cases h with
  | direct hframe hdescribed hcovers => exact .inl ⟨hcovers, _, Prod.ext hdescribed rfl⟩
  | placed input answer canvas htaken hdescribed hshown hneeded =>
    obtain ⟨allocated, hallocated, hok⟩ := ok_of_bind hdescribed
    refine .inr ⟨_, input, canvas,
      ⟨hneeded, Prod.ext htaken rfl, _, allocated, _, hallocated, hok⟩, ?_⟩
    rw [hshown]
    exact ⟨fun h => ⟨h.1, h.2⟩, fun h => ⟨h.1, h.2⟩⟩

theorem LaysOut.addressable {unit : UnitState} {input canvas : Surface}
    (h : u.LaysOut host view frame unit input canvas) :
    (input.Addressable ↔ ¬Sinks view frame) ∧ canvas.Addressable := by
  obtain ⟨v, allocated, f, -, hcanvas⟩ := h.canvas
  obtain ⟨hfd, hstride⟩ := describeCanvas_stride hcanvas
  obtain ⟨layout, -, hstated⟩ := Option.bind_eq_some_iff.1 hstride
  exact ⟨addressable_of_describeInput h.input, hfd, BufferLayout.stride?_pos hstated⟩

/-! ## Frames without strides -/

/-- So does one that the main blit reads itself. -/
def DirectOverlaySinks (s : Session) (overlay : Option Frame) : Prop :=
  ∃ view frame, s.activeOverlay? overlay = some (view, frame) ∧ s.needsCanvas view = false ∧
    Sinks view frame

/-- Compression is given up on the frame that is allocated for the output. -/
def OutputGivenUp (host : Host) (s : Session) (source : Frame) : Prop :=
  ∃ allocated, host.allocate (s.pipeline.journal.requests ++ [s.output.pad]) = .ok allocated ∧
    (s.afterSource source).GivesUp allocated

theorem outputGivenUp_iff {allocated : Frame}
    (h : host.allocate (s.pipeline.journal.requests ++ [s.output.pad]) = .ok allocated) :
    s.OutputGivenUp host source ↔ (s.afterSource source).GivesUp allocated := by
  simp [OutputGivenUp, h]

/-- No strides follow from a frame that the call works on: from an input, from a canvas, or from an
output that is not meant to be compressed. -/
inductive Strideless (host : Host) (s : Session) (source : Frame) (overlay : Option Frame) : Prop
  | source (unstated : inputStride? s.main source = none)
  | output {allocated : Frame}
    (allocates : host.allocate (s.pipeline.journal.requests ++ [s.output.pad]) = .ok allocated)
    (unstated : allocated.layout?.bind (·.stride? s.output.format) = none)
    (linear : allocated.layout? = none ∨ ¬(s.afterSource source).WritesCompressed)
  | overlay {view : View} {frame : Frame} (active : s.activeOverlay? overlay = some (view, frame))
    (unstated : inputStride? view frame = none)
  | canvas {view : View} {frame allocated : Frame}
    (active : s.activeOverlay? overlay = some (view, frame))
    (needed : s.needsCanvas view = true)
    (allocates : host.allocate (s.pipeline.journal.requests ++
      [s.output.pad, { s.main.pad with format := view.format }]) = .ok allocated)
    (unstated : allocated.layout?.bind (·.stride? view.format) = none)

/-- The overlay is described as well: for the main blit, or for a placement. -/
def DescribesOverlay (host : Host) (u : Session) (active : Option (View × Frame)) : Prop :=
  ∀ view frame, active = some (view, frame) →
    (u.needsCanvas view = false ∧
      ∃ surface unit, u.describeInput .pattern view frame false = (.ok surface, unit)) ∨
    ∃ unit input canvas, u.LaysOut host view frame unit input canvas

theorem needsCanvas_of_settings (h : u.settings = s.settings) (view : View) :
    u.needsCanvas view = s.needsCanvas view := by
  obtain ⟨-, hmain, -⟩ := settings_eq_iff.1 h
  rw [needsCanvas, hmain]
  rfl

/-- What is described has strides. -/
theorem DescribesFrames.not_strideless {blended : Bool}
    (h : s.DescribesFrames host source blended u)
    (hoverlay : DescribesOverlay host u (s.activeOverlay? overlay)) :
    ¬s.Strideless host source overlay := by
  obtain ⟨-, hmain, -⟩ := settings_eq_iff.1 h.settings
  rintro (hnone | ⟨hallocates, hnone, hlinear⟩ | ⟨hactive, hnone⟩ |
    ⟨hactive, hneeded, hallocates, hnone⟩)
  · obtain ⟨surface, hinput⟩ := h.input
    cases hnone.symm.trans (describeInput_stride hinput).2
  · obtain ⟨allocated, ⟨frame, surface⟩, afbc, hallocated, houtput⟩ := h.output
    cases hallocates.symm.trans hallocated
    obtain ⟨layout, fd, color, word, hlayout, -, -, hwritten⟩ := describeOutput_cases houtput
    have hwanted : (s.afterSource source).WritesCompressed :=
      by_contra fun hunwanted => by
        cases hwritten with
        | linear hstated =>
          rw [hlayout, Option.bind_some] at hnone
          cases hnone.symm.trans hstated
        | unstated _ hwanted => exact hunwanted hwanted
        | compressed hwanted => exact hunwanted hwanted
    rcases hlinear with hmemory | hunwanted
    · cases hmemory.symm.trans hlayout
    · exact hunwanted hwanted
  · rcases hoverlay _ _ hactive with ⟨-, surface, unit, hinput⟩ | ⟨unit, input, canvas, hlaid⟩
    · cases hnone.symm.trans (describeInput_stride hinput).2
    · cases hnone.symm.trans (describeInput_stride hlaid.input).2
  · rcases hoverlay _ _ hactive with ⟨hcovers, -⟩ | ⟨unit, input, canvas, hlaid⟩
    · rw [needsCanvas_of_settings h.settings, hneeded] at hcovers
      cases hcovers
    · obtain ⟨v, allocated, frame, hallocated, hcanvas⟩ := hlaid.canvas
      rw [h.asked, List.append_assoc, hmain] at hallocated
      cases hallocates.symm.trans hallocated
      cases hnone.symm.trans (describeCanvas_stride hcanvas).2

theorem Prepared.describesOverlay {l : Load} (h : Prepared host s source overlay u l t) :
    DescribesOverlay host u (s.activeOverlay? overlay) := by
  intro view frame hactive
  have hblends := h.overlaid
  rw [hactive] at hblends
  obtain ⟨-, c, -, -, hoverlaid⟩ := hblends
  rcases hoverlaid.cases with ⟨hcovers, unit, hinput⟩ | ⟨unit, input, canvas, hlaid, -⟩
  · exact .inl ⟨hcovers, _, _, hinput⟩
  · exact .inr ⟨_, _, _, hlaid⟩

/-- A call fails and issues nothing if its frames cannot all be described. -/
theorem refused_of_not_described
    (h : ∀ blended u, s.DescribesFrames host source blended u →
      ¬DescribesOverlay host u (s.activeOverlay? overlay)) :
    (∃ e, (process host source overlay s).1 = .error (.error e)) ∧
      s.dispatches host (.process source overlay) = [] := by
  refine refused_of_not_prepared (fun d hd => ?_) fun u l t hl =>
    h _ u hl.describesFrames hl.describesOverlay
  obtain ⟨u, view, frame, hactive, hframes, -, hlaid⟩ := laysOut_of_placements hd
  refine h true u hframes fun view' frame' hactive' => ?_
  cases hactive.symm.trans hactive'
  exact .inr ⟨_, _, _, hlaid⟩

/-- Nothing is issued for frames without strides, and the call fails. -/
theorem Strideless.refused (h : s.Strideless host source overlay) :
    (∃ e, (process host source overlay s).1 = .error (.error e)) ∧
      s.dispatches host (.process source overlay) = [] :=
  refused_of_not_described fun _ _ hframes hoverlay => hframes.not_strideless hoverlay h

/-! ## Blits -/

/-- What the main blit reads as the overlay can be addressed unless it is a frame that sinks. -/
theorem Prepared.addressable_pattern {l : Load} (h : Prepared host s source overlay u l t) :
    (∀ surface ∈ l.blit.pattern, surface.Addressable) ↔ ¬s.DirectOverlaySinks overlay := by
  have hblends := h.overlaid
  rcases hactive : s.activeOverlay? overlay with _ | ⟨view, frame⟩ <;> rw [hactive] at hblends
  · simp [Load.blit, hblends.1, DirectOverlaySinks, hactive]
  · obtain ⟨-, c, hc, -, hoverlaid⟩ := hblends
    have hcanvas := needsCanvas_of_settings h.between.settings view
    simp only [Load.blit, hc, Option.map_some, Option.mem_def, Option.some.injEq, forall_eq',
      DirectOverlaySinks, hactive, Prod.mk.injEq, exists_and_left, and_assoc, exists_eq_left']
    rcases hoverlaid.cases with ⟨hcovers, unit, hinput⟩ | ⟨unit, input, canvas, hlaid, hsurface⟩
    · rw [addressable_of_describeInput hinput, ← hcanvas, hcovers]
      simp
    · rw [hsurface, ← hcanvas, hlaid.needed]
      simp [hlaid.addressable.2]

/-- A main blit can be addressed unless one of its inputs sinks or its output was given up. -/
theorem Prepared.addressable {l : Load} (h : Prepared host s source overlay u l t)
    (hrows : (s.afterSource source).WritesCompressed → 0 < signed32 s.output.pad.height) :
    l.blit.Addressable ↔ ¬(Sinks s.main source ∨ s.OutputGivenUp host source ∨
      s.DirectOverlaySinks overlay) := by
  have hsource : l.blit.source.Addressable ↔ ¬Sinks s.main source :=
    addressable_of_describeInput h.input
  have hdestination : l.blit.destination.Addressable ↔ ¬s.OutputGivenUp host source := by
    obtain ⟨allocated, surface, hallocated, hdescribed, hsurface⟩ := h.written
    rw [outputGivenUp_iff hallocated, ← addressable_of_describeOutput hdescribed hrows]
    change l.destination.surface.Addressable ↔ _
    rw [hsurface]
    exact ⟨fun h => ⟨h.1, h.2⟩, fun h => ⟨h.1, h.2⟩⟩
  rw [not_or, not_or, ← hsource, ← hdestination, ← h.addressable_pattern]
  exact ⟨fun h => ⟨h.1, h.2, h.3⟩, fun h => ⟨h.1, h.2.1, h.2.2⟩⟩

end Session

namespace Sample

/-- A host whose buffers do not tell their size. -/
def unsizedHost : Host where
  version := host.version
  blit := host.blit
  sync := host.sync
  allocate requests :=
    match requests.getLast? with
    | none => .error (.allocation "nothing asked for")
    | some pad => .ok (.linear pad.format pad.width pad.height 10 0)
  deliver := host.deliver

/-- A format that cannot be compressed. -/
def packedPad : Pad := ⟨128, 128, .uyvy⟩

def packedSettings : TransformSettings :=
  { format := some .uyvy, options := { depth := 1, afbc := true } }

/-- A transform that asks for compressed frames of such a format. -/
def packedSession : Session :=
  { session with
    main := { pad := mainPad, active := ⟨0, 0, 128, 128⟩ }
    overlay := none
    output := { pad := packedPad, active := ⟨0, 0, 128, 128⟩ }
    unit := ⟨false, .modern⟩
    overlayFits := false }

theorem packedStarted : Started unsizedHost packedSession := by
  have hstart : (packedSettings.start unsizedHost mainPad).toOption =
      some ⟨packedSession, packedPad⟩ := by
    decide +kernel
  exact .transform (ok_of_toOption hstart)

end Sample

namespace Session

end Session
end Blitter
