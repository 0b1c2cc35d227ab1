import Blitter.Proofs.Dispatch

/-!
# Where overlays go

An overlay whose corner is on the main picture is cut at the picture's far edges and put there as it
is, without scaling. The main blit then reads a pattern that covers its source: the canvas, which
shows the whole picture, or an overlay that has the picture's size.
-/
namespace Blitter

/-- Every pixel of the region is one of the other's. -/
def Rect.Within (r outer : Rect) : Prop :=
  outer.x ≤ r.x ∧ outer.y ≤ r.y ∧ r.x + r.width ≤ outer.x + outer.width ∧
    r.y + r.height ≤ outer.y + outer.height

def SurfaceRect.region (r : SurfaceRect) : Rect := ⟨r.x, r.y, r.width, r.height⟩

/-- The blit copies a part of the overlay, from its corner on, to a place on the main picture. -/
structure Blit.Places (b : Blit) (overlay main : Rect) : Prop where
  unscaled : b.destination.rect.width = b.source.rect.width ∧
    b.destination.rect.height = b.source.rect.height
  nonempty : 0 < b.source.rect.width ∧ 0 < b.source.rect.height
  corner : b.source.rect.x = 0 ∧ b.source.rect.y = 0
  source : b.source.rect.region.Within overlay
  destination : b.destination.rect.region.Inside main.width main.height

/-- The blit has a pattern that starts at its corner and is as large as its source. -/
def Blit.Covered (b : Blit) : Prop :=
  ∃ pattern, b.pattern = some pattern ∧ pattern.rect.x = 0 ∧ pattern.rect.y = 0 ∧
    pattern.rect.width = b.source.rect.width ∧ pattern.rect.height = b.source.rect.height

/-- The overlay is a whole picture, with its corner on the main one. -/
structure View.LiesOn (view : View) (main : Rect) : Prop where
  corner : view.active.x = 0 ∧ view.active.y = 0
  nonempty : 0 < view.active.width ∧ 0 < view.active.height
  column : 0 ≤ view.overlayX ∧ view.overlayX < main.width
  row : 0 ≤ view.overlayY ∧ view.overlayY < main.height

/-- The grid of a whole picture of two by two pixels or more starts at the corner and leaves so many
of them. -/
theorem View.grid_whole (f : PixelFormat) {w h : Int} (hw : 2 ≤ w) (hh : 2 ≤ h) :
    2 ≤ (grid f ⟨0, 0, w, h⟩).width ∧ 2 ≤ (grid f ⟨0, 0, w, h⟩).height := by
  unfold grid
  split
  · exact ⟨hw, hh⟩
  · simp only [alignDown_of_nonneg (show 0 ≤ w by omega), alignDown_of_nonneg (show 0 ≤ h by omega)]
    omega

theorem checkSize_ok {what : String} {w h : Int} (hok : checkSize what w h = .ok ()) :
    2 ≤ w ∧ w ≤ 8192 ∧ 2 ≤ h ∧ h ≤ 8192 := by
  unfold checkSize leastSize greatestSize at hok
  split at hok
  · assumption
  · cases hok

namespace Session

variable {host : Host} {s t u : Session} {view : View} {frame source : Frame}

/-! ## Views of a composite -/

/-- An offset that fits puts the overlay's corner on the picture, also if it is negative. -/
theorem liesOn_overlayView {p : Parameters} {main : Rect} (hmain : 2 ≤ main.width ∧ 2 ≤ main.height)
    (hcorner : view.active.x = 0 ∧ view.active.y = 0)
    (hnonempty : 0 < view.active.width ∧ 0 < view.active.height)
    (hfits : offsetFits p main = true) : (overlayView p view).LiesOn main := by
  unfold offsetFits at hfits
  rw [Bool.and_eq_true, decide_eq_true_iff, decide_eq_true_iff] at hfits
  refine ⟨hcorner, hnonempty, ?_, ?_⟩ <;> dsimp only [overlayView] <;> omega

/-- The overlay of a composite lies on the main picture if it fits. -/
theorem liesOn_of_start {c : CompositeSettings} {main overlay : Pad} {f : Filter}
    (h : c.start host main overlay = .ok f) (hfits : f.session.overlayFits = true) :
    ∃ view, f.session.overlay = some view ∧ view.LiesOn f.session.main.active := by
  obtain ⟨⟨hmain, hoverlay⟩, -, hcreate⟩ := CompositeSettings.start_ok h
  obtain ⟨mainView, given, hsource, hpattern, hviews⟩ := views_of_create hcreate
  obtain ⟨-, rfl⟩ := ofPad_ok hsource
  obtain ⟨hrgb, rfl⟩ := ofPad_ok hpattern
  obtain ⟨hmainview, hviews⟩ := Prod.mk.inj hviews
  obtain ⟨hoverlayview, hfit⟩ := Prod.mk.inj hviews
  obtain ⟨hw, hw', hh, hh'⟩ := checkSize_ok hmain
  obtain ⟨how, how', hoh, hoh'⟩ := checkSize_ok hoverlay
  have hwhole (r : Rect) : View.grid overlay.format r = r := if_pos hrgb
  refine ⟨_, hoverlayview, liesOn_overlayView ?_ ?_ ?_ ?_⟩
  · rw [hmainview, signed32_of_range (by omega) (by omega), signed32_of_range (by omega) (by omega)]
    exact View.grid_whole main.format hw hh
  · rw [hwhole]
    exact ⟨rfl, rfl⟩
  · rw [hwhole, signed32_of_range (by omega) (by omega), signed32_of_range (by omega) (by omega)]
    constructor <;> dsimp only <;> omega
  · rw [hmainview]
    exact hfit.symm.trans hfits

/-! ## Rectangles of a blit -/

theorem inputRegion_of_ne {role : Role} (h : role ≠ .placement) :
    s.inputRegion role view = view.active := if_neg h

/-- An uncompressed input is read where its region is. -/
theorem region_of_describeInput {role : Role} {blended : Bool} {surface : Surface}
    {unit : UnitState} (hlinear : frame.compression? = none)
    (h : s.describeInput role view frame blended = (.ok surface, unit)) :
    surface.rect.region = s.inputRegion role view := by
  obtain ⟨buffer, hbuffer, -, hsurface⟩ := describeInput_eq_ok_iff.1 h
  obtain ⟨-, -, hcompression, -⟩ := inputBuffer_ok hbuffer
  rw [hcompression, hlinear] at hsurface
  cases hsurface
  rfl

theorem region_of_describeCanvas {allocated overlay : Frame} {surface : Surface}
    (h : s.describeCanvas view allocated overlay = .ok (frame, surface)) :
    surface.rect.region = ⟨view.overlayX, view.overlayY, (s.visibleOverlay view).1,
      (s.visibleOverlay view).2⟩ := by
  obtain ⟨⟨layout, fd⟩, -, h⟩ := ok_of_bind h
  dsimp only at h
  split at h
  · cases h
    rfl
  · cases h

/-- Overlay and canvas of a placement are described, the canvas for the same main picture. -/
theorem described_of_overlayPlacement {overlay : Frame} {d : Dispatch}
    (h : d ∈ s.overlayPlacement host view overlay) :
    (∃ unit, s.describeInput .placement view overlay false =
      (.ok d.entry.blit.source, unit)) ∧
    ∃ (v : Session) (allocated f : Frame), v.main = s.main ∧
      v.describeCanvas view allocated overlay = .ok (f, d.entry.blit.destination) := by
  obtain ⟨r, v, hinput, hund, -, -, -, hyields⟩ :=
    submitInput_yields .placement view overlay false s
  obtain ⟨r', w, hcanvas, hund', -, -, -, hlands⟩ := queryCanvas_lands host view overlay v
  unfold overlayPlacement at h
  split at h
  · rcases hyields with ⟨e, rfl⟩ | ⟨input, rfl, hstows, -, -, htaken⟩
    · have hnone : layOut host view overlay s = (.error (.error e), v) := bind_of_error hinput
      simp [hnone] at h
    rcases hlands.yields with ⟨e, rfl⟩ | ⟨canvas, rfl, hstows', -, hdescribed⟩
    · have hnone : layOut host view overlay s = (.error (.error e), w) :=
        (bind_of_ok hinput).trans (bind_of_error hcanvas)
      simp [hnone] at h
    have hkept : w.Stows .placement input := hstows.of_undisturbed hund' (by decide)
    obtain ⟨allocated, -, hok⟩ := ok_of_bind hdescribed
    simp only [layOut_run hinput hcanvas hkept hstows', List.mem_singleton] at h
    subst h
    exact ⟨⟨_, Prod.ext htaken rfl⟩, v, allocated, _, hund.main, hok⟩
  · cases h

/-- A placement copies what is visible of the overlay. -/
theorem places_of_placements (hactive : s.activeOverlay? (some frame) = some (view, frame))
    (hlies : view.LiesOn s.main.active)
    (hlinear : frame.compression? = none) {d : Dispatch}
    (h : d ∈ s.placements host (.process source (some frame))) :
    d.entry.blit.Places view.active s.main.active := by
  obtain ⟨u, view', frame', hgiven, hdescribes, hplaced⟩ := overlayPlacement_of_placements h
  cases hactive.symm.trans hgiven
  obtain ⟨-, hmain, -⟩ := settings_eq_iff.1 hdescribes.settings
  obtain ⟨⟨unit, hinput⟩, v, allocated, f, hsame, hcanvas⟩ := described_of_overlayPlacement hplaced
  have hsource := region_of_describeInput hlinear hinput
  have hdestination := region_of_describeCanvas hcanvas
  obtain ⟨hcorner, hnonempty, hcolumn, hrow⟩ := hlies
  simp only [SurfaceRect.region, inputRegion, if_true, visibleOverlay, hmain, hsame, Rect.mk.injEq]
    at hsource hdestination
  obtain ⟨hx, hy, hw, hh⟩ := hsource
  obtain ⟨hx', hy', hw', hh'⟩ := hdestination
  refine ⟨⟨hw'.trans hw.symm, hh'.trans hh.symm⟩, ?_, ⟨hx, hy⟩, ?_, ?_⟩
  · omega
  · simp only [Rect.Within, SurfaceRect.region]
    omega
  · simp only [Rect.Inside, SurfaceRect.region]
    omega

/-- An overlay that needs no canvas has the main picture's size. -/
theorem size_of_needsCanvas (h : s.needsCanvas view = false) :
    view.active.width = s.main.active.width ∧ view.active.height = s.main.active.height := by
  simp only [needsCanvas, Bool.or_eq_false_iff, decide_eq_false_iff_not, not_not] at h
  exact h.1.1

/-- What the main blit reads as the overlay has the main picture's size. -/
theorem covered_of_mains (hactive : s.activeOverlay? (some frame) = some (view, frame))
    (hlies : view.LiesOn s.main.active) (hsource : source.compression? = none)
    (hframe : frame.compression? = none) {d : Dispatch}
    (h : d ∈ s.mains host (.process source (some frame))) : d.entry.blit.Covered := by
  obtain ⟨o, ho, rfl⟩ := List.mem_map.1 h
  obtain ⟨u, t, -, -, hl, -⟩ := prepared_of_attempt? (Option.mem_toList.1 ho)
  have hmain : u.main = s.main := hl.between.main
  have hinput := region_of_describeInput hsource hl.input
  rw [inputRegion_of_ne (by decide)] at hinput
  have hblends := hl.overlaid
  rw [hactive] at hblends
  obtain ⟨-, c, hc, -, hoverlaid⟩ := hblends
  have hpattern : o.entry.blit.pattern = some c.surface := by
    change o.load.pattern.map (·.surface) = _
    rw [hc]
    rfl
  refine ⟨c.surface, hpattern, ?_⟩
  change _ ∧ _ ∧ _ = o.load.source.surface.rect.width ∧ _ = o.load.source.surface.rect.height
  cases hoverlaid with
  | direct _ described covers =>
    have hregion := region_of_describeInput hframe (Prod.ext described rfl)
    rw [inputRegion_of_ne (by decide)] at hregion
    obtain ⟨hwidth, hheight⟩ := size_of_needsCanvas covers
    rw [hmain] at hwidth hheight
    exact ⟨(congrArg Rect.x hregion).trans hlies.corner.1,
      (congrArg Rect.y hregion).trans hlies.corner.2,
      (congrArg Rect.width hregion).trans (hwidth.trans (congrArg Rect.width hinput).symm),
      (congrArg Rect.height hregion).trans (hheight.trans (congrArg Rect.height hinput).symm)⟩
  | placed _ _ _ _ _ shown _ =>
    rw [shown, hmain, ← hinput]
    exact ⟨rfl, rfl, rfl, rfl⟩

/-- A composite whose overlay fits issues these blits for frames that are not compressed. The overlay
is placed without scaling, from its corner on, and both the part of it that is read and the place
that it is written to exist. On either path the main blit has a pattern that starts at its corner and
is as large as its source. -/
theorem overlay_geometry {settings : CompositeSettings} {main overlay : Pad} {f : Filter}
    (h : settings.start host main overlay = .ok f) (hfits : f.session.overlayFits = true)
    (calls : List Call) (hsource : source.compression? = none)
    (hframe : frame.compression? = none) :
    let t := f.session.run host calls
    let c : Call := .process source (some frame)
    (t.after host c).pipeline.journal.blits =
      t.pipeline.journal.blits ++ (t.placements host c ++ t.mains host c).map (·.entry) ∧
    ∃ view, t.overlay = some view ∧
      (∀ d ∈ t.placements host c, d.entry.blit.Places view.active t.main.active) ∧
      ∀ d ∈ t.mains host c, d.entry.blit.Covered := by
  intro t c
  have hstarted : Started host f.session := .composite h
  have hcarries := (run_accounts host hstarted.carries calls).carries
  obtain ⟨view, hview, hlies⟩ := liesOn_of_start h hfits
  obtain ⟨-, hmain, hoverlay, -, hkept⟩ := settings_eq_iff.1 (settings_run host f.session calls)
  rw [← hmain] at hlies
  rw [← hoverlay] at hview
  rw [← hkept] at hfits
  have hactive : t.activeOverlay? (some frame) = some (view, frame) := by
    simp only [t, activeOverlay?, hview, hfits, if_true]
  exact ⟨blits_after hcarries (hstarted.created.consistent_run host calls) host c, view, hview,
    fun d hd => places_of_placements hactive hlies hframe hd,
    fun d hd => covered_of_mains hactive hlies hsource hframe hd⟩

/-- An overlay that sticks out of the main picture, and one that covers it at a negative offset. -/
theorem overlay_geometry_sample :
    let c : Call := .process (Sample.frame 1) (some Sample.unalignedOverlay)
    let settings (x y : Int) : CompositeSettings := { x := x, y := y }
    let session (x y : Int) : Session := { Sample.session with
      overlay := some
        { pad := Sample.overlayPad, active := ⟨0, 0, 128, 128⟩, overlayX := x, overlayY := y }
      afbcOutput := false
      pipeline := { depth := 2 } }
    let picture : Rect := ⟨0, 0, 128, 128⟩
    (settings 100 17).start Sample.host Sample.mainPad Sample.overlayPad =
        .ok ⟨session 100 17, Sample.mainPad⟩ ∧
      (settings (-5) 0).start Sample.host Sample.mainPad Sample.overlayPad =
        .ok ⟨session 0 0, Sample.mainPad⟩ ∧
      ((session 100 17).placements Sample.host c).map
        (·.entry.blit.destination.rect.region) = [⟨100, 17, 28, 111⟩] ∧
      (∀ d ∈ (session 100 17).placements Sample.host c, d.entry.blit.Places picture picture) ∧
      ((session 100 17).mains Sample.host c).length = 1 ∧
      (∀ d ∈ (session 100 17).mains Sample.host c, d.entry.blit.Covered) ∧
      (session 0 0).placements Sample.host c = [] ∧
      ((session 0 0).mains Sample.host c).length = 1 ∧
      ∀ d ∈ (session 0 0).mains Sample.host c, d.entry.blit.Covered := by
  intro c settings session picture
  have hout : (settings 100 17).start Sample.host Sample.mainPad Sample.overlayPad =
      .ok ⟨session 100 17, Sample.mainPad⟩ := ok_of_toOption (by decide +kernel)
  have hover : (settings (-5) 0).start Sample.host Sample.mainPad Sample.overlayPad =
      .ok ⟨session 0 0, Sample.mainPad⟩ := ok_of_toOption (by decide +kernel)
  have hlinear : (Sample.frame 1).compression? = none ∧
      Sample.unalignedOverlay.compression? = none := by decide +kernel
  obtain ⟨-, view, hview, hplaces, hcovered⟩ :=
    overlay_geometry hout rfl [] hlinear.1 hlinear.2
  obtain ⟨-, -, -, -, hcovered'⟩ := overlay_geometry hover rfl [] hlinear.1 hlinear.2
  cases hview
  exact ⟨hout, hover, by decide +kernel, hplaces, by decide +kernel, hcovered,
    List.eq_nil_of_length_eq_zero (by decide +kernel), by decide +kernel, hcovered'⟩

end Session
end Blitter
