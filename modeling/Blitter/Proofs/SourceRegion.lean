import Blitter.Proofs.OverlayGeometry

/-!
# The source region

The part of its input that a transform reads. Cutting a region to fit an input puts it inside, and
changes nothing about one that is inside already. Rounding to even numbers then moves it toward the
first pixel only, so that every blit of an uncompressed frame reads pixels that exist.
-/
namespace Blitter

namespace Rect

variable {r : Rect} {w h start extent size : Int}

/-! ## Cutting to fit -/

theorem clampSpan_inside (hsize : 0 ≤ size) :
    0 ≤ (clampSpan start extent size).1 ∧ 0 ≤ (clampSpan start extent size).2 ∧
      (clampSpan start extent size).1 + (clampSpan start extent size).2 ≤ size := by
  simp only [clampSpan, clamp]
  omega

theorem clampSpan_of_inside (hstart : 0 ≤ start) (hextent : 0 ≤ extent)
    (hend : start + extent ≤ size) : clampSpan start extent size = (start, extent) := by
  simp only [clampSpan, clamp, Prod.mk.injEq]
  omega

theorem inside_clampInto (hw : 0 ≤ w) (hh : 0 ≤ h) : (r.clampInto w h).Inside w h := by
  obtain ⟨hx, hwidth, hright⟩ := @clampSpan_inside r.x r.width w hw
  obtain ⟨hy, hheight, hbottom⟩ := @clampSpan_inside r.y r.height h hh
  exact ⟨hx, hy, hwidth, hheight, hright, hbottom⟩

theorem clampInto_of_inside (hr : r.Inside w h) : r.clampInto w h = r := by
  obtain ⟨hx, hy, hwidth, hheight, hright, hbottom⟩ := hr
  rw [clampInto, clampSpan_of_inside hx hwidth hright, clampSpan_of_inside hy hheight hbottom]

/-- Every number of a region is even. -/
def Even (r : Rect) : Prop := 2 ∣ r.x ∧ 2 ∣ r.y ∧ 2 ∣ r.width ∧ 2 ∣ r.height

end Rect

/-! ## Rounding -/

namespace View

variable {f : PixelFormat} {r : Rect} {w h : Int}

/-- Rounding leaves a region inside. -/
theorem inside_grid (hr : r.Inside w h) : (grid f r).Inside w h := by
  obtain ⟨hx, hy, hwidth, hheight, hright, hbottom⟩ := hr
  unfold grid
  split
  · exact ⟨hx, hy, hwidth, hheight, hright, hbottom⟩
  · simp only [Rect.Inside, alignDown_of_nonneg hx, alignDown_of_nonneg hy,
      alignDown_of_nonneg hwidth, alignDown_of_nonneg hheight]
    omega

theorem even_grid (hrgb : f.isRgb = false) : (grid f r).Even := by
  rw [grid, if_neg (by simp [hrgb])]
  exact ⟨Int.dvd_mul_left _ _, Int.dvd_mul_left _ _, Int.dvd_mul_left _ _, Int.dvd_mul_left _ _⟩

end View

/-! ## Requested regions -/

/-- The region a setting names, before it is cut to fit. -/
def CropSetting.requested (c : CropSetting) (w h : Int) : Rect :=
  ⟨c.x.getD ((w - c.width).tdiv 2), c.y.getD ((h - c.height).tdiv 2), c.width, c.height⟩

namespace TransformSettings

/-- The region of the source that the settings name, or all of it. -/
def sourceRegion (t : TransformSettings) (w h : Int) : Rect :=
  (t.crop.bind (·.region w h)).getD ⟨0, 0, w, h⟩

variable {t : TransformSettings} {c : CropSetting} {w h : Int}

theorem inside_sourceRegion (t : TransformSettings) (hw : 0 ≤ w) (hh : 0 ≤ h) :
    (t.sourceRegion w h).Inside w h := by
  have hwhole : Rect.Inside ⟨0, 0, w, h⟩ w h := by
    simp only [Rect.Inside]
    omega
  unfold sourceRegion
  cases t.crop with
  | none => exact hwhole
  | some c =>
    simp only [Option.bind_some, CropSetting.region]
    split
    · exact hwhole
    · exact Rect.inside_clampInto hw hh

/-- A region inside the source is taken as it is; one of the source's size is all of it. -/
theorem sourceRegion_of_inside (hcrop : t.crop = some c) (hinside : (c.requested w h).Inside w h) :
    t.sourceRegion w h = c.requested w h := by
  rw [sourceRegion, hcrop, Option.bind_some, CropSetting.region]
  split
  · next hsize =>
    obtain ⟨hx, hy, -, -, hright, hbottom⟩ := hinside
    simp only [CropSetting.requested, Option.getD_none, Rect.mk.injEq] at *
    omega
  · exact Rect.clampInto_of_inside hinside

/-- A transform reads the region that its settings name, rounded, and has no overlay. -/
theorem main_of_start {host : Host} {input : Pad} {f : Filter}
    (hstart : t.start host input = .ok f) :
    f.session.overlay = none ∧
      f.session.main.active = View.grid input.format (t.sourceRegion input.width input.height) := by
  obtain ⟨hsize, -, hcreate⟩ := start_ok hstart
  obtain ⟨hw, hw', hh, hh'⟩ := checkSize_ok hsize
  obtain ⟨mainPad, overlayPad, mainView, overlayView, r, hc⟩ := Session.creation_of_create hcreate
  cases hc.pads
  have hoverlay := hc.pattern
  cases hoverlay
  obtain ⟨-, rfl⟩ := Session.ofPad_ok hc.source
  refine ⟨hc.overlay, ?_⟩
  rw [hc.main, signed32_of_range (by omega) (by omega), signed32_of_range (by omega) (by omega)]
  simp only [Session.inputViews, Session.soloView, sourceRegion]
  cases t.crop.bind (·.region input.width input.height) with
  | none => rfl
  | some r => rfl

end TransformSettings

/-! ## Blits -/

namespace Session

variable {host : Host} {s : Session}

/-- The main blit of a frame that is not compressed reads the source region. -/
theorem region_of_mains {source : Frame} {overlay : Option Frame} {d : Dispatch}
    (hlinear : source.compression? = none) (hd : d ∈ s.mains host (.process source overlay)) :
    d.entry.blit.source.rect.region = s.main.active := by
  obtain ⟨o, ho, rfl⟩ := List.mem_map.1 hd
  obtain ⟨u, t, -, -, hl, -⟩ := prepared_of_attempt? (Option.mem_toList.1 ho)
  have hinput := region_of_describeInput hlinear hl.input
  rw [inputRegion_of_ne (by decide)] at hinput
  exact hinput

/-- Without an overlay, nothing is placed. -/
theorem placements_of_solo (hsolo : s.overlay = none) (c : Call) : s.placements host c = [] := by
  cases c with
  | process source overlay =>
    have hinactive : s.activeOverlay? overlay = none := by simp [activeOverlay?, hsolo]
    simp [placements, hinactive]
  | flush | close => rfl

end Session

/-- Cutting to fit puts a region inside and changes none that is inside. The region that a transform
reads is inside its input, even unless the input is RGB, and up to that the requested one if this is
inside. Calls issue main blits only, and those of frames that are not compressed read it. -/
theorem source_region_inside (host : Host) (settings : TransformSettings) (input : Pad) :
    (∀ (r : Rect) (w h : Int), 0 ≤ w → 0 ≤ h →
      (r.clampInto w h).Inside w h ∧ (r.Inside w h → r.clampInto w h = r)) ∧
    ∀ f, settings.start host input = .ok f →
      f.session.main.active.Inside input.width input.height ∧
      (input.format.isRgb = false → f.session.main.active.Even) ∧
      (∀ c, settings.crop = some c →
        (c.requested input.width input.height).Inside input.width input.height →
          f.session.main.active = View.grid input.format (c.requested input.width input.height)) ∧
      ∀ calls c,
        ((f.session.run host calls).after host c).pipeline.journal.blits =
          (f.session.run host calls).pipeline.journal.blits ++
            ((f.session.run host calls).mains host c).map (·.entry) ∧
        ∀ source overlay, c = .process source overlay → source.compression? = none →
          ∀ d ∈ (f.session.run host calls).mains host c,
            d.entry.blit.source.rect.region = f.session.main.active := by
  refine ⟨fun r w h hw hh => ⟨Rect.inside_clampInto hw hh, Rect.clampInto_of_inside⟩,
    fun f hstart => ?_⟩
  obtain ⟨hsolo, hactive⟩ := TransformSettings.main_of_start hstart
  have hstarted : Started host f.session := .transform hstart
  refine ⟨?_, fun hrgb => ?_, fun c hcrop hinside => ?_, fun calls c => ⟨?_, ?_⟩⟩
  · rw [hactive]
    exact View.inside_grid (settings.inside_sourceRegion (by omega) (by omega))
  · rw [hactive]
    exact View.even_grid hrgb
  · rw [hactive, TransformSettings.sourceRegion_of_inside hcrop hinside]
  · have hcarries := (Session.run_accounts host hstarted.carries calls).carries
    have hblits := Session.blits_after hcarries (hstarted.created.consistent_run host calls) host c
    rw [Session.dispatches, Session.placements_of_solo (by simpa using hsolo)] at hblits
    exact hblits
  · rintro source overlay rfl hlinear d hd
    rw [Session.region_of_mains hlinear hd, Session.main_run]

/-- A region at odd offsets, and one that sticks out at both ends. -/
theorem source_region_inside_sample :
    let inner : CropSetting := { x := some 33, y := some 17, width := 64, height := 64 }
    let outer : CropSetting := { x := some (-5), width := 99, height := 500 }
    let settings (c : CropSetting) : TransformSettings :=
      { size := some (64, 64), crop := some c, options := { depth := 0 } }
    let session (r : Rect) : Session := { Sample.session with
      main := { pad := Sample.mainPad, active := r, cropped := true }
      overlay := none
      output := { pad := ⟨64, 64, .nv12⟩, active := ⟨0, 0, 64, 64⟩ }
      unit := ⟨true, .legacy⟩
      afbcOutput := false
      overlayFits := false
      pipeline := { depth := 0 } }
    let c : Call := .process (Sample.frame 1) none
    (settings inner).start Sample.host Sample.mainPad =
        .ok ⟨session ⟨32, 16, 64, 64⟩, ⟨64, 64, .nv12⟩⟩ ∧
      (inner.requested 128 128).Inside 128 128 ∧
      View.grid .nv12 (inner.requested 128 128) = ⟨32, 16, 64, 64⟩ ∧
      (settings outer).start Sample.host Sample.mainPad =
        .ok ⟨session ⟨0, 0, 98, 128⟩, ⟨64, 64, .nv12⟩⟩ ∧
      Rect.Inside ⟨0, 0, 98, 128⟩ 128 128 ∧ Rect.Even ⟨0, 0, 98, 128⟩ ∧
      ((session ⟨32, 16, 64, 64⟩).mains Sample.host c).length = 1 ∧
      ∀ d ∈ (session ⟨32, 16, 64, 64⟩).mains Sample.host c,
        d.entry.blit.source.rect.region = ⟨32, 16, 64, 64⟩ := by
  intro inner outer settings session c
  have hinner : (settings inner).start Sample.host Sample.mainPad =
      .ok ⟨session ⟨32, 16, 64, 64⟩, ⟨64, 64, .nv12⟩⟩ := ok_of_toOption (by decide +kernel)
  have houter : (settings outer).start Sample.host Sample.mainPad =
      .ok ⟨session ⟨0, 0, 98, 128⟩, ⟨64, 64, .nv12⟩⟩ := ok_of_toOption (by decide +kernel)
  have hrequested : (inner.requested 128 128).Inside 128 128 := by decide
  obtain ⟨-, hruns⟩ := source_region_inside Sample.host (settings inner) Sample.mainPad
  obtain ⟨-, -, hgrid, hblits⟩ := hruns _ hinner
  obtain ⟨-, hreads⟩ := hblits [] c
  obtain ⟨-, hclamps⟩ := source_region_inside Sample.host (settings outer) Sample.mainPad
  obtain ⟨hinside, heven, -, -⟩ := hclamps _ houter
  exact ⟨hinner, hrequested, (hgrid inner rfl hrequested).symm, houter, hinside, heven rfl,
    by decide +kernel, hreads _ _ rfl (by decide +kernel)⟩

end Blitter
