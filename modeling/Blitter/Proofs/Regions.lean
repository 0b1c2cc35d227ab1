import Blitter.Proofs.SourceRegion

/-!
# Regions of filters

Filters take and make pictures of limited sizes, and each view of their sessions is a region of its
pad: all of it, rounded to even numbers where the format needs that, or the part of a transform's
input that its settings name.
-/
namespace Blitter

/-- The view is a region of a pad that filters take. -/
structure View.Regular (v : View) : Prop where
  width : 2 ≤ v.pad.width ∧ v.pad.width ≤ 8192
  height : 2 ≤ v.pad.height ∧ v.pad.height ≤ 8192
  inside : v.active.Inside v.pad.width v.pad.height

/-- Sides of such a pad fit in a word. -/
theorem View.Regular.words {v : View} (h : v.Regular) :
    signed32 v.pad.width = v.pad.width ∧ signed32 v.pad.height = v.pad.height := by
  obtain ⟨hwidth, hheight, -⟩ := h
  exact ⟨signed32_of_range (by omega) (by omega), signed32_of_range (by omega) (by omega)⟩

/-- The view is that of its whole pad, rounded to the grid of its format. -/
def View.IsWhole (v : View) : Prop :=
  v.active = View.grid v.format ⟨0, 0, signed32 v.pad.width, signed32 v.pad.height⟩

namespace View

variable {v : View} {pad : Pad} {role : Role}

theorem isWhole_ofPad (h : ofPad pad role = .ok v) : v.pad = pad ∧ v.IsWhole := by
  obtain ⟨-, rfl⟩ := Session.ofPad_ok h
  exact ⟨rfl, rfl⟩

theorem IsWhole.regular (h : v.IsWhole) (hwidth : 2 ≤ v.pad.width ∧ v.pad.width ≤ 8192)
    (hheight : 2 ≤ v.pad.height ∧ v.pad.height ≤ 8192) :
    v.Regular ∧ 2 ≤ v.active.width ∧ 2 ≤ v.active.height := by
  rw [IsWhole, signed32_of_range (by omega) (by omega),
    signed32_of_range (by omega) (by omega)] at h
  obtain ⟨hw, hh⟩ := grid_whole v.format (w := v.pad.width) (h := v.pad.height)
    (by omega) (by omega)
  refine ⟨⟨hwidth, hheight, ?_⟩, h ▸ hw, h ▸ hh⟩
  rw [h]
  refine inside_grid ?_
  simp only [Rect.Inside]
  omega

end View

/-- The output of a transform has a size that filters take. -/
theorem TransformSettings.size_of_outputPad {t : TransformSettings} {version : String}
    {input output : Pad} (h : t.outputPad version input = .ok output) :
    (2 ≤ output.width ∧ output.width ≤ 8192) ∧ 2 ≤ output.height ∧ output.height ≤ 8192 := by
  unfold outputPad at h
  dsimp only at h
  split at h
  · cases h
  · obtain ⟨⟨⟩, hsize, h⟩ := ok_of_bind h
    obtain ⟨hw, hw', hh, hh'⟩ := checkSize_ok hsize
    cases h
    dsimp only
    split <;> dsimp only <;> omega

theorem Session.isWhole_output {host : Host} {inputs : List Pad} {output : Pad} {p : Parameters}
    {o : Options} {s : Session} (h : create host inputs output p o = .ok s) :
    s.output.pad = output ∧ s.output.IsWhole := by
  obtain ⟨rfl, hactive⟩ := output_of_create h
  exact ⟨rfl, hactive⟩

/-- What is known of the views of a filter's session. An output is never empty. -/
structure Session.Regular (s : Session) : Prop where
  main : s.main.Regular
  overlay : ∀ view ∈ s.overlay, view.Regular
  output : s.output.Regular
  nonempty : 2 ≤ s.output.active.width ∧ 2 ≤ s.output.active.height

theorem TransformSettings.regular_of_start {t : TransformSettings} {host : Host} {input : Pad}
    {f : Filter} (hstart : t.start host input = .ok f) : f.session.Regular := by
  obtain ⟨hsolo, hactive⟩ := main_of_start hstart
  obtain ⟨hsize, houtput, hcreate⟩ := start_ok hstart
  obtain ⟨hw, hw', hh, hh'⟩ := checkSize_ok hsize
  have hpad : f.session.main.pad = input := (Option.some.inj (Session.main_of_create hcreate)).symm
  obtain ⟨hwidth, hheight⟩ := size_of_outputPad houtput
  obtain ⟨houtputPad, houtputWhole⟩ := Session.isWhole_output hcreate
  obtain ⟨hregular, hnonempty⟩ :=
    houtputWhole.regular (by rw [houtputPad]; exact hwidth) (by rw [houtputPad]; exact hheight)
  refine ⟨⟨by rw [hpad]; omega, by rw [hpad]; omega, ?_⟩, by simp [hsolo], hregular, hnonempty⟩
  rw [hactive, hpad]
  exact View.inside_grid (t.inside_sourceRegion (by omega) (by omega))

theorem CompositeSettings.regular_of_start {c : CompositeSettings} {host : Host}
    {main overlay : Pad} {f : Filter} (hstart : c.start host main overlay = .ok f) :
    f.session.Regular := by
  obtain ⟨⟨hmain, hoverlay⟩, houtput, hcreate⟩ := start_ok hstart
  rw [houtput] at hcreate
  obtain ⟨hw, hw', hh, hh'⟩ := checkSize_ok hmain
  obtain ⟨how, how', hoh, hoh'⟩ := checkSize_ok hoverlay
  obtain ⟨mainView, given, hsource, hpattern, hviews⟩ := Session.views_of_create hcreate
  obtain ⟨hmainView, hviews⟩ := Prod.mk.inj hviews
  obtain ⟨hoverlayView, -⟩ := Prod.mk.inj hviews
  obtain ⟨rfl, hmainWhole⟩ := View.isWhole_ofPad hsource
  obtain ⟨rfl, hgivenWhole⟩ := View.isWhole_ofPad hpattern
  obtain ⟨houtputPad, houtputWhole⟩ := Session.isWhole_output hcreate
  obtain ⟨hregular, -⟩ := hmainWhole.regular (by omega) (by omega)
  obtain ⟨hregular', -⟩ := hgivenWhole.regular (by omega) (by omega)
  obtain ⟨hregularOutput, hnonempty⟩ := houtputWhole.regular
    (by rw [houtputPad]; dsimp only; omega) (by rw [houtputPad]; dsimp only; omega)
  refine ⟨?_, fun view hview => ?_, hregularOutput, hnonempty⟩
  · rw [hmainView]
    exact ⟨hregular.width, hregular.height, hregular.inside⟩
  · rw [hoverlayView, Option.mem_some] at hview
    subst hview
    exact ⟨hregular'.width, hregular'.height, hregular'.inside⟩

theorem Started.regular {host : Host} {s : Session} (h : Started host s) : s.Regular := by
  cases h with
  | transform h => exact TransformSettings.regular_of_start h
  | composite h => exact CompositeSettings.regular_of_start h

end Blitter
