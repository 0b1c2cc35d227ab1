import Blitter.Proofs.Addressable
import Blitter.Proofs.Regions

/-!
# Compressed inputs

Strides of a compressed input are whole blocks. The rows that they hold begin with the decoder's
padding, below which the picture is moved, and go down to the last one of the pad. The columns are
those that the pitch has room for, so that a region of the pad is within them as long as its rows
are. Frames that are not coded as their format is when compressed are refused.
-/
namespace Blitter

/-- The layer that a compressed input is read from. -/
def Frame.layer? (frame : Frame) : Option Layer := frame.layout?.bind (·.layers.head?)

/-- Bytes from one row to the next. -/
def Frame.pitch? (frame : Frame) : Option Nat :=
  (frame.layer?.bind (·.planes.head?)).map (·.pitch)

/-- A compressed frame, with no more padding above than a word can count. -/
structure Frame.Compressed (frame : Frame) (c : Compression) : Prop where
  compression : frame.compression? = some c
  cropTop : frame.cropTop < 2 ^ 31

/-- The format has no such fourcc for frames that are compressed so. -/
def Miscoded (view : View) (frame : Frame) : Prop :=
  ∃ c layer, frame.compression? = some c ∧ frame.layer? = some layer ∧
    c.fourcc? view.format ≠ some layer.fourcc

/-- The surface of a compressed input whose region lies in blocks: the strides are whole ones, the
decoder's padding moves the region down and nothing else does, and its ends are within the strides.
To the right this takes a pitch with room for the pad, counted in a word. -/
structure Surface.FitsBlocks (surface : Surface) (c : Compression) (view : View) (frame : Frame)
    (region : Rect) : Prop where
  width : 0 < surface.stride.width ∧ c.blocks.width ∣ surface.stride.width
  height : 0 < surface.stride.height ∧ c.blocks.height ∣ surface.stride.height
  region : surface.rect.region =
    { region with y := region.y + if c = .afbc then (frame.cropTop : Int) else 0 }
  bottom : surface.rect.y + surface.rect.height ≤ surface.stride.height
  right : ∀ pitch, frame.pitch? = some pitch →
    view.pad.width * view.format.bytesPerPixel ≤ signed32 pitch →
      surface.rect.x + surface.rect.width ≤ surface.stride.width

/-! ## Rows -/

theorem Frame.rowPixels?_eq {frame : Frame} {pitch : Nat} (h : frame.pitch? = some pitch)
    (f : PixelFormat) : frame.rowPixels? f = pitchToPixels? f.bytesPerPixel (signed32 pitch) := by
  obtain ⟨plane, hplane, rfl⟩ := Option.map_eq_some_iff.1 h
  obtain ⟨layer, hlayer, hhead⟩ := Option.bind_eq_some_iff.1 hplane
  unfold Frame.layer? at hlayer
  rw [Frame.rowPixels?, hlayer, Option.bind_some, Layer.rowPixels?, hhead, Option.elim_some]

/-- Padding that a word can count moves a picture down by so many rows. -/
theorem Frame.Compressed.rowsAbove {frame : Frame} {c : Compression} (h : frame.Compressed c) :
    c.rowsAbove frame = if c = .afbc then (frame.cropTop : Int) else 0 := by
  have hword := h.cropTop
  cases c with
  | afbc => exact signed32_of_range (by omega) (by omega)
  | rfbc => rfl

namespace Compression

variable {c : Compression} {view : View} {frame : Frame} {pixels : Int}

theorem stride_width (hwidth : 0 < signed32 view.pad.width) (hpixels : 0 < pixels) :
    0 < (c.stride view frame pixels).width ∧
      c.blocks.width ∣ (c.stride view frame pixels).width := by
  unfold stride
  dsimp only
  split
  · next hwhole => exact ⟨hpixels, Int.dvd_of_emod_eq_zero hwhole⟩
  · exact ⟨(alignUp_pos_iff c.blocks_pos.1).2 hwidth, dvd_alignUp _ _⟩

/-- Whole blocks hold the pad if its rows do not reach beyond the pitch. -/
theorem le_stride_width (hwidth : 0 ≤ signed32 view.pad.width)
    (hroom : signed32 view.pad.width ≤ pixels) :
    signed32 view.pad.width ≤ (c.stride view frame pixels).width := by
  unfold stride
  dsimp only
  split
  · exact hroom
  · exact le_alignUp hwidth c.blocks_pos.1

end Compression

namespace Session

variable {host : Host} {s t u : Session} {role : Role} {view : View} {frame source : Frame}
  {overlay : Option Frame} {c : Compression} {blended : Bool} {surface : Surface} {unit : UnitState}

/-! ## Views that are read -/

/-- The session takes in frames of the view in the role. -/
inductive Reads (s : Session) : Role → View → Prop
  | source : s.Reads .source s.main
  | pattern {view : View} (h : s.overlay = some view) : s.Reads .pattern view
  | placement {view : View} (h : s.overlay = some view) : s.Reads .placement view

theorem Regular.of_settings (h : s.Regular) (hsame : u.settings = s.settings) : u.Regular := by
  obtain ⟨-, hmain, hoverlay, houtput, -⟩ := settings_eq_iff.1 hsame
  exact ⟨hmain ▸ h.main, hoverlay ▸ h.overlay, houtput ▸ h.output, houtput ▸ h.nonempty⟩

theorem Reads.regular (hs : s.Regular) (h : s.Reads role view) : view.Regular := by
  cases h with
  | source => exact hs.main
  | pattern h => exact hs.overlay view h
  | placement h => exact hs.overlay view h

/-- What is read ends in the pad. The part of an overlay that is placed starts at its corner. -/
theorem ends_of_inputRegion (h : view.Regular) :
    (s.inputRegion role view).x + (s.inputRegion role view).width ≤ view.pad.width ∧
      (s.inputRegion role view).y + (s.inputRegion role view).height ≤ view.pad.height := by
  obtain ⟨-, -, hx, hy, -, -, hright, hbottom⟩ := h
  unfold inputRegion
  split
  · simp only [visibleOverlay]
    omega
  · exact ⟨hright, hbottom⟩

/-! ## Surfaces of compressed inputs -/

/-- The region of a compressed input is that of the view below the padding, and its layer has the
fourcc of the format. -/
theorem region_of_compressed (hc : frame.compression? = some c)
    (h : s.describeInput role view frame blended = (.ok surface, unit)) :
    surface.rect.region = { s.inputRegion role view with
      y := (s.inputRegion role view).y + c.rowsAbove frame } ∧
    ∃ layer, frame.layer? = some layer ∧ c.fourcc? view.format = some layer.fourcc := by
  obtain ⟨buffer, hbuffer, -, hsurface⟩ := describeInput_eq_ok_iff.1 h
  obtain ⟨-, -, hcompression, -⟩ := inputBuffer_ok hbuffer
  rw [hcompression, hc] at hsurface
  obtain ⟨layer, pixels, hlayer, hfourcc, -, rfl⟩ := compressedSurface_eq_ok_iff.1 hsurface
  refine ⟨rfl, layer, ?_, hfourcc⟩
  rw [Frame.layer?, inputBuffer_layout hbuffer]
  exact hlayer

theorem stride_of_compressed (hc : frame.compression? = some c)
    (h : s.describeInput role view frame blended = (.ok surface, unit)) :
    ∃ pixels, frame.rowPixels? view.format = some pixels ∧
      surface.stride = c.stride view frame pixels := by
  have hstride := (describeInput_stride h).2
  simp only [inputStride?, hc] at hstride
  obtain ⟨pixels, hpixels, hstride⟩ := Option.map_eq_some_iff.1 hstride
  exact ⟨pixels, hpixels, hstride.symm⟩

/-- A compressed input that is described lies in whole blocks. -/
theorem fitsBlocks_of_describeInput (hview : view.Regular) (hframe : frame.Compressed c)
    (h : s.describeInput role view frame blended = (.ok surface, unit)) :
    surface.FitsBlocks c view frame (s.inputRegion role view) := by
  obtain ⟨hregion, -⟩ := region_of_compressed hframe.compression h
  obtain ⟨pixels, hpixels, hstride⟩ := stride_of_compressed hframe.compression h
  obtain ⟨hright, hbottom⟩ := @ends_of_inputRegion s role view hview
  have hwidth := hview.width
  have hheight := hview.height
  obtain ⟨hpadWidth, hpadHeight⟩ := hview.words
  have hsides := hregion
  simp only [SurfaceRect.region, Rect.mk.injEq] at hsides
  obtain ⟨hx, hy, hw, hh⟩ := hsides
  have habove : 0 ≤ c.rowsAbove frame := by
    rw [hframe.rowsAbove]
    split <;> omega
  have hrows : view.pad.height + c.rowsAbove frame ≤ surface.stride.height := by
    rw [hstride, ← hpadHeight]
    exact le_alignUp (by omega) c.blocks_pos.2
  refine ⟨?_, ⟨by omega, ?_⟩, ?_, by omega, fun pitch hpitch hroom => ?_⟩
  · rw [hstride]
    exact Compression.stride_width (by omega) (Frame.rowPixels?_pos hpixels)
  · rw [hstride]
    exact dvd_alignUp _ _
  · rw [hregion, hframe.rowsAbove]
  · rw [Frame.rowPixels?_eq hpitch] at hpixels
    have hpad : (view.pad.width : Int) ≤ pixels :=
      le_of_pitchToPixels? (by omega) hpixels (by exact_mod_cast hroom)
    have hfits : signed32 view.pad.width ≤ surface.stride.width := by
      rw [hstride]
      exact Compression.le_stride_width (by omega) (by omega)
    omega

/-- Frames with another fourcc are never described. -/
theorem error_of_miscoded (h : Miscoded view frame) :
    ∃ e, (s.describeInput role view frame blended).1 = .error e := by
  obtain ⟨c, layer, hc, hlayer, hfourcc⟩ := h
  cases hdescribed : (s.describeInput role view frame blended).1 with
  | error e => exact ⟨e, rfl⟩
  | ok surface =>
    obtain ⟨-, layer', hlayer', hcoded⟩ := region_of_compressed hc (Prod.ext hdescribed rfl)
    cases hlayer.symm.trans hlayer'
    exact absurd hcoded hfourcc

/-! ## Calls -/

/-- An input of the call has another fourcc than its format. -/
def TakesMiscoded (s : Session) (source : Frame) (overlay : Option Frame) : Prop :=
  Miscoded s.main source ∨
    ∃ view frame, s.activeOverlay? overlay = some (view, frame) ∧ Miscoded view frame

theorem not_miscoded (h : s.describeInput role view frame blended = (.ok surface, unit)) :
    ¬Miscoded view frame := by
  intro hmiscoded
  obtain ⟨e, he⟩ := error_of_miscoded hmiscoded
  rw [h] at he
  cases he

theorem DescribesFrames.not_takesMiscoded (h : s.DescribesFrames host source blended u)
    (hoverlay : DescribesOverlay host u (s.activeOverlay? overlay)) :
    ¬s.TakesMiscoded source overlay := by
  rintro (hsource | ⟨view, frame, hactive, hframe⟩)
  · obtain ⟨surface, hinput⟩ := h.input
    exact not_miscoded hinput hsource
  · rcases hoverlay _ _ hactive with ⟨-, surface, unit, hinput⟩ | ⟨unit, input, canvas, hlaid⟩
    · exact not_miscoded hinput hframe
    · exact not_miscoded hlaid.input hframe

/-- Nothing is issued for such a frame, and the call fails. -/
theorem TakesMiscoded.refused (h : s.TakesMiscoded source overlay) :
    (∃ e, (process host source overlay s).1 = .error (.error e)) ∧
      s.dispatches host (.process source overlay) = [] :=
  refused_of_not_described fun _ _ hframes hoverlay => hframes.not_takesMiscoded hoverlay h

theorem inputRegion_of_settings (hsame : u.settings = s.settings) (role : Role) (view : View) :
    u.inputRegion role view = s.inputRegion role view := by
  obtain ⟨-, hmain, -⟩ := settings_eq_iff.1 hsame
  simp only [inputRegion, visibleOverlay, hmain]

theorem Regular.run (h : s.Regular) (host : Host) (calls : List Call) :
    (s.run host calls).Regular :=
  h.of_settings (settings_run host s calls)

/-- Main blits read compressed sources where they lie in blocks. -/
theorem fitsBlocks_of_mains (hs : s.Regular) (hsource : source.Compressed c) {d : Dispatch}
    (hd : d ∈ s.mains host (.process source overlay)) :
    d.entry.blit.source.FitsBlocks c s.main source s.main.active := by
  obtain ⟨o, ho, rfl⟩ := List.mem_map.1 hd
  obtain ⟨u, t, -, -, hl, -⟩ := prepared_of_attempt? (Option.mem_toList.1 ho)
  have hfits := fitsBlocks_of_describeInput hs.main hsource hl.input
  rwa [inputRegion_of_ne (by decide)] at hfits

/-- So do placements. -/
theorem fitsBlocks_of_placements (hs : s.Regular)
    (hactive : s.activeOverlay? overlay = some (view, frame)) (hframe : frame.Compressed c)
    {d : Dispatch} (hd : d ∈ s.placements host (.process source overlay)) :
    d.entry.blit.source.FitsBlocks c view frame (s.inputRegion .placement view) := by
  obtain ⟨u, view', frame', hactive', hframes, -, hlaid⟩ := laysOut_of_placements hd
  cases hactive.symm.trans hactive'
  have hview := hs.overlay view (activeOverlay?_eq_some hactive)
  rw [← inputRegion_of_settings hframes.settings]
  exact fitsBlocks_of_describeInput hview hframe hlaid.input

/-- And so do main blits that read an overlay frame itself. -/
theorem fitsBlocks_of_pattern (hs : s.Regular)
    (hactive : s.activeOverlay? overlay = some (view, frame)) (hframe : frame.Compressed c)
    (hcovers : s.needsCanvas view = false) {d : Dispatch}
    (hd : d ∈ s.mains host (.process source overlay)) :
    ∃ pattern, d.entry.blit.pattern = some pattern ∧
      pattern.FitsBlocks c view frame view.active := by
  obtain ⟨o, ho, rfl⟩ := List.mem_map.1 hd
  obtain ⟨u, t, -, -, hl, -⟩ := prepared_of_attempt? (Option.mem_toList.1 ho)
  have hblends := hl.overlaid
  rw [hactive] at hblends
  obtain ⟨-, cargo, hcargo, -, hoverlaid⟩ := hblends
  refine ⟨cargo.surface, by simp [Operation.entry, Load.blit, hcargo], ?_⟩
  rcases hoverlaid.cases with ⟨-, unit, hinput⟩ | ⟨unit, input, canvas, hlaid, -⟩
  · have hview := hs.overlay view (activeOverlay?_eq_some hactive)
    have hfits := fitsBlocks_of_describeInput hview hframe hinput
    rwa [inputRegion_of_ne (by decide)] at hfits
  · rw [← needsCanvas_of_settings hl.between.settings, hlaid.needed] at hcovers
    cases hcovers

/-- In every state of a filter's session, also in the middle of a call, a compressed input that is
described lies in whole blocks, and one with another fourcc than its format is refused. This is how
the blits of a run read sources and overlays, and no blit is issued for a frame that is refused. -/
theorem compressed_inputs_fit (hs : Started host s) (calls : List Call) :
    let t := s.run host calls
    (∀ (u : Session) (role : Role) (view : View) (frame : Frame) (blended : Bool),
      u.settings = t.settings → u.Reads role view →
      (∀ surface unit c, u.describeInput role view frame blended = (.ok surface, unit) →
        frame.Compressed c → surface.FitsBlocks c view frame (u.inputRegion role view)) ∧
      (Miscoded view frame → ∃ e, (u.describeInput role view frame blended).1 = .error e)) ∧
    ∀ source overlay,
      let call : Call := .process source overlay
      (∀ c, source.Compressed c → ∀ d ∈ t.mains host call,
        d.entry.blit.source.FitsBlocks c t.main source t.main.active) ∧
      (∀ view frame c, t.activeOverlay? overlay = some (view, frame) → frame.Compressed c →
        (∀ d ∈ t.placements host call,
          d.entry.blit.source.FitsBlocks c view frame (t.inputRegion .placement view)) ∧
        (t.needsCanvas view = false → ∀ d ∈ t.mains host call, ∃ pattern,
          d.entry.blit.pattern = some pattern ∧
            pattern.FitsBlocks c view frame view.active)) ∧
      (t.TakesMiscoded source overlay →
        (∃ e, (process host source overlay t).1 = .error (.error e)) ∧
          t.dispatches host call = []) := by
  intro t
  have hregular : t.Regular := hs.regular.run host calls
  refine ⟨fun u role view frame blended hsame hreads => ⟨fun surface unit c hdescribed hframe => ?_,
    fun hmiscoded => error_of_miscoded hmiscoded⟩, fun source overlay => ⟨?_, ?_, ?_⟩⟩
  · have hview := hreads.regular (hregular.of_settings hsame)
    exact fitsBlocks_of_describeInput hview hframe hdescribed
  · exact fun c hsource d hd => fitsBlocks_of_mains hregular hsource hd
  · exact fun view frame c hactive hframe =>
      ⟨fun d hd => fitsBlocks_of_placements hregular hactive hframe hd,
        fun hcovers d hd => fitsBlocks_of_pattern hregular hactive hframe hcovers hd⟩
  · exact TakesMiscoded.refused

end Session

namespace Sample

/-- A frame of 128 by 128 pixels in a compressed layout, with eight rows of padding above. -/
def compressedFrame (f : PixelFormat) (modifier : Modifier) (fourcc : Fourcc) (pitch : Nat) :
    Frame where
  width := 128
  height := 128
  format := f
  storage := .buffers ⟨[⟨6, 65536, modifier⟩], [⟨fourcc, [⟨0, 0, pitch⟩]⟩]⟩
  cropTop := 8

/-- The surface of such an overlay, moved below the padding. -/
def compressedSurface (stride : Stride) : Surface :=
  { Surface.ofFormat .rgba 6 with
    readMode := ReadMode.afbc
    rect := Rect.onSurface ⟨0, 8, 128, 128⟩ stride PixelFormat.rgba.surfaceCode }

end Sample

namespace Session

/-- A source in wide blocks, which do not count the padding, and an overlay in square ones, which
do; and a source that has the fourcc of a linear picture. -/
theorem compressed_inputs_fit_sample :
    let s := Sample.session
    let view : View := { pad := Sample.overlayPad, active := ⟨0, 0, 128, 128⟩ }
    let source := Sample.compressedFrame .nv12 (.rfbc Modifier.rfbcBlock64x4) .yuv420Bits8 192
    let frame := Sample.compressedFrame .rgba .afbcOutput PixelFormat.rgba.fourcc 512
    let miscoded := Sample.compressedFrame .nv12 .afbcOutput PixelFormat.nv12.fourcc 192
    let call : Call := .process source (some frame)
    let surface := Sample.compressedSurface ⟨128, 144⟩
    Started Sample.host s ∧ source.Compressed .rfbc ∧ frame.Compressed .afbc ∧
      (s.mains Sample.host call).map (fun d => (d.entry.blit.source.rect.region,
        d.entry.blit.source.stride)) = [(⟨0, 0, 128, 128⟩, ⟨128, 128⟩)] ∧
      (∀ d ∈ s.mains Sample.host call,
        d.entry.blit.source.FitsBlocks .rfbc s.main source s.main.active ∧
          ∃ pattern, d.entry.blit.pattern = some pattern ∧
            pattern.FitsBlocks .afbc view frame view.active) ∧
      s.describeInput .placement view frame false = (.ok surface, s.unit) ∧
      surface.FitsBlocks .afbc view frame (s.inputRegion .placement view) ∧
      Miscoded s.main miscoded ∧
      (∃ e, (s.describeInput .source s.main miscoded false).1 = .error e) ∧
      ∃ e, (process Sample.host miscoded none s).1 = .error (.error e) := by
  intro s view source frame miscoded call surface
  have hsource : source.Compressed .rfbc := ⟨by decide, by decide⟩
  have hframe : frame.Compressed .afbc := ⟨by decide, by decide⟩
  have hmiscoded : Miscoded s.main miscoded := ⟨.afbc, _, by decide, rfl, by decide⟩
  have hactive : s.activeOverlay? (some frame) = some (view, frame) := rfl
  have hsurface : s.describeInput .placement view frame false = (.ok surface, s.unit) :=
    Prod.ext (ok_of_toOption (by decide +kernel)) (by decide +kernel)
  obtain ⟨hinputs, hcalls⟩ := compressed_inputs_fit Sample.started []
  obtain ⟨hmains, hoverlays, -⟩ := hcalls source (some frame)
  obtain ⟨-, hpatterns⟩ := hoverlays view frame .afbc hactive hframe
  obtain ⟨hdescribed, -⟩ := hinputs s .placement view frame false rfl (.placement rfl)
  obtain ⟨-, hrefused⟩ := hinputs s .source s.main miscoded false rfl .source
  obtain ⟨-, -, hfails⟩ := hcalls miscoded none
  exact ⟨Sample.started, hsource, hframe, by decide +kernel,
    fun d hd => ⟨hmains .rfbc hsource d hd, hpatterns (by decide) d hd⟩,
    hsurface, hdescribed surface s.unit .afbc hsurface hframe, hmiscoded, hrefused hmiscoded,
    (hfails (.inl hmiscoded)).1⟩

/-- A pitch beyond a word has room for the pad, but its low bits do not. -/
theorem wide_pitch_leaves_few_columns :
    let s := Sample.session
    let view : View := { pad := Sample.overlayPad, active := ⟨0, 0, 128, 128⟩ }
    let frame := Sample.compressedFrame .rgba .afbcOutput PixelFormat.rgba.fourcc 4294967360
    let surface := Sample.compressedSurface ⟨16, 144⟩
    Started Sample.host s ∧ s.Reads .pattern view ∧ frame.Compressed .afbc ∧
      (∃ pitch, frame.pitch? = some pitch ∧
        view.pad.width * view.format.bytesPerPixel ≤ (pitch : Rat)) ∧
      s.describeInput .pattern view frame false = (.ok surface, s.unit) ∧
      surface.stride.width < surface.rect.x + surface.rect.width := by
  intro s view frame surface
  refine ⟨Sample.started, .pattern rfl, ⟨by decide, by decide⟩, ⟨_, rfl, by decide +kernel⟩, ?_,
    by decide⟩
  exact Prod.ext (ok_of_toOption (by decide +kernel)) (by decide +kernel)

end Session
end Blitter
