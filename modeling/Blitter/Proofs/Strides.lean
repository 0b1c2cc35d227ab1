import Blitter.Proofs.Description
import Blitter.Proofs.Rounding

/-!
# Strides of described frames

Where the strides of a surface come from. A linear layout states them, and only positive ones count.
Those of a compressed input follow from its pitch and its pad, those of a compressed output from the
pad alone. Neither is checked again, so an input with more padding above than rows gets strides that
are not positive, and so does an output that turns out not to be compressed after all.
-/
namespace Blitter

/-- Rows and planes follow one another. -/
def Stride.Positive (s : Stride) : Prop := 0 < s.width ∧ 0 < s.height

instance (s : Stride) : Decidable s.Positive := inferInstanceAs (Decidable (_ ∧ _))

/-- Distances of a surface's rows and planes. -/
def Surface.stride (s : Surface) : Stride := ⟨s.rect.strideX, s.rect.strideY⟩

/-- The hardware can find the pixels of a surface: it has a buffer, and positive strides. -/
structure Surface.Addressable (s : Surface) : Prop where
  fd : 0 ≤ s.fd
  stride : s.stride.Positive

instance (s : Surface) : Decidable s.Addressable :=
  decidable_of_iff (0 ≤ s.fd ∧ s.stride.Positive) ⟨fun h => ⟨h.1, h.2⟩, fun h => ⟨h.1, h.2⟩⟩

namespace Surface

theorem addressable_iff {s : Surface} (h : 0 ≤ s.fd) : s.Addressable ↔ s.stride.Positive :=
  ⟨Addressable.stride, fun hstride => ⟨h, hstride⟩⟩

end Surface

/-! ## Inputs -/

/-- Pixels in the rows of a compressed frame. -/
def Frame.rowPixels? (frame : Frame) (f : PixelFormat) : Option Int :=
  (frame.layout?.bind (·.layers.head?)).bind (·.rowPixels? f)

/-- The strides that follow from an input frame. -/
def inputStride? (view : View) (frame : Frame) : Option Stride :=
  match frame.compression? with
  | none => frame.layout?.bind (·.stride? view.format)
  | some c => (frame.rowPixels? view.format).map (c.stride view frame)

/-- A compressed input whose pad has no rows below the decoder's padding, or no columns that a pitch
in broken blocks could give way to. -/
def Sinks (view : View) (frame : Frame) : Prop :=
  ∃ c, frame.compression? = some c ∧ (signed32 view.pad.height + c.rowsAbove frame ≤ 0 ∨
    signed32 view.pad.width ≤ 0 ∧ ∀ pixels, frame.rowPixels? view.format = some pixels →
      pixels % c.blocks.width ≠ 0)

theorem Compression.blocks_pos (c : Compression) : 0 < c.blocks.width ∧ 0 < c.blocks.height := by
  cases c <;> decide

theorem Layer.rowPixels?_pos {l : Layer} {f : PixelFormat} {pixels : Int}
    (h : l.rowPixels? f = some pixels) : 0 < pixels := by
  unfold Layer.rowPixels? pitchToPixels? at h
  split at h
  · cases h
  · dsimp only at h
    split at h
    · next hpos =>
      cases h
      exact hpos
    · cases h

theorem Frame.rowPixels?_pos {frame : Frame} {f : PixelFormat} {pixels : Int}
    (h : frame.rowPixels? f = some pixels) : 0 < pixels := by
  obtain ⟨layer, -, hlayer⟩ := Option.bind_eq_some_iff.1 h
  exact Layer.rowPixels?_pos hlayer

/-- The strides of an input are positive unless it is compressed and sinks below its pad. -/
theorem inputStride?_positive_iff {view : View} {frame : Frame} {stride : Stride}
    (h : inputStride? view frame = some stride) : stride.Positive ↔ ¬Sinks view frame := by
  unfold inputStride? at h
  cases hc : frame.compression? with
  | none =>
    simp only [hc] at h
    obtain ⟨layout, -, hstated⟩ := Option.bind_eq_some_iff.1 h
    have hpositive : stride.Positive := BufferLayout.stride?_pos hstated
    simp [Sinks, hc, hpositive]
  | some c =>
    simp only [hc] at h
    obtain ⟨pixels, hpixels, rfl⟩ := Option.map_eq_some_iff.1 h
    have hpos := Frame.rowPixels?_pos hpixels
    have hheight : 0 < (c.stride view frame pixels).height ↔
        0 < signed32 view.pad.height + c.rowsAbove frame := alignUp_pos_iff c.blocks_pos.2
    have hwidth : 0 < (c.stride view frame pixels).width ↔
        0 < signed32 view.pad.width ∨ pixels % c.blocks.width = 0 := by
      unfold Compression.stride
      dsimp only
      split
      · next hwhole => simp [hpos, hwhole]
      · next hbroken => simp [alignUp_pos_iff c.blocks_pos.1, hbroken]
    simp only [Stride.Positive, hheight, hwidth, Sinks, hc, hpixels, Option.some.injEq,
      exists_eq_left', forall_eq', not_or, not_and_or, Int.not_le, ne_eq, Decidable.not_not,
      and_comm]

/-- Inputs of positive size sink only where padding above is counted as negative. -/
theorem Sinks.cropTop {view : View} {frame : Frame} (h : Sinks view frame)
    (hwidth : 0 < signed32 view.pad.width) (hheight : 0 < signed32 view.pad.height) :
    frame.compression? = some .afbc ∧ signed32 view.pad.height + signed32 frame.cropTop ≤ 0 := by
  obtain ⟨c, hc, hrows | ⟨hcolumns, -⟩⟩ := h
  · cases c with
    | afbc => exact ⟨hc, hrows⟩
    | rfbc =>
      rw [Compression.rowsAbove] at hrows
      omega
  · omega

namespace Session

variable {s : Session} {role : Role} {view : View} {frame : Frame}

theorem inputBuffer_layout {buffer : InputBuffer} (h : s.inputBuffer view frame = .ok buffer) :
    frame.layout? = some buffer.layout := by
  unfold inputBuffer at h
  split at h
  · next layout hlayout =>
    split at h
    · dsimp only at h
      split at h
      · cases h
      · split at h
        · split at h
          · cases h
            exact hlayout
          · cases h
        · split at h
          · cases h
          · cases h
            exact hlayout
    · cases h
  · cases h

/-- An input that is described has a buffer and the strides that follow from it. -/
theorem describeInput_stride {blended : Bool} {surface : Surface} {unit : UnitState}
    (h : s.describeInput role view frame blended = (.ok surface, unit)) :
    0 ≤ surface.fd ∧ inputStride? view frame = some surface.stride := by
  obtain ⟨buffer, hbuffer, -, hsurface⟩ := describeInput_eq_ok_iff.1 h
  obtain ⟨-, hfd, hcompression, hlinear, -⟩ := inputBuffer_ok hbuffer
  unfold inputStride?
  rw [← hcompression]
  cases hc : buffer.compression with
  | none =>
    rw [hc] at hsurface
    cases hsurface
    exact ⟨hfd, hlinear hc⟩
  | some c =>
    rw [hc] at hsurface
    obtain ⟨layer, pixels, hlayer, -, hpixels, rfl⟩ := compressedSurface_eq_ok_iff.1 hsurface
    have hrow : frame.rowPixels? view.format = some pixels := by
      rw [Frame.rowPixels?, inputBuffer_layout hbuffer, Option.bind_some, hlayer]
      exact hpixels
    simp only [hrow]
    exact ⟨hfd, rfl⟩

/-- An input that is described can be addressed unless it sinks. -/
theorem addressable_of_describeInput {blended : Bool} {surface : Surface} {unit : UnitState}
    (h : s.describeInput role view frame blended = (.ok surface, unit)) :
    surface.Addressable ↔ ¬Sinks view frame := by
  obtain ⟨hfd, hstride⟩ := describeInput_stride h
  rw [Surface.addressable_iff hfd, inputStride?_positive_iff hstride]

/-! ## Outputs -/

/-- A canvas that is described has a buffer and the strides that its layout states. -/
theorem describeCanvas_stride {allocated overlay : Frame} {surface : Surface}
    (h : s.describeCanvas view allocated overlay = .ok (frame, surface)) :
    0 ≤ surface.fd ∧
      allocated.layout?.bind (·.stride? view.format) = some surface.stride := by
  unfold describeCanvas at h
  obtain ⟨⟨layout, fd⟩, hbuffer, h⟩ := ok_of_bind h
  obtain ⟨hlayout, -, hpos⟩ := allocatedBuffer_ok hbuffer
  dsimp only at h
  split at h
  · next stride hstride =>
    cases h
    have hallocated : allocated.layout? = some layout := hlayout
    rw [hallocated]
    exact ⟨hpos, hstride⟩
  · cases h

/-- Compressed output is wanted but cannot be had, and the frame that was allocated for it states no
strides. -/
structure GivesUp (s : Session) (allocated : Frame) : Prop where
  wanted : s.WritesCompressed
  infeasible : compressedOutputFourcc? s.output = none
  unstated : allocated.layout?.bind (·.stride? s.output.format) = none

/-- An output that is described can be addressed unless compression was given up too late, as long
as compressed ones have rows. -/
theorem addressable_of_describeOutput {allocated source : Frame} {surface : Surface} {afbc : Bool}
    (h : s.describeOutput allocated source = (.ok (frame, surface), afbc))
    (hrows : s.WritesCompressed → 0 < signed32 s.output.pad.height) :
    surface.Addressable ↔ ¬s.GivesUp allocated := by
  obtain ⟨layout, fd, color, word, hlayout, -, hpos, hwritten⟩ := describeOutput_cases h
  have hstates : allocated.layout?.bind (·.stride? s.output.format) =
      layout.stride? s.output.format := by rw [hlayout, Option.bind_some]
  cases hwritten with
  | @linear stride hstated hplainly =>
    have hpositive : stride.Positive := BufferLayout.stride?_pos hstated
    refine iff_of_true ⟨hpos, hpositive⟩ fun hgivesUp => ?_
    have hunstated := hgivesUp.unstated
    rw [hstates, hstated] at hunstated
    cases hunstated
  | unstated hunstated hwanted hinfeasible =>
    refine iff_of_false (fun haddressable => ?_) (not_not_intro ⟨hwanted, hinfeasible, ?_⟩)
    · exact lt_irrefl 0 haddressable.stride.1
    · rw [hstates, hunstated]
  | @compressed stride fourcc pitch hwanted hfeasible hpitch =>
    refine iff_of_true ⟨hpos, ?_, ?_⟩ fun hgivesUp => ?_
    · exact pixels_pos_of_pixelsToPitch? hpitch
    · exact (alignUp_pos_iff (by decide)).2 (hrows hwanted)
    · cases hfeasible.symm.trans hgivesUp.infeasible

end Session
end Blitter
