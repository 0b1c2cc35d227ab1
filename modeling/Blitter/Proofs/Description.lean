import Blitter.Proofs.Outcome

/-!
# Described frames

What it takes for a frame to be described, and what its surface then says: which buffer it names,
how the pixels are stored and how the blit ends.
-/
namespace Blitter

/-- A frame is an allocated one: the same picture in the same buffer, stamped as the source and
without padding above. -/
structure Frame.IsAllocated (f allocated source : Frame) : Prop where
  width : f.width = allocated.width
  height : f.height = allocated.height
  format : f.format = allocated.format
  fd : f.fd? = allocated.fd?
  pts : f.pts = source.pts
  cropTop : f.cropTop = 0

/-- How the frame's first object is compressed. -/
def Frame.compression? (f : Frame) : Option Compression :=
  (f.layout?.bind (·.objects.head?)).bind (Compression.ofModifier? ·.modifier)

/-- Pixels in the rows of a compressed picture, by the pitch of its first plane. -/
def Layer.rowPixels? (l : Layer) (f : PixelFormat) : Option Int :=
  pitchToPixels? f.bytesPerPixel (l.planes.head?.elim 0 fun plane => signed32 plane.pitch)

/-- Strides of a compressed input with so many pixels in its rows: whole blocks, with room for the
decoder's padding. -/
def Compression.stride (c : Compression) (view : View) (frame : Frame) (pixels : Int) : Stride where
  width :=
    if pixels % c.blocks.width = 0 then pixels
    else alignUp (signed32 view.pad.width) c.blocks.width
  height := alignUp (signed32 view.pad.height + c.rowsAbove frame) c.blocks.height

theorem Compression.readMode_ne_linear (c : Compression) : c.readMode ≠ ReadMode.linear := by
  cases c <;> decide

namespace Session

variable {s : Session} {role : Role} {view : View} {frame : Frame}

/-! ## Inputs -/

/-- The buffer of an input is its frame's first object. Linear ones have strides of their own, and
compressed ones are not read by a legacy core other than Pro hardware's. -/
theorem inputBuffer_ok {buffer : InputBuffer} (h : s.inputBuffer view frame = .ok buffer) :
    frame.fd? = some buffer.fd ∧ 0 ≤ buffer.fd ∧ buffer.compression = frame.compression? ∧
      (buffer.compression = none →
        frame.layout?.bind (·.stride? view.format) = some buffer.stride) ∧
      (buffer.compression ≠ none →
        buffer.stride = ⟨0, 0⟩ ∧ (s.hardware.pro = false → s.unit.isLegacy = false)) := by
  unfold inputBuffer at h
  split at h
  · next layout hlayout =>
    split at h
    · next object hobject =>
      have hfd : frame.fd? = some object.fd := by
        simp [Frame.fd?, hlayout, BufferLayout.fd?, hobject]
      have hframe : frame.compression? = Compression.ofModifier? object.modifier := by
        simp [Frame.compression?, hlayout, hobject]
      dsimp only at h
      split at h
      · cases h
      · next hneg =>
        have hpos : 0 ≤ object.fd := by omega
        cases hc : Compression.ofModifier? object.modifier with
        | none =>
          simp only [hc] at h
          split at h
          · next stride hstride =>
            cases h
            refine ⟨hfd, hpos, (hframe.trans hc).symm, fun _ => ?_, fun hne => absurd rfl hne⟩
            rw [hlayout]
            exact hstride
          · cases h
        | some c =>
          simp only [hc] at h
          split at h
          · cases h
          · next hlegacy =>
            cases h
            exact ⟨hfd, hpos, (hframe.trans hc).symm, nofun,
              fun _ => ⟨rfl, by simpa using hlegacy⟩⟩
    · cases h
  · cases h

/-- What a compressed input is described as, and that its layout has to have a pitch and the
fourcc of the format for it. -/
theorem compressedSurface_eq_ok_iff {c : Compression} {layout : BufferLayout}
    {surface result : Surface} :
    compressedSurface c view frame layout surface = .ok result ↔
      ∃ layer pixels, layout.layers.head? = some layer ∧
        c.fourcc? view.format = some layer.fourcc ∧
        layer.rowPixels? view.format = some pixels ∧
        result = { surface with
          readMode := c.readMode
          rect := { surface.rect with
            y := surface.rect.y + c.rowsAbove frame
            strideX := (c.stride view frame pixels).width
            strideY := (c.stride view frame pixels).height } } := by
  unfold compressedSurface Layer.rowPixels?
  constructor
  · intro h
    dsimp only at h
    split at h
    · next layer hlayer =>
      split at h
      · cases h
      · next hfourcc =>
        split at h
        · next pixels hpixels =>
          cases h
          exact ⟨layer, pixels, hlayer, Decidable.not_not.1 hfourcc, hpixels, rfl⟩
        · cases h
    · cases h
  · rintro ⟨layer, pixels, hlayer, hfourcc, hpixels, rfl⟩
    have hspelled : ¬c.fourcc? view.format ≠ some layer.fourcc := not_not_intro hfourcc
    simp only [hlayer, if_neg hspelled, hpixels]
    rfl

/-- Without a pitch that makes up a pixel, a compressed input is refused. -/
theorem compressedSurface_of_no_pixels {c : Compression} {layout : BufferLayout} {layer : Layer}
    (hlayer : layout.layers.head? = some layer) (hfourcc : c.fourcc? view.format = some layer.fourcc)
    (hpixels : layer.rowPixels? view.format = none) (surface : Surface) :
    compressedSurface c view frame layout surface = .error (.invalidFrame .compressedPitch) := by
  have hspelled : ¬c.fourcc? view.format ≠ some layer.fourcc := not_not_intro hfourcc
  rw [Layer.rowPixels?] at hpixels
  simp only [compressedSurface, hlayer, if_neg hspelled, hpixels]
  rfl

/-- What a described input has gone through: its buffer was found, and the unit held against its
strides. -/
theorem describeInput_eq_ok_iff {blended : Bool} {surface : Surface} {unit : UnitState} :
    s.describeInput role view frame blended = (.ok surface, unit) ↔
      ∃ buffer, s.inputBuffer view frame = .ok buffer ∧
        s.unit.revalidate s.hardware view s.output buffer.stride.width buffer.stride.height
          (buffer.compression = some .afbc) = (.ok (), unit) ∧
        (buffer.compression.elim (.ok (s.linearSurface role view buffer blended)) fun c =>
          compressedSurface c view frame buffer.layout
            (s.linearSurface role view buffer blended)) = .ok surface := by
  unfold describeInput
  split
  · next e he => simp [he]
  · next buffer hbuffer =>
    simp only [hbuffer, Except.ok.injEq, exists_eq_left']
    split
    · next e unit' hunit => simp [hunit]
    · next unit' hunit =>
      rw [hunit]
      cases hc : buffer.compression with
      | none => simp [and_comm]
      | some c => simp [and_comm]

/-- An input that is described has a buffer, has passed the unit's limits and has a surface that
names its first object. -/
theorem describeInput_ok {blended : Bool} {surface : Surface} {unit : UnitState}
    (h : s.describeInput role view frame blended = (.ok surface, unit)) :
    ∃ buffer rect, s.inputBuffer view frame = .ok buffer ∧
      s.unit.revalidate s.hardware view s.output buffer.stride.width buffer.stride.height
        (buffer.compression = some .afbc) = (.ok (), unit) ∧
      (∀ c ∈ buffer.compression, (c.fourcc? view.format).isSome) ∧
      surface = { s.linearSurface role view buffer blended with
        readMode := buffer.compression.elim ReadMode.linear (·.readMode), rect := rect } := by
  obtain ⟨buffer, hbuffer, hunit, hsurface⟩ := describeInput_eq_ok_iff.1 h
  cases hc : buffer.compression with
  | none =>
    rw [hc] at hsurface
    cases hsurface
    exact ⟨buffer, _, hbuffer, hunit, by simp [hc], by rw [hc]; rfl⟩
  | some c =>
    rw [hc] at hsurface
    obtain ⟨layer, pixels, -, hfourcc, -, hresult⟩ := compressedSurface_eq_ok_iff.1 hsurface
    refine ⟨buffer, _, hbuffer, hunit, ?_, by rw [hresult, hc]; rfl⟩
    intro c' hc'
    cases hc.symm.trans hc'
    rw [hfourcc]
    rfl

/-- An input that is described lies in the buffer that its surface names. -/
theorem describeInput_fd {blended : Bool} {surface : Surface} {unit : UnitState}
    (h : s.describeInput role view frame blended = (.ok surface, unit)) :
    frame.fd? = some surface.fd := by
  obtain ⟨buffer, rect, hbuffer, -, -, rfl⟩ := describeInput_ok h
  exact (inputBuffer_ok hbuffer).1

/-! ## Outputs -/

theorem allocatedBuffer_ok {layout : BufferLayout} {fd : Int}
    (h : allocatedBuffer frame = .ok (layout, fd)) :
    frame.layout? = some layout ∧ layout.fd? = some fd ∧ 0 ≤ fd := by
  unfold allocatedBuffer at h
  split at h
  · next layout' hlayout =>
    split at h
    · next fd' hfd =>
      cases h
      obtain ⟨hsome, hpos⟩ := Option.filter_eq_some_iff.1 hfd
      exact ⟨hlayout, hsome, by simpa using hpos⟩
    · cases h
  · cases h

/-- Tagging a layout as compressed keeps its buffer. -/
theorem fd?_compressed (layout : BufferLayout) (fourcc : Fourcc) (pitch : Nat) :
    (layout.compressed fourcc pitch).fd? = layout.fd? := by
  rcases layout with ⟨_ | ⟨object, rest⟩, layers⟩ <;> rfl

theorem compressOutput_ok {output : View} {stride : Stride} {fourcc : Fourcc}
    {layout : BufferLayout} {frame' : Frame} {surface surface' : Surface}
    (h : compressOutput output stride fourcc layout frame surface = .ok (frame', surface')) :
    ∃ pitch, pixelsToPitch? output.format.bytesPerPixel stride.width = some pitch ∧
      frame' = { frame with storage := .buffers (layout.compressed fourcc pitch.toNat) } ∧
      surface' = surface.compressed stride := by
  unfold compressOutput at h
  split at h
  · cases h
  · next pitch hpitch =>
    cases h
    exact ⟨pitch, hpitch, rfl, rfl⟩

/-- Compressed output is wanted, and the unit in force writes it. -/
def WritesCompressed (s : Session) : Prop := s.afbcOutput = true ∧ s.unit.isLegacy = false

/-- How an output in this layout is written: the frame and its surface as they are, the latter with
given strides, or both turned to the compressed layout. The flag tells whether the session goes on
writing compressed frames. -/
inductive Written (s : Session) (layout : BufferLayout) (plain : Frame)
    (linear : Stride → Surface) : Frame → Surface → Bool → Prop
  | linear {stride : Stride} (stated : layout.stride? s.output.format = some stride)
    (plainly : s.WritesCompressed → compressedOutputFourcc? s.output = none) :
    Written s layout plain linear plain (linear stride) false
  /-- Compressed output is given up on a layout that states no strides. -/
  | unstated (unstated : layout.stride? s.output.format = none) (wanted : s.WritesCompressed)
    (infeasible : compressedOutputFourcc? s.output = none) :
    Written s layout plain linear plain (linear ⟨0, 0⟩) false
  | compressed {stride : Stride} {fourcc : Fourcc} {pitch : Int} (wanted : s.WritesCompressed)
    (feasible : compressedOutputFourcc? s.output = some fourcc)
    (pitched : pixelsToPitch? s.output.format.bytesPerPixel
      (compressedOutputStride s.output).width = some pitch) :
    Written s layout plain linear
      { plain with storage := .buffers (layout.compressed fourcc pitch.toNat) }
      ((linear stride).compressed (compressedOutputStride s.output)) true

/-- An output that is described is an allocated frame, written in one of these ways. -/
theorem describeOutput_cases {allocated source : Frame} {surface : Surface} {afbc : Bool}
    (h : s.describeOutput allocated source = (.ok (frame, surface), afbc)) :
    ∃ layout fd color word, allocated.layout? = some layout ∧ layout.fd? = some fd ∧ 0 ≤ fd ∧
      s.Written layout { allocated.withTagsOf source with color := color }
        (s.linearOutput · fd word) frame surface afbc := by
  unfold describeOutput at h
  dsimp only at h
  split at h
  · cases h
  · next layout fd hbuffer =>
    obtain ⟨hlayout, hfd, hpos⟩ := allocatedBuffer_ok hbuffer
    split at h
    · cases h
    · next hstride =>
      split at h
      · next hafbc =>
        have hwanted : s.WritesCompressed := by simpa [WritesCompressed] using hafbc
        split at h
        · next hfourcc =>
          cases h
          rcases hstated : layout.stride? s.output.format with _ | stride
          · exact ⟨layout, fd, _, _, hlayout, hfd, hpos, .unstated hstated hwanted hfourcc⟩
          · exact ⟨layout, fd, _, _, hlayout, hfd, hpos, .linear hstated fun _ => hfourcc⟩
        · next fourcc hfourcc =>
          obtain ⟨hcompressed, rfl⟩ := Prod.mk.inj h
          obtain ⟨pitch, hpitch, rfl, rfl⟩ := compressOutput_ok hcompressed
          exact ⟨layout, fd, _, _, hlayout, hfd, hpos, .compressed hwanted hfourcc hpitch⟩
      · next hafbc =>
        have hlinear : ¬s.WritesCompressed := by simpa [WritesCompressed] using hafbc
        cases h
        rcases hstated : layout.stride? s.output.format with _ | stride
        · exact absurd (Bool.eq_false_iff.2 hafbc) (hstride hstated)
        · exact ⟨layout, fd, _, _, hlayout, hfd, hpos,
            .linear hstated fun hwanted => absurd hwanted hlinear⟩

/-- An output that is described is the allocated frame with the tags of the source. Its surface
names the same buffer, hands out a fence and is compressed where that is wanted and can be done. -/
theorem describeOutput_ok {allocated source : Frame} {surface : Surface} {afbc : Bool}
    (h : s.describeOutput allocated source = (.ok (frame, surface), afbc)) :
    frame.IsAllocated allocated source ∧ frame.fd? = some surface.fd ∧
      surface.completion = .fenced ∧
      surface.readMode = (if afbc then ReadMode.afbc else ReadMode.linear) ∧
      (afbc = true ↔ s.afbcOutput = true ∧ s.unit.isLegacy = false ∧
        (compressedOutputFourcc? s.output).isSome = true) := by
  obtain ⟨layout, fd, color, word, hlayout, hfd, -, hwritten⟩ := describeOutput_cases h
  have hallocated : allocated.fd? = some fd := by
    rw [Frame.fd?, hlayout]
    exact hfd
  cases hwritten with
  | linear hstated hplainly =>
    refine ⟨⟨rfl, rfl, rfl, rfl, rfl, rfl⟩, hallocated, rfl, rfl, nofun, ?_⟩
    rintro ⟨hwanted, hmodern, hfeasible⟩
    rw [hplainly ⟨hwanted, hmodern⟩] at hfeasible
    cases hfeasible
  | unstated hunstated hwanted hinfeasible =>
    refine ⟨⟨rfl, rfl, rfl, rfl, rfl, rfl⟩, hallocated, rfl, rfl, ?_⟩
    simp [hinfeasible]
  | @compressed stride fourcc pitch hwanted hfeasible hpitch =>
    have hkept : (layout.compressed fourcc pitch.toNat).fd? = some fd :=
      (fd?_compressed _ _ _).trans hfd
    refine ⟨⟨rfl, rfl, rfl, hkept.trans hallocated.symm, rfl, rfl⟩, hkept, rfl, rfl, ?_⟩
    simpa [hfeasible] using And.intro hwanted.1 hwanted.2

theorem describeAnswer_ok {answer : Except Error Frame} {source : Frame} {surface : Surface}
    {afbc : Bool} (h : s.describeAnswer answer source = (.ok (frame, surface), afbc)) :
    ∃ allocated, answer = .ok allocated ∧
      s.describeOutput allocated source = (.ok (frame, surface), afbc) := by
  cases answer with
  | error e => cases h
  | ok allocated => exact ⟨allocated, rfl, h⟩

/-- A canvas that is described is an allocated frame, written without compression on the cores in
force by a blit that blocks and goes before others. -/
theorem describeCanvas_ok {allocated overlay : Frame} {surface : Surface}
    (h : s.describeCanvas view allocated overlay = .ok (frame, surface)) :
    frame.fd? = some surface.fd ∧ surface.completion = .blocking ∧
      surface.readMode = ReadMode.linear ∧ surface.core = s.unit.core ∧ surface.priority = 1 := by
  unfold describeCanvas at h
  obtain ⟨⟨layout, fd⟩, hbuffer, h⟩ := ok_of_bind h
  obtain ⟨hlayout, hfd, -⟩ := allocatedBuffer_ok hbuffer
  dsimp only at h
  split at h
  · cases h
    exact ⟨by simp [Frame.fd?, hlayout, hfd, Surface.ofFormat], rfl, rfl, rfl, rfl⟩
  · cases h

end Session
end Blitter
