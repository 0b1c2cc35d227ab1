import Mathlib.Order.Bounds.Basic
import Blitter.Proofs.Addressable

/-!
# Compressed outputs

An output and its surface are turned to the compressed layout together. The tag of the frame and the
mode that the hardware is told therefore agree, and so do the pitch, the strides and the size of the
pad. Otherwise the frame is as it was allocated, and its surface has the strides that the layout
states. Only where compression is given up on a frame without strides, the surface has none either.
-/
namespace Blitter

theorem isLeast_alignUp {v block : Int} (hv : 0 ≤ v) (hb : 0 < block) :
    IsLeast {n | block ∣ n ∧ v ≤ n} (alignUp v block) :=
  ⟨⟨dvd_alignUp v block, le_alignUp hv hb⟩, fun _ hn => alignUp_le hv hb hn.1 hn.2⟩

/-- The pool grants frames in the linear layout of the request. -/
def Host.GrantsLinear (host : Host) : Prop :=
  ∀ requests pad frame, host.allocate (requests ++ [pad]) = .ok frame → ∃ fd size,
    frame.layout? = some (.linear pad.format pad.width pad.height fd size)

/-- The frame has one object, tagged as compressed, and one layer with one plane, whose rows are as
long as the surface's in bytes. -/
structure Frame.TaggedAs (frame : Frame) (f : PixelFormat) (surface : Surface) : Prop where
  layout : ∃ (size : Nat) (fourcc : Fourcc) (pitch : Nat), f.afbcFourcc? = some fourcc ∧
    8 * (pitch : Int) = surface.stride.width * f.layout.bitsPerPixel ∧
    frame.layout? =
      some ⟨[⟨surface.fd, size, .afbcOutput⟩], [⟨fourcc, [⟨0, 0, pitch⟩]⟩]⟩

/-- Strides of a compressed surface: the least whole blocks that hold the pad. -/
structure Surface.HoldsBlocks (surface : Surface) (output : View) : Prop where
  width : IsLeast {n : Int | 16 ∣ n ∧ output.pad.width ≤ n} surface.stride.width
  height : IsLeast {n : Int | 16 ∣ n ∧ output.pad.height ≤ n} surface.stride.height
  tenBit : output.surfaceCode = .ycbcr420sp10 ∨ output.surfaceCode = .ycbcr422sp10 →
    64 ∣ surface.stride.width

/-! ## Layouts -/

/-- Linear layouts have a first plane, which starts the object. -/
theorem BufferLayout.compressed_linear (f : PixelFormat) (width height : Nat) (fd : Int)
    (size : Nat) (fourcc : Fourcc) (pitch : Nat) :
    (linear f width height fd size).compressed fourcc pitch =
      ⟨[⟨fd, size, .afbcOutput⟩], [⟨fourcc, [⟨0, 0, pitch⟩]⟩]⟩ := by
  have hplanes : f.layout.planes ≠ 0 := by cases f <;> decide
  obtain ⟨n, hn⟩ := Nat.exists_eq_succ_of_ne_zero hplanes
  simp [linear, compressed, hn, List.range_succ_eq_map]

theorem Frame.compression?_eq {frame : Frame} {layout : BufferLayout} {object : BufferObject}
    (hlayout : frame.layout? = some layout) (hobject : layout.objects.head? = some object) :
    frame.compression? = Compression.ofModifier? object.modifier := by
  simp [Frame.compression?, hlayout, hobject]

theorem ofModifier?_linear : Compression.ofModifier? .linear = none := by decide

theorem ofModifier?_afbcOutput : Compression.ofModifier? .afbcOutput = some .afbc := by decide

theorem Frame.TaggedAs.compression? {frame : Frame} {f : PixelFormat} {surface : Surface}
    (h : frame.TaggedAs f surface) : frame.compression? = some .afbc := by
  obtain ⟨size, fourcc, pitch, -, -, hlayout⟩ := h.layout
  exact (Frame.compression?_eq hlayout rfl).trans ofModifier?_afbcOutput

namespace Session

variable {host : Host} {s : Session} {frame : Frame}

/-! ## Strides and pitches -/

/-- What the fourcc of a compressed output says about its format and its strides. -/
theorem compressedOutputFourcc?_eq_some {output : View} {fourcc : Fourcc}
    (h : compressedOutputFourcc? output = some fourcc) :
    output.format.afbcFourcc? = some fourcc ∧
      (output.surfaceCode = .ycbcr420sp10 ∨ output.surfaceCode = .ycbcr422sp10 →
        64 ∣ (compressedOutputStride output).width) := by
  obtain ⟨fourcc', hfourcc, h⟩ := Option.bind_eq_some_iff.1 h
  dsimp only at h
  split at h
  · cases h
  · next hrows =>
    cases h
    refine ⟨hfourcc, fun htenBit => Int.dvd_of_emod_eq_zero ?_⟩
    simpa [htenBit] using hrows

/-- The pitch of a compressed output is exact. -/
theorem compressedOutput_fills {output : View} (h : output.pad.Moderate) {pitch : Int}
    (hpitch : pixelsToPitch? output.format.bytesPerPixel (compressedOutputStride output).width =
      some pitch) : Fills output.format (compressedOutputStride output).width pitch := by
  have hwidth := h.width
  have hlt := alignUp_lt hwidth.1.le (show 0 < Blocks.afbc.width by decide)
  have hblock : Blocks.afbc.width = 16 := rfl
  have hpos : 0 < (compressedOutputStride output).width :=
    (alignUp_pos_iff (by decide)).2 hwidth.1
  have hfills := Fills.of_blocks output.format (dvd_alignUp _ _) hpos (by
    change alignUp _ Blocks.afbc.width < _
    omega)
  rwa [Option.some.inj (hfills.pixelsToPitch?_eq.symm.trans hpitch)] at hfills

/-- Strides of a compressed output are the least that hold its pad. -/
theorem isLeast_compressedOutputStride {output : View} (h : output.pad.Moderate)
    (hwords : output.pad.width < 2 ^ 32 ∧ output.pad.height < 2 ^ 32) :
    let stride := compressedOutputStride output
    IsLeast {n : Int | 16 ∣ n ∧ output.pad.width ≤ n} stride.width ∧
      IsLeast {n : Int | 16 ∣ n ∧ output.pad.height ≤ n} stride.height := by
  intro stride
  have hwidth := signed32_of_pos hwords.1 h.width.1
  have hheight := signed32_of_pos hwords.2 h.height.1
  have hleastWidth := isLeast_alignUp h.width.1.le (show 0 < Blocks.afbc.width by decide)
  have hleastHeight := isLeast_alignUp h.height.1.le (show 0 < Blocks.afbc.height by decide)
  rw [hwidth] at hleastWidth
  rw [hheight] at hleastHeight
  constructor
  · simp only [stride, compressedOutputStride, hwidth]
    exact hleastWidth
  · simp only [stride, compressedOutputStride, hheight]
    exact hleastHeight

/-! ## Outputs -/

/-- The tag of a described output and its surface, where the pool grants linear layouts. -/
theorem describeOutput_tags {allocated source : Frame} {surface : Surface} {afbc : Bool}
    (h : s.describeOutput allocated source = (.ok (frame, surface), afbc))
    (hmoderate : s.WritesCompressed → s.output.pad.Moderate)
    (hwords : s.output.pad.width < 2 ^ 32 ∧ s.output.pad.height < 2 ^ 32)
    {fd : Int} {size : Nat} (hlinear : allocated.layout? = some
      (.linear s.output.pad.format s.output.pad.width s.output.pad.height fd size)) :
    (surface.readMode = ReadMode.afbc ∧ frame.TaggedAs s.output.format surface ∧
      surface.HoldsBlocks s.output) ∨
    (frame.compression? = none ∧ surface.readMode = ReadMode.linear ∧
      frame.layout? = allocated.layout? ∧
      (frame.layout?.bind (·.stride? s.output.format) = some surface.stride ↔
        ¬s.GivesUp allocated)) := by
  obtain ⟨layout, fd', color, word, hlayout, hfd, -, hwritten⟩ := describeOutput_cases h
  cases hlinear.symm.trans hlayout
  cases hfd
  have huntagged : allocated.compression? = none :=
    (Frame.compression?_eq hlayout rfl).trans ofModifier?_linear
  cases hwritten with
  | @linear stride hstated hplainly =>
    refine .inr ⟨huntagged, rfl, rfl, iff_of_true ?_ fun hgivesUp => ?_⟩
    · change allocated.layout?.bind _ = _
      rw [hlayout]
      exact hstated
    · have hunstated := hgivesUp.unstated
      rw [hlayout, Option.bind_some] at hunstated
      cases hunstated.symm.trans hstated
  | unstated hunstated hwanted hinfeasible =>
    have hnone : allocated.layout?.bind (·.stride? s.output.format) = none := by
      rw [hlayout]
      exact hunstated
    refine .inr ⟨huntagged, rfl, rfl, iff_of_false ?_ (not_not_intro ⟨hwanted, hinfeasible, hnone⟩)⟩
    change ¬allocated.layout?.bind _ = _
    rw [hnone]
    simp
  | @compressed stride fourcc pitch hwanted hfeasible hpitch =>
    obtain ⟨hfourcc, htenBit⟩ := compressedOutputFourcc?_eq_some hfeasible
    have hfills := compressedOutput_fills (hmoderate hwanted) hpitch
    have hcompressed := BufferLayout.compressed_linear s.output.pad.format s.output.pad.width
      s.output.pad.height fd size fourcc pitch.toNat
    obtain ⟨hwidth, hheight⟩ := isLeast_compressedOutputStride (hmoderate hwanted) hwords
    have hpitched : 8 * (pitch.toNat : Int) =
        (compressedOutputStride s.output).width * s.output.format.layout.bitsPerPixel := by
      rw [Int.toNat_of_nonneg hfills.length.1.le, hfills.bits]
    exact .inl ⟨rfl, ⟨size, fourcc, _, hfourcc, hpitched, congrArg some hcompressed⟩,
      hwidth, hheight, htenBit⟩

/-- In every state that a run reaches, the frame that a main blit writes is tagged as compressed
exactly if the hardware is told so, and then its layout, the strides and the size of the pad agree.
Otherwise it is as allocated, and the strides are those of its layout unless compression is given up
on a frame that states none. -/
theorem tagging_agrees_iff {inputs : List Pad} {output : Pad} {p : Parameters} {o : Options}
    (hpool : host.GrantsLinear) (h : create host inputs output p o = .ok s)
    (hwords : output.width < 2 ^ 32 ∧ output.height < 2 ^ 32) (calls : List Call) (source : Frame)
    (overlay : Option Frame) :
    let t := s.run host calls
    let c : Call := .process source overlay
    (t.after host c).mainBlits = t.mainBlits ++ (t.attempt? host c).toList.map (·.entry) ∧
    ∀ issued, t.attempt? host c = some issued →
      let frame := issued.frame
      let surface := issued.entry.blit.destination
      (frame.compression? = some .afbc ↔ surface.readMode = ReadMode.afbc) ∧
      (frame.compression? = some .afbc →
        frame.TaggedAs s.output.format surface ∧ surface.HoldsBlocks s.output) ∧
      (frame.compression? ≠ some .afbc → surface.readMode = ReadMode.linear ∧ ∃ allocated,
        host.allocate (t.pipeline.journal.requests ++ [t.output.pad]) = .ok allocated ∧
        frame.layout? = allocated.layout? ∧
        (frame.layout?.bind (·.stride? s.output.format) = some surface.stride ↔
          ¬t.OutputGivenUp host source)) := by
  intro t c
  have hcarries := (run_accounts host (create_ok h).1.carries calls).carries
  refine ⟨(call_accounts host hcarries c).blits, fun issued hissued => ?_⟩
  intro frame surface
  obtain ⟨u, v, -, -, hl, -⟩ := prepared_of_attempt? hissued
  obtain ⟨allocated, described, hallocated, hdescribed, hdestination⟩ := hl.written
  have houtput : (t.afterSource source).output = s.output := output_run host s calls
  obtain ⟨fd, size, hlinear⟩ := hpool _ _ _ hallocated
  have htags := describeOutput_tags hdescribed
    (fun hwrites => houtput ▸ moderate_of_writesCompressed h calls hwrites)
    (by rw [houtput, (output_of_create h).1]; exact hwords) hlinear
  rw [houtput, ← outputGivenUp_iff hallocated] at htags
  change surface = { described with core := v.unit.core } at hdestination
  rcases htags with ⟨hmode, htagged, hholds⟩ | ⟨huntagged, hmode, hlayout, hstride⟩
  · have hcompression : frame.compression? = some .afbc := htagged.compression?
    have hcompressed : surface.readMode = ReadMode.afbc := by rw [hdestination, hmode]
    refine ⟨iff_of_true hcompression hcompressed, fun _ => ?_, fun hne => absurd hcompression hne⟩
    rw [hdestination]
    exact ⟨⟨htagged.layout⟩, hholds.width, hholds.height, hholds.tenBit⟩
  · have hlinearly : surface.readMode = ReadMode.linear := by rw [hdestination, hmode]
    have hnone : frame.compression? ≠ some .afbc := by
      change issued.load.destination.frame.compression? ≠ _
      rw [huntagged]
      simp
    refine ⟨iff_of_false hnone ?_, fun h => absurd h hnone, fun _ => ⟨hlinearly, allocated,
      hallocated, hlayout, ?_⟩⟩
    · rw [hlinearly]
      decide
    · rw [hdestination]
      exact hstride

end Session

/-- Both hosts grant linear layouts. -/
theorem Sample.grantsLinear : host.GrantsLinear ∧ unsizedHost.GrantsLinear := by
  constructor
  · intro requests pad frame h
    simp only [host, List.getLast?_concat] at h
    cases h
    exact ⟨_, _, rfl⟩
  · intro requests pad frame h
    simp only [unsizedHost, List.getLast?_concat] at h
    cases h
    exact ⟨_, _, rfl⟩

namespace Session

/-- A compressed output, and a linear one for which compression is given up. -/
theorem tagging_agrees_iff_sample :
    let c : Call := .process (Sample.frame 1) none
    let compressed := Sample.session.attempt? Sample.host c
    let linear := Sample.packedSession.attempt? Sample.host c
    create Sample.host [Sample.mainPad, Sample.overlayPad] Sample.mainPad { alpha := 255 }
        { depth := 1, afbc := true } = .ok Sample.session ∧
      compressed.isSome = true ∧
      (∀ issued, compressed = some issued →
        (issued.frame.compression? = some .afbc ↔
          issued.entry.blit.destination.readMode = ReadMode.afbc)) ∧
      compressed.map (·.frame.compression?) = some (some .afbc) ∧
      create Sample.host [Sample.mainPad] Sample.packedPad {} { depth := 1, afbc := true } =
        .ok Sample.packedSession ∧
      (∀ issued, linear = some issued →
        (issued.frame.compression? = some .afbc ↔
          issued.entry.blit.destination.readMode = ReadMode.afbc)) ∧
      linear.map (·.entry.blit.destination.stride) = some ⟨128, 288⟩ := by
  intro c compressed linear
  have hcompressed : create Sample.host [Sample.mainPad, Sample.overlayPad] Sample.mainPad
      { alpha := 255 } { depth := 1, afbc := true } = .ok Sample.session :=
    ok_of_toOption (by decide +kernel)
  have hlinear : create Sample.host [Sample.mainPad] Sample.packedPad {}
      { depth := 1, afbc := true } = .ok Sample.packedSession := ok_of_toOption (by decide +kernel)
  refine ⟨hcompressed, by decide +kernel, fun issued hissued => ?_, by decide +kernel, hlinear,
    fun issued hissued => ?_, by decide +kernel⟩
  · exact ((tagging_agrees_iff Sample.grantsLinear.1 hcompressed (by decide) [] _ _).2 issued
      hissued).1
  · exact ((tagging_agrees_iff Sample.grantsLinear.1 hlinear (by decide) [] _ _).2 issued
      hissued).1

/-- A linear output whose surface has no strides, and whose layout states none. -/
theorem strides_disagree_without_size :
    let c : Call := .process (Sample.frame 1) none
    let issued := Sample.packedSession.attempt? Sample.unsizedHost c
    Sample.unsizedHost.GrantsLinear ∧ Started Sample.unsizedHost Sample.packedSession ∧
      issued.map (fun o => (o.entry.isAccepted, o.frame.compression?,
        o.entry.blit.destination.stride, o.frame.layout?.bind (·.stride? .uyvy))) =
          some (true, none, ⟨0, 0⟩, none) :=
  ⟨Sample.grantsLinear.2, Sample.packedStarted, by decide +kernel⟩

end Session
end Blitter
