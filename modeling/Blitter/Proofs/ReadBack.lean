import Blitter.Proofs.CompressedOutput
import Blitter.Proofs.LinearStrides

/-!
# Reading compressed frames back

A frame that one session has written compressed can be the source of another session whose pad has
the same size and format. The pitch that the writer stores is exact, so the reader finds the same
pixels in it. They are whole blocks, so the reader takes them as they are, and both align the height
of the pad alike. The writer stores the pitch in the first plane of the layout that the pool has
granted. It asks for no such plane, and without one the frame is tagged and cannot be read.
-/
namespace Blitter

/-- The first layer of the frame's layout has a plane. -/
def Frame.HasPlane (frame : Frame) : Prop :=
  ∃ planes, frame.layout?.bind (·.planes?) = some planes ∧ planes ≠ []

/-- The frame is a picture that has been written compressed into a buffer of this layout, with rows
of so many pixels. -/
structure Frame.WrittenInto (frame : Frame) (layout : BufferLayout) (f : PixelFormat)
    (fd pixels : Int) : Prop where
  tagged : ∃ fourcc pitch, frame.layout? = some (layout.compressed fourcc pitch.toNat) ∧
    f.afbcFourcc? = some fourcc ∧ Fills f pixels pitch
  buffer : layout.fd? = some fd
  descriptor : 0 ≤ fd
  cropTop : frame.cropTop = 0

/-- Linear layouts have a plane. -/
theorem Frame.hasPlane_of_linear {frame : Frame} {f : PixelFormat} {width height : Nat} {fd : Int}
    {size : Nat} (h : frame.layout? = some (.linear f width height fd size)) : frame.HasPlane := by
  obtain ⟨planes, hplanes⟩ : ∃ planes,
      (BufferLayout.linear f width height fd size).planes? = some planes := ⟨_, rfl⟩
  refine ⟨planes, by rw [h, Option.bind_some, hplanes], ?_⟩
  rintro rfl
  cases head?_planes_linear hplanes

/-- Pads whose sides are at most 8192 pixels long are moderate. -/
theorem Pad.moderate_of_range {p : Pad} (hwidth : 2 ≤ p.width ∧ p.width ≤ 8192)
    (hheight : 2 ≤ p.height ∧ p.height ≤ 8192) : p.Moderate := by
  constructor
  · rw [signed32_of_range (by omega) (by omega)]
    omega
  · rw [signed32_of_range (by omega) (by omega)]
    omega

/-- Compressed frames do not move a session off the modern unit, and the main stream keeps the
limits there. -/
theorem UnitState.Within.revalidate_compressed {unit : UnitState} {h : Hardware}
    {main output : View} (hw : unit.Within h main output) (hmodern : unit.onLegacy = false)
    (strideX strideY : Int) :
    unit.revalidate h main output strideX strideY true = (.ok (), unit) := by
  have hstays : (unit.onLegacy || (!true && !modernAddresses strideX strideY main.surfaceCode)) =
      unit.onLegacy := by simp
  rcases revalidate_cases unit h main output strideX strideY true with
    ⟨-, hr⟩ | ⟨-, -, hr⟩ | ⟨-, e, hverify, -⟩
  · exact hr
  · rw [hr, hstays, hmodern]
    rcases unit with ⟨onLegacy, core⟩
    cases hmodern
    rfl
  · rw [hstays] at hverify
    cases hverify.symm.trans hw.limits

/-- An exact pitch gives back the pixels that it was made of. -/
theorem Fills.rowPixels?_eq {f : PixelFormat} {pixels pitch : Int} (h : Fills f pixels pitch)
    {layer : Layer} {plane : Plane} (hplane : layer.planes.head? = some plane)
    (hpitch : plane.pitch = pitch.toNat) : layer.rowPixels? f = some pixels := by
  have hlength := h.length
  have hstored : signed32 (plane.pitch : Int) = pitch := by
    rw [hpitch, Int.toNat_of_nonneg hlength.1.le, signed32_of_range (by omega) (by omega)]
  rw [Layer.rowPixels?, hplane, Option.elim_some, hstored]
  exact h.pitchToPixels?_eq

namespace Session

variable {host : Host} {s w : Session} {frame : Frame}

/-! ## What is written -/

/-- The buffer and the rows of a compressed output, and the strides it is written with. -/
theorem writtenInto_of_describeOutput {allocated source : Frame} {surface : Surface} {afbc : Bool}
    (h : w.describeOutput allocated source = (.ok (frame, surface), afbc))
    (hmode : surface.readMode = ReadMode.afbc) (hmoderate : w.output.pad.Moderate) :
    ∃ layout, allocated.layout? = some layout ∧
      frame.WrittenInto layout w.output.format surface.fd surface.stride.width ∧
      surface.stride = compressedOutputStride w.output := by
  obtain ⟨layout, fd, color, word, hlayout, hfd, hpos, hwritten⟩ := describeOutput_cases h
  cases hwritten with
  | linear | unstated => exact absurd hmode (show ReadMode.linear ≠ ReadMode.afbc by decide)
  | @compressed stride fourcc pitch hwanted hfeasible hpitch =>
    obtain ⟨hfourcc, -⟩ := compressedOutputFourcc?_eq_some hfeasible
    exact ⟨layout, hlayout, ⟨⟨fourcc, pitch, rfl, hfourcc, compressedOutput_fills hmoderate hpitch⟩,
      hfd, hpos, rfl⟩, rfl⟩

/-! ## What is read -/

/-- What a reader makes of a written layout goes by the first layer that was granted: the planes of
that layer are all that can hold the pitch. -/
theorem compressedSurface_compressed {view : View} {fourcc : Fourcc} {pixels pitch : Int}
    (hfourcc : view.format.afbcFourcc? = some fourcc) (hfills : Fills view.format pixels pitch)
    (layout : BufferLayout) (frame : Frame) (surface : Surface) :
    compressedSurface .afbc view frame (layout.compressed fourcc pitch.toNat) surface =
      match layout.planes? with
      | none => .error (.invalidFrame .noLayer)
      | some [] => .error (.invalidFrame .compressedPitch)
      | some (_ :: _) => .ok { surface with
          readMode := ReadMode.afbc
          rect := { surface.rect with
            y := surface.rect.y + Compression.afbc.rowsAbove frame
            strideX := (Compression.afbc.stride view frame pixels).width
            strideY := (Compression.afbc.stride view frame pixels).height } } := by
  have hspelled : Compression.afbc.fourcc? view.format = some fourcc := hfourcc
  rcases layout with ⟨objects, _ | ⟨⟨given, _ | ⟨plane, others⟩⟩, layers⟩⟩
  · rfl
  · exact compressedSurface_of_no_pixels rfl hspelled (by simp [Layer.rowPixels?, pitchToPixels?]) _
  · exact compressedSurface_eq_ok_iff.2
      ⟨_, pixels, rfl, hspelled, hfills.rowPixels?_eq rfl rfl, rfl⟩

/-- A session on the modern unit takes the buffer of a frame that has been written compressed, and
stays where it is. -/
theorem describeInput_of_writtenInto {view : View} {layout : BufferLayout} {fd pixels : Int}
    (h : frame.WrittenInto layout view.format fd pixels) (hmodern : s.unit.isLegacy = false)
    (hunit : s.unit.revalidate s.hardware view s.output 0 0 true = (.ok (), s.unit)) (role : Role)
    (blended : Bool) :
    ∃ read, read.fd = fd ∧ read.readMode = ReadMode.afbc ∧
      read.stride = Compression.afbc.stride view frame pixels ∧
      s.describeInput role view frame blended =
        (match layout.planes? with
          | none => .error (.invalidFrame .noLayer)
          | some [] => .error (.invalidFrame .compressedPitch)
          | some (_ :: _) => .ok read, s.unit) := by
  obtain ⟨fourcc, pitch, hlayout, hfourcc, hfills⟩ := h.tagged
  obtain ⟨object, hobject, rfl⟩ := Option.map_eq_some_iff.1 h.buffer
  have htagged : (layout.compressed fourcc pitch.toNat).objects.head? =
      some { object with modifier := .afbcOutput } := by
    simp [BufferLayout.compressed, hobject]
  have hbuffer : s.inputBuffer view frame =
      .ok ⟨layout.compressed fourcc pitch.toNat, object.fd, some .afbc, ⟨0, 0⟩⟩ := by
    simp only [inputBuffer, hlayout, htagged, if_neg h.descriptor.not_gt, ofModifier?_afbcOutput,
      hmodern, Bool.and_false]
    rfl
  have hsurface := compressedSurface_compressed hfourcc hfills layout frame (s.linearSurface
    role view ⟨layout.compressed fourcc pitch.toNat, object.fd, some .afbc, ⟨0, 0⟩⟩ blended)
  unfold describeInput
  simp only [hbuffer, decide_true, hunit, hsurface]
  exact ⟨_, rfl, rfl, rfl, rfl⟩

/-- Writers and readers of the same pad have the same strides. -/
theorem stride_compressedOutputStride {view output : View} (hpad : view.pad = output.pad)
    (hcropTop : frame.cropTop = 0) :
    Compression.afbc.stride view frame (compressedOutputStride output).width =
      compressedOutputStride output := by
  have hblocks : (compressedOutputStride output).width % Compression.afbc.blocks.width = 0 :=
    Int.emod_eq_zero_of_dvd (dvd_alignUp _ _)
  have habove : Compression.afbc.rowsAbove frame = 0 := by
    rw [Compression.rowsAbove, hcropTop]
    rfl
  unfold Compression.stride
  rw [if_pos hblocks, habove, hpad, Int.add_zero]
  rfl

/-- A session that is on the modern unit after a run keeps the limits there. -/
theorem within_of_onLegacy {inputs : List Pad} {output : Pad} {p : Parameters} {o : Options}
    (h : create host inputs output p o = .ok s) (calls : List Call)
    (hmodern : (s.run host calls).unit.onLegacy = false) :
    (s.run host calls).unit.Within s.hardware s.main s.output := by
  have hcreated := (create_ok h).1
  rcases run_of_within hcreated.overlaysWhole hcreated.within host calls with
    hwithin | hstuck | ⟨hdragged, -⟩
  · exact hwithin
  · cases hmodern.symm.trans hstuck.onLegacy
  · cases hmodern.symm.trans (congrArg (·.onLegacy) hdragged.eq_legacy)

/-- A frame that some session has written compressed is read by any other one whose main pad is the
writer's, in every state that a run reaches on the modern unit, exactly if the pool has granted a
plane for it. The reader takes it as compressed, finds the writer's strides, and stays where it is.
Without a layer or without a plane in it, the frame is refused. -/
theorem compressed_frame_reads_back_iff {allocated source : Frame} {surface : Surface} {afbc : Bool}
    (hwritten : w.describeOutput allocated source = (.ok (frame, surface), afbc))
    (hmode : surface.readMode = ReadMode.afbc)
    (hwidth : 2 ≤ w.output.pad.width ∧ w.output.pad.width ≤ 8192)
    (hheight : 2 ≤ w.output.pad.height ∧ w.output.pad.height ≤ 8192)
    {inputs : List Pad} {output : Pad} {p : Parameters} {o : Options}
    (h : create host inputs output p o = .ok s) (hpad : inputs.head? = some w.output.pad)
    (calls : List Call) (hmodern : (s.run host calls).unit.isLegacy = false) (blended : Bool) :
    let t := s.run host calls
    let answer := t.describeInput .source t.main frame blended
    let planes? := allocated.layout?.bind (·.planes?)
    ((∃ read, answer = (.ok read, t.unit) ∧ read.fd = surface.fd ∧
        read.readMode = ReadMode.afbc ∧ read.stride = surface.stride) ↔ allocated.HasPlane) ∧
      (planes? = none → answer = (.error (.invalidFrame .noLayer), t.unit)) ∧
      (planes? = some [] → answer = (.error (.invalidFrame .compressedPitch), t.unit)) := by
  intro t answer planes?
  obtain ⟨layout, hlayout, hinto, hstride⟩ := writtenInto_of_describeOutput hwritten hmode
    (Pad.moderate_of_range hwidth hheight)
  have hmain : t.main.pad = w.output.pad := by
    rw [main_run]
    exact Option.some.inj ((main_of_create h).symm.trans hpad)
  have hformat : t.main.format = w.output.format := congrArg Pad.format hmain
  have honLegacy : t.unit.onLegacy = false := (Bool.or_eq_false_iff.1 hmodern).1
  have hwithin : t.unit.Within t.hardware t.main t.output := by
    rw [hardware_run, main_run, output_run]
    exact within_of_onLegacy h calls honLegacy
  rw [← hformat] at hinto
  obtain ⟨read, hfd, hreadMode, hreadStride, hanswer⟩ := describeInput_of_writtenInto hinto
    hmodern (hwithin.revalidate_compressed honLegacy 0 0) .source blended
  rw [hstride, stride_compressedOutputStride hmain hinto.cropTop, ← hstride] at hreadStride
  have hgranted : planes? = layout.planes? := by simp only [planes?, hlayout, Option.bind_some]
  rw [← hgranted] at hanswer
  have hnoLayer : planes? = none → answer = (.error (.invalidFrame .noLayer), t.unit) :=
    fun hnone => by rwa [hnone] at hanswer
  have hnoPlane : planes? = some [] → answer = (.error (.invalidFrame .compressedPitch), t.unit) :=
    fun hempty => by rwa [hempty] at hanswer
  refine ⟨⟨fun ⟨found, hfound, _⟩ => ?_, fun ⟨planes, hplanes, hne⟩ => ?_⟩, hnoLayer, hnoPlane⟩
  · rcases hplanes : planes? with _ | _ | ⟨plane, others⟩
    · cases (hnoLayer hplanes).symm.trans hfound
    · cases (hnoPlane hplanes).symm.trans hfound
    · exact ⟨_, hplanes, List.cons_ne_nil _ _⟩
  · obtain ⟨plane, others, rfl⟩ := List.exists_cons_of_ne_nil hne
    rw [show planes? = some (plane :: others) from hplanes] at hanswer
    exact ⟨read, hanswer, hfd, hreadMode, hreadStride⟩

/-- What a session writes into a linear buffer, it can read itself. -/
theorem compressed_frame_reads_back_iff_sample :
    ∃ frame surface read, Sample.session.describeOutput (Sample.frame 0) (Sample.frame 1) =
        (.ok (frame, surface), true) ∧
      surface.readMode = ReadMode.afbc ∧ surface.stride = ⟨128, 128⟩ ∧
      (Sample.frame 0).HasPlane ∧
      create Sample.host [Sample.mainPad, Sample.overlayPad] Sample.mainPad { alpha := 255 }
        { depth := 1, afbc := true } = .ok Sample.session ∧
      Sample.session.unit.isLegacy = false ∧
      Sample.session.describeInput .source Sample.session.main frame false =
        (.ok read, Sample.session.unit) ∧
      read.readMode = ReadMode.afbc ∧ read.stride = surface.stride := by
  have hcreate : create Sample.host [Sample.mainPad, Sample.overlayPad] Sample.mainPad
      { alpha := 255 } { depth := 1, afbc := true } = .ok Sample.session :=
    ok_of_toOption (by decide +kernel)
  have hafbc : (Sample.session.describeOutput (Sample.frame 0) (Sample.frame 1)).2 = true := by
    decide +kernel
  have hsurface : (Sample.session.describeOutput (Sample.frame 0) (Sample.frame 1)).1.toOption.map
      (fun (_, surface) => (surface.readMode, surface.stride)) =
      some (ReadMode.afbc, ⟨128, 128⟩) := by
    decide +kernel
  obtain ⟨⟨frame, surface⟩, hok, hread⟩ := exists_ok_of_toOption hsurface
  obtain ⟨hmode, hstride⟩ := Prod.mk.inj hread
  have hwritten : Sample.session.describeOutput (Sample.frame 0) (Sample.frame 1) =
      (.ok (frame, surface), true) := Prod.ext hok hafbc
  have hplane : (Sample.frame 0).HasPlane := Frame.hasPlane_of_linear rfl
  obtain ⟨read, hanswer, -, hreadMode, hreadStride⟩ := (compressed_frame_reads_back_iff hwritten
    hmode (by decide) (by decide) hcreate rfl [] (by decide) false).1.2 hplane
  exact ⟨frame, surface, read, hwritten, hmode, hstride, hplane, hcreate, by decide, hanswer,
    hreadMode, hreadStride⟩

end Session

namespace Sample

/-- A host whose buffers do not tell where the picture lies. -/
def layerlessHost : Host where
  version := host.version
  blit := host.blit
  sync := host.sync
  allocate requests :=
    match requests.getLast? with
    | none => .error (.allocation "nothing asked for")
    | some pad => .ok ⟨pad.width, pad.height, pad.format, .buffers ⟨[⟨10, 32768, .linear⟩], []⟩,
        none, {}, 0⟩
  deliver := host.deliver

theorem layerlessStarted : Started layerlessHost session := by
  have hstart : (settings.start layerlessHost mainPad overlayPad).toOption =
      some ⟨session, mainPad⟩ := by
    decide +kernel
  exact .composite (ok_of_toOption hstart)

/-- A frame that is tagged as compressed and has no layer. -/
def layerlessFrame : Frame :=
  { frame 1 with storage := .buffers ⟨[⟨10, 32768, .afbcOutput⟩], []⟩ }

end Sample

namespace Session

/-- A frame without a layer is written compressed and delivered, and the session that wrote it
refuses it. -/
theorem layerless_frame_refused :
    let t := Sample.session.run Sample.layerlessHost [.process (Sample.frame 1) none, .flush]
    Started Sample.layerlessHost Sample.session ∧
      t.mainBlits.map (fun e => (e.isAccepted, e.blit.destination.readMode,
        e.blit.destination.stride)) = [(true, ReadMode.afbc, ⟨128, 128⟩)] ∧
      t.pipeline.journal.delivered = [Sample.layerlessFrame] ∧
      Sample.layerlessFrame.compression? = some .afbc ∧ Sample.session.unit.isLegacy = false ∧
      Sample.session.describeInput .source Sample.session.main Sample.layerlessFrame false =
        (.error (.invalidFrame .noLayer), Sample.session.unit) :=
  ⟨Sample.layerlessStarted, by decide +kernel, by decide +kernel, by decide +kernel,
    by decide, rfl⟩

end Session
end Blitter
