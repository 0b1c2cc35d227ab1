import Blitter.Proofs.CoreRequest
import Blitter.Proofs.Envelope
import Blitter.Proofs.Regions

/-!
# Forced formats

A transform that forces ten bits goes by the version text, not by what a request for cores leaves of
the hardware. Where the request hides the modern unit the two differ: the output gets padded samples
that nothing can write any more, unless its chroma is planar, and the transform does not start. With
every other request the forced format is one that the hardware writes.
-/
namespace Blitter

/-! ## The choice -/

/-- The settings force a format for such a source. -/
def ForcedDepth.forces (d : ForcedDepth) (source : PixelFormat) : Bool :=
  match d with
  | off => false
  | matching => source.isPacked10
  | eight | ten => true

/-- They force ten bits where there is a modern unit. -/
def ForcedDepth.asksTen (d : ForcedDepth) (source : PixelFormat) : Bool :=
  match d with
  | off | eight => false
  | matching => source.isPacked10
  | ten => true

theorem ForcedDepth.tenBit?_of_forces {d : ForcedDepth} {source : PixelFormat}
    (h : d.forces source = true) (hasModern : Bool) :
    d.tenBit? source hasModern = some (d.asksTen source && hasModern) := by
  cases d with
  | off => cases h
  | matching =>
    have hsource : source.isPacked10 = true := h
    simp [tenBit?, asksTen, hsource]
  | eight | ten => rfl

/-- Each component has a plane of its own. -/
def ForcedChroma.IsPlanar (c : ForcedChroma) : Prop := c = .planar420 ∨ c = .planar422

theorem ForcedChroma.isPadded10_format (c : ForcedChroma) (tenBit : Bool) :
    (c.format tenBit).isPadded10 = true ↔ tenBit = true ∧ ¬c.IsPlanar := by
  cases c <;> cases tenBit <;> simp [format, IsPlanar, PixelFormat.isPadded10]

/-- Ten bits are always padded. -/
theorem ForcedChroma.depth_format (c : ForcedChroma) (tenBit : Bool) :
    (c.format tenBit).depth = if (c.format tenBit).isPadded10 then 10 else 8 := by
  cases c <;> cases tenBit <;> rfl

namespace TransformSettings

variable {t : TransformSettings} {version : String} {source : PixelFormat}

/-- The format of the output. -/
def outputFormat (t : TransformSettings) (version : String) (source : PixelFormat) : PixelFormat :=
  forcedFormat source (t.format.getD source) t.forcedDepth t.forcedChroma
    (Hardware.mentions version "RGA_3")

/-- The arrangement of chroma that a forced output has. -/
def forcedArrangement (t : TransformSettings) (source : PixelFormat) : ForcedChroma :=
  if t.forcedChroma = .matching then .ofFormat source else t.forcedChroma

/-- Padded samples are forced where there is a modern unit. -/
def AsksPadded (t : TransformSettings) (source : PixelFormat) : Prop :=
  t.forcedDepth.asksTen source = true ∧ ¬(t.forcedArrangement source).IsPlanar

theorem outputFormat_of_forces (h : t.forcedDepth.forces source = true) (version : String) :
    t.outputFormat version source = (t.forcedArrangement source).format
      (t.forcedDepth.asksTen source && (Hardware.announced version).modern) := by
  rw [outputFormat, forcedFormat, ForcedDepth.tenBit?_of_forces h]
  rfl

/-- The version text alone decides whether samples are padded. -/
theorem isPadded10_outputFormat (h : t.forcedDepth.forces source = true) (version : String) :
    (t.outputFormat version source).isPadded10 = true ↔
      (Hardware.announced version).modern = true ∧ t.AsksPadded source := by
  rw [outputFormat_of_forces h, ForcedChroma.isPadded10_format, Bool.and_eq_true, AsksPadded]
  tauto

theorem depth_outputFormat (h : t.forcedDepth.forces source = true) (version : String) :
    (t.outputFormat version source).depth = 8 ↔
      ¬(t.outputFormat version source).isPadded10 = true := by
  rw [outputFormat_of_forces h, ForcedChroma.depth_format]
  split <;> simp_all

end TransformSettings

/-! ## The check -/

theorem checkSize_error {what : String} {w h : Int} {e : Error}
    (herror : checkSize what w h = .error e) : ∃ cause, e = .invalidSize cause := by
  unfold checkSize at herror
  split at herror
  · cases herror
  · cases herror
    exact ⟨_, rfl⟩

theorem View.ofPad_error {pad : Pad} {role : Role} {e : Error}
    (herror : ofPad pad role = .error e) : e = .unsupportedFormat role.padName pad.format := by
  unfold ofPad at herror
  split at herror
  · cases herror
  · cases herror
    rfl

namespace Session

variable {host : Host} {inputs : List Pad} {output : Pad} {p : Parameters} {o : Options}

/-- An output that is said to need the modern unit does, and the session has none. -/
theorem needsModern_of_create {f : PixelFormat}
    (herror : create host inputs output p o = .error (.unsupported (.needsModern .output f))) :
    f = output.format ∧ f.isPadded10 = true ∧ ¬Hardware.ServesModern host.version o.core := by
  unfold create at herror
  rcases error_of_bind herror with hpads | ⟨⟨mainPad, overlayPad⟩, -, herror⟩
  · unfold splitInputs at hpads
    split at hpads <;> cases hpads
  dsimp only at herror
  split at herror
  · cases herror
  rcases error_of_bind herror with hversion | ⟨hardware, hhardware, herror⟩
  · rcases Hardware.ofVersion_eq host.version o.core with ⟨hnone, -⟩ | ⟨hsome, -⟩
    · cases hnone.symm.trans hversion
    · cases hsome.symm.trans hversion
  rcases error_of_bind herror with hmain | ⟨mainView, -, herror⟩
  · cases View.ofPad_error hmain
  rcases error_of_bind herror with hoverlay | ⟨overlayView, -, herror⟩
  · rcases overlayPad with _ | pad
    · cases hoverlay
    · rcases error_of_bind hoverlay with hpattern | ⟨view, -, hoverlay⟩
      · cases View.ofPad_error hpattern
      · cases hoverlay
  rcases error_of_bind herror with hdestination | ⟨destination, hdestination, herror⟩
  · cases View.ofPad_error hdestination
  obtain ⟨-, rfl⟩ := ofPad_ok hdestination
  rcases error_of_bind herror with hroute | ⟨r, -, herror⟩
  · obtain ⟨rfl, hpadded, hmodern⟩ := Route.needsModern_of_route hroute
    refine ⟨rfl, hpadded, ?_⟩
    rintro ⟨h, hversion, hserves⟩
    cases hhardware.symm.trans hversion
    cases hmodern.symm.trans hserves
  · cases herror

/-- A session that writes padded samples has a modern unit. -/
theorem servesModern_of_create {s : Session} (h : create host inputs output p o = .ok s)
    (hpadded : output.format.isPadded10 = true) : Hardware.ServesModern host.version o.core := by
  obtain ⟨mainPad, overlayPad, mainView, overlayView, r, hc⟩ := creation_of_create h
  obtain ⟨⟨⟩, -, hwrites⟩ := ok_of_bind (Route.formats_of_route hc.routed)
  obtain ⟨⟨⟩, hwrites, -⟩ := ok_of_bind hwrites
  obtain ⟨-, houtput⟩ := ofPad_ok hc.destination
  refine ⟨s.hardware, hc.hardware, (Route.checkSide_eq_ok.1 hwrites).1 ?_⟩
  rw [houtput]
  exact hpadded

end Session

namespace TransformSettings

variable {t : TransformSettings} {host : Host} {input output : Pad} {version : String}

theorem outputPad_ok (h : t.outputPad version input = .ok output) :
    output.format = t.outputFormat version input.format := by
  unfold outputPad at h
  dsimp only at h
  split at h
  · cases h
  · obtain ⟨⟨⟩, -, h⟩ := ok_of_bind h
    cases h
    rfl

theorem outputPad_error {e : Error} (h : t.outputPad version input = .error e) :
    ∃ cause, e = .invalidSize cause := by
  unfold outputPad at h
  dsimp only at h
  split at h
  · cases h
    exact ⟨_, rfl⟩
  · rcases error_of_bind h with hsize | ⟨⟨⟩, -, h⟩
    · exact checkSize_error hsize
    · cases h

/-- A transform that starts writes the format, and has a modern unit if this is padded. -/
theorem output_of_start {f : Filter} (h : t.start host input = .ok f) :
    f.output.format = t.outputFormat host.version input.format ∧
      (f.output.format.isPadded10 = true →
        Hardware.ServesModern host.version t.options.core) := by
  obtain ⟨-, houtput, hcreate⟩ := start_ok h
  exact ⟨outputPad_ok houtput, Session.servesModern_of_create hcreate⟩

theorem needsModern_of_start {f : PixelFormat}
    (h : t.start host input = .error (.unsupported (.needsModern .output f))) :
    (t.outputFormat host.version input.format).isPadded10 = true ∧
      ¬Hardware.ServesModern host.version t.options.core := by
  rcases error_of_bind h with hsize | ⟨⟨⟩, -, h⟩
  · obtain ⟨cause, hcause⟩ := checkSize_error hsize
    cases hcause
  rcases error_of_bind h with houtput | ⟨output, houtput, h⟩
  · obtain ⟨cause, hcause⟩ := outputPad_error houtput
    cases hcause
  rcases error_of_bind h with hcreate | ⟨s, -, h⟩
  · obtain ⟨rfl, hpadded, hserves⟩ := Session.needsModern_of_create hcreate
    rw [outputPad_ok houtput] at hpadded
    exact ⟨hpadded, hserves⟩
  · cases h

/-- A forced format is one that the hardware can write, with eight bits where there is no modern
unit, unless a request for the legacy core hides the modern unit and padded samples are asked for.
Unless this is so, no transform fails for want of a modern unit that its output needs; and if it is
so, none starts. -/
theorem forced_format_served_iff (version : String) (t : TransformSettings) (source : PixelFormat)
    (hforces : t.forcedDepth.forces source = true) :
    let chosen := t.outputFormat version source
    let served := Hardware.ServesModern version t.options.core
    let conflict := Hardware.HidesModern version t.options.core ∧ t.AsksPadded source
    ((chosen.isPadded10 = true → served) ↔ ¬conflict) ∧
      (¬served → (chosen.depth = 8 ↔ ¬conflict)) ∧
      ∀ (host : Host) (input : Pad), host.version = version → input.format = source →
        (∀ f, t.start host input = .ok f → f.output.format = chosen) ∧
        (¬conflict → ∀ f, t.start host input ≠ .error (.unsupported (.needsModern .output f))) ∧
        (conflict → ∀ f, t.start host input ≠ .ok f) := by
  intro chosen served conflict
  have hpadded : chosen.isPadded10 = true ↔ _ := isPadded10_outputFormat hforces version
  have hserved : served ↔ _ := Hardware.servesModern_iff
  have hhides (h : Hardware.HidesModern version t.options.core) :
      (Hardware.announced version).modern = true := (Hardware.hidesModern_iff.1 h).1.2
  have hexact : (chosen.isPadded10 = true → served) ↔ ¬conflict := by
    rw [hpadded, hserved]
    tauto
  refine ⟨hexact, fun hnone => ?_, ?_⟩
  · rw [← hexact, depth_outputFormat hforces]
    exact ⟨fun height hten => absurd hten height, fun hneeds hten => hnone (hneeds hten)⟩
  · rintro host input rfl rfl
    refine ⟨fun f hstart => (output_of_start hstart).1, fun hagrees f herror => ?_,
      fun hconflict f hstart => ?_⟩
    · obtain ⟨hten, hnone⟩ := needsModern_of_start herror
      exact hnone (hexact.2 hagrees hten)
    · obtain ⟨hformat, hserves⟩ := output_of_start hstart
      rw [hformat] at hserves
      exact hexact.1 hserves hconflict

end TransformSettings

namespace Sample

/-- Forces ten bits, and asks for cores. -/
def forcingSettings (core : CoreMask) : TransformSettings :=
  { forcedDepth := .ten, options := { core := core } }

/-- Has no modern unit at all. -/
def legacyHost : Host := { host with version := "RGA_2_Enhance" }

end Sample

namespace TransformSettings

/-- Ten bits are padded on mixed hardware and given up where there is no modern unit. Under a
request for the legacy core the transform does not start. -/
theorem forced_format_served_iff_sample :
    let t := Sample.forcingSettings .automatic
    let pinned := Sample.forcingSettings .legacy
    let version := Sample.host.version
    t.outputFormat version .nv12 = .p010 ∧
      Hardware.ServesModern version t.options.core ∧
      t.outputFormat Sample.legacyHost.version .nv12 = .nv12 ∧
      ¬Hardware.ServesModern Sample.legacyHost.version t.options.core ∧
      (∀ f, t.start Sample.legacyHost Sample.mainPad ≠
        .error (.unsupported (.needsModern .output f))) ∧
      Hardware.HidesModern version pinned.options.core ∧ pinned.AsksPadded .nv12 ∧
      ∀ f, pinned.start Sample.host Sample.mainPad ≠ .ok f := by
  intro t pinned version
  have hagrees : ¬Hardware.HidesModern Sample.legacyHost.version t.options.core :=
    fun hhides => absurd hhides.request (by decide)
  have hagrees' : ¬Hardware.HidesModern version t.options.core :=
    fun hhides => absurd hhides.request (by decide)
  have hnone : ¬Hardware.ServesModern Sample.legacyHost.version t.options.core := by
    rw [Hardware.servesModern_iff]
    exact fun hserves => absurd hserves.1 (by decide +kernel)
  have hhides : Hardware.HidesModern version pinned.options.core :=
    Hardware.hidesModern_iff.2 (by decide +kernel)
  have hpadded : pinned.AsksPadded .nv12 := ⟨rfl, by rintro (h | h) <;> cases h⟩
  have hchosen : t.outputFormat version .nv12 = .p010 := by decide +kernel
  obtain ⟨hserved, -, -⟩ := forced_format_served_iff version t .nv12 rfl
  obtain ⟨-, -, hstarts⟩ := forced_format_served_iff Sample.legacyHost.version t .nv12 rfl
  obtain ⟨-, -, hfails⟩ := forced_format_served_iff version pinned .nv12 rfl
  exact ⟨hchosen, hserved.2 (fun h => hagrees' h.1) (by rw [hchosen]; rfl), by decide +kernel,
    hnone, (hstarts Sample.legacyHost Sample.mainPad rfl rfl).2.1 (fun h => hagrees h.1), hhides,
    hpadded, (hfails Sample.host Sample.mainPad rfl rfl).2.2 ⟨hhides, hpadded⟩⟩

/-- Ten bits are forced on a session without a modern unit, which eight bits would start. -/
theorem ten_bits_forced_without_modern_unit :
    let t := Sample.forcingSettings .legacy
    let h := (Hardware.announced Sample.host.version).pin .legacy
    Hardware.ofVersion Sample.host.version t.options.core = .ok h ∧ h.modern = false ∧
      t.outputFormat Sample.host.version .nv12 = .p010 ∧
      t.start Sample.host Sample.mainPad = .error (.unsupported (.needsModern .output .p010)) ∧
      ∃ f, { t with forcedDepth := .eight }.start Sample.host Sample.mainPad = .ok f := by
  intro t h
  have height :
      ({ t with forcedDepth := .eight }.start Sample.host Sample.mainPad).isOk = true := by
    decide +kernel
  refine ⟨ok_of_toOption (by decide +kernel), by decide +kernel, by decide +kernel,
    by decide +kernel, ?_⟩
  cases hstart : { t with forcedDepth := .eight }.start Sample.host Sample.mainPad with
  | error e =>
    rw [hstart] at height
    cases height
  | ok f => exact ⟨f, rfl⟩

end TransformSettings
end Blitter
