import Blitter.Proofs.Settings

/-!
# Compressed pictures and the legacy unit

The legacy unit writes no compressed pictures and reads none either, unless the hardware is Pro. The
surfaces of a blit are described one after the other, each for the unit in force by then, and only
the overlay comes after the destination. An overlay that moves the session to the legacy unit
therefore leaves behind what was described for the modern one, and nothing else does.
-/
namespace Blitter

/-- The blit is one for the legacy unit. -/
def Blit.RunsOnLegacy (b : Blit) (unit : UnitState) : Prop :=
  unit.onLegacy = true ∨ b.destination.core = .legacy

/-- The legacy unit can process the surfaces of the blit. -/
def Blit.SuitsLegacy (b : Blit) (pro : Bool) : Prop :=
  b.destination.readMode ≠ ReadMode.afbc ∧
    (pro = false → b.source.readMode = ReadMode.linear ∧
      ∀ p ∈ b.pattern, p.readMode = ReadMode.linear)

instance (b : Blit) (unit : UnitState) : Decidable (b.RunsOnLegacy unit) :=
  inferInstanceAs (Decidable (_ ∨ _))

instance (b : Blit) (pro : Bool) : Decidable (b.SuitsLegacy pro) :=
  inferInstanceAs (Decidable (_ ∧ (_ → _ ∧ ∀ p ∈ b.pattern, _)))

/-! ## Moving to the legacy unit -/

namespace UnitState

variable {unit unit' : UnitState}

theorem isLegacy_of_isModernOnly (h : unit.core.isModernOnly = true) :
    unit.isLegacy = unit.onLegacy := by
  have hcore : unit.core ≠ .legacy := by
    intro he
    rw [he] at h
    cases h
  simp [isLegacy, hcore]

/-- Only strides that do not suit the modern unit move a session, and only one on modern cores. -/
theorem isLegacy_of_revalidate {h : Hardware} {source destination : View} {strideX strideY : Int}
    {isAfbc : Bool}
    (hunit : unit.revalidate h source destination strideX strideY isAfbc = (.ok (), unit')) :
    unit'.isLegacy = true ↔ unit.isLegacy = true ∨ (unit.core.isModernOnly = true ∧
      isAfbc = false ∧ modernAddresses strideX strideY source.surfaceCode = false) := by
  unfold revalidate at hunit
  split at hunit
  · next hcore =>
    cases hunit
    rw [Bool.not_eq_true'] at hcore
    simp [hcore]
  · next hcore =>
    have hmodern : unit.core.isModernOnly = true := by simpa using hcore
    have hmoved (b : Bool) : isLegacy ⟨b, if b then .legacy else unit.core⟩ = b := by
      cases b with
      | false => exact isLegacy_of_isModernOnly hmodern
      | true => rfl
    rw [isLegacy_of_isModernOnly hmodern]
    dsimp only at hunit
    split at hunit
    · cases hunit
    · cases hunit
      rw [hmoved]
      simp [hmodern]

end UnitState

/-- The modern unit takes the strides that are stated for row compression. -/
theorem modernAddresses_of_rfbc {f : PixelFormat} (hf : f.rfbcFourcc?.isSome = true)
    (hpro : f ∉ Limits.proOnly) : modernAddresses 0 0 f.surfaceCode = true := by
  cases f <;> first | (revert hf hpro; decide)

namespace Session

variable {host : Host} {s t u : Session} {role : Role} {view : View} {frame overlay : Frame}

theorem describeInput_readMode {blended : Bool} {surface : Surface} {unit : UnitState}
    (h : s.describeInput role view frame blended = (.ok surface, unit)) :
    surface.readMode = ReadMode.linear ↔ frame.compression? = none := by
  obtain ⟨buffer, rect, hbuffer, -, -, rfl⟩ := describeInput_ok h
  obtain ⟨-, -, hcompression, -, -⟩ := inputBuffer_ok hbuffer
  rw [← hcompression]
  cases buffer.compression with
  | none => simp
  | some c => simpa using c.readMode_ne_linear

/-- The strides of a linear frame do not suit the modern unit. -/
def BeyondModern (frame : Frame) (format : PixelFormat) : Prop :=
  frame.compression? = none ∧ ∃ stride, frame.layout?.bind (·.stride? format) = some stride ∧
    modernAddresses stride.width stride.height format.surfaceCode = false

/-- An input that is described leads to the legacy unit if the session is there already, or if it is
on modern cores and the strides do not suit them. -/
theorem isLegacy_of_describeInput {blended : Bool} {surface : Surface} {unit : UnitState}
    (h : s.describeInput role view frame blended = (.ok surface, unit))
    (hformat : view.format ∉ Limits.proOnly) :
    unit.isLegacy = true ↔ s.unit.isLegacy = true ∨
      (s.unit.core.isModernOnly = true ∧ BeyondModern frame view.format) := by
  obtain ⟨buffer, rect, hbuffer, hunit, hfourcc, -⟩ := describeInput_ok h
  obtain ⟨-, -, hcompression, hlinear, hcompressed⟩ := inputBuffer_ok hbuffer
  rw [UnitState.isLegacy_of_revalidate hunit, BeyondModern, ← hcompression]
  cases hc : buffer.compression with
  | none => simp [hlinear hc, View.surfaceCode]
  | some c =>
    obtain ⟨hstride, -⟩ := hcompressed (by simp [hc])
    cases c with
    | afbc => simp
    | rfbc =>
      have haddresses := modernAddresses_of_rfbc (hfourcc _ hc) hformat
      rw [hstride]
      simp [View.surfaceCode, haddresses]

/-- Where the hardware is not Pro, a compressed input is described away from the legacy unit, and
keeps the session there. -/
theorem describeInput_compressed {blended : Bool} {surface : Surface} {unit : UnitState}
    (h : s.describeInput role view frame blended = (.ok surface, unit))
    (hc : surface.readMode ≠ ReadMode.linear) (hpro : s.hardware.pro = false)
    (hformat : view.format ∉ Limits.proOnly) : unit.isLegacy = false := by
  obtain ⟨buffer, rect, hbuffer, -, -, -⟩ := describeInput_ok h
  obtain ⟨-, -, hcompression, -, hcompressed⟩ := inputBuffer_ok hbuffer
  have hframe : frame.compression? ≠ none := fun hnone => hc ((describeInput_readMode h).2 hnone)
  have hmodern := (hcompressed (hcompression ▸ hframe)).2 hpro
  rw [Bool.eq_false_iff, ne_eq, isLegacy_of_describeInput h hformat]
  simp [hmodern, BeyondModern, hframe]

/-- The unit that an input leads to does not depend on what the input is for. -/
theorem describeInput_unit (role role' : Role) (blended blended' : Bool) :
    (s.describeInput role view frame blended).2 =
      (s.describeInput role' view frame blended').2 := by
  unfold describeInput
  split
  · rfl
  · dsimp only
    split
    · rfl
    · split <;> rfl

theorem activeOverlay?_eq_some {given : Option Frame}
    (h : s.activeOverlay? given = some (view, overlay)) : s.overlay = some view := by
  unfold activeOverlay? at h
  split at h
  · next hview =>
    split at h
    · cases h
      exact hview
    · cases h
  · cases h

/-- An overlay that is blended has been described, and has led to the unit that is then in force. -/
theorem Blends.described {pattern : Option Cargo}
    (h : Blends host (some (view, overlay)) u pattern t) :
    ∃ role surface, u.describeInput role view overlay false = (.ok surface, t.unit) := by
  obtain ⟨hunit, c, -, -, hoverlaid⟩ := h
  cases hoverlaid with
  | direct hframe hdescribed =>
    refine ⟨.pattern, c.surface, Prod.ext hdescribed ?_⟩
    rw [hunit]
    exact describeInput_unit ..
  | placed input answer surface htaken hdescribed hshown =>
    refine ⟨.placement, input, Prod.ext htaken ?_⟩
    rw [hunit]
    exact describeInput_unit ..

/-- The overlay is one that moves a session from modern cores to the legacy unit. -/
def OverlayMoves (unit : UnitState) (active : Option (View × Frame)) : Prop :=
  unit.onLegacy = false ∧ unit.core.isModernOnly = true ∧
    ∃ view overlay, active = some (view, overlay) ∧ BeyondModern overlay view.format

theorem Blends.overlayMoves_iff {active : Option (View × Frame)} {pattern : Option Cargo}
    (h : Blends host active u pattern t) (hformat : ∀ a ∈ active, a.1.format ∉ Limits.proOnly) :
    OverlayMoves u.unit active ↔ u.unit.isLegacy = false ∧ t.unit.isLegacy = true := by
  rcases active with _ | ⟨view, overlay⟩
  · rw [h.2]
    simp [OverlayMoves]
  · obtain ⟨role, surface, hdescribed⟩ := h.described
    rw [isLegacy_of_describeInput hdescribed (hformat _ rfl)]
    constructor
    · rintro ⟨hmodern, hcore, view', overlay', hactive, hbeyond⟩
      cases hactive
      exact ⟨(UnitState.isLegacy_of_isModernOnly hcore).trans hmodern, .inr ⟨hcore, hbeyond⟩⟩
    · rintro ⟨hmodern, hlegacy | ⟨hcore, hbeyond⟩⟩
      · cases hmodern.symm.trans hlegacy
      · exact ⟨(UnitState.isLegacy_of_isModernOnly hcore).symm.trans hmodern, hcore, view, overlay,
          rfl, hbeyond⟩

/-- Without Pro hardware the legacy unit is never left with a compressed overlay. -/
theorem Blends.readMode_linear {active : Option (View × Frame)} {pattern : Option Cargo}
    (h : Blends host active u pattern t) (hpro : u.hardware.pro = false)
    (hformat : ∀ a ∈ active, a.1.format ∉ Limits.proOnly) (hlegacy : t.unit.isLegacy = true) :
    ∀ c ∈ pattern, c.surface.readMode = ReadMode.linear := by
  intro c hc
  rcases active with _ | ⟨view, overlay⟩
  · cases h.1.symm.trans hc
  · obtain ⟨hunit, c', hc', -, hoverlaid⟩ := h
    cases hc'.symm.trans hc
    cases hoverlaid with
    | direct hframe hdescribed =>
      refine Decidable.byContradiction fun hcompressed => ?_
      have hmodern := describeInput_compressed (Prod.ext hdescribed rfl) hcompressed hpro
        (hformat _ rfl)
      rw [hunit, describeInput_unit _ .pattern false false, hmodern] at hlegacy
      cases hlegacy
    | placed input answer surface htaken hdescribed hshown =>
      obtain ⟨allocated, -, hcanvas⟩ := ok_of_bind hdescribed
      rw [hshown]
      exact (describeCanvas_ok hcanvas).2.2.1

/-! ## One blit -/

/-- Its output can be written compressed, or its source is read compressed without Pro hardware. -/
def NeedsModern (s : Session) (source : Frame) : Prop :=
  (s.afbcOutput = true ∧ (compressedOutputFourcc? s.output).isSome = true) ∨
    (s.hardware.pro = false ∧ source.compression? ≠ none)

/-- A blit for the legacy unit suits it unless its overlay has moved the session and its output or
its source is compressed. -/
theorem Prepared.suitsLegacy_iff {source : Frame} {overlay : Option Frame} {l : Load}
    (h : Prepared host s source overlay u l t)
    (hmain : s.hardware.pro = false → s.main.format ∉ Limits.proOnly)
    (hoverlay : ∀ view ∈ s.overlay, view.format ∉ Limits.proOnly) :
    (l.blit.RunsOnLegacy t.unit → l.blit.SuitsLegacy s.hardware.pro) ↔
      ¬(OverlayMoves u.unit (s.activeOverlay? overlay) ∧ s.NeedsModern source) := by
  obtain ⟨surface, houtput, hdestination⟩ := h.output
  have hformat : ∀ a ∈ s.activeOverlay? overlay, a.1.format ∉ Limits.proOnly := by
    rintro ⟨view, frame⟩ hactive
    exact hoverlay view (activeOverlay?_eq_some hactive)
  have hruns : l.blit.RunsOnLegacy t.unit ↔ t.unit.isLegacy = true := by
    change t.unit.onLegacy = true ∨ l.destination.surface.core = .legacy ↔ _
    rw [hdestination]
    simp [UnitState.isLegacy]
  have hwritten : l.blit.destination.readMode = ReadMode.afbc ↔ s.afbcOutput = true ∧
      u.unit.isLegacy = false ∧ (compressedOutputFourcc? s.output).isSome = true := by
    obtain ⟨allocated, -, hallocated⟩ := describeAnswer_ok houtput
    obtain ⟨-, -, -, hmode, hafbc⟩ := describeOutput_ok hallocated
    change l.destination.surface.readMode = _ ↔ _
    rw [hdestination, ← hafbc, hmode]
    cases t.afbcOutput <;> decide
  have hread : l.blit.source.readMode = ReadMode.linear ↔ source.compression? = none :=
    describeInput_readMode h.input
  have hpattern : s.hardware.pro = false → t.unit.isLegacy = true →
      ∀ p ∈ l.blit.pattern, p.readMode = ReadMode.linear := by
    intro hpro hlegacy p hp
    obtain ⟨c, hc, rfl⟩ := Option.map_eq_some_iff.1 hp
    have hhardware : u.hardware.pro = false := by
      rw [h.between.session]
      exact hpro
    exact h.overlaid.readMode_linear hhardware hformat hlegacy c hc
  have hsource : s.hardware.pro = false → u.unit.isLegacy = true → source.compression? = none := by
    intro hpro hlegacy
    refine Decidable.byContradiction fun hcompressed => ?_
    have hmodern := describeInput_compressed h.input (mt hread.1 hcompressed) hpro (hmain hpro)
    cases hlegacy.symm.trans hmodern
  rw [hruns, Blit.SuitsLegacy, ne_eq, hwritten, hread, h.overlaid.overlayMoves_iff hformat]
  constructor
  · rintro hsuits ⟨⟨hmodern, hlegacy⟩, hslip⟩
    obtain ⟨hwrites, hreads⟩ := hsuits hlegacy
    rcases hslip with ⟨hwanted, hfourcc⟩ | ⟨hpro, hcompressed⟩
    · exact hwrites ⟨hwanted, hmodern, hfourcc⟩
    · exact hcompressed (hreads hpro).1
  · intro hslip hlegacy
    refine ⟨?_, fun hpro => ⟨?_, hpattern hpro hlegacy⟩⟩
    · rintro ⟨hwanted, hmodern, hfourcc⟩
      exact hslip ⟨⟨hmodern, hlegacy⟩, .inl ⟨hwanted, hfourcc⟩⟩
    · cases hmodern : u.unit.isLegacy with
      | false =>
        refine Decidable.byContradiction fun hcompressed => ?_
        exact hslip ⟨⟨hmodern, hlegacy⟩, .inr ⟨hpro, hcompressed⟩⟩
      | true => exact hsource hpro hmodern

/-! ## Runs -/

/-- The main blit of a process call, with the session that the call has found. -/
structure Issue where
  session : Session
  source : Frame
  overlay : Option Frame
  entry : BlitEntry

namespace Issue

/-- The unit in force when the blit is issued. -/
def unit (i : Issue) (host : Host) : UnitState :=
  (prepare host i.source i.overlay i.session).2.unit

/-- The unit that the source leads to. -/
def unitOfSource (i : Issue) : UnitState :=
  (i.session.describeInput .source i.session.main i.source
    (i.session.activeOverlay? i.overlay).isSome).2

/-- The overlay moves the session to the legacy unit, and something needs the modern one. -/
def LeavesBehind (i : Issue) : Prop :=
  OverlayMoves i.unitOfSource (i.session.activeOverlay? i.overlay) ∧
    i.session.NeedsModern i.source

end Issue

/-- The main blit that a call issues. -/
def issue (host : Host) (s : Session) : Call → List Issue
  | .process source overlay =>
    (s.attempt? host (.process source overlay)).toList.map fun o => ⟨s, source, overlay, o.entry⟩
  | .flush | .close => []

/-- The main blits that a run issues. -/
def issues (host : Host) (s : Session) (calls : List Call) : List Issue :=
  collect (issue host) host s calls

theorem map_entry_issues (host : Host) (s : Session) (calls : List Call) :
    (s.issues host calls).map (·.entry) = (s.attempts host calls).map (·.entry) := by
  unfold issues attempts
  induction calls generalizing s with
  | nil => rfl
  | cons c rest ih =>
    rw [collect, collect, List.map_append, List.map_append, ih]
    cases c with
    | process source overlay => simp [issue]
    | flush => rfl
    | close => rfl

/-- A main blit for the legacy unit has surfaces that this unit can process, unless the overlay of
its call has moved the session there after a compressed source or output was described. -/
theorem main_blits_suit_legacy_iff (hs : Started host s) (calls : List Call) :
    (s.run host calls).mainBlits = (s.issues host calls).map (·.entry) ∧
    ∀ i ∈ s.issues host calls,
      (i.entry.blit.RunsOnLegacy (i.unit host) → i.entry.blit.SuitsLegacy s.hardware.pro) ↔
        ¬i.LeavesBehind := by
  constructor
  · have hblits := (run_accounts host hs.carries calls).blits
    rw [hblits, mainBlits, hs.journal, map_entry_issues]
    rfl
  · intro i hi
    obtain ⟨n, hn⟩ := List.mem_iff_getElem?.1 hi
    obtain ⟨before, c, rest, j, -, -, hissue⟩ := exists_of_collect hn
    have hmem := List.mem_of_getElem? hissue
    cases c with
    | flush => cases hmem
    | close => cases hmem
    | process source overlay =>
      obtain ⟨o, ho, rfl⟩ := List.mem_map.1 hmem
      obtain ⟨u, t, hprepare, -, hl, -⟩ := prepared_of_attempt? (Option.mem_toList.1 ho)
      have hsettings := settings_run host s before
      have hhardware : (s.run host before).hardware = s.hardware :=
        congrArg Settings.hardware hsettings
      have hmain : (s.run host before).main = s.main := congrArg Settings.main hsettings
      have hoverlay : (s.run host before).overlay = s.overlay :=
        congrArg Settings.overlay hsettings
      have hsuits := hl.suitsLegacy_iff (by rw [hhardware, hmain]; exact hs.created.mainFormat)
        (by rw [hoverlay]; exact hs.created.overlayFormat)
      have hunit : Issue.unit ⟨s.run host before, source, overlay, o.entry⟩ host = t.unit := by
        rw [Issue.unit, hprepare]
      rw [Issue.LeavesBehind, Issue.unitOfSource, hunit, hl.input, ← hhardware]
      exact hsuits

/-- The issue of a frame without overlay, and of one whose overlay moves the session. -/
theorem main_blits_suit_legacy_iff_sample :
    let issued := Sample.session.issues Sample.host
      [.process (Sample.frame 1) none, .process (Sample.frame 2) (some Sample.unalignedOverlay)]
    Started Sample.host Sample.session ∧
      (∀ i ∈ issued, (i.entry.blit.RunsOnLegacy (i.unit Sample.host) →
        i.entry.blit.SuitsLegacy Sample.session.hardware.pro) ↔
          ¬i.LeavesBehind) ∧
      issued.map (fun i => decide (i.entry.blit.RunsOnLegacy (i.unit Sample.host) →
        i.entry.blit.SuitsLegacy Sample.session.hardware.pro)) = [true, false] :=
  ⟨Sample.started, (main_blits_suit_legacy_iff Sample.started _).2, by decide +kernel⟩

/-- A compressed output is left to the legacy unit by an overlay with strides that the modern unit
cannot take. -/
theorem compressed_output_left_to_legacy :
    let t := Sample.session.run Sample.host
      [.process (Sample.frame 1) (some Sample.unalignedOverlay)]
    Started Sample.host Sample.session ∧
      ∃ e ∈ t.mainBlits, e.blit.RunsOnLegacy t.unit ∧
        e.blit.destination.core = .legacy ∧ e.blit.destination.readMode = ReadMode.afbc :=
  ⟨Sample.started, by decide +kernel⟩

end Session
end Blitter
