import Blitter.Proofs.LegacyUnit

/-!
# The unit in force

A session starts on a unit whose limits its main stream keeps, and strides that the modern unit
cannot take move it to the legacy one. Each input is held against the limits of the unit that it
moves the session to, and the main stream is not looked at again when an overlay does so. An overlay
can thus drag along a main stream of padded ten-bit samples, which the legacy unit cannot run.

An input that may not move the session is refused, and the session then counts as moved while its
cores are still modern ones. It is stuck: every frame from then on is held against limits that the
main stream does not keep. `run_of_within` says that there is no third way out of the limits.
-/
namespace Blitter

open Limits

/-! ## Limits -/

theorem PixelFormat.not_isPadded10_of_isRgb {f : PixelFormat} (h : f.isRgb = true) :
    f.isPadded10 = false := by
  cases f <;> first | rfl | (revert h; decide)

section Verify

variable {h : Hardware} {main view output : View}

theorem ite_error_eq_ok_iff {c : Prop} [Decidable c] {e : Error} {rest : Except Error Unit} :
    (if c then .error e else rest) = .ok () ↔ ¬c ∧ rest = .ok () := by
  by_cases hc : c <;> simp [hc]

/-- What the legacy unit can run. -/
theorem verify_legacy_eq_ok :
    verify h true main output = .ok () ↔ h.legacy = true ∧
      (main.format.isPadded10 = false ∧ output.format.isPadded10 = false) ∧
      output.format.isPacked10 = false ∧
      (h.pro = false → main.cropped = true → main.format.depth < 10) ∧
      (h.pro = false → output.active.width ≤ legacyGreatestOutput ∧
        output.active.height ≤ legacyGreatestOutput) := by
  simp [verify, ite_error_eq_ok_iff]

/-- On the legacy unit a whole picture without padded samples is refused only for what it is written
to. -/
theorem verify_legacy_ok_iff (hmain : main.cropped = false) (hview : view.cropped = false)
    (hpadded : view.format.isPadded10 = false) :
    verify h true main output = .ok () ↔
      main.format.isPadded10 = false ∧ verify h true view output = .ok () := by
  simp [verify_legacy_eq_ok, hmain, hview, hpadded, and_assoc, and_left_comm]

theorem verify_legacy_padded (hlegacy : verify h true view output = .ok ())
    (hpadded : main.format.isPadded10 = true) :
    verify h true main output =
      .error (.unsupported (.pairOnLegacy main.format output.format)) := by
  have hpresent := (verify_legacy_eq_ok.1 hlegacy).1
  simp [verify, hpresent, hpadded]

end Verify

/-! ## Moving between units -/

namespace UnitState

variable {unit unit' : UnitState} {h : Hardware} {main view output : View}
  {strideX strideY : Int} {isAfbc : Bool}

/-- A session that is not on modern cores stays as it is. Otherwise the strides decide on the unit;
the session goes there if the input keeps its limits, and if not only counts as there. -/
theorem revalidate_cases (unit : UnitState) (h : Hardware) (source destination : View)
    (strideX strideY : Int) (isAfbc : Bool) :
    let onLegacy := unit.onLegacy ||
      (!isAfbc && !modernAddresses strideX strideY source.surfaceCode)
    let result := unit.revalidate h source destination strideX strideY isAfbc
    (unit.core.isModernOnly = false ∧ result = (.ok (), unit)) ∨
      (unit.core.isModernOnly = true ∧ verify h onLegacy source destination = .ok () ∧
        result = (.ok (), ⟨onLegacy, if onLegacy then .legacy else unit.core⟩)) ∨
      (unit.core.isModernOnly = true ∧ ∃ e, verify h onLegacy source destination = .error e ∧
        result = (.error e, ⟨onLegacy, unit.core⟩)) := by
  intro onLegacy result
  cases hcore : unit.core.isModernOnly with
  | false => simp [result, revalidate, hcore]
  | true =>
    rcases hverify : verify h onLegacy source destination with e | ⟨⟩
    · refine .inr (.inr ⟨rfl, e, rfl, ?_⟩)
      simp only [result, revalidate, hcore, Bool.not_true, Bool.false_eq_true, if_false]
      rw [hverify]
    · refine .inr (.inl ⟨rfl, rfl, ?_⟩)
      simp only [result, revalidate, hcore, Bool.not_true, Bool.false_eq_true, if_false]
      rw [hverify]

/-- The main stream keeps the limits of the unit, and the cores agree with it. -/
structure Within (unit : UnitState) (h : Hardware) (main output : View) : Prop where
  limits : verify h unit.onLegacy main output = .ok ()
  settled : unit.core.isModernOnly = true → unit.onLegacy = false

/-- The main stream is on the legacy unit, which cannot run its padded samples. -/
structure Dragged (unit : UnitState) (h : Hardware) (main output : View) : Prop where
  eq_legacy : unit = ⟨true, .legacy⟩
  padded : main.format.isPadded10 = true
  limits : verify h true main output =
    .error (.unsupported (.pairOnLegacy main.format output.format))

/-- The session counts as moved, its cores are modern ones, and the main stream may not move. -/
structure Stuck (unit : UnitState) (h : Hardware) (main output : View) : Prop where
  onLegacy : unit.onLegacy = true
  modern : unit.core.isModernOnly = true
  limits : ∃ e, verify h true main output = .error e

/-- Frames of the main stream either find or make the unit one whose limits they keep, or they get
the session stuck. -/
theorem Within.revalidate (hw : unit.Within h main output) (strideX strideY : Int)
    (isAfbc : Bool) :
    ∃ r unit', unit.revalidate h main output strideX strideY isAfbc = (r, unit') ∧
      ((r = .ok () ∧ unit'.Within h main output) ∨
        ∃ e, r = .error e ∧ unit'.Stuck h main output) := by
  rcases revalidate_cases unit h main output strideX strideY isAfbc with
    ⟨-, hr⟩ | ⟨hcore, hverify, hr⟩ | ⟨hcore, e, hverify, hr⟩
  · exact ⟨_, _, hr, .inl ⟨rfl, hw⟩⟩
  · refine ⟨_, _, hr, .inl ⟨rfl, hverify, ?_⟩⟩
    dsimp only
    split
    · exact fun hlegacy => by cases hlegacy
    · next hstays => exact fun _ => Bool.eq_false_iff.2 hstays
  · refine ⟨_, _, hr, .inr ⟨e, rfl, ?_⟩⟩
    rw [hw.settled hcore, Bool.false_or] at hverify ⊢
    have hlimits := hw.limits
    rw [hw.settled hcore] at hlimits
    rcases hmoves : !isAfbc && !modernAddresses strideX strideY main.surfaceCode with _ | _
    · rw [hmoves, hlimits] at hverify
      cases hverify
    · rw [hmoves] at hverify
      exact ⟨rfl, hcore, e, hverify⟩

/-- An overlay may do the same, and it may drag along a main stream that cannot follow. -/
theorem Within.revalidate_overlay (hw : unit.Within h main output)
    (hmain : main.cropped = false) (hview : view.cropped = false)
    (hrgb : view.format.isRgb = true) (strideX strideY : Int) (isAfbc : Bool) :
    ∃ r unit', unit.revalidate h view output strideX strideY isAfbc = (r, unit') ∧
      ((unit'.Within h main output) ∨ (∃ e, r = .error e ∧ unit'.Stuck h main output) ∨
        (unit.onLegacy = false ∧ unit'.Dragged h main output)) := by
  have hpadded := PixelFormat.not_isPadded10_of_isRgb hrgb
  rcases revalidate_cases unit h view output strideX strideY isAfbc with
    ⟨-, hr⟩ | ⟨hcore, hverify, hr⟩ | ⟨hcore, e, hverify, hr⟩
  · exact ⟨_, _, hr, .inl hw⟩
  all_goals
    have hmodern := hw.settled hcore
    rw [hmodern, Bool.false_or] at hverify hr
    refine ⟨_, _, hr, ?_⟩
    rcases hmoves : !isAfbc && !modernAddresses strideX strideY view.surfaceCode with _ | _
    -- Strides that suit the modern unit leave the session there.
    · refine .inl ⟨?_, fun _ => rfl⟩
      rw [← hmodern]
      exact hw.limits
    rw [hmoves] at hverify
  · cases hmainpadded : main.format.isPadded10 with
    | false =>
      exact .inl ⟨(verify_legacy_ok_iff hmain hview hpadded).2 ⟨hmainpadded, hverify⟩,
        fun (hlegacy : CoreMask.legacy.isModernOnly = true) => absurd hlegacy (by decide)⟩
    | true =>
      exact .inr (.inr ⟨hmodern, rfl, hmainpadded, verify_legacy_padded hverify hmainpadded⟩)
  · refine .inr (.inl ⟨e, rfl, rfl, hcore, ?_⟩)
    rcases hlimits : verify h true main output with e' | ⟨⟩
    · exact ⟨e', rfl⟩
    · have hfollows := ((verify_legacy_ok_iff hmain hview hpadded).1 hlimits).2
      cases hverify.symm.trans hfollows

/-- A session that was dragged along has left the modern cores and is not moved again. -/
theorem Dragged.revalidate (hd : unit.Dragged h main output) (source destination : View)
    (strideX strideY : Int) (isAfbc : Bool) :
    unit.revalidate h source destination strideX strideY isAfbc = (.ok (), unit) := by
  rw [hd.eq_legacy]
  rfl

/-- A session that is stuck refuses its main stream and stays stuck. -/
theorem Stuck.revalidate {e : Error} (hs : unit.Stuck h main output)
    (he : verify h true main output = .error e) (strideX strideY : Int) (isAfbc : Bool) :
    unit.revalidate h main output strideX strideY isAfbc = (.error e, unit) := by
  rcases revalidate_cases unit h main output strideX strideY isAfbc with
    ⟨hcore, -⟩ | ⟨-, hverify, -⟩ | ⟨-, e', hverify, hr⟩
  · cases hs.modern.symm.trans hcore
  all_goals rw [hs.onLegacy, Bool.true_or] at hverify
  · cases hverify.symm.trans he
  · cases hverify.symm.trans he
    rw [hr, hs.onLegacy, Bool.true_or, ← hs.onLegacy]

theorem Within.not_stuck (hw : unit.Within h main output) : ¬unit.Stuck h main output := by
  intro hs
  cases hs.onLegacy.symm.trans (hw.settled hs.modern)

theorem Dragged.not_stuck (hd : unit.Dragged h main output) : ¬unit.Stuck h main output := by
  intro hs
  have hmodern := hs.modern
  rw [hd.eq_legacy] at hmodern
  cases hmodern

/-- On the legacy unit only streams without padded samples keep the limits. -/
theorem Within.not_padded (hw : unit.Within h main output) (hlegacy : unit.onLegacy = true) :
    main.format.isPadded10 = false := by
  have hlimits := hw.limits
  rw [hlegacy] at hlimits
  exact (verify_legacy_eq_ok.1 hlimits).2.1.1

theorem Dragged.not_within (hd : unit.Dragged h main output) : ¬unit.Within h main output := by
  intro hw
  have hlimits := hw.limits
  rw [hd.eq_legacy, hd.limits] at hlimits
  cases hlimits

end UnitState

namespace Session

variable {host : Host} {s t : Session} {source : Frame} {overlay : Option Frame}

/-! ## The unit after a call -/

/-- What is checked of an input before it is described: its buffer, then its strides, and the unit
that these lead to. -/
def checkInput (s : Session) (view : View) (frame : Frame) : Except Error Unit × UnitState :=
  match s.inputBuffer view frame with
  | .error e => (.error e, s.unit)
  | .ok buffer => s.unit.revalidate s.hardware view s.output buffer.stride.width
      buffer.stride.height (buffer.compression = some .afbc)

theorem describeInput_checked (s : Session) (role : Role) (view : View) (frame : Frame)
    (blended : Bool) :
    let described := s.describeInput role view frame blended
    described.2 = (s.checkInput view frame).2 ∧
      ∀ e, (s.checkInput view frame).1 = .error e → described.1 = .error e := by
  intro described
  rcases hbuffer : s.inputBuffer view frame with e | buffer
  · simp [described, describeInput, checkInput, hbuffer]
  · rcases hstrides : s.unit.revalidate s.hardware view s.output buffer.stride.width
      buffer.stride.height (buffer.compression = some .afbc) with ⟨e | ⟨⟩, unit⟩
    · simp [described, describeInput, checkInput, hbuffer, hstrides]
    · simp only [described, describeInput, checkInput, hbuffer, hstrides]
      refine ⟨?_, fun e he => by cases he⟩
      split <;> rfl

/-- A source that does not pass the check ends the preparations. -/
theorem prepare_refused (host : Host) {e : Error} (overlay : Option Frame)
    (h : (s.checkInput s.main source).1 = .error e) :
    (prepare host source overlay s).1 = .error (.error e) ∧
      (prepare host source overlay s).2.unit = (s.checkInput s.main source).2 := by
  obtain ⟨r, t, hinput, -, hunit, -, -, hlands⟩ :=
    submitInput_lands .source s.main source (s.activeOverlay? overlay).isSome s
  obtain ⟨hchecked, hrefused⟩ := describeInput_checked s .source s.main source
    (s.activeOverlay? overlay).isSome
  rw [hrefused e h] at hlands
  cases hlands
  have hrun : prepare host source overlay s = (.error (.error e), t) :=
    (bind_of_ok get_run).trans (bind_of_error hinput)
  rw [hrun]
  exact ⟨rfl, hunit.trans hchecked⟩

/-- Taking in the overlay leaves the unit that it leads to, and fails unless it passes the check. -/
theorem submitOverlay_unit (host : Host) (u : Session) (view : View) (frame : Frame) :
    let submitted := submitOverlay host view frame u
    submitted.2.unit = (u.checkInput view frame).2 ∧
      ∀ e, (u.checkInput view frame).1 = .error e → ∃ e', submitted.1 = .error e' := by
  intro submitted
  obtain ⟨r, v, hrun, -, hunit, -, hyields⟩ := submitOverlay_yields host view frame u
  rw [(describeInput_checked ..).1] at hunit
  simp only [submitted, hrun]
  refine ⟨hunit, fun e he => ?_⟩
  have hrefused (role : Role) := (describeInput_checked u role view frame false).2 e he
  rcases hyields with ⟨e', rfl⟩ | ⟨c, -, -, -, hoverlaid⟩
  · exact ⟨_, rfl⟩
  · cases hoverlaid with
    | direct _ described => cases described.symm.trans (hrefused .pattern)
    | placed _ _ _ taken => cases taken.symm.trans (hrefused .placement)

/-- The session once the unit has been held against the strides of a source. -/
def afterSource (s : Session) (source : Frame) : Session :=
  { s with unit := (s.checkInput s.main source).2 }

/-- Source and output of a frame are described, and the session is `u` by then. -/
structure DescribesFrames (host : Host) (s : Session) (source : Frame) (blended : Bool)
    (u : Session) : Prop where
  settings : u.settings = s.settings
  asked : u.pipeline.journal.requests = s.pipeline.journal.requests ++ [s.output.pad]
  input : ∃ surface, s.describeInput .source s.main source blended = (.ok surface, u.unit)
  output : ∃ allocated result afbc,
    host.allocate (s.pipeline.journal.requests ++ [s.output.pad]) = .ok allocated ∧
      (s.afterSource source).describeOutput allocated source = (.ok result, afbc)

theorem DescribesFrames.unit {blended : Bool} {u : Session}
    (h : s.DescribesFrames host source blended u) :
    u.unit = (s.checkInput s.main source).2 := by
  obtain ⟨surface, hinput⟩ := h.input
  rw [← (describeInput_checked s .source s.main source blended).1, hinput]

/-- Describes source and output of a frame, which is all up to its overlay. -/
def describeFrames (host : Host) (source : Frame) (blended : Bool) :
    SessionM (SlotId × SlotId) := do
  let input ← submitInput .source (← get).main source blended
  return (input, ← queryOutput host source)

/-- Takes in an overlay, if there is one, and points the destination at the cores then in force. -/
def describeRest (host : Host) (active : Option (View × Frame)) (ids : SlotId × SlotId) :
    SessionM Job := do
  let pattern ← active.mapM fun (view, frame) => submitOverlay host view frame
  setCore ids.2
  return ⟨ids.1, ids.2, pattern⟩

/-- Describing source and output issues nothing and leaves the unit that the source leads to. -/
theorem describeFrames_run (host : Host) (source : Frame) (blended : Bool) (s : Session) :
    ∃ r u, describeFrames host source blended s = (r, u) ∧
      Undisturbed [.source, .destination] s u ∧ u.unit = (s.checkInput s.main source).2 ∧
      u.pipeline.journal.blits = s.pipeline.journal.blits ∧
      ∀ ids, r = .ok ids → s.DescribesFrames host source blended u := by
  obtain ⟨r, t, hinput, hund₁, hunit₁, hafbc₁, hjournal₁, hyields⟩ :=
    submitInput_yields .source s.main source blended s
  obtain ⟨r', u, houtput, hund₂, hunit₂, -, hjournal₂, hlands⟩ := queryOutput_lands host source t
  have hchecked := hunit₁.trans (describeInput_checked s .source s.main source blended).1
  rcases hyields with ⟨e, rfl⟩ | ⟨input, rfl, -, -, -, hdescribed⟩
  · exact ⟨_, t, (bind_of_ok get_run).trans (bind_of_error hinput), hund₁.mono (by simp),
      hchecked, congrArg (·.blits) hjournal₁, nofun⟩
  have hund := (hund₁.trans hund₂).mono (show _ ⊆ [.source, .destination] by simp)
  have hblits : u.pipeline.journal.blits = s.pipeline.journal.blits := by
    simp [hjournal₂, asking, hjournal₁]
  rcases hlands.yields with ⟨e, rfl⟩ | ⟨output, rfl, -, -, hanswer⟩
  · exact ⟨_, u, (bind_of_ok get_run).trans ((bind_of_ok hinput).trans (bind_of_error houtput)),
      hund, hunit₂.trans hchecked, hblits, nofun⟩
  have ht : t = { s with unit := (s.checkInput s.main source).2, pipeline := t.pipeline } := by
    have hsession := hund₁.session
    rwa [hchecked, hafbc₁] at hsession
  have hrequests : u.pipeline.journal.requests =
      s.pipeline.journal.requests ++ [s.output.pad] := by
    rw [hjournal₂, hund₁.session]
    exact congrArg (·.requests ++ _) hjournal₁
  rw [hjournal₁, ht] at hanswer
  obtain ⟨allocated, hallocated, hwritten⟩ := describeAnswer_ok (Prod.ext hanswer rfl)
  exact ⟨_, u, (bind_of_ok get_run).trans ((bind_of_ok hinput).trans (bind_of_ok houtput)),
    hund, hunit₂.trans hchecked, hblits, fun _ _ => ⟨hund.settings, hrequests,
      ⟨_, Prod.ext hdescribed (hunit₂.trans hunit₁).symm⟩, allocated, _, _, hallocated, hwritten⟩⟩

theorem prepare_eq_bind (host : Host) (source : Frame) (overlay : Option Frame) (s : Session) :
    prepare host source overlay s =
      (describeFrames host source (s.activeOverlay? overlay).isSome >>=
        describeRest host (s.activeOverlay? overlay)) s := by
  unfold describeFrames describeRest
  simp only [bind_assoc, pure_bind]
  rfl

/-- What pointing the destination at its cores keeps is as the overlay leaves it. -/
theorem describeRest_keeps {γ : Type} {read : Session → γ} (hread : ∀ id, Keeps read (setCore id))
    (host : Host) (active : Option (View × Frame)) (ids : SlotId × SlotId) (s : Session) :
    read (describeRest host active ids s).2 =
      read (active.elim s fun (view, frame) => (submitOverlay host view frame s).2) := by
  have hpointed (pattern : Option SlotId) : Keeps read
      (setCore ids.2 >>= fun _ => pure ⟨ids.1, ids.2, pattern⟩ : SessionM Job) :=
    (hread ids.2).bind fun _ => Keeps.pure _
  refine (Keeps.first hpointed _ s).trans ?_
  cases active with
  | none => rfl
  | some a => exact Keeps.first (fun _ => Keeps.pure _) (submitOverlay host a.1 a.2) s

/-- Preparing a frame leaves the unit that the source leads to, or the one that the overlay leads to
from there. -/
theorem prepare_unit (host : Host) (source : Frame) (overlay : Option Frame) (s : Session) :
    let checked := s.checkInput s.main source
    let prepared := prepare host source overlay s
    prepared.2.unit = checked.2 ∨ ∃ view frame, s.overlay = some view ∧
      let moved := { s with unit := checked.2 }.checkInput view frame
      prepared.2.unit = moved.2 ∧ ∀ e, moved.1 = .error e → ∃ e', prepared.1 = .error e' := by
  intro checked prepared
  obtain ⟨r, u, hframes, hund, hunit, -, -⟩ :=
    describeFrames_run host source (s.activeOverlay? overlay).isSome s
  simp only [prepared, prepare_eq_bind]
  rcases r with e | ids
  · rw [bind_of_error hframes]
    exact .inl hunit
  rw [bind_of_ok hframes]
  have hlast := describeRest_keeps (fun _ _ => rfl : ∀ id, Keeps (·.unit) (setCore id)) host
    (s.activeOverlay? overlay) ids u
  rcases hactive : s.activeOverlay? overlay with _ | ⟨view, frame⟩ <;> rw [hactive] at hlast
  · exact .inl (hlast.trans hunit)
  · obtain ⟨hmoved, hrefused⟩ := submitOverlay_unit host u view frame
    have hu : u.checkInput view frame = { s with unit := checked.2 }.checkInput view frame := by
      rw [hund.session, hunit]
      rfl
    rw [hu] at hmoved hrefused
    refine .inr ⟨view, frame, activeOverlay?_eq_some hactive, hlast.trans hmoved, fun e he => ?_⟩
    obtain ⟨e', he'⟩ := hrefused e he
    exact ⟨e', fst_of_error (fst_of_error he')⟩

theorem unit_after_process (host : Host) (s : Session) (source : Frame) (overlay : Option Frame) :
    (s.after host (.process source overlay)).unit = (prepare host source overlay s).2.unit := by
  rw [after_process, Keeps.process Session.unit fun _ _ => rfl]

theorem unit_after_flush (host : Host) (s : Session) : (s.after host .flush).unit = s.unit :=
  Keeps.flush Session.unit (fun _ _ => rfl) host s

/-- The overlay of a call moves the session: its source does not lead to the legacy unit, and the
session is on it in the end. -/
def MovedByOverlay (host : Host) (s : Session) : Call → Prop
  | .process source overlay => (s.checkInput s.main source).2.onLegacy = false ∧
      (s.after host (.process source overlay)).unit.onLegacy = true
  | .flush | .close => False

instance (host : Host) (s : Session) (c : Call) : Decidable (MovedByOverlay host s c) :=
  match c with
  | .process .. => inferInstanceAs (Decidable (_ ∧ _))
  | .flush | .close => inferInstanceAs (Decidable False)

/-- An input is refused for its buffer, or the unit is held against its strides. -/
theorem checkInput_cases (s : Session) (view : View) (frame : Frame) :
    (∃ e, s.checkInput view frame = (.error e, s.unit)) ∨ ∃ strideX strideY isAfbc,
      s.checkInput view frame =
        s.unit.revalidate s.hardware view s.output strideX strideY isAfbc := by
  unfold checkInput
  split
  · next e _ => exact .inl ⟨e, rfl⟩
  · exact .inr ⟨_, _, _, rfl⟩

/-- What every check of strides keeps of the unit, the check of an input keeps. -/
theorem checkInput_keeps {P : UnitState → Prop}
    (hkeeps : ∀ unit view strideX strideY isAfbc, P unit →
      P (unit.revalidate s.hardware view s.output strideX strideY isAfbc).2)
    (h : P s.unit) (view : View) (frame : Frame) : P (s.checkInput view frame).2 := by
  rcases checkInput_cases s view frame with ⟨e, hchecked⟩ | ⟨x, y, isAfbc, hchecked⟩
  · rwa [hchecked]
  · rw [hchecked]
    exact hkeeps _ _ _ _ _ h

/-- So does every call. -/
theorem unit_after_keeps {P : UnitState → Prop}
    (hkeeps : ∀ unit view strideX strideY isAfbc, P unit →
      P (unit.revalidate s.hardware view s.output strideX strideY isAfbc).2)
    (h : P s.unit) (host : Host) (c : Call) : P (s.after host c).unit := by
  cases c with
  | process source overlay =>
    have hchecked := checkInput_keeps hkeeps h s.main source
    rw [unit_after_process]
    rcases prepare_unit host source overlay s with hlast | ⟨view, frame, -, hlast, -⟩
    · rwa [hlast]
    · rw [hlast]
      exact checkInput_keeps (s := { s with unit := (s.checkInput s.main source).2 }) hkeeps
        hchecked view frame
  | flush => rwa [unit_after_flush]
  | close => exact h

/-- So does every run. -/
theorem unit_run_keeps {P : UnitState → Prop}
    (hkeeps : ∀ unit view strideX strideY isAfbc, P unit →
      P (unit.revalidate s.hardware view s.output strideX strideY isAfbc).2)
    (h : P s.unit) (host : Host) (calls : List Call) : P (s.run host calls).unit := by
  induction calls generalizing s with
  | nil => exact h
  | cons c rest ih => exact ih (by simpa using hkeeps) (unit_after_keeps hkeeps h host c)

/-- Overlays are whole RGB pictures on whole pictures. -/
def OverlaysWhole (s : Session) : Prop :=
  ∀ view ∈ s.overlay, view.format.isRgb = true ∧ view.cropped = false ∧ s.main.cropped = false

/-- A source keeps the main stream within the limits, or is refused and gets the session stuck. -/
theorem checkInput_main (hw : s.unit.Within s.hardware s.main s.output) (source : Frame) :
    let checked := s.checkInput s.main source
    checked.2.Within s.hardware s.main s.output ∨
      ∃ e, checked.1 = .error e ∧ checked.2.Stuck s.hardware s.main s.output := by
  intro checked
  rcases checkInput_cases s s.main source with ⟨e, hchecked⟩ | ⟨x, y, isAfbc, hchecked⟩
  · simp only [checked, hchecked]
    exact .inl hw
  · obtain ⟨r, unit, hr, hcases⟩ := hw.revalidate x y isAfbc
    simp only [checked, hchecked, hr]
    exact hcases.imp_left And.right

/-- An overlay may do the same, and it may drag along the main stream. -/
theorem checkInput_overlay (ho : s.OverlaysWhole) {view : View} (hview : s.overlay = some view)
    (hw : s.unit.Within s.hardware s.main s.output) (frame : Frame) :
    let checked := s.checkInput view frame
    checked.2.Within s.hardware s.main s.output ∨
      (∃ e, checked.1 = .error e ∧ checked.2.Stuck s.hardware s.main s.output) ∨
      (s.unit.onLegacy = false ∧ checked.2.Dragged s.hardware s.main s.output) := by
  intro checked
  obtain ⟨hrgb, hwhole, hmain⟩ := ho view hview
  rcases checkInput_cases s view frame with ⟨e, hchecked⟩ | ⟨x, y, isAfbc, hchecked⟩
  · simp only [checked, hchecked]
    exact .inl hw
  · obtain ⟨r, unit, hr, hcases⟩ := hw.revalidate_overlay hmain hwhole hrgb x y isAfbc
    simp only [checked, hchecked, hr]
    exact hcases

theorem Created.overlaysWhole (h : s.Created) : s.OverlaysWhole :=
  fun view hview => ⟨h.overlay view hview, h.uncropped view hview⟩

theorem isModernOnly_cores_legacy (h : Hardware) (source destination : View) (inputs : Nat) :
    (Route.cores h true source destination inputs).isModernOnly = false := by
  cases hpro : h.pro <;> simp [Route.cores, hpro] <;> decide

/-- A session starts on a unit whose limits its main stream keeps. -/
theorem Created.within (h : s.Created) : s.unit.Within s.hardware s.main s.output := by
  obtain ⟨r, inputs, hroute, hunit⟩ := h.routed
  obtain ⟨-, hlimits, hcore⟩ := route_ok hroute
  rw [hunit]
  refine ⟨hlimits, fun hmodern => Bool.eq_false_iff.2 fun hlegacy => ?_⟩
  dsimp only at hmodern hlegacy
  rw [hcore, hlegacy, isModernOnly_cores_legacy] at hmodern
  cases hmodern

/-- A call keeps the main stream within the limits, gets the session stuck and fails, or has an
overlay that drags the main stream along. -/
theorem process_of_within (ho : s.OverlaysWhole) (hw : s.unit.Within s.hardware s.main s.output)
    (host : Host) (source : Frame) (overlay : Option Frame) :
    let c : Call := .process source overlay
    let unit := (s.after host c).unit
    unit.Within s.hardware s.main s.output ∨
      ((∃ e, (process host source overlay s).1 = .error e) ∧
        unit.Stuck s.hardware s.main s.output) ∨
      (MovedByOverlay host s c ∧ unit.Dragged s.hardware s.main s.output) := by
  intro c unit
  have hunit : unit = (prepare host source overlay s).2.unit := unit_after_process ..
  rcases checkInput_main hw source with hwithin | ⟨e, hrefused, hstuck⟩
  · rcases prepare_unit host source overlay s with hlast | ⟨view, frame, hview, hlast, hrefused⟩
    · rw [hunit, hlast]
      exact .inl hwithin
    · rw [← hunit] at hlast
      rcases checkInput_overlay (s := { s with unit := (s.checkInput s.main source).2 }) ho hview
        hwithin frame with hwithin' | ⟨e, herror, hstuck⟩ | ⟨hmodern, hdragged⟩
      · rw [← hlast] at hwithin'
        exact .inl hwithin'
      · obtain ⟨e', he'⟩ := hrefused e herror
        rw [← hlast] at hstuck
        exact .inr (.inl ⟨⟨e', fst_of_error he'⟩, hstuck⟩)
      · rw [← hlast] at hdragged
        exact .inr (.inr ⟨⟨hmodern, congrArg (·.onLegacy) hdragged.eq_legacy⟩, hdragged⟩)
  · obtain ⟨hfailed, hlast⟩ := prepare_refused host overlay hrefused
    rw [hunit, hlast]
    exact .inr (.inl ⟨⟨_, fst_of_error hfailed⟩, hstuck⟩)

/-- Every frame is refused by a session that is stuck. -/
theorem process_of_stuck (hs : s.unit.Stuck s.hardware s.main s.output) (host : Host)
    (source : Frame) (overlay : Option Frame) :
    (∃ e, (process host source overlay s).1 = .error e) ∧
      (s.after host (.process source overlay)).unit = s.unit := by
  obtain ⟨e, hlimits⟩ := hs.limits
  have hrefused : ∃ e, s.checkInput s.main source = (.error e, s.unit) := by
    rcases checkInput_cases s s.main source with hchecked | ⟨x, y, isAfbc, hchecked⟩
    · exact hchecked
    · exact ⟨e, hchecked.trans (hs.revalidate hlimits x y isAfbc)⟩
  obtain ⟨e, hrefused⟩ := hrefused
  obtain ⟨hfailed, hlast⟩ :=
    prepare_refused host overlay (congrArg Prod.fst hrefused)
  rw [unit_after_process, hlast, hrefused]
  exact ⟨⟨_, fst_of_error hfailed⟩, rfl⟩

theorem unit_after_of_stuck (hs : s.unit.Stuck s.hardware s.main s.output) (host : Host)
    (c : Call) : (s.after host c).unit = s.unit := by
  cases c with
  | process source overlay => exact (process_of_stuck hs host source overlay).2
  | flush => exact unit_after_flush host s
  | close => rfl

theorem unit_after_of_dragged (hd : s.unit.Dragged s.hardware s.main s.output) (host : Host)
    (c : Call) : (s.after host c).unit = s.unit := by
  refine unit_after_keeps (P := (· = s.unit)) ?_ rfl host c
  rintro unit view x y isAfbc rfl
  rw [hd.revalidate]

/-! ## Runs -/

/-- A session that is stuck stays so, and one that was dragged along does. -/
theorem unit_run_of_astray (h : s.unit.Stuck s.hardware s.main s.output ∨
    s.unit.Dragged s.hardware s.main s.output) (host : Host) (calls : List Call) :
    (s.run host calls).unit = s.unit := by
  induction calls generalizing s with
  | nil => rfl
  | cons c rest ih =>
    have hunit : (s.after host c).unit = s.unit :=
      h.elim (unit_after_of_stuck · host c) (unit_after_of_dragged · host c)
    rw [run_cons, ih (by simpa [hunit] using h), hunit]

/-- After a run the main stream keeps the limits, or the session is stuck, or an overlay of the run
has dragged it along. -/
theorem run_of_within (ho : s.OverlaysWhole) (hw : s.unit.Within s.hardware s.main s.output)
    (host : Host) (calls : List Call) :
    let unit := (s.run host calls).unit
    unit.Within s.hardware s.main s.output ∨ unit.Stuck s.hardware s.main s.output ∨
      (unit.Dragged s.hardware s.main s.output ∧ ∃ earlier c later,
        calls = earlier ++ c :: later ∧ MovedByOverlay host (s.run host earlier) c) := by
  induction calls generalizing s with
  | nil => exact .inl hw
  | cons c rest ih =>
    have hstep : (s.after host c).unit.Within s.hardware s.main s.output ∨
        (s.after host c).unit.Stuck s.hardware s.main s.output ∨
        (MovedByOverlay host s c ∧ (s.after host c).unit.Dragged s.hardware s.main s.output) := by
      cases c with
      | process source overlay =>
        exact (process_of_within ho hw host source overlay).imp_right (.imp_left And.right)
      | flush =>
        rw [unit_after_flush]
        exact .inl hw
      | close => exact .inl hw
    -- Out of the limits there is no way back: the rest of the run keeps the unit.
    rcases hstep with hwithin | hstuck | ⟨hmoved, hdragged⟩
    · have hlater := ih (s := s.after host c) (by simpa [OverlaysWhole] using ho)
        (by simpa using hwithin)
      simp only [hardware_after, main_after, output_after] at hlater
      refine hlater.imp_right (.imp_right fun ⟨hdragged, earlier, d, later, hcalls, hmoved⟩ => ?_)
      exact ⟨hdragged, c :: earlier, d, later, by rw [hcalls]; rfl, hmoved⟩
    · refine .inr (.inl ?_)
      rw [run_cons, unit_run_of_astray (.inl (by simpa using hstuck))]
      exact hstuck
    · refine .inr (.inr ⟨?_, [], c, rest, rfl, hmoved⟩)
      rw [run_cons, unit_run_of_astray (.inr (by simpa using hdragged))]
      exact hdragged

/-- Where a started session stands after a run. -/
theorem run_of_started (hs : Started host s) (calls : List Call) :
    let unit := (s.run host calls).unit
    unit.Within s.hardware s.main s.output ∨ unit.Stuck s.hardware s.main s.output ∨
      (unit.Dragged s.hardware s.main s.output ∧ ∃ earlier c later,
        calls = earlier ++ c :: later ∧ MovedByOverlay host (s.run host earlier) c) :=
  run_of_within hs.created.overlaysWhole hs.created.within host calls

theorem onLegacy_of_moved {c : Call} (h : MovedByOverlay host s c) :
    (s.after host c).unit.onLegacy = true := by
  cases c with
  | process source overlay => exact h.2
  | flush => exact h.elim
  | close => exact h.elim

/-- Padded samples do not come back within the limits once an overlay has moved the session. -/
theorem not_within_of_moved (hs : Started host s) (hpadded : s.main.format.isPadded10 = true)
    {earlier later : List Call} {c : Call} (hmoved : MovedByOverlay host (s.run host earlier) c) :
    ¬(s.run host (earlier ++ c :: later)).unit.Within s.hardware s.main s.output := by
  intro hwithin
  let t := s.run host (earlier ++ [c])
  have hafter : t = (s.run host earlier).after host c := run_append ..
  have hlater : s.run host (earlier ++ c :: later) = t.run host later := by
    rw [List.append_cons, run_append]
  rw [hlater] at hwithin
  rcases run_of_started hs (earlier ++ [c]) with hwithin' | hstuck | ⟨hdragged, -⟩
  · have hlegacy := onLegacy_of_moved hmoved
    rw [← hafter] at hlegacy
    cases hpadded.symm.trans (hwithin'.not_padded hlegacy)
  · rw [unit_run_of_astray (.inl (by simpa [t] using hstuck))] at hwithin
    exact hwithin.not_stuck hstuck
  · rw [unit_run_of_astray (.inr (by simpa [t] using hdragged))] at hwithin
    exact hdragged.not_within hwithin

/-- A call that succeeds has not found the session stuck, nor got it stuck. -/
theorem not_stuck_of_process (hs : Started host s) {before : List Call} {source : Frame}
    {overlay : Option Frame} {status : FrameStatus}
    (hok : (process host source overlay (s.run host before)).1 = .ok status) :
    ¬(s.run host (before ++ [.process source overlay])).unit.Stuck s.hardware s.main s.output := by
  intro hstuck
  let u := s.run host before
  have hafter : s.run host (before ++ [.process source overlay]) =
      u.after host (.process source overlay) := run_append ..
  rw [hafter] at hstuck
  rcases run_of_started hs before with hwithin | hstuck' | ⟨hdragged, -⟩
  · rcases process_of_within (s := u) (by simpa [u, OverlaysWhole] using hs.created.overlaysWhole)
      (by simpa [u] using hwithin) host source overlay with hwithin' | ⟨⟨e, he⟩, -⟩ | ⟨-, hdragged⟩
    · simp only [u, hardware_run, main_run, output_run] at hwithin'
      exact hwithin'.not_stuck hstuck
    · cases hok.symm.trans he
    · simp only [u, hardware_run, main_run, output_run] at hdragged
      exact hdragged.not_stuck hstuck
  · obtain ⟨⟨e, he⟩, -⟩ :=
      process_of_stuck (s := u) (by simpa [u] using hstuck') host source overlay
    cases hok.symm.trans he
  · rw [unit_after_of_dragged (by simpa [u] using hdragged)] at hstuck
    exact hdragged.not_stuck hstuck

/-- A session starts within the limits of its unit. After a call that succeeds, its main stream
still keeps the limits of the unit in force, unless it has padded ten-bit samples and an overlay has
moved the session so far. Then it is these samples that the unit cannot run. -/
theorem main_stream_within_limits_iff (hs : Started host s) :
    verify s.hardware s.unit.onLegacy s.main s.output = .ok () ∧
    ∀ before source overlay status,
      (process host source overlay (s.run host before)).1 = .ok status →
      let calls := before ++ [.process source overlay]
      let t := s.run host calls
      let limits := verify t.hardware t.unit.onLegacy t.main t.output
      (limits = .ok () ↔ ¬(t.main.format.isPadded10 = true ∧ ∃ earlier c later,
        calls = earlier ++ c :: later ∧ MovedByOverlay host (s.run host earlier) c)) ∧
      (limits = .ok () ∨
        limits = .error (.unsupported (.pairOnLegacy t.main.format t.output.format))) := by
  refine ⟨hs.created.within.limits, fun before source overlay status hok => ?_⟩
  intro calls t limits
  have hnotstuck := not_stuck_of_process hs hok
  simp only [limits, t, hardware_run, main_run, output_run]
  rcases run_of_started hs calls with hwithin | hstuck | ⟨hdragged, hmoved⟩
  · refine ⟨⟨fun _ => ?_, fun _ => hwithin.limits⟩, .inl hwithin.limits⟩
    rintro ⟨hpadded, earlier, c, later, hcalls, hmoved⟩
    rw [hcalls] at hwithin
    exact not_within_of_moved hs hpadded hmoved hwithin
  · exact absurd hstuck hnotstuck
  · have hpadded := hdragged.padded
    rw [hdragged.eq_legacy, hdragged.limits]
    exact ⟨⟨nofun, fun hclear => absurd ⟨hpadded, hmoved⟩ hclear⟩, .inr rfl⟩

/-- A padded stream before and after an overlay moves its session. -/
theorem main_stream_within_limits_iff_sample :
    let s := Sample.paddedSession
    let alone : Call := .process (Sample.paddedFrame 256) none
    let moving : Call := .process (Sample.paddedFrame 256) (some Sample.unalignedOverlay)
    let limits (calls : List Call) :=
      let t := s.run Sample.host calls
      verify t.hardware t.unit.onLegacy t.main t.output
    Started Sample.host s ∧ s.main.format.isPadded10 = true ∧
      ¬MovedByOverlay Sample.host s alone ∧ limits [alone] = .ok () ∧
      MovedByOverlay Sample.host (s.run Sample.host [alone]) moving ∧
      limits [alone, moving] = .error (.unsupported (.pairOnLegacy .p010 .nv12)) := by
  intro s alone moving limits
  have hstarted : Started Sample.host s := Sample.paddedStarted
  have hall := (main_stream_within_limits_iff hstarted).2
  have halone : ¬MovedByOverlay Sample.host s alone := by decide +kernel
  have hmoving : MovedByOverlay Sample.host (s.run Sample.host [alone]) moving := by decide +kernel
  have hfirst := hall [] (Sample.paddedFrame 256) none .delivered
    (ok_of_toOption (by decide +kernel))
  have hsecond := hall [alone] (Sample.paddedFrame 256) (some Sample.unalignedOverlay) .delivered
    (ok_of_toOption (by decide +kernel))
  simp only [hardware_run, main_run, output_run] at hfirst hsecond
  simp only [limits, hardware_run, main_run, output_run]
  refine ⟨hstarted, rfl, halone, hfirst.1.2 ?_, hmoving, ?_⟩
  · rintro ⟨-, earlier, c, later, hcalls, hmoved⟩
    rcases earlier with _ | ⟨d, earlier⟩
    · cases hcalls
      exact halone hmoved
    · simp at hcalls
  · exact hsecond.2.resolve_left fun hok =>
      hsecond.1.1 hok ⟨rfl, [alone], moving, [], rfl, hmoving⟩

/-- A padded stream that an overlay has dragged along is processed on the legacy unit, against the
limits. -/
theorem padded_stream_on_legacy :
    let c : Call := .process (Sample.paddedFrame 256) (some Sample.unalignedOverlay)
    let t := Sample.paddedSession.after Sample.host c
    Started Sample.host Sample.paddedSession ∧
      (process Sample.host (Sample.paddedFrame 256) (some Sample.unalignedOverlay)
        Sample.paddedSession).1 = .ok .delivered ∧
      t.unit.onLegacy = true ∧
      verify t.hardware t.unit.onLegacy t.main t.output =
        .error (.unsupported (.pairOnLegacy .p010 .nv12)) :=
  ⟨Sample.paddedStarted, by decide +kernel, by decide +kernel, by decide +kernel⟩

end Session
end Blitter
