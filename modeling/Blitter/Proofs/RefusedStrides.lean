import Blitter.Proofs.UnitInForce

/-!
# Frames refused for their strides

A frame whose strides the modern unit cannot take is refused if the legacy unit cannot run the
stream. The cores stay, but the session counts as moved from then on, and so refuses every frame
after that one, also frames whose strides suit the modern unit.
-/
namespace Blitter

namespace Session

variable {host : Host} {s : Session} {source : Frame}

/-- The modern unit cannot take the strides of a linear source, and the session may not leave it. -/
structure RefusedForStrides (s : Session) (source : Frame) (e : Error) : Prop where
  buffer : ∃ buffer, s.inputBuffer s.main source = .ok buffer
  beyond : BeyondModern source s.main.format
  refused : (s.checkInput s.main source).1 = .error e

/-- The modern unit can take the strides of the frame. -/
def SuitsModern (s : Session) (frame : Frame) : Prop :=
  ∃ buffer, s.inputBuffer s.main frame = .ok buffer ∧ (buffer.compression = some .afbc ∨
    modernAddresses buffer.stride.width buffer.stride.height s.main.surfaceCode = true)

/-- What a source that is refused for its strides does to its session. -/
structure Refusal (host : Host) (s : Session) (source : Frame) (overlay : Option Frame)
    (e : Error) : Prop where
  failed : (process host source overlay s).1 = .error (.error e)
  core : (s.after host (.process source overlay)).unit.core = s.unit.core
  /-- The session counts as moved from then on. -/
  moved : (s.after host (.process source overlay)).unit.onLegacy = true
  unit_iff : (s.after host (.process source overlay)).unit = s.unit ↔ s.unit.onLegacy = true
  /-- No frame is accepted any more. -/
  refuses : ∀ later source' overlay', ∃ e',
    (process host source' overlay' ((s.after host (.process source overlay)).run host later)).1 =
      .error e'
  /-- Had there been no such source, strides that suit the modern unit would pass, unless the
  session counted as moved already. -/
  passes_iff : ∀ frame, SuitsModern s frame →
    ((s.checkInput s.main frame).1 = .ok () ↔ s.unit.onLegacy = false)

theorem checkInput_eq {view : View} {frame : Frame} {buffer : InputBuffer}
    (h : s.inputBuffer view frame = .ok buffer) :
    s.checkInput view frame = s.unit.revalidate s.hardware view s.output buffer.stride.width
      buffer.stride.height (buffer.compression = some .afbc) := by
  simp only [checkInput, h]

/-- Only a session on modern cores refuses strides, and it then counts as moved. -/
theorem RefusedForStrides.checked {e : Error} (h : RefusedForStrides s source e) :
    s.unit.core.isModernOnly = true ∧ verify s.hardware true s.main s.output = .error e ∧
      s.checkInput s.main source = (.error e, ⟨true, s.unit.core⟩) := by
  obtain ⟨buffer, hbuffer⟩ := h.buffer
  obtain ⟨hlinear, stride, hstride, hbeyond⟩ := h.beyond
  have hchecked := checkInput_eq hbuffer
  obtain ⟨-, -, hcompression, hlayout, -⟩ := inputBuffer_ok hbuffer
  rw [hlinear] at hcompression
  cases hstride.symm.trans (hlayout hcompression)
  have hasks : (!decide (buffer.compression = some .afbc) &&
      !modernAddresses buffer.stride.width buffer.stride.height s.main.surfaceCode) = true := by
    rw [View.surfaceCode, hbeyond, hcompression]
    rfl
  have hrefused := h.refused
  rcases UnitState.revalidate_cases s.unit s.hardware s.main s.output buffer.stride.width
    buffer.stride.height (buffer.compression = some .afbc) with
    ⟨-, hr⟩ | ⟨-, -, hr⟩ | ⟨hmodern, e', hverify, hr⟩
  · rw [hchecked, hr] at hrefused
    cases hrefused
  · rw [hchecked, hr] at hrefused
    cases hrefused
  · rw [hasks, Bool.or_true] at hverify hr
    rw [hchecked, hr] at hrefused
    cases hrefused
    exact ⟨hmodern, hverify, hchecked.trans hr⟩

/-- On modern cores, strides that suit them pass the check as long as the session does not count as
moved to a unit that cannot run it. -/
theorem SuitsModern.passes_iff {frame : Frame} {e : Error} (h : SuitsModern s frame)
    (hmodern : s.unit.core.isModernOnly = true)
    (hverify : verify s.hardware true s.main s.output = .error e)
    (hlimits : s.unit.onLegacy = false → verify s.hardware false s.main s.output = .ok ()) :
    (s.checkInput s.main frame).1 = .ok () ↔ s.unit.onLegacy = false := by
  obtain ⟨buffer, hbuffer, hsuits⟩ := h
  have hasks : (!decide (buffer.compression = some .afbc) &&
      !modernAddresses buffer.stride.width buffer.stride.height s.main.surfaceCode) = false := by
    rcases hsuits with hafbc | haddresses
    · simp [hafbc]
    · simp [haddresses]
  rw [checkInput_eq hbuffer]
  rcases UnitState.revalidate_cases s.unit s.hardware s.main s.output buffer.stride.width
    buffer.stride.height (buffer.compression = some .afbc) with
    ⟨hcore, -⟩ | ⟨-, hpasses, hr⟩ | ⟨-, e', hfails, hr⟩
  · cases hmodern.symm.trans hcore
  · rw [hasks, Bool.or_false] at hpasses
    rw [hr]
    refine ⟨fun _ => Bool.eq_false_iff.2 fun hlegacy => ?_, fun _ => rfl⟩
    rw [hlegacy] at hpasses
    cases hpasses.symm.trans hverify
  · rw [hasks, Bool.or_false] at hfails
    rw [hr]
    refine ⟨fun hok => (by cases hok), fun hstays => ?_⟩
    rw [hstays] at hfails
    cases hfails.symm.trans (hlimits hstays)

theorem RefusedForStrides.refusal {e : Error} (h : RefusedForStrides s source e)
    (hlimits : s.unit.onLegacy = false → verify s.hardware false s.main s.output = .ok ())
    (host : Host) (overlay : Option Frame) : Refusal host s source overlay e := by
  obtain ⟨hmodern, hverify, hchecked⟩ := h.checked
  obtain ⟨hfailed, hunit⟩ := prepare_refused host overlay h.refused
  rw [hchecked, ← unit_after_process] at hunit
  -- The check fails between the two halves of the move.
  have hstuck : (s.after host (.process source overlay)).unit.Stuck s.hardware s.main s.output := by
    rw [hunit]
    exact ⟨rfl, hmodern, e, hverify⟩
  refine ⟨fst_of_error hfailed, congrArg (·.core) hunit, hstuck.onLegacy, ?_, ?_, ?_⟩
  · rw [hunit]
    exact ⟨fun heq => (congrArg (·.onLegacy) heq).symm, fun hlegacy => by rw [← hlegacy]⟩
  · intro later source' overlay'
    refine (process_of_stuck ?_ host source' overlay').1
    rw [unit_run_of_astray (.inl (by simpa using hstuck))]
    simpa using hstuck
  · exact fun frame hsuits => hsuits.passes_iff hmodern hverify hlimits

/-- A check of strides that fails keeps the cores, and it keeps the unit unless it has counted the
session as moved. A source refused for its strides counts a session as moved that did not count so
before, which then refuses every frame. -/
theorem refused_strides_keep_unit_iff (hs : Started host s) :
    (∀ unit unit' h source destination strideX strideY isAfbc e,
      UnitState.revalidate unit h source destination strideX strideY isAfbc = (.error e, unit') →
      unit'.core = unit.core ∧ (unit' = unit ↔ unit.onLegacy = true ∨ isAfbc = true ∨
        modernAddresses strideX strideY source.surfaceCode = true)) ∧
    ∀ before source overlay e, RefusedForStrides (s.run host before) source e →
      Refusal host (s.run host before) source overlay e := by
  constructor
  · intro unit unit' h source destination strideX strideY isAfbc e hrefused
    rcases UnitState.revalidate_cases unit h source destination strideX strideY isAfbc with
      ⟨-, hr⟩ | ⟨-, -, hr⟩ | ⟨-, e', -, hr⟩
    · cases hrefused.symm.trans hr
    · cases hrefused.symm.trans hr
    · cases hrefused.symm.trans hr
      refine ⟨rfl, ?_⟩
      rcases unit with ⟨onLegacy, core⟩
      cases onLegacy <;> cases isAfbc <;> simp
  · intro before source overlay e hrefused
    refine hrefused.refusal (fun hstays => ?_) host overlay
    rcases run_of_started hs before with hwithin | hstuck | ⟨hdragged, -⟩
    · have hlimits := hwithin.limits
      rw [hstays] at hlimits
      simpa using hlimits
    · cases hstays.symm.trans hstuck.onLegacy
    · rw [hdragged.eq_legacy] at hstays
      cases hstays

/-- A padded stream whose first frame has rows that the modern unit cannot take. -/
theorem refused_strides_keep_unit_iff_sample :
    let s := Sample.paddedSession
    let e : Error := .unsupported (.pairOnLegacy .p010 .nv12)
    Started Sample.host s ∧ RefusedForStrides s (Sample.paddedFrame 272) e ∧
      SuitsModern s (Sample.paddedFrame 256) ∧
      Refusal Sample.host s (Sample.paddedFrame 272) none e := by
  intro s e
  have hrefused : RefusedForStrides s (Sample.paddedFrame 272) e :=
    ⟨⟨_, rfl⟩, ⟨rfl, _, rfl, rfl⟩, by decide +kernel⟩
  exact ⟨Sample.paddedStarted, hrefused, ⟨_, rfl, .inr rfl⟩,
    (refused_strides_keep_unit_iff Sample.paddedStarted).2 [] _ none e hrefused⟩

/-- A frame that alone is delivered fails after one that is refused. -/
theorem good_frame_refused_after_bad_one :
    let s := Sample.paddedSession
    let bad := Sample.paddedFrame 272
    let good := Sample.paddedFrame 256
    let t := s.after Sample.host (.process bad none)
    Started Sample.host s ∧ (process Sample.host good none s).1 = .ok .delivered ∧
      s.unit = ⟨false, .modern⟩ ∧ t.unit = ⟨true, .modern⟩ ∧
      (process Sample.host good none t).1 =
        .error (.error (.unsupported (.pairOnLegacy .p010 .nv12))) :=
  ⟨Sample.paddedStarted, by decide +kernel, rfl, by decide +kernel, by decide +kernel⟩

end Session
end Blitter
