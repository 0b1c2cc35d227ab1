import Blitter.Proofs.CoreRequest
import Blitter.Proofs.Dispatch

/-!
# Pinned cores

A request for modern cores, or for the core of a legacy unit that is not Pro, pins a session: the
hardware it works with has this unit and no other. Routing and strides then leave the cores as they
were asked for, in every state that a run reaches, and so all blits ask for them. A frame that the
unit cannot take is not described, and a call issues no blit before it has described its frames.
-/
namespace Blitter

namespace Hardware

variable {h : Hardware} {version : String} {request : CoreMask} {source destination : View}
  {unit unit' : UnitState}

/-- The cores asked for are those of one unit, and the other is hidden. -/
inductive Pinned (h : Hardware) : Prop
  | modern (cores : h.core.isModernOnly = true) (legacy : h.legacy = false)
    (enhance : h.enhance = false)
  | legacy (cores : h.core = .legacy) (modern : h.modern = false) (pro : h.pro = false)

theorem pinned_of_kept (hversion : ofVersion version request = .ok h) (hkept : h.core = request)
    (hunit : request.isModernOnly = true ∨
      (request = .legacy ∧ (announced version).pro = false)) : h.Pinned := by
  rcases ofVersion_eq version request with ⟨hv, -⟩ | ⟨hv, -⟩ <;> cases hv.symm.trans hversion
  -- Only requests for other cores hide nothing.
  rcases pin_cases (announced version) request with
    ⟨hcore, hpin⟩ | ⟨hcore, hpro, hpin⟩ | ⟨hcore, hlegacy, hpin⟩ <;> rw [hpin] at hkept ⊢
  · exact .modern hcore rfl rfl
  · exact .legacy hcore rfl hpro
  · have hallowed : (announced version).allowed request = request := hkept
    rw [hallowed] at hcore hlegacy
    rcases hunit with hmodern | ⟨hrequest, hpro⟩
    · cases hcore.symm.trans hmodern
    · cases hpro.symm.trans (hlegacy hrequest)

namespace Pinned

/-- Only the unit that is left can be routed to, with the cores that were asked for. -/
theorem route_eq {overlay : Option View} {inputs : Nat} {r : Route} (hp : h.Pinned)
    (hroute : route h source destination overlay inputs = .ok r) :
    r.onLegacy = (!h.core.isModernOnly) ∧ r.core = h.core := by
  obtain ⟨husage, hlimits, hcore⟩ := route_ok hroute
  cases hp with
  | modern cores legacy enhance =>
    have hmodern : r.onLegacy = false := by
      refine Bool.eq_false_iff.2 fun hlegacy => ?_
      rw [hlegacy] at hlimits
      cases legacy.symm.trans (verify_legacy_eq_ok.1 hlimits).1
    rw [hcore, hmodern, cores]
    simp [Route.cores, enhance]
  | legacy cores modern pro =>
    have hlegacy : r.onLegacy = true := by
      rw [husage]
      simp [Route.usesLegacy, needsLegacy, modern]
    rw [hcore, hlegacy, cores]
    exact ⟨rfl, by simp [Route.cores, modern, CoreMask.allLegacy, pro]⟩

/-- With modern cores only, no conversion can be run on the legacy unit. -/
theorem verify_legacy_ne_ok (hp : h.Pinned) (hcores : h.core.isModernOnly = true) :
    verify h true source destination ≠ .ok () := by
  intro hlimits
  have hpresent := (verify_legacy_eq_ok.1 hlimits).1
  cases hp with
  | modern cores legacy => cases legacy.symm.trans hpresent
  | legacy cores =>
    rw [cores] at hcores
    cases hcores

/-- Whatever the strides of an input, the session stays on the cores that were asked for. -/
theorem core_of_revalidate (hp : h.Pinned) (hcore : unit.core = h.core)
    (strideX strideY : Int) (isAfbc : Bool) :
    (unit.revalidate h source destination strideX strideY isAfbc).2.core = h.core := by
  rcases UnitState.revalidate_cases unit h source destination strideX strideY isAfbc with
    ⟨-, hr⟩ | ⟨hmodern, hlimits, hr⟩ | ⟨-, e, -, hr⟩ <;> rw [hr]
  · exact hcore
  · dsimp only
    split
    · next hlegacy =>
      rw [hlegacy] at hlimits
      exact absurd hlimits (hp.verify_legacy_ne_ok (hcore ▸ hmodern))
    · exact hcore
  · exact hcore

/-- An input that passes the check on modern cores keeps the modern unit's limits, and its strides
suit this unit. -/
theorem modern_of_revalidate {strideX strideY : Int} {isAfbc : Bool} (hp : h.Pinned)
    (hcore : unit.core = h.core) (hcores : h.core.isModernOnly = true)
    (hpass : unit.revalidate h source destination strideX strideY isAfbc = (.ok (), unit')) :
    verify h false source destination = .ok () ∧
      (isAfbc = false → modernAddresses strideX strideY source.surfaceCode = true) := by
  rcases UnitState.revalidate_cases unit h source destination strideX strideY isAfbc with
    ⟨hunchecked, -⟩ | ⟨-, hlimits, -⟩ | ⟨-, e, -, hrefused⟩
  · rw [hcore, hcores] at hunchecked
    cases hunchecked
  · cases hmoves : unit.onLegacy ||
        (!isAfbc && !modernAddresses strideX strideY source.surfaceCode) with
    | true =>
      rw [hmoves] at hlimits
      exact absurd hlimits (hp.verify_legacy_ne_ok hcores)
    | false =>
      rw [hmoves] at hlimits
      obtain ⟨-, haddressed⟩ := Bool.or_eq_false_iff.1 hmoves
      refine ⟨hlimits, fun hlinear => ?_⟩
      rw [hlinear] at haddressed
      simpa using haddressed
  · cases hrefused.symm.trans hpass

end Pinned

/-- The unit that is asked for cannot take a frame: the frame's view is not within its limits, the
modern unit cannot take the strides, or the legacy unit the compression. -/
inductive Unfit (h : Hardware) (view output : View) (frame : Frame) : Prop
  | limits (e : Error) (exceeded : verify h (!h.core.isModernOnly) view output = .error e)
  | strides (cores : h.core.isModernOnly = true)
    (beyond : Session.BeyondModern frame view.format)
  | compressed (cores : h.core = .legacy) (compressed : frame.compression? ≠ none)

end Hardware

namespace Session

variable {host : Host} {s t u : Session} {source : Frame} {overlay : Option Frame}

/-- The session is on the cores that its hardware pins it to. If these are legacy ones, all views
keep the legacy unit's limits. -/
structure Pinned (s : Session) : Prop where
  hardware : s.hardware.Pinned
  core : s.unit.core = s.hardware.core
  limits : s.hardware.core = .legacy → ∀ view, (view = s.main ∨ s.overlay = some view) →
    verify s.hardware true view s.output = .ok ()

theorem Created.pinned (h : s.Created) (hp : s.hardware.Pinned) : s.Pinned := by
  obtain ⟨r, inputs, hroute, hunit⟩ := h.routed
  obtain ⟨honLegacy, hcore⟩ := hp.route_eq hroute
  obtain ⟨-, hlimits, -⟩ := route_ok hroute
  refine ⟨hp, by rw [hunit, hcore], fun hcores view hview => ?_⟩
  have hlegacy : r.onLegacy = true := by
    rw [honLegacy, hcores]
    rfl
  rw [hlegacy] at hlimits
  rcases hview with rfl | hoverlay
  · exact hlimits
  · obtain ⟨hrgb, hwhole, hmain⟩ := h.overlaysWhole view hoverlay
    exact ((verify_legacy_ok_iff hmain hwhole
      (PixelFormat.not_isPadded10_of_isRgb hrgb)).1 hlimits).2

theorem Pinned.of_settings (h : s.Pinned) (hsettings : t.settings = s.settings)
    (hcore : t.unit.core = s.hardware.core) : t.Pinned := by
  obtain ⟨hhardware, hmain, hoverlay, houtput, -⟩ := settings_eq_iff.1 hsettings
  refine ⟨?_, ?_, ?_⟩ <;> simp only [hhardware, hmain, hoverlay, houtput]
  exacts [h.hardware, hcore, h.limits]

theorem Pinned.consistent (h : s.Pinned) : s.unit.Consistent := by
  cases h.hardware with
  | modern cores => exact .inl (h.core ▸ cores)
  | legacy cores => exact .inr fun _ => .inl (h.core.trans cores)

theorem Pinned.after (h : s.Pinned) (host : Host) (c : Call) : (s.after host c).Pinned :=
  h.of_settings (settings_after host s c) <|
    unit_after_keeps (P := fun unit => unit.core = s.hardware.core)
      (fun _ _ _ _ _ hunit => h.hardware.core_of_revalidate hunit ..) h.core host c

/-- A session stays pinned. -/
theorem Pinned.run (h : s.Pinned) (host : Host) (calls : List Call) :
    (s.run host calls).Pinned := by
  induction calls generalizing s with
  | nil => exact h
  | cons c rest ih => exact ih (h.after host c)

/-! ## Describing frames -/

/-- A frame that is described is one that the unit can take. -/
theorem Pinned.not_unfit {role : Role} {view : View} {frame : Frame} {blended : Bool}
    {surface : Surface} {unit : UnitState} (hp : s.Pinned)
    (hview : view = s.main ∨ s.overlay = some view)
    (h : s.describeInput role view frame blended = (.ok surface, unit)) :
    ¬s.hardware.Unfit view s.output frame := by
  obtain ⟨buffer, rect, hbuffer, hpass, -, -⟩ := describeInput_ok h
  obtain ⟨-, -, hcompression, hlinear, hcompressed⟩ := inputBuffer_ok hbuffer
  intro hunfit
  cases hunfit with
  | limits e exceeded =>
    cases hp.hardware with
    | modern cores =>
      rw [cores, Bool.not_true] at exceeded
      cases exceeded.symm.trans (hp.hardware.modern_of_revalidate hp.core cores hpass).1
    | legacy cores =>
      rw [cores] at exceeded
      cases exceeded.symm.trans (hp.limits cores view hview)
  | strides cores beyond =>
    obtain ⟨hnone, stride, hstride, hunaddressed⟩ := beyond
    rw [← hcompression] at hnone
    have haddressed := (hp.hardware.modern_of_revalidate hp.core cores hpass).2 (by simp [hnone])
    rw [hlinear hnone] at hstride
    cases hstride
    cases hunaddressed.symm.trans haddressed
  | compressed cores compressed =>
    rw [← hcompression] at compressed
    cases hp.hardware with
    | modern cores' =>
      rw [cores] at cores'
      cases cores'
    | legacy _ _ pro =>
      -- Compressed buffers have been refused before any strides are looked at.
      have hmodern := (hcompressed compressed).2 pro
      rw [UnitState.isLegacy, hp.core, cores] at hmodern
      simp at hmodern

/-- The source of a call is described, and its overlay on the unit that the source leads to. -/
structure Describes (s : Session) (source : Frame) (overlay : Option Frame) (u : Session) :
    Prop where
  settings : u.settings = s.settings
  source : ∃ surface, s.describeInput .source s.main source (s.activeOverlay? overlay).isSome =
    (.ok surface, u.unit)
  overlay : ∀ view frame, s.activeOverlay? overlay = some (view, frame) →
    ∃ role surface unit, u.describeInput role view frame false = (.ok surface, unit)

theorem Prepared.describes {l : Load} (h : Prepared host s source overlay u l t) :
    s.Describes source overlay u := by
  refine ⟨h.between.settings, ⟨_, h.input⟩, fun view frame hactive => ?_⟩
  have hoverlaid := h.overlaid
  rw [hactive] at hoverlaid
  obtain ⟨role, surface, hdescribed⟩ := hoverlaid.described
  exact ⟨role, surface, _, hdescribed⟩

theorem describes_of_placements {d : Dispatch}
    (h : d ∈ s.placements host (.process source overlay)) : ∃ u, s.Describes source overlay u := by
  obtain ⟨u, view, frame, hactive, hframes, -, hlaid⟩ := laysOut_of_placements h
  refine ⟨u, hframes.settings, by simpa [hactive] using hframes.input, ?_⟩
  rintro view' frame' hactive'
  cases hactive.symm.trans hactive'
  exact ⟨_, _, _, hlaid.input⟩

/-- What is described on a pinned session, the unit can take. -/
theorem Describes.not_unfit (h : s.Describes source overlay u) (hp : s.Pinned) :
    ¬s.hardware.Unfit s.main s.output source ∧ ∀ view frame,
      s.activeOverlay? overlay = some (view, frame) → ¬s.hardware.Unfit view s.output frame := by
  obtain ⟨surface, hsource⟩ := h.source
  refine ⟨hp.not_unfit (.inl rfl) hsource, fun view frame hactive => ?_⟩
  obtain ⟨role, surface', unit, hoverlay⟩ := h.overlay view frame hactive
  obtain ⟨buffer, rect, -, hpass, -, -⟩ := describeInput_ok hsource
  have hcore : (s.unit.revalidate s.hardware s.main s.output buffer.stride.width
      buffer.stride.height (buffer.compression = some .afbc)).2.core = s.hardware.core :=
    hp.hardware.core_of_revalidate hp.core ..
  rw [hpass] at hcore
  have hu := hp.of_settings h.settings hcore
  obtain ⟨hhardware, -, hview, houtput, -⟩ := settings_eq_iff.1 h.settings
  have hunfit := hu.not_unfit (.inr (hview.trans (activeOverlay?_eq_some hactive))) hoverlay
  rwa [hhardware, houtput] at hunfit

/-! ## Calls and runs -/

/-- The unit that a session is pinned to cannot take a frame of the call. -/
def GivenUnfit (s : Session) (source : Frame) (overlay : Option Frame) : Prop :=
  s.hardware.Unfit s.main s.output source ∨ ∃ view frame,
    s.activeOverlay? overlay = some (view, frame) ∧ s.hardware.Unfit view s.output frame

/-- A frame that the unit cannot take is refused, and no blit is issued. -/
theorem Pinned.refuses (hp : s.Pinned) (host : Host) (h : s.GivenUnfit source overlay) :
    (∃ e, (process host source overlay s).1 = .error (.error e)) ∧
      s.dispatches host (.process source overlay) = [] := by
  have hnone (u : Session) : ¬s.Describes source overlay u := by
    intro hdescribes
    obtain ⟨hsource, hoverlay⟩ := hdescribes.not_unfit hp
    rcases h with hunfit | ⟨view, frame, hactive, hunfit⟩
    · exact hsource hunfit
    · exact hoverlay view frame hactive hunfit
  refine refused_of_not_prepared (fun d hd => ?_) fun u l t hl => hnone u hl.describes
  obtain ⟨u, hdescribes⟩ := describes_of_placements hd
  exact hnone u hdescribes

/-- Every blit of a run asks for the cores that the session is pinned to. -/
theorem Pinned.dispatched_cores (hp : s.Pinned) (host : Host) (calls : List Call) :
    ∀ d ∈ collect (dispatches host) host s calls,
      d.entry.blit.destination.core = s.hardware.core := by
  induction calls generalizing s with
  | nil => simp [collect]
  | cons c rest ih =>
    intro d hd
    rw [collect, List.mem_append] at hd
    rcases hd with hd | hd
    · rw [core_of_dispatches host hp.consistent c d hd, (hp.after host c).core, hardware_after]
    · rw [ih (hp.after host c) d hd, hardware_after]

/-- A session that is pinned to a unit asks for the cores that it was created with in every blit of
every run. A frame that the unit cannot take is refused with an error, and nothing is issued. -/
theorem pinned_cores_in_force {inputs : List Pad} {output : Pad} {p : Parameters} {o : Options}
    {hardware : Hardware} (hversion : Hardware.ofVersion host.version o.core = .ok hardware)
    (hkept : hardware.core = o.core)
    (hunit : o.core.isModernOnly = true ∨
      (o.core = .legacy ∧ (Hardware.announced host.version).pro = false))
    (h : create host inputs output p o = .ok s) (calls : List Call) :
    let t := s.run host calls
    t.unit.core = o.core ∧
    (∀ e ∈ t.pipeline.journal.blits, e.blit.destination.core = o.core) ∧
    ∀ source overlay, t.GivenUnfit source overlay →
      (∃ e, (process host source overlay t).1 = .error (.error e)) ∧
        (t.after host (.process source overlay)).pipeline.journal.blits =
          t.pipeline.journal.blits := by
  intro t
  obtain ⟨hcreated, -, hversion', hpipeline⟩ := create_ok h
  cases hversion.symm.trans hversion'
  have hpinned := hcreated.pinned (Hardware.pinned_of_kept hversion hkept hunit)
  have ht : t.Pinned := hpinned.run host calls
  refine ⟨?_, fun e he => ?_, fun source overlay hunfit => ?_⟩
  · rw [ht.core, hardware_run, hkept]
  · have hblits := blits_run hcreated.carries hpinned.consistent host calls
    rw [hblits, hpipeline, List.nil_append] at he
    obtain ⟨d, hd, rfl⟩ := List.mem_map.1 he
    rw [hpinned.dispatched_cores host calls d hd, hkept]
  · obtain ⟨hrefused, hnone⟩ := ht.refuses host hunfit
    have hcarries := (run_accounts host hcreated.carries calls).carries
    have hblits := blits_after hcarries ht.consistent host (.process source overlay)
    rw [hnone] at hblits
    exact ⟨hrefused, hblits.trans (List.append_nil _)⟩

/-- With both units there, a session pinned to one modern core runs a frame on it and refuses an
overlay that would have moved it to the legacy unit. -/
theorem pinned_cores_in_force_sample :
    let o : Options := { core := ⟨0x1⟩, depth := 1 }
    let hardware := (Hardware.announced Sample.host.version).pin o.core
    let s : Session := { Sample.session with
      hardware := hardware, unit := ⟨false, o.core⟩, afbcOutput := false }
    let t := s.run Sample.host [.process (Sample.frame 1) none]
    Hardware.ofVersion Sample.host.version o.core = .ok hardware ∧ hardware.core = o.core ∧
      create Sample.host [Sample.mainPad, Sample.overlayPad] Sample.mainPad { alpha := 255 } o =
        .ok s ∧
      t.pipeline.journal.blits.length = 1 ∧
      (∀ e ∈ t.pipeline.journal.blits, e.blit.destination.core = o.core) ∧
      t.GivenUnfit (Sample.frame 2) (some Sample.unalignedOverlay) ∧
      ∃ e, (process Sample.host (Sample.frame 2) (some Sample.unalignedOverlay) t).1 =
        .error (.error e) := by
  intro o hardware s t
  have hversion : Hardware.ofVersion Sample.host.version o.core = .ok hardware :=
    ok_of_toOption (by decide +kernel)
  have hkept : hardware.core = o.core := by decide +kernel
  have hcreate : create Sample.host [Sample.mainPad, Sample.overlayPad] Sample.mainPad
      { alpha := 255 } o = .ok s := ok_of_toOption (by decide +kernel)
  obtain ⟨-, hcores, hrefused⟩ := pinned_cores_in_force hversion hkept (.inl (by decide)) hcreate
    [.process (Sample.frame 1) none]
  have hunfit : t.GivenUnfit (Sample.frame 2) (some Sample.unalignedOverlay) := by
    refine .inr ⟨{ pad := Sample.overlayPad, active := ⟨0, 0, 128, 128⟩ },
      Sample.unalignedOverlay, by decide +kernel, .strides (by decide +kernel) ?_⟩
    exact ⟨by decide +kernel, ⟨130, 128⟩, by decide +kernel, by decide +kernel⟩
  exact ⟨hversion, hkept, hcreate, by decide +kernel, hcores, hunfit, (hrefused _ _ hunfit).1⟩

end Session
end Blitter
