import Blitter.Proofs.Rounding
import Blitter.Proofs.UnitInForce

/-!
# The envelope of a unit

A session is only routed to a unit that takes its formats and sizes. For the modern unit most limits
are not checked as such: what exceeds them asks for the legacy unit, whose own limits are then
checked.
-/
namespace Blitter

open Limits

namespace Route

variable {h : Hardware} {source destination : View} {overlay : Option View} {inputs : Nat}
  {r : Route}

/-- What the modern unit takes: each side's formats and sizes, and the overlay's size. -/
structure WithinModern (h : Hardware) (source destination : View) (overlay : Option View) :
    Prop where
  present : h.modern = true
  reads : source.format ∉ legacyInput ∧ source.format ∉ proOnly
  writes : destination.format ∉ legacyOutput ∧ destination.format ∉ proOnly
  sourceWidth : 68 ≤ source.active.width ∧ source.active.width ≤ 8176
  sourceHeight : 2 ≤ source.active.height ∧ source.active.height ≤ 8176
  destinationWidth : 68 ≤ destination.active.width ∧ destination.active.width ≤ 8128
  destinationHeight : destination.active.height ≤ 8128
  overlaid : ∀ view ∈ overlay,
    68 ≤ view.active.width ∧ view.active.width ≤ 8176 ∧ view.active.height ≤ 8176

/-- What the legacy unit takes, and its cores. -/
structure WithinLegacy (h : Hardware) (source destination : View) (core : CoreMask) : Prop where
  present : h.legacy = true
  unpadded : ∀ f ∈ [source.format, destination.format], f ≠ .p010 ∧ f ≠ .p210
  unpacked : destination.format ≠ .nv15 ∧ destination.format ≠ .nv20
  cores : core = if h.pro then CoreMask.legacy.union .legacySecond else .legacy
  size : h.pro = false → destination.active.width ≤ 4096 ∧ destination.active.height ≤ 4096
  cropped : h.pro = false → source.cropped = true → source.format.depth < 10

/-! ## The checks behind a route -/

theorem checkSide_eq_ok {side : Side} {f : PixelFormat} :
    checkSide h side f = .ok () ↔
      (f.isPadded10 = true → h.modern = true) ∧ (f ∈ proOnly → h.pro = true) := by
  simp [checkSide, ite_error_eq_ok_iff]

/-- Formats that are admitted together. -/
theorem checkFormats_ok {reads writes : PixelFormat} (hok : checkFormats h reads writes = .ok ()) :
    (∀ f ∈ [reads, writes], f ∈ proOnly → h.pro = true) ∧
      (writes.isFullRange = true → reads.isFullRange = true) := by
  obtain ⟨⟨⟩, hreads, hok⟩ := ok_of_bind hok
  obtain ⟨⟨⟩, hwrites, hok⟩ := ok_of_bind hok
  have hpairs := hok
  simp only [ite_error_eq_ok_iff, Bool.and_eq_true, Bool.not_eq_true', not_and] at hpairs
  obtain ⟨-, -, hrange, -⟩ := hpairs
  refine ⟨?_, fun hfull => by simpa using hrange hfull⟩
  simpa using And.intro (checkSide_eq_ok.1 hreads).2 (checkSide_eq_ok.1 hwrites).2

theorem formats_of_route (hroute : route h source destination overlay inputs = .ok r) :
    checkFormats h source.format destination.format = .ok () := by
  obtain ⟨⟨⟩, hformats, -⟩ := ok_of_bind hroute
  exact hformats

/-- Formats are refused as unsupported ones. An output format that is said to need the modern unit
does, and there is none. -/
theorem checkFormats_error {reads writes : PixelFormat} {e : Error}
    (herror : checkFormats h reads writes = .error e) :
    ∃ cause, e = .unsupported cause ∧ ∀ f, cause = .needsModern .output f →
      f = writes ∧ f.isPadded10 = true ∧ h.modern = false := by
  have hside {side : Side} {f : PixelFormat} (hf : checkSide h side f = .error e) :
      ∃ cause, e = .unsupported cause ∧ ∀ g, cause = .needsModern .output g →
        side = .output ∧ g = f ∧ g.isPadded10 = true ∧ h.modern = false := by
    unfold checkSide at hf
    split at hf
    · next hneeds =>
      cases hf
      refine ⟨_, rfl, ?_⟩
      rintro g ⟨⟩
      exact ⟨rfl, rfl, by simpa using hneeds⟩
    · split at hf
      · cases hf
        exact ⟨_, rfl, nofun⟩
      · cases hf
  rcases error_of_bind herror with hreads | ⟨⟨⟩, -, herror⟩
  · obtain ⟨cause, hcause, hneeds⟩ := hside hreads
    exact ⟨cause, hcause, fun f hf => nomatch (hneeds f hf).1⟩
  rcases error_of_bind herror with hwrites | ⟨⟨⟩, -, herror⟩
  · obtain ⟨cause, hcause, hneeds⟩ := hside hwrites
    exact ⟨cause, hcause, fun f hf => (hneeds f hf).2⟩
  · repeat' split at herror
    all_goals cases herror
    all_goals exact ⟨_, rfl, nofun⟩

/-- What the modern unit can run. -/
theorem verify_modern_eq_ok :
    verify h false source destination = .ok () ↔
      (68 ≤ source.active.width ∧ 2 ≤ source.active.height) ∧
        destination.active.width ≤ 8128 ∧ destination.active.height ≤ 8128 := by
  simp only [verify, Bool.false_eq_true, if_false, ite_error_eq_ok_iff, Bool.or_eq_true,
    decide_eq_true_eq, not_or, Int.not_lt, and_true]
  rfl

/-- A unit refuses formats and sizes, and never says that another unit is needed. -/
theorem verify_error {onLegacy : Bool} {e : Error}
    (herror : verify h onLegacy source destination = .error e) :
    (∃ cause, e = .unsupported cause ∧ ∀ side f, cause ≠ .needsModern side f) ∨
      ∃ cause, e = .invalidSize cause := by
  unfold verify at herror
  dsimp only at herror
  repeat' split at herror
  all_goals cases herror
  all_goals first
    | exact .inl ⟨_, rfl, nofun⟩
    | exact .inr ⟨_, rfl⟩

theorem scaleLimit_cases (h : Hardware) (onLegacy : Bool) (core : CoreMask) :
    scaleLimit h onLegacy core = 8 ∨ scaleLimit h onLegacy core = 16 := by
  unfold scaleLimit
  split
  · exact .inl rfl
  · exact .inr rfl

/-- A route has a limit, and its scale is inside. -/
theorem scale_of_route (hroute : route h source destination overlay inputs = .ok r) :
    (r.greatestScale = 8 ∨ r.greatestScale = 16) ∧
      (Scale.ofViews source destination).outside (1 / r.greatestScale) r.greatestScale = false := by
  obtain ⟨⟨⟩, -, hroute⟩ := ok_of_bind hroute
  obtain ⟨⟨⟩, -, hroute⟩ := ok_of_bind hroute
  dsimp only at hroute
  split at hroute
  · cases hroute
  · next hinside =>
    cases hroute
    exact ⟨scaleLimit_cases .., Bool.eq_false_iff.2 hinside⟩

/-- Formats, the limits of the unit or the scale can be the reason for there being no route. -/
theorem route_error {e : Error}
    (herror : route h source destination overlay inputs = .error e) :
    checkFormats h source.format destination.format = .error e ∨
      verify h (usesLegacy h source destination overlay) source destination = .error e ∨
      ∃ m : Nat, (m = 8 ∨ m = 16) ∧
        (Scale.ofViews source destination).outside (1 / m) m = true ∧
        e = .scaleRatio (Scale.ofViews source destination).width
          (Scale.ofViews source destination).height (.finite (1 / m)) (.finite m) := by
  rcases error_of_bind herror with hformats | ⟨⟨⟩, -, herror⟩
  · exact .inl hformats
  rcases error_of_bind herror with hlimits | ⟨⟨⟩, -, herror⟩
  · exact .inr (.inl hlimits)
  dsimp only at herror
  split at herror
  · next houtside =>
    cases herror
    exact .inr (.inr ⟨_, scaleLimit_cases .., houtside, rfl⟩)
  · cases herror

/-- An output that is refused because it needs the modern unit does, and there is none. -/
theorem needsModern_of_route {f : PixelFormat}
    (herror : route h source destination overlay inputs =
      .error (.unsupported (.needsModern .output f))) :
    f = destination.format ∧ f.isPadded10 = true ∧ h.modern = false := by
  rcases route_error herror with hformats | hlimits | ⟨m, -, -, hscale⟩
  · obtain ⟨cause, hcause, hneeds⟩ := checkFormats_error hformats
    cases hcause
    exact hneeds f rfl
  · rcases verify_error hlimits with ⟨cause, hcause, hnever⟩ | ⟨cause, hcause⟩
    · cases hcause
      exact absurd rfl (hnever .output f)
    · cases hcause
  · cases hscale

theorem beyondModern_eq_false {active : Rect} :
    beyondModern active = false ↔
      68 ≤ active.width ∧ active.width ≤ 8176 ∧ active.height ≤ 8176 := by
  simp only [beyondModern, Bool.or_eq_false_iff, decide_eq_false_iff_not, Int.not_lt, and_assoc]
  rfl

/-- A session that does not ask for the legacy unit. -/
theorem modern_of_usesLegacy (hmodern : usesLegacy h source destination overlay = false) :
    h.modern = true ∧ (source.format ∉ legacyInput ∧ source.format ∉ proOnly) ∧
      (destination.format ∉ legacyOutput ∧ destination.format ∉ proOnly) ∧
      (Scale.ofViews source destination).within (1 / 8) 8 = true ∧
      beyondModern source.active = false ∧ 68 ≤ destination.active.width ∧
      ∀ view ∈ overlay, beyondModern view.active = false := by
  simp only [usesLegacy, Bool.or_eq_false_iff, decide_eq_false_iff_not, Hardware.needsLegacy,
    Bool.not_eq_false'] at hmodern
  obtain ⟨⟨⟨⟨⟨hreads, hreadsPro⟩, hwrites⟩, hwritesPro⟩, hpresent⟩, hsizes⟩ := hmodern
  rw [hpresent, Bool.true_and] at hsizes
  simp only [Bool.or_eq_false_iff, decide_eq_false_iff_not, Int.not_lt] at hsizes
  obtain ⟨⟨⟨hscale, hsource⟩, hwidth⟩, hoverlay⟩ := hsizes
  rw [Bool.not_eq_false'] at hscale
  refine ⟨hpresent, ⟨hreads, hreadsPro⟩, ⟨hwrites, hwritesPro⟩, hscale, hsource, hwidth,
    fun view hview => ?_⟩
  rw [Option.mem_def] at hview
  rwa [hview] at hoverlay

theorem withinModern_of_route (hroute : route h source destination overlay inputs = .ok r)
    (hmodern : r.onLegacy = false) : WithinModern h source destination overlay := by
  obtain ⟨husage, hlimits, -⟩ := route_ok hroute
  rw [hmodern] at hlimits
  obtain ⟨hpresent, hreads, hwrites, -, hsource, hleast, hoverlay⟩ :=
    modern_of_usesLegacy (husage.symm.trans hmodern)
  obtain ⟨⟨-, hheight⟩, hwidth, hgreatest⟩ := verify_modern_eq_ok.1 hlimits
  obtain ⟨hsourceLeast, hsourceWidth, hsourceHeight⟩ := beyondModern_eq_false.1 hsource
  exact {
    present := hpresent
    reads := hreads
    writes := hwrites
    sourceWidth := ⟨hsourceLeast, hsourceWidth⟩
    sourceHeight := ⟨hheight, hsourceHeight⟩
    destinationWidth := ⟨hleast, hwidth⟩
    destinationHeight := hgreatest
    overlaid := fun view hview => beyondModern_eq_false.1 (hoverlay view hview) }

/-- The modern unit shrinks nothing to an empty picture. -/
theorem height_pos_of_route (hroute : route h source destination overlay inputs = .ok r)
    (hmodern : r.onLegacy = false) : 0 < destination.active.height := by
  obtain ⟨husage, -, -⟩ := route_ok hroute
  obtain ⟨-, -, -, hscale, -⟩ := modern_of_usesLegacy (husage.symm.trans hmodern)
  have hsource : 0 < source.active.height := by
    have hleast := (withinModern_of_route hroute hmodern).sourceHeight.1
    omega
  simp only [Scale.within, Scale.ofViews, Bool.and_eq_true] at hscale
  exact Single.pos_of_within hsource (by norm_num) hscale.2

theorem withinLegacy_of_route (hroute : route h source destination overlay inputs = .ok r)
    (hlegacy : r.onLegacy = true) : WithinLegacy h source destination r.core := by
  obtain ⟨-, hlimits, hcore⟩ := route_ok hroute
  rw [hlegacy] at hlimits hcore
  obtain ⟨hpresent, hpadded, hpacked, hcrop, hsize⟩ := verify_legacy_eq_ok.1 hlimits
  refine ⟨hpresent, ?_, ?_, ?_, hsize, hcrop⟩
  · simpa [PixelFormat.isPadded10] using hpadded
  · simpa [PixelFormat.isPacked10] using hpacked
  · rw [hcore]
    simp [cores, CoreMask.allLegacy]

/-- A route stays inside the envelope of the unit that it is for. Whichever unit that is, formats
for Pro hardware are admitted on it only, and the whole range of the samples is not made up. -/
theorem within_envelope (hroute : route h source destination overlay inputs = .ok r) :
    (r.onLegacy = false → WithinModern h source destination overlay) ∧
      (r.onLegacy = true → WithinLegacy h source destination r.core) ∧
      (∀ f ∈ [source.format, destination.format], f = .nv24 ∨ f = .nv42 → h.pro = true) ∧
      (destination.format.isFullRange = true → source.format.isFullRange = true) := by
  obtain ⟨hpro, hrange⟩ := checkFormats_ok (formats_of_route hroute)
  refine ⟨withinModern_of_route hroute, withinLegacy_of_route hroute, fun f hf hnamed => ?_, hrange⟩
  exact hpro f hf (by simpa [proOnly] using hnamed)

/-- A session at the far limits of the modern unit, and one that needs Pro hardware. -/
theorem within_envelope_sample :
    let view (format : PixelFormat) (width height : Nat) : View :=
      { pad := ⟨width, height, format⟩, active := ⟨0, 0, width, height⟩ }
    let mixed := Hardware.announced "RGA_3 RGA_2_Enhance"
    let pro := Hardware.announced "RGA_3 RGA_2_PRO"
    let overlay := view .rgba 68 8176
    route mixed (view .p010 8176 1022) (view .nv15 8128 8128) overlay 2 = .ok ⟨false, .modern, 8⟩ ∧
      WithinModern mixed (view .p010 8176 1022) (view .nv15 8128 8128) overlay ∧
      route pro (view .nv24 600 600) (view .nv12 8192 8192) none 1 = .ok ⟨true, ⟨0xc⟩, 16⟩ ∧
      WithinLegacy pro (view .nv24 600 600) (view .nv12 8192 8192) ⟨0xc⟩ := by
  intro view mixed pro overlay
  have hmodern : route mixed (view .p010 8176 1022) (view .nv15 8128 8128) overlay 2 =
      .ok ⟨false, .modern, 8⟩ := ok_of_toOption (by decide +kernel)
  have hlegacy : route pro (view .nv24 600 600) (view .nv12 8192 8192) none 1 =
      .ok ⟨true, ⟨0xc⟩, 16⟩ := ok_of_toOption (by decide +kernel)
  exact ⟨hmodern, (within_envelope hmodern).1 rfl, hlegacy, (within_envelope hlegacy).2.1 rfl⟩

end Route
end Blitter
