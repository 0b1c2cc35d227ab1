import Mathlib.Data.List.Infix
import Blitter.Proofs.Outcome
import Blitter.Unit.Hardware

/-!
# Requests for cores

What is left of the hardware once cores have been asked for. Only a legacy unit has variants, and no
cores are admitted but those that may be selected. Pro hardware lets modern cores be selected also
where there is no modern unit. A request for these alone then hides the only unit there is; every
other request leaves a unit that has some of the cores.
-/
namespace Blitter

namespace CoreMask

variable {m a b : CoreMask}

/-- The masks have a core in common. -/
def meets (a b : CoreMask) : Bool := a.bits &&& b.bits != 0

theorem isSubset_union_left (h : m.isSubset a = true) : m.isSubset (a.union b) = true := by
  simp only [isSubset, union, beq_iff_eq, ← UInt32.toBitVec_inj, UInt32.toBitVec_and,
    UInt32.toBitVec_or] at h ⊢
  rw [BitVec.and_or_distrib_left, h]
  ext i
  simp +contextual

/-- Cores that are all in one of two masks, and not all in the first, meet the second. -/
theorem meets_of_isSubset_union (h : m.isSubset (a.union b) = true)
    (ha : m.isSubset a = false) : m.meets b = true := by
  simp only [isSubset, union, beq_iff_eq, beq_eq_false_iff_ne, ← UInt32.toBitVec_inj,
    UInt32.toBitVec_and, UInt32.toBitVec_or, ne_eq] at h ha
  simp only [meets, bne_iff_ne, ne_eq, ← UInt32.toBitVec_inj, UInt32.toBitVec_and]
  intro hb
  rw [BitVec.and_or_distrib_left, hb] at h
  exact ha (by simpa using h)

theorem meets_of_isModernOnly (h : m.isModernOnly = true) : m.meets .modern = true := by
  grind [isModernOnly, isAutomatic, isSubset, meets]

theorem isSubset_of_isModernOnly (h : m.isModernOnly = true) : m.isSubset .modern = true :=
  (Bool.and_eq_true_iff.1 h).2

end CoreMask

namespace Hardware

variable {h : Hardware} {version : String} {request : CoreMask}

/-! ## What a version text announces -/

theorem occurs_iff (needle text : List Char) : occurs needle text = true ↔ needle <:+: text := by
  induction text with
  | nil => simp [occurs]
  | cons c rest ih => simp [occurs, List.infix_cons_iff, ih]

theorem mentions_iff (text needle : String) :
    mentions text needle = true ↔ needle.toList <:+: text.toList := occurs_iff ..

/-- A variant's name contains that of the unit. -/
theorem legacy_of_variant
    (h : (announced version).lite = true ∨ (announced version).enhance = true ∨
      (announced version).pro = true) : (announced version).legacy = true := by
  have hpart {name : String} (hname : "RGA_2".toList <:+: name.toList)
      (h : mentions version name = true) : mentions version "RGA_2" = true :=
    (mentions_iff ..).2 (hname.trans ((mentions_iff ..).1 h))
  rcases h with h | h | h
  · exact hpart ⟨[], "_lite".toList, by decide⟩ h
  · exact hpart ⟨[], "_Enhance".toList, by decide⟩ h
  · exact hpart ⟨[], "_PRO".toList, by decide⟩ h

/-- Modern cores may be selected whether or not there is a modern unit. -/
theorem selectable_announced (version : String) :
    (announced version).selectable =
      CoreMask.modern.union (.allLegacy (announced version).pro) := by
  change (⟨if mentions version "RGA_2_PRO" then 0xf else 0x7⟩ : CoreMask) =
    CoreMask.modern.union (.allLegacy (mentions version "RGA_2_PRO"))
  cases mentions version "RGA_2_PRO" <;> rfl

/-! ## Asking for cores -/

theorem allowed_cases (h : Hardware) (request : CoreMask) :
    h.allowed request = .automatic ∨ (h.allowed request = request ∧
      (h.isMixed = true ∨ h.pro = true) ∧ request.isSubset h.selectable = true) := by
  unfold allowed
  split
  · next hadmitted =>
    rw [Bool.and_eq_true_iff, Bool.or_eq_true_iff] at hadmitted
    exact .inr ⟨rfl, hadmitted⟩
  · exact .inl rfl

/-- A request hides the legacy unit, or the modern one, or nothing. -/
theorem pin_cases (h : Hardware) (request : CoreMask) :
    let core := h.allowed request
    (core.isModernOnly = true ∧ h.pin request = { h with core := core }.withoutLegacy) ∨
      (core = .legacy ∧ h.pro = false ∧
        h.pin request = { h with core := core }.withoutModern) ∨
      (core.isModernOnly = false ∧ (core = .legacy → h.pro = true) ∧
        h.pin request = { h with core := core }) := by
  intro core
  unfold pin
  dsimp only
  split
  · next hmodern => exact .inl ⟨hmodern, rfl⟩
  · next hmodern =>
    split
    · next hlegacy =>
      rw [Bool.and_eq_true_iff, decide_eq_true_iff, Bool.not_eq_true'] at hlegacy
      exact .inr (.inl ⟨hlegacy.1, hlegacy.2, rfl⟩)
    · next hlegacy => exact .inr (.inr ⟨Bool.eq_false_iff.2 hmodern, by simpa using hlegacy, rfl⟩)

theorem ofVersion_eq (version : String) (request : CoreMask) :
    (ofVersion version request = .error .noHardware ∧
      ¬((announced version).legacy = true ∨ (announced version).modern = true)) ∨
      (ofVersion version request = .ok ((announced version).pin request) ∧
        ((announced version).legacy = true ∨ (announced version).modern = true)) := by
  unfold ofVersion
  dsimp only
  rw [← Bool.or_eq_true_iff]
  split
  · next hpresent => exact .inr ⟨rfl, hpresent⟩
  · next hnone => exact .inl ⟨rfl, hnone⟩

/-! ## Modern units -/

/-- The hardware of a version text under a request has a modern unit. -/
def ServesModern (version : String) (request : CoreMask) : Prop :=
  ∃ h, ofVersion version request = .ok h ∧ h.modern = true

/-- Mixed hardware that is not Pro is asked for the legacy core. -/
structure HidesModern (version : String) (request : CoreMask) : Prop where
  modern : "RGA_3".toList <:+: version.toList
  legacy : "RGA_2".toList <:+: version.toList
  noPro : ¬"RGA_2_PRO".toList <:+: version.toList
  request : request = .legacy

theorem hidesModern_iff : HidesModern version request ↔
    ((announced version).legacy = true ∧ (announced version).modern = true) ∧
      (announced version).pro = false ∧ request = .legacy := by
  have hmodern : (announced version).modern = true ↔ "RGA_3".toList <:+: version.toList :=
    mentions_iff ..
  have hlegacy : (announced version).legacy = true ↔ "RGA_2".toList <:+: version.toList :=
    mentions_iff ..
  have hpro : (announced version).pro = false ↔ ¬"RGA_2_PRO".toList <:+: version.toList := by
    rw [← mentions_iff, Bool.not_eq_true]
    rfl
  rw [hmodern, hlegacy, hpro]
  exact ⟨fun h => ⟨⟨h.legacy, h.modern⟩, h.noPro, h.request⟩,
    fun ⟨⟨hl, hm⟩, hp, hr⟩ => ⟨hm, hl, hp, hr⟩⟩

/-- Nothing else hides a modern unit. -/
theorem modern_pin_iff (version : String) (request : CoreMask) :
    ((announced version).pin request).modern = true ↔
      (announced version).modern = true ∧ ¬HidesModern version request := by
  rw [hidesModern_iff]
  have hadmits (hmixed : (announced version).legacy = true ∧ (announced version).modern = true) :
      (announced version).allowed .legacy = .legacy := by
    have hsubset : CoreMask.legacy.isSubset (announced version).selectable = true := by
      rw [selectable_announced]
      cases (announced version).pro <;> decide
    simp [allowed, isMixed, hmixed, hsubset]
  rcases pin_cases (announced version) request with
    ⟨hcore, hpin⟩ | ⟨hcore, hpro, hpin⟩ | ⟨-, hkept, hpin⟩ <;> rw [hpin]
  · refine ⟨fun hmodern => ⟨hmodern, ?_⟩, And.left⟩
    rintro ⟨hmixed, -, rfl⟩
    rw [hadmits hmixed] at hcore
    exact absurd hcore (by decide)
  · refine iff_of_false Bool.false_ne_true ?_
    rintro ⟨-, hshows⟩
    rcases allowed_cases (announced version) request with hauto | ⟨hrequest, hunits, -⟩
    · exact absurd (hauto.symm.trans hcore) (by decide)
    · rw [hpro, or_iff_left Bool.false_ne_true] at hunits
      exact hshows ⟨Bool.and_eq_true_iff.1 hunits, hpro, hrequest.symm.trans hcore⟩
  · refine ⟨fun hmodern => ⟨hmodern, ?_⟩, And.left⟩
    rintro ⟨hmixed, hpro, rfl⟩
    cases hpro.symm.trans (hkept (hadmits hmixed))

theorem servesModern_iff : ServesModern version request ↔
    (announced version).modern = true ∧ ¬HidesModern version request := by
  rw [← modern_pin_iff]
  rcases ofVersion_eq version request with ⟨hversion, hnone⟩ | ⟨hversion, -⟩ <;>
    simp only [ServesModern, hversion]
  · refine iff_of_false nofun fun hmodern => ?_
    exact hnone (.inr ((modern_pin_iff version request).1 hmodern).1)
  · simp

/-! ## Coherence -/

/-- Variants and cores are those of units that the hardware can have. -/
structure Admitted (h : Hardware) : Prop where
  variants : h.lite = true ∨ h.enhance = true ∨ h.pro = true → h.legacy = true
  selectable : h.core.isSubset h.selectable = true

/-- There is a unit, and it has some of the cores that are asked for. -/
structure Coherent (h : Hardware) : Prop extends h.Admitted where
  present : h.legacy = true ∨ h.modern = true
  served : h.core.isAutomatic = false →
    (h.legacy = true ∧ h.core.meets (.allLegacy h.pro) = true) ∨
      (h.modern = true ∧ h.core.meets .modern = true)

/-- Pro hardware without a modern unit is asked for modern cores. -/
structure HidesAll (version : String) (request : CoreMask) : Prop where
  pro : "RGA_2_PRO".toList <:+: version.toList
  noModern : ¬"RGA_3".toList <:+: version.toList
  request : request.isModernOnly = true

theorem admitted_pin (version : String) (request : CoreMask) :
    ((announced version).pin request).Admitted := by
  have hselectable : ((announced version).allowed request).isSubset
      (announced version).selectable = true := by
    rcases allowed_cases (announced version) request with hcore | ⟨hcore, -, hsubset⟩
    · rw [hcore]
      simp [CoreMask.isSubset, CoreMask.automatic]
    · rwa [hcore]
  rcases pin_cases (announced version) request with ⟨-, hpin⟩ | ⟨-, -, hpin⟩ | ⟨-, -, hpin⟩ <;>
    rw [hpin]
  · exact ⟨by simp [withoutLegacy], hselectable⟩
  · exact ⟨legacy_of_variant, hselectable⟩
  · exact ⟨legacy_of_variant, hselectable⟩

/-- Where anything but automatic choice is admitted and is not for modern cores only, there is a
legacy unit with some of the cores. -/
theorem meets_legacy_of_allowed (version : String) (request : CoreMask)
    (hcore : ((announced version).allowed request).isModernOnly = false)
    (hasked : ((announced version).allowed request).isAutomatic = false) :
    (announced version).legacy = true ∧
      ((announced version).allowed request).meets (.allLegacy (announced version).pro) = true := by
  rcases allowed_cases (announced version) request with hauto | ⟨hrequest, hadmits, hsubset⟩
  · rw [hauto] at hasked
    cases hasked
  · rw [hrequest] at hcore hasked ⊢
    rw [selectable_announced] at hsubset
    have hnot : request.isSubset .modern = false := by
      simpa [CoreMask.isModernOnly, hasked] using hcore
    refine ⟨?_, CoreMask.meets_of_isSubset_union hsubset hnot⟩
    rcases hadmits with hmixed | hpro
    · exact (Bool.and_eq_true_iff.1 hmixed).1
    · exact legacy_of_variant (.inr (.inr hpro))

/-- A request leaves a unit with some of its cores, as long as modern cores are admitted only where
there is a modern unit. -/
theorem coherent_pin (hpresent : (announced version).legacy = true ∨
      (announced version).modern = true)
    (hmodern : ((announced version).allowed request).isModernOnly = true →
      (announced version).modern = true) : ((announced version).pin request).Coherent := by
  have hadmitted := admitted_pin version request
  rcases pin_cases (announced version) request with
    ⟨hcore, hpin⟩ | ⟨hcore, -, hpin⟩ | ⟨hcore, -, hpin⟩ <;> rw [hpin] at hadmitted ⊢
  · exact ⟨hadmitted, .inr (hmodern hcore),
      fun _ => .inr ⟨hmodern hcore, CoreMask.meets_of_isModernOnly hcore⟩⟩
  · obtain ⟨hlegacy, hmeets⟩ := meets_legacy_of_allowed version request
      (by rw [hcore]; decide) (by rw [hcore]; decide)
    exact ⟨hadmitted, .inl hlegacy, fun _ => .inl ⟨hlegacy, hmeets⟩⟩
  · exact ⟨hadmitted, hpresent, fun hasked => .inl (meets_legacy_of_allowed _ _ hcore hasked)⟩

/-- Modern cores are admitted without a modern unit only on Pro hardware. -/
theorem hidesAll_iff : HidesAll version request ↔
    ((announced version).allowed request).isModernOnly = true ∧
      (announced version).modern = false := by
  have hpro : (announced version).pro = true ↔ "RGA_2_PRO".toList <:+: version.toList :=
    mentions_iff ..
  have hmodern : (announced version).modern = false ↔ ¬"RGA_3".toList <:+: version.toList := by
    rw [← mentions_iff, Bool.not_eq_true]
    rfl
  constructor
  · rintro ⟨hp, hm, hrequest⟩
    refine ⟨?_, hmodern.2 hm⟩
    have hsubset : request.isSubset (announced version).selectable = true := by
      rw [selectable_announced]
      exact CoreMask.isSubset_union_left (CoreMask.isSubset_of_isModernOnly hrequest)
    simpa [allowed, hpro.2 hp, hsubset] using hrequest
  · rintro ⟨hcore, hm⟩
    rcases allowed_cases (announced version) request with hauto | ⟨hrequest, hmixed | hp, -⟩
    · rw [hauto] at hcore
      cases hcore
    · cases hm.symm.trans (Bool.and_eq_true_iff.1 hmixed).2
    · exact ⟨hpro.1 hp, hmodern.1 hm, hrequest ▸ hcore⟩

theorem not_present_of_hidesAll (h : HidesAll version request) :
    ((announced version).pin request).legacy = false ∧
      ((announced version).pin request).modern = false := by
  obtain ⟨hcore, hmodern⟩ := hidesAll_iff.1 h
  rcases pin_cases (announced version) request with ⟨-, hpin⟩ | ⟨hlegacy, -, -⟩ | ⟨hkept, -, -⟩
  · rw [hpin]
    exact ⟨rfl, hmodern⟩
  · rw [hlegacy] at hcore
    cases hcore
  · cases hcore.symm.trans hkept

/-- A version text gives hardware unless it mentions neither unit. Variants and cores are then those
that the hardware can have; and a unit is left, with some of the cores that are asked for, unless
Pro hardware without a modern unit is asked for modern cores. -/
theorem coherent_iff (version : String) (request : CoreMask) :
    ((∃ e, ofVersion version request = .error e) ↔
      ¬"RGA_2".toList <:+: version.toList ∧ ¬"RGA_3".toList <:+: version.toList) ∧
    ∀ h, ofVersion version request = .ok h →
      h.Admitted ∧ (h.Coherent ↔ ¬HidesAll version request) := by
  have hunits : (announced version).legacy = true ∨ (announced version).modern = true ↔
      "RGA_2".toList <:+: version.toList ∨ "RGA_3".toList <:+: version.toList :=
    or_congr (mentions_iff ..) (mentions_iff ..)
  rw [← not_or, ← hunits]
  rcases ofVersion_eq version request with ⟨hversion, hnone⟩ | ⟨hversion, hpresent⟩ <;>
    rw [hversion]
  · exact ⟨by simp [hnone], nofun⟩
  · refine ⟨by simp [hpresent], ?_⟩
    rintro h ⟨⟩
    refine ⟨admitted_pin version request, fun hcoherent hhides => ?_, fun hhides => ?_⟩
    · obtain ⟨hlegacy, hmodern⟩ := not_present_of_hidesAll hhides
      rcases hcoherent.present with hunit | hunit
      · cases hlegacy.symm.trans hunit
      · cases hmodern.symm.trans hunit
    · refine coherent_pin hpresent fun hcore => ?_
      rw [hidesAll_iff, not_and, Bool.not_eq_false] at hhides
      exact hhides hcore

/-- Hardware with both units keeps a request for modern cores, and hides the legacy unit. -/
theorem coherent_iff_sample :
    let version := "RGA_3 RGA_2_Enhance"
    let h := (announced version).pin .modern
    ofVersion version .modern = .ok h ∧ ¬HidesAll version .modern ∧ h.legacy = false ∧
      h.core = .modern ∧ h.Coherent := by
  intro version h
  have hversion : ofVersion version .modern = .ok h := ok_of_toOption (by decide +kernel)
  have hasks : ¬HidesAll version .modern :=
    fun hhides => hhides.noModern ⟨[], " RGA_2_Enhance".toList, by decide⟩
  exact ⟨hversion, hasks, by decide +kernel, by decide +kernel,
    ((coherent_iff version .modern).2 h hversion).2.2 hasks⟩

/-- Pro hardware without a modern unit keeps a request for a modern core, and has no unit left. -/
theorem all_hidden_by_modern_core :
    let h := (announced "RGA_2_PRO").pin ⟨0x1⟩
    ofVersion "RGA_2_PRO" ⟨0x1⟩ = .ok h ∧ h.legacy = false ∧ h.modern = false ∧
      h.core = ⟨0x1⟩ ∧ ¬h.Coherent := by
  intro h
  have hlegacy : h.legacy = false := by decide +kernel
  have hmodern : h.modern = false := by decide +kernel
  refine ⟨ok_of_toOption (by decide +kernel), hlegacy, hmodern, by decide +kernel, ?_⟩
  intro hcoherent
  have hpresent := hcoherent.present
  rw [hlegacy, hmodern] at hpresent
  simp at hpresent

end Hardware
end Blitter
