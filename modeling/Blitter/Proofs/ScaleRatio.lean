import Blitter.Proofs.Envelope
import Blitter.Proofs.Regions

/-!
# Scale ratios

The router compares quotients of sides, each rounded to single precision, with powers of two. Sides
have so few bits that rounding never takes a quotient across such a bound, and the comparisons come
out as those of whole numbers would. A route scales no side by more than its limit, and a refusal
names the limit that a side is beyond.
-/
namespace Blitter

/-- Each side of either region is at most `m` times as long as the other region's. -/
structure Rect.WithinFactor (m : Nat) (r s : Rect) : Prop where
  width : r.width ≤ m * s.width ∧ s.width ≤ m * r.width
  height : r.height ≤ m * s.height ∧ s.height ≤ m * r.height

/-! ## Quotients of short numbers -/

namespace Single

/-! Rounding decides against a bound as the exact value does if this is not too near. -/

theorem lt_round_iff {p q : Rat} (hp : Representable p) (hq : 0 < q)
    (hfar : p < q → p < q - q / 2 ^ 24) : p < round q ↔ p < q := by
  constructor
  · intro hrounded
    by_contra hle
    exact (round_le hp hq (not_lt.1 hle)).not_gt hrounded
  · intro hlt
    have hnear := (abs_le.1 (round_near hq)).1
    linarith [hfar hlt]

theorem round_lt_iff {p q : Rat} (hp : Representable p) (hq : 0 < q)
    (hfar : q < p → q + q / 2 ^ 24 < p) : round q < p ↔ q < p := by
  constructor
  · intro hrounded
    by_contra hle
    exact (le_round hp hq (not_lt.1 hle)).not_gt hrounded
  · intro hlt
    have hnear := (abs_le.1 (round_near hq)).2
    linarith [hfar hlt]

variable {a b : Int} {m : Nat}

/-- Dividing short numbers rounds once. -/
theorem quotient_eq (ha : 0 < a ∧ a < 2 ^ 24) (hb : 0 < b ∧ b < 2 ^ 24) :
    quotient a b = .finite (round ((a : Rat) / b)) := by
  rw [quotient, if_neg hb.1.ne', if_neg ha.1.ne', round_intCast (by omega),
    round_intCast (by omega)]

theorem quotient_zero (ha : 0 < a) : quotient a 0 = .infinite false := by
  simp [quotient, ha.ne', ha.not_gt]

/-- A quotient of short numbers is above a power of two if it is before rounding. -/
theorem above_quotient_iff (hm : ∃ j : Nat, m = 2 ^ j) (ha : 0 < a ∧ a < 2 ^ 24)
    (hb : 0 ≤ b ∧ b < 2 ^ 24) : (quotient a b).above m = true ↔ m * b < a := by
  rcases hb.1.eq_or_lt with rfl | hpos
  · simp [quotient_zero ha.1, above, ha.1]
  obtain ⟨j, rfl⟩ := hm
  have hdenominator : (0 : Rat) < b := by exact_mod_cast hpos
  have hquotient : (0 : Rat) < a / b := div_pos (by exact_mod_cast ha.1) hdenominator
  have hexact : ((2 ^ j : Nat) : Rat) < a / b ↔ ((2 ^ j : Nat) : Int) * b < a := by
    rw [lt_div_iff₀ hdenominator]
    exact_mod_cast Iff.rfl
  have hbound : Representable ((2 ^ j : Nat) : Rat) := by
    exact_mod_cast representable_zpow j
  rw [quotient_eq ha ⟨hpos, hb.2⟩, above, decide_eq_true_eq, ← hexact]
  refine lt_round_iff hbound hquotient fun hlt => ?_
  have hgap : ((2 ^ j : Nat) : Rat) * b + 1 ≤ a := by exact_mod_cast hexact.1 hlt
  have hshort : (a : Rat) < 2 ^ 24 := by exact_mod_cast ha.2
  refine lt_of_mul_lt_mul_right ?_ hdenominator.le
  calc ((2 ^ j : Nat) : Rat) * b < a - a / 2 ^ 24 := by linarith
    _ = (a / b - a / b / 2 ^ 24) * b := by field_simp

/-- It is below the reciprocal of one if it is before rounding. -/
theorem below_quotient_iff (hm : ∃ j : Nat, m = 2 ^ j) (ha : 0 < a ∧ a < 2 ^ 24)
    (hb : 0 ≤ b ∧ b < 2 ^ 24) : (quotient a b).below (1 / m) = true ↔ m * a < b := by
  rcases hb.1.eq_or_lt with rfl | hpos
  · have hnonneg : 0 ≤ (m : Int) * a := mul_nonneg (Int.natCast_nonneg m) ha.1.le
    simp [quotient_zero ha.1, below, hnonneg]
  obtain ⟨j, rfl⟩ := hm
  have hdenominator : (0 : Rat) < b := by exact_mod_cast hpos
  have hquotient : (0 : Rat) < a / b := div_pos (by exact_mod_cast ha.1) hdenominator
  have hfactor : (0 : Rat) < ((2 ^ j : Nat) : Rat) := by positivity
  have hexact : (a : Rat) / b < 1 / ((2 ^ j : Nat) : Rat) ↔ ((2 ^ j : Nat) : Int) * a < b := by
    rw [div_lt_div_iff₀ hdenominator hfactor, one_mul, mul_comm]
    exact_mod_cast Iff.rfl
  have hbound : Representable (1 / ((2 ^ j : Nat) : Rat)) := by
    have hpower := representable_zpow (-j)
    rw [zpow_neg, zpow_natCast, ← one_div] at hpower
    exact_mod_cast hpower
  rw [quotient_eq ha ⟨hpos, hb.2⟩, below, decide_eq_true_eq, ← hexact]
  refine round_lt_iff hbound hquotient fun hlt => ?_
  have hgap : ((2 ^ j : Nat) : Rat) * a + 1 ≤ b := by exact_mod_cast hexact.1 hlt
  have hshort : (b : Rat) < 2 ^ 24 := by exact_mod_cast hb.2
  rw [lt_div_iff₀ hfactor]
  refine lt_of_mul_lt_mul_right ?_ hdenominator.le
  calc ((a : Rat) / b + a / b / 2 ^ 24) * ((2 ^ j : Nat) : Rat) * (b : Rat)
      = ((2 ^ j : Nat) : Rat) * a + ((2 ^ j : Nat) : Rat) * a / 2 ^ 24 := by
        field_simp
    _ < 1 * (b : Rat) := by linarith

/-- Something by anything is a number, so that a range holds what is not beyond its ends. -/
theorem within_quotient (ha : a ≠ 0) (low high : Rat) :
    (quotient a b).within low high =
      (!(quotient a b).below low && !(quotient a b).above high) := by
  unfold quotient
  simp only [if_neg ha]
  split <;> rfl

end Single

/-! ## Scales of views -/

/-- Regions of the sizes that filters take; only the source's may be empty. -/
structure Rect.Scalable (source destination : Rect) : Prop where
  sourceWidth : 0 ≤ source.width ∧ source.width ≤ 8192
  sourceHeight : 0 ≤ source.height ∧ source.height ≤ 8192
  destinationWidth : 1 ≤ destination.width ∧ destination.width ≤ 8192
  destinationHeight : 1 ≤ destination.height ∧ destination.height ≤ 8192

namespace Rect

/-- Nothing is made out of nothing. -/
theorem WithinFactor.pos {m : Nat} {source destination : Rect}
    (h : source.WithinFactor m destination) (hsizes : source.Scalable destination) :
    0 < source.width ∧ 0 < source.height := by
  obtain ⟨⟨-, hwidth⟩, -, hheight⟩ := h
  have hacross := hsizes.destinationWidth.1
  have hdown := hsizes.destinationHeight.1
  constructor
  · exact pos_of_mul_pos_right (by omega) (Int.natCast_nonneg m)
  · exact pos_of_mul_pos_right (by omega) (Int.natCast_nonneg m)

end Rect

theorem Session.Regular.scalable {s : Session} (h : s.Regular) :
    s.main.active.Scalable s.output.active := by
  obtain ⟨⟨hmainWidth, hmainHeight, hx, hy, hw, hh, hright, hbottom⟩, -,
    ⟨houtputWidth, houtputHeight, hx', hy', -, -, hright', hbottom'⟩, hnonempty⟩ := h
  constructor <;> omega

namespace Scale

variable {source destination : View} {m : Nat}

/-- A scale is not outside a range of powers of two exactly if no side is scaled by more. -/
theorem outside_eq_false_iff (hm : ∃ j : Nat, m = 2 ^ j)
    (h : source.active.Scalable destination.active) :
    (ofViews source destination).outside (1 / m) m = false ↔
      source.active.WithinFactor m destination.active := by
  obtain ⟨hfromWidth, hfromHeight, htoWidth, htoHeight⟩ := h
  have hwidth : 0 < destination.active.width ∧ destination.active.width < 2 ^ 24 := by omega
  have hheight : 0 < destination.active.height ∧ destination.active.height < 2 ^ 24 := by omega
  have hwidth' : 0 ≤ source.active.width ∧ source.active.width < 2 ^ 24 := by omega
  have hheight' : 0 ≤ source.active.height ∧ source.active.height < 2 ^ 24 := by omega
  simp only [outside, ofViews, ← Bool.not_eq_true, Bool.or_eq_true, not_or,
    Single.above_quotient_iff hm hwidth hwidth', Single.below_quotient_iff hm hwidth hwidth',
    Single.above_quotient_iff hm hheight hheight', Single.below_quotient_iff hm hheight hheight',
    not_lt]
  constructor
  · rintro ⟨⟨⟨hw, hw'⟩, hh⟩, hh'⟩
    exact ⟨⟨hw, hw'⟩, hh, hh'⟩
  · rintro ⟨⟨hw, hw'⟩, hh, hh'⟩
    exact ⟨⟨⟨hw, hw'⟩, hh⟩, hh'⟩

/-- The two range tests agree: what is not outside a range is within it. -/
theorem within_eq_not_outside (h : source.active.Scalable destination.active) (low high : Rat) :
    (ofViews source destination).within low high =
      !(ofViews source destination).outside low high := by
  obtain ⟨-, -, htoWidth, htoHeight⟩ := h
  have hwidth : destination.active.width ≠ 0 := by omega
  have hheight : destination.active.height ≠ 0 := by omega
  simp only [within, outside, ofViews, Single.within_quotient hwidth,
    Single.within_quotient hheight, Bool.not_or, Bool.and_assoc]

end Scale

/-! ## Routes -/

namespace Route

variable {h : Hardware} {source destination : View} {overlay : Option View} {inputs : Nat}
  {r : Route}

theorem limit_is_power {m : Nat} (hm : m = 8 ∨ m = 16) : ∃ j : Nat, m = 2 ^ j := by
  rcases hm with rfl | rfl
  · exact ⟨3, rfl⟩
  · exact ⟨4, rfl⟩

/-- A route scales no side by more than its limit, and on the modern unit by no more than eight. -/
theorem withinFactor_of_route (hsizes : source.active.Scalable destination.active)
    (hroute : route h source destination overlay inputs = .ok r) :
    source.active.WithinFactor r.greatestScale destination.active ∧
      (r.onLegacy = false → source.active.WithinFactor 8 destination.active) := by
  obtain ⟨hlimit, hinside⟩ := scale_of_route hroute
  refine ⟨(Scale.outside_eq_false_iff (limit_is_power hlimit) hsizes).1 hinside, fun hmodern => ?_⟩
  obtain ⟨husage, -, -⟩ := route_ok hroute
  obtain ⟨-, -, -, hscale, -⟩ := modern_of_usesLegacy (husage.symm.trans hmodern)
  rw [Scale.within_eq_not_outside hsizes, Bool.not_eq_true'] at hscale
  refine (Scale.outside_eq_false_iff (m := 8) (limit_is_power (.inl rfl)) hsizes).1 ?_
  exact_mod_cast hscale

/-- The limit that a refusal names is one that a side is beyond. -/
theorem not_withinFactor_of_refused (hsizes : source.active.Scalable destination.active)
    {w v low high : Single}
    (hroute : route h source destination overlay inputs = .error (.scaleRatio w v low high)) :
    ∃ m : Nat, (m = 8 ∨ m = 16) ∧ low = .finite (1 / m) ∧ high = .finite m ∧
      ¬source.active.WithinFactor m destination.active := by
  rcases route_error hroute with hformats | hlimits | ⟨m, hlimit, houtside, herror⟩
  · obtain ⟨cause, hcause, -⟩ := checkFormats_error hformats
    cases hcause
  · rcases verify_error hlimits with ⟨cause, hcause, -⟩ | ⟨cause, hcause⟩ <;> cases hcause
  · cases herror
    refine ⟨m, hlimit, rfl, rfl, fun hwithin => ?_⟩
    rw [← Scale.outside_eq_false_iff (limit_is_power hlimit) hsizes, houtside] at hwithin
    cases hwithin

/-- The sides of a source and its destination in a filter's session are of such sizes. For sides of
such sizes both range tests decide as whole numbers do. The route that comes of them has a limit of
8 or 16 that no side is scaled beyond, and on the modern unit none is scaled beyond 8. A refusal for
the scale names such a limit that a side is beyond, and an empty source has no route. -/
theorem scale_checks_exact :
    (∀ (host : Host) (s : Session), Started host s → s.main.active.Scalable s.output.active) ∧
    ∀ (h : Hardware) (source destination : View) (overlay : Option View) (inputs : Nat),
      source.active.Scalable destination.active →
      (∀ m : Nat, m = 8 ∨ m = 16 →
        ((Scale.ofViews source destination).within (1 / m) m = true ↔
          source.active.WithinFactor m destination.active) ∧
        ((Scale.ofViews source destination).outside (1 / m) m = false ↔
          source.active.WithinFactor m destination.active)) ∧
      (∀ r, route h source destination overlay inputs = .ok r →
        (r.greatestScale = 8 ∨ r.greatestScale = 16) ∧
        (0 < source.active.width ∧ 0 < source.active.height) ∧
        source.active.WithinFactor r.greatestScale destination.active ∧
        (r.onLegacy = false → source.active.WithinFactor 8 destination.active)) ∧
      (∀ width height low high,
        route h source destination overlay inputs =
          .error (.scaleRatio width height low high) →
        ∃ m : Nat, (m = 8 ∨ m = 16) ∧ low = .finite (1 / m) ∧ high = .finite m ∧
          ¬source.active.WithinFactor m destination.active) ∧
      (source.active.width = 0 ∨ source.active.height = 0 →
        ∃ e, route h source destination overlay inputs = .error e) := by
  refine ⟨fun host s hstarted => hstarted.regular.scalable,
    fun h source destination overlay inputs hsizes => ⟨fun m hm => ?_, fun r hroute => ?_,
      fun width height low high => not_withinFactor_of_refused hsizes, fun hempty => ?_⟩⟩
  · have hexact := Scale.outside_eq_false_iff (limit_is_power hm) hsizes
    rw [Scale.within_eq_not_outside hsizes, Bool.not_eq_true']
    exact ⟨hexact, hexact⟩
  · obtain ⟨hwithin, hmodern⟩ := withinFactor_of_route hsizes hroute
    exact ⟨(scale_of_route hroute).1, hwithin.pos hsizes, hwithin, hmodern⟩
  · cases hroute : route h source destination overlay inputs with
    | error e => exact ⟨e, rfl⟩
    | ok r =>
      obtain ⟨hwidth, hheight⟩ := (withinFactor_of_route hsizes hroute).1.pos hsizes
      omega

/-- A picture that is enlarged as much as the modern unit can, a little more, and too much; and one
that is empty. -/
theorem scale_checks_exact_sample :
    let view (width height : Nat) : View :=
      { pad := ⟨width, height, .rgba⟩, active := ⟨0, 0, width, height⟩ }
    let mixed := Hardware.announced "RGA_3 RGA_2_Enhance"
    Sample.session.main.active.Scalable Sample.session.output.active ∧
      (view 100 100).active.Scalable (view 800 800).active ∧
      (view 100 100).active.Scalable (view 1601 800).active ∧
      (view 0 100).active.Scalable (view 800 800).active ∧
      route mixed (view 100 100) (view 800 800) none 1 = .ok ⟨false, .modern, 8⟩ ∧
      (view 100 100).active.WithinFactor 8 (view 800 800).active ∧
      route mixed (view 100 100) (view 801 800) none 1 = .ok ⟨true, .legacy, 16⟩ ∧
      route mixed (view 100 100) (view 1601 800) none 1 =
        .error (.scaleRatio (.quotient 1601 100) (.finite 8) (.finite (1 / 16)) (.finite 16)) ∧
      (∃ m : Nat, (m = 8 ∨ m = 16) ∧ Single.finite (1 / 16) = .finite (1 / m) ∧
        Single.finite 16 = .finite m ∧
        ¬(view 100 100).active.WithinFactor m (view 1601 800).active) ∧
      ∃ e, route mixed (view 0 100) (view 800 800) none 1 = .error e := by
  intro view mixed
  have hfits : (view 100 100).active.Scalable (view 800 800).active := by
    constructor <;> decide
  have hbeyond : (view 100 100).active.Scalable (view 1601 800).active := by
    constructor <;> decide
  have hempty : (view 0 100).active.Scalable (view 800 800).active := by
    constructor <;> decide
  have hroute : route mixed (view 100 100) (view 800 800) none 1 = .ok ⟨false, .modern, 8⟩ :=
    ok_of_toOption (by decide +kernel)
  have hlegacy : route mixed (view 100 100) (view 801 800) none 1 = .ok ⟨true, .legacy, 16⟩ :=
    ok_of_toOption (by decide +kernel)
  have hrefused : route mixed (view 100 100) (view 1601 800) none 1 =
      .error (.scaleRatio (.quotient 1601 100) (.finite 8) (.finite (1 / 16)) (.finite 16)) := by
    decide +kernel
  obtain ⟨hsessions, hchecks⟩ := scale_checks_exact
  obtain ⟨-, hroutes, -, -⟩ := hchecks mixed _ _ none 1 hfits
  obtain ⟨-, -, hrefusals, -⟩ := hchecks mixed _ _ none 1 hbeyond
  obtain ⟨-, -, -, hnothing⟩ := hchecks mixed _ _ none 1 hempty
  exact ⟨hsessions _ _ Sample.started, hfits, hbeyond, hempty, hroute, (hroutes _ hroute).2.2.1,
    hlegacy, hrefused, hrefusals _ _ _ _ hrefused, hnothing (.inl rfl)⟩

end Route
end Blitter
