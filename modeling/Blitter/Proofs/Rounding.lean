import Mathlib.Algebra.Order.Field.Power
import Mathlib.Tactic.FieldSimp
import Mathlib.Tactic.Linarith
import Mathlib.Tactic.NormNum
import Mathlib.Tactic.Ring
import Blitter.Buffer.Stride

/-!
# Exact single-precision values

Whole numbers of less than 24 bits are single-precision values, so rounding leaves them as they are
and takes no other number past one. Pitches are such numbers. Converting strides to pitches and back
therefore loses nothing where the quotient is whole, and never falls short of a width that the pitch
has room for.
-/
namespace Blitter

theorem abs_eq_abs (q : Rat) : q.abs = |q| := by
  unfold Rat.abs
  split
  · next h => exact (abs_of_nonneg h).symm
  · next h => exact (abs_of_neg (not_le.1 h)).symm

theorem roundEven_intCast (n : Int) : roundEven n = n := by
  simp [roundEven, Rat.floor_intCast]

/-- Rounding to whole numbers passes none. -/
theorem le_roundEven {q : Rat} {n : Int} (h : (n : Rat) ≤ q) : n ≤ roundEven q := by
  have hfloor : n ≤ q.floor := Rat.le_floor_iff.2 h
  unfold roundEven
  dsimp only
  split
  · exact hfloor
  · split
    · omega
    · split <;> omega

theorem roundEven_le {q : Rat} {n : Int} (h : q ≤ n) : roundEven q ≤ n := by
  rcases h.eq_or_lt with rfl | hlt
  · exact (roundEven_intCast n).le
  · have hfloor : q.floor < n := Rat.floor_lt_iff.2 hlt
    unfold roundEven
    dsimp only
    split
    · omega
    · split
      · omega
      · split <;> omega

/-- Rounding to whole numbers is off by a half at most. -/
theorem roundEven_near (q : Rat) : |(roundEven q : Rat) - q| ≤ 1 / 2 := by
  have hfloor : (q.floor : Rat) ≤ q := Rat.floor_le q
  have hnext : q < q.floor + 1 := by exact_mod_cast Rat.lt_floor_add_one q
  unfold roundEven
  dsimp only
  rw [abs_le]
  split
  · constructor <;> linarith
  · split
    · push_cast
      constructor <;> linarith
    · split
      · constructor <;> linarith
      · push_cast
        constructor <;> linarith

theorem roundEven_nonneg {q : Rat} (h : 0 ≤ q) : 0 ≤ roundEven q :=
  le_roundEven (by exact_mod_cast h)

theorem roundEven_nonpos {q : Rat} (h : q ≤ 0) : roundEven q ≤ 0 :=
  roundEven_le (by exact_mod_cast h)

theorem spacing_pos (q : Rat) : 0 < spacing q := zpow_pos (by norm_num) _

/-- A number is not below its binade. -/
theorem binade_le {q : Rat} (hq : 0 < q) : (2 : Rat) ^ binade q ≤ q := by
  have hnum : 0 < q.num := Rat.num_pos.2 hq
  unfold binade
  dsimp only
  rw [abs_eq_abs, abs_of_pos hq]
  split
  · assumption
  · have hlow : 2 ^ q.num.natAbs.log2 ≤ q.num.natAbs := Nat.log2_self_le (by omega)
    have hhigh : q.den < 2 ^ (q.den.log2 + 1) := Nat.lt_log2_self
    have hnumerator : (2 : Rat) ^ q.num.natAbs.log2 ≤ q.num := by
      have hcast : ((q.num.natAbs : Int) : Rat) = q.num := by
        rw [Int.natAbs_of_nonneg hnum.le]
      rw [← hcast]
      exact_mod_cast hlow
    have hdenominator : (q.den : Rat) ≤ 2 ^ (q.den.log2 + 1) := by exact_mod_cast hhigh.le
    have hsplit : (2 : Rat) ^ ((q.num.natAbs.log2 : Int) - q.den.log2 - 1) =
        2 ^ q.num.natAbs.log2 / 2 ^ (q.den.log2 + 1) := by
      rw [← zpow_natCast, ← zpow_natCast, ← zpow_sub₀ (by norm_num)]
      congr 1
      push_cast
      ring
    have hden : (0 : Rat) < q.den := by exact_mod_cast q.den_pos
    calc (2 : Rat) ^ ((q.num.natAbs.log2 : Int) - q.den.log2 - 1)
        = 2 ^ q.num.natAbs.log2 / 2 ^ (q.den.log2 + 1) := hsplit
      _ ≤ q.num / q.den :=
        div_le_div₀ (by exact_mod_cast hnum.le) hnumerator hden hdenominator
      _ = q := Rat.num_div_den q

theorem spacing_mul (q : Rat) : (2 : Rat) ^ binade q = 2 ^ 23 * spacing q := by
  rw [spacing, ← zpow_natCast, ← zpow_add₀ (by norm_num)]
  congr 1
  push_cast
  ring

/-- The binade of a whole number is given by its number of bits. -/
theorem binade_intCast {n : Int} (hn : n ≠ 0) : binade n = n.natAbs.log2 := by
  have hpower : 2 ^ n.natAbs.log2 ≤ n.natAbs := Nat.log2_self_le (Int.natAbs_ne_zero.2 hn)
  have hlow : (2 : Rat) ^ n.natAbs.log2 ≤ (n : Rat).abs := by
    rw [abs_eq_abs, ← Int.cast_abs, Int.abs_eq_natAbs, Int.cast_natCast]
    exact_mod_cast hpower
  have hden : Nat.log2 1 = 0 := by decide
  simp [binade, hden, hlow]

namespace Single

/-- Multiples of the spacing are not changed by rounding. -/
theorem round_of_multiple {q : Rat} (k : Int) (h : q = k * spacing q) : round q = q := by
  have hquotient : q / spacing q = k := by
    rw [div_eq_iff (spacing_pos q).ne']
    exact h
  unfold round
  split
  · next hzero => exact hzero.symm
  · rw [hquotient, roundEven_intCast, ← h]

/-! Rounding keeps the sign. -/

theorem round_nonneg {q : Rat} (h : 0 ≤ q) : 0 ≤ round q := by
  unfold round
  split
  · exact le_refl 0
  · have hquotient := roundEven_nonneg (div_nonneg h (spacing_pos q).le)
    exact mul_nonneg (by exact_mod_cast hquotient) (spacing_pos q).le

theorem round_nonpos {q : Rat} (h : q ≤ 0) : round q ≤ 0 := by
  unfold round
  split
  · exact le_refl 0
  · have hquotient := roundEven_nonpos (div_nonpos_of_nonpos_of_nonneg h (spacing_pos q).le)
    exact mul_nonpos_of_nonpos_of_nonneg (by exact_mod_cast hquotient) (spacing_pos q).le

/-! ## Order -/

/-- A value of 24 bits or less. -/
def Representable (p : Rat) : Prop := ∃ k e : Int, |k| ≤ 2 ^ 24 ∧ p = k * 2 ^ e

theorem representable_intCast {n : Int} (h : |n| ≤ 2 ^ 24) : Representable n :=
  ⟨n, 0, h, by simp⟩

theorem representable_zpow (e : Int) : Representable (2 ^ e) := ⟨1, e, by decide, by simp⟩

variable {p q : Rat}

/-- In a binade not above it, a representable value is a multiple of the spacing. -/
theorem Representable.multiple (h : Representable p) (hbinade : 2 ^ binade q < p) :
    ∃ n : Int, p = n * spacing q := by
  obtain ⟨k, e, hk, rfl⟩ := h
  have hexponent : binade q - 23 ≤ e := by
    by_contra hless
    have hpower : (2 : Rat) ^ e ≤ 2 ^ (binade q - 24) :=
      zpow_le_zpow_right₀ (by norm_num) (by omega)
    have hcoefficient : (k : Rat) ≤ 2 ^ 24 := by exact_mod_cast (le_abs_self k).trans hk
    have hbound : (k : Rat) * 2 ^ e ≤ 2 ^ binade q := by
      calc (k : Rat) * 2 ^ e ≤ 2 ^ 24 * 2 ^ (binade q - 24) := by gcongr
        _ = 2 ^ binade q := by
          rw [← zpow_natCast, ← zpow_add₀ (by norm_num)]
          congr 1
          push_cast
          ring
    exact absurd hbinade hbound.not_gt
  refine ⟨k * 2 ^ (e - (binade q - 23)).toNat, ?_⟩
  have hshift : ((e - (binade q - 23)).toNat : Int) = e - (binade q - 23) :=
    Int.toNat_of_nonneg (by omega)
  push_cast
  rw [spacing, mul_assoc, ← zpow_natCast, hshift, ← zpow_add₀ (by norm_num), sub_add_cancel]

theorem round_eq (h : q ≠ 0) : round q = roundEven (q / spacing q) * spacing q := if_neg h

/-- Rounding passes no representable value. -/
theorem le_round (hp : Representable p) (hq : 0 < q) (hle : p ≤ q) : p ≤ round q := by
  have hspacing := spacing_pos q
  have hopens : (2 : Rat) ^ binade q ≤ round q := by
    have hquotient : (2 : Rat) ^ 23 ≤ q / spacing q := by
      rw [le_div_iff₀ hspacing, ← spacing_mul]
      exact binade_le hq
    have hrounded : (2 : Rat) ^ 23 ≤ roundEven (q / spacing q) := by
      have hwhole := le_roundEven (n := 2 ^ 23) (by exact_mod_cast hquotient)
      exact_mod_cast hwhole
    rw [round_eq hq.ne', spacing_mul]
    gcongr
  rcases le_or_gt p (2 ^ binade q) with hlow | hhigh
  · exact hlow.trans hopens
  · obtain ⟨n, rfl⟩ := hp.multiple hhigh
    have hrounded : (n : Rat) ≤ roundEven (q / spacing q) := by
      exact_mod_cast le_roundEven ((le_div_iff₀ hspacing).2 hle)
    rw [round_eq hq.ne']
    gcongr

theorem round_le (hp : Representable p) (hq : 0 < q) (hle : q ≤ p) : round q ≤ p := by
  have hspacing := spacing_pos q
  have hmultiple : ∃ n : Int, p = n * spacing q := by
    rcases ((binade_le hq).trans hle).eq_or_lt with heq | hlt
    · exact ⟨2 ^ 23, by rw [← heq, spacing_mul]; push_cast; rfl⟩
    · exact hp.multiple hlt
  obtain ⟨n, rfl⟩ := hmultiple
  have hrounded : (roundEven (q / spacing q) : Rat) ≤ n := by
    exact_mod_cast roundEven_le ((div_le_iff₀ hspacing).2 hle)
  rw [round_eq hq.ne']
  gcongr

/-- Rounding changes a value by a part in two to the 24th at most. -/
theorem round_near (hq : 0 < q) : |round q - q| ≤ q / 2 ^ 24 := by
  have hspacing := spacing_pos q
  have hnear := roundEven_near (q / spacing q)
  have hopens := binade_le hq
  rw [spacing_mul] at hopens
  have hscaled : round q - q = (roundEven (q / spacing q) - q / spacing q) * spacing q := by
    rw [round_eq hq.ne', sub_mul, div_mul_cancel₀ _ hspacing.ne']
  calc |round q - q| = |roundEven (q / spacing q) - q / spacing q| * spacing q := by
        rw [hscaled, abs_mul, abs_of_pos hspacing]
    _ ≤ 1 / 2 * spacing q := by gcongr
    _ ≤ q / 2 ^ 24 := by linarith

/-- A quotient in a range of positive numbers has operands of the same sign. -/
theorem pos_of_within {a b : Int} {low high : Rat} (hb : 0 < b) (hlow : 0 < low)
    (h : (quotient a b).within low high = true) : 0 < a := by
  by_contra ha
  rw [quotient, if_neg hb.ne'] at h
  split at h
  · rw [if_neg hb.not_gt] at h
    simp [within, below, hlow] at h
  · have hnumerator : round (a : Rat) ≤ 0 := round_nonpos (by exact_mod_cast not_lt.1 ha)
    have hdenominator : 0 ≤ round (b : Rat) := round_nonneg (by exact_mod_cast hb.le)
    have hvalue := round_nonpos (div_nonpos_of_nonpos_of_nonneg hnumerator hdenominator)
    simp [within, below, hvalue.trans_lt hlow] at h

/-- Whole numbers of less than 24 bits are not changed by rounding. -/
theorem round_intCast {n : Int} (h : n.natAbs < 2 ^ 24) : round n = n := by
  by_cases hn : n = 0
  · simp [round, hn]
  · have hbits : n.natAbs.log2 < 24 := (Nat.log2_lt (Int.natAbs_ne_zero.2 hn)).2 h
    refine round_of_multiple (n * 2 ^ (23 - n.natAbs.log2)) ?_
    have hscale : (2 : Rat) ^ (23 - n.natAbs.log2) * spacing n = 1 := by
      rw [spacing, binade_intCast hn, ← zpow_natCast, ← zpow_add₀ (by norm_num)]
      rw [show ((23 - n.natAbs.log2 : Nat) : Int) + ((n.natAbs.log2 : Int) - 23) = 0 by omega,
        zpow_zero]
    push_cast
    rw [mul_assoc, hscale, mul_one]

end Single

theorem wholePart_intCast {n : Int} (h : n ≤ 0x7fffffff) : wholePart n = n := by
  rw [wholePart, Rat.floor_intCast, min_eq_left h]

/-! ## Pitches and strides -/

section Pitch

variable {f : PixelFormat} {pixels pitch : Int}

theorem PixelFormat.bitsPerPixel_bounds (f : PixelFormat) :
    8 ≤ f.layout.bitsPerPixel ∧ f.layout.bitsPerPixel ≤ 32 := by
  cases f <;> decide

theorem PixelFormat.bytesPerPixel_pos (f : PixelFormat) : 0 < f.bytesPerPixel := by
  have hbits : (8 : Rat) ≤ f.layout.bitsPerPixel := by exact_mod_cast f.bitsPerPixel_bounds.1
  rw [PixelFormat.bytesPerPixel]
  linarith

/-- Only positive strides have a pitch. -/
theorem pixels_pos_of_pixelsToPitch? {bytesPerPixel : Rat}
    (h : pixelsToPitch? bytesPerPixel pixels = some pitch) : 0 < pixels := by
  unfold pixelsToPitch? at h
  split at h
  · cases h
  · next hvalid => exact not_le.1 (not_or.1 hvalid).1

/-- Whole pixels that take up whole bytes. -/
structure Fills (f : PixelFormat) (pixels pitch : Int) : Prop where
  width : 0 < pixels ∧ pixels < 2 ^ 24
  length : 0 < pitch ∧ pitch < 2 ^ 24
  bits : pixels * f.layout.bitsPerPixel = 8 * pitch

namespace Fills

/-- Whole blocks of sixteen pixels take up whole bytes. -/
theorem of_blocks (f : PixelFormat) {pixels : Int} (hblocks : 16 ∣ pixels) (hpos : 0 < pixels)
    (hlt : pixels < 2 ^ 17) : Fills f pixels (pixels / 8 * f.layout.bitsPerPixel) := by
  have hbits := f.bitsPerPixel_bounds
  obtain ⟨k, rfl⟩ := hblocks
  have hbytes : 16 * k / 8 = 2 * k := by omega
  have hleast : 2 * k * 8 ≤ 2 * k * (f.layout.bitsPerPixel : Int) :=
    mul_le_mul_of_nonneg_left (by omega) (by omega)
  have hgreatest : 2 * k * (f.layout.bitsPerPixel : Int) ≤ 2 * k * 32 :=
    mul_le_mul_of_nonneg_left (by omega) (by omega)
  rw [hbytes]
  refine ⟨⟨hpos, by omega⟩, ⟨by omega, by omega⟩, ?_⟩
  ring

theorem bytes (h : Fills f pixels pitch) : (pixels : Rat) * f.bytesPerPixel = pitch := by
  have hbits : (pixels : Rat) * f.layout.bitsPerPixel = 8 * pitch := by exact_mod_cast h.bits
  rw [PixelFormat.bytesPerPixel, mul_div_assoc', hbits, mul_div_cancel_left₀ _ (by norm_num)]

theorem round_pixels (h : Fills f pixels pitch) : Single.round pixels = pixels :=
  Single.round_intCast (by have := h.width; omega)

theorem round_pitch (h : Fills f pixels pitch) : Single.round pitch = pitch :=
  Single.round_intCast (by have := h.length; omega)

/-- The pitch of whole pixels in whole bytes is found exactly. -/
theorem pixelsToPitch?_eq (h : Fills f pixels pitch) :
    pixelsToPitch? f.bytesPerPixel pixels = some pitch := by
  have hvalid : ¬(pixels ≤ 0 ∨ f.bytesPerPixel ≤ 0) :=
    not_or.2 ⟨not_le.2 h.width.1, not_le.2 f.bytesPerPixel_pos⟩
  have hwhole : wholePart pitch = pitch := wholePart_intCast (by have := h.length; omega)
  rw [pixelsToPitch?, if_neg hvalid, h.round_pixels, h.bytes, h.round_pitch, hwhole]
  exact if_pos h.length.1

/-- Nothing is rounded where the pixels of such a pitch are counted. -/
theorem wholePart_quotient (h : Fills f pixels pitch) :
    wholePart (Single.round (Single.round pitch / f.bytesPerPixel)) = pixels := by
  have hquotient : (pitch : Rat) / f.bytesPerPixel = pixels := by
    rw [div_eq_iff f.bytesPerPixel_pos.ne', h.bytes]
  rw [h.round_pitch, hquotient, h.round_pixels]
  exact wholePart_intCast (by have := h.width; omega)

/-- The pixels of such a pitch are found exactly. -/
theorem pitchToPixels?_eq (h : Fills f pixels pitch) :
    pitchToPixels? f.bytesPerPixel pitch = some pixels := by
  have hvalid : ¬(pitch ≤ 0 ∨ f.bytesPerPixel ≤ 0) :=
    not_or.2 ⟨not_le.2 h.length.1, not_le.2 f.bytesPerPixel_pos⟩
  rw [pitchToPixels?, if_neg hvalid, h.wholePart_quotient]
  exact if_pos h.width.1

end Fills

/-- Rounding loses none of the pixels that a pitch has room for. -/
theorem le_of_pitchToPixels? {width : Int} (hwidth : 0 < width ∧ width < 2 ^ 19)
    (h : pitchToPixels? f.bytesPerPixel pitch = some pixels)
    (hroom : (width : Rat) * f.bytesPerPixel ≤ pitch) : width ≤ pixels := by
  have hbits := f.bitsPerPixel_bounds
  have hbytes := f.bytesPerPixel_pos
  have hwidthpos : (0 : Rat) < width := by exact_mod_cast hwidth.1
  have hpitchpos : (0 : Rat) < pitch := (mul_pos hwidthpos hbytes).trans_le hroom
  have hrow : Single.Representable ((width : Rat) * f.bytesPerPixel) := by
    refine ⟨width * f.layout.bitsPerPixel, -3, ?_, ?_⟩
    · rw [abs_of_nonneg (mul_nonneg hwidth.1.le (Int.natCast_nonneg _))]
      calc width * f.layout.bitsPerPixel ≤ 2 ^ 19 * 32 :=
            mul_le_mul hwidth.2.le (by omega) (by omega) (by omega)
        _ ≤ 2 ^ 24 := by norm_num
    · rw [PixelFormat.bytesPerPixel]
      push_cast
      norm_num
      ring
  have hrounded := Single.le_round hrow hpitchpos hroom
  have hquotient : (width : Rat) ≤ Single.round pitch / f.bytesPerPixel :=
    (le_div_iff₀ hbytes).2 hrounded
  have hcolumns : Single.Representable (width : Rat) :=
    Single.representable_intCast (by rw [abs_of_pos hwidth.1]; omega)
  have hcount : (width : Rat) ≤ Single.round (Single.round pitch / f.bytesPerPixel) :=
    Single.le_round hcolumns (hwidthpos.trans_le hquotient) hquotient
  have hwhole : width ≤ wholePart (Single.round (Single.round pitch / f.bytesPerPixel)) :=
    le_min (Rat.le_floor_iff.2 hcount) (by omega)
  unfold pitchToPixels? at h
  split at h
  · cases h
  · dsimp only at h
    split at h
    · cases h
      exact hwhole
    · cases h

end Pitch
end Blitter
