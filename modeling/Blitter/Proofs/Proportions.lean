import Mathlib.Algebra.Order.Group.Abs
import Mathlib.Algebra.Order.Ring.Abs
import Mathlib.Tactic.Linarith
import Mathlib.Tactic.Ring
import Blitter.Filter.Transform

/-!
# Proportions

What fitting a size to the proportions of a source does to it. Both sides come out in multiples of
the divisor, none beyond the request where the size shrinks and none short of it where it grows. A
request in such multiples keeps one of its sides, and the other becomes a nearest multiple to what
the proportions ask for. Products are taken not to overflow.
-/
namespace Blitter

/-- A multiple of `d` that is as near to `n / q` as any. -/
structure NearestMultiple (d n q v : Int) : Prop where
  multiple : d ∣ v
  near : 2 * |v * q - n| ≤ d * q
  nearest : ∀ m, d ∣ m → |v * q - n| ≤ |m * q - n|

/-- Multiples that are not farther than half of the distance between them are nearest ones. -/
theorem NearestMultiple.of_near {d n q v : Int} (hd : 0 < d) (hq : 0 < q) (hv : d ∣ v)
    (hnear : 2 * |v * q - n| ≤ d * q) : NearestMultiple d n q v := by
  refine ⟨hv, hnear, fun m hm => ?_⟩
  obtain ⟨i, rfl⟩ := hv
  obtain ⟨j, rfl⟩ := hm
  by_cases hij : i = j
  · rw [hij]
  · have hapart : d * q ≤ |d * i * q - d * j * q| := by
      have hone : 1 ≤ |i - j| := Int.one_le_abs (sub_ne_zero.2 hij)
      have hpos : 0 < d * q := mul_pos hd hq
      calc d * q = 1 * (d * q) := (one_mul _).symm
        _ ≤ |i - j| * (d * q) := mul_le_mul_of_nonneg_right hone hpos.le
        _ = |(i - j) * (d * q)| := by rw [abs_mul, abs_of_pos hpos]
        _ = |d * i * q - d * j * q| := by ring_nf
    have hthrough := abs_sub_le (d * i * q) n (d * j * q)
    rw [abs_sub_comm n] at hthrough
    linarith

/-! ## Rounded quotients -/

section Rescale

variable {a b c k : Int}

theorem rescale_eq (hab : 0 ≤ a * b) (hc : 0 < c) : rescale a b c = (a * b + c / 2) / c := by
  have hhalf : c.tdiv 2 = c / 2 := Int.tdiv_eq_ediv_of_nonneg hc.le
  rw [rescale, hhalf, Int.tdiv_eq_ediv_of_nonneg (by omega)]

/-- The quotient is off by a half at most. -/
theorem rescale_near (hab : 0 ≤ a * b) (hc : 0 < c) : 2 * |rescale a b c * c - a * b| ≤ c := by
  have hsplit := Int.mul_ediv_add_emod (a * b + c / 2) c
  have hrest := Int.emod_nonneg (a * b + c / 2) hc.ne'
  have hless := Int.emod_lt_of_pos (a * b + c / 2) hc
  rw [mul_comm c] at hsplit
  rw [rescale_eq hab hc]
  rcases abs_cases ((a * b + c / 2) / c * c - a * b) with ⟨habs, -⟩ | ⟨habs, -⟩ <;>
    rw [habs] <;> omega

/-! Rounding takes no quotient past a whole number. -/

theorem le_rescale (hab : 0 ≤ a * b) (hc : 0 < c) (h : k * c ≤ a * b) : k ≤ rescale a b c := by
  rw [rescale_eq hab hc, Int.le_ediv_iff_mul_le hc]
  omega

theorem rescale_le (hab : 0 ≤ a * b) (hc : 0 < c) (h : a * b ≤ k * c) : rescale a b c ≤ k := by
  rw [rescale_eq hab hc, ← Int.lt_add_one_iff, Int.ediv_lt_iff_lt_mul hc, add_mul, one_mul]
  omega

end Rescale

/-! ## Proportional sides

One side of a size follows from the other, `side`, by the sides of a source `across` and `along`
it. -/

section Sides

variable {side across along d k : Int}

/-- What follows is a nearest multiple. -/
theorem nearestMultiple_rescale (hside : 0 ≤ side) (hacross : 0 ≤ across) (halong : 0 < along)
    (hd : 0 < d) :
    NearestMultiple d (side * across) along (rescale side across (along * d) * d) := by
  have hnear := rescale_near (mul_nonneg hside hacross) (mul_pos halong hd)
  refine .of_near hd halong (Int.dvd_mul_left _ _) ?_
  calc 2 * |rescale side across (along * d) * d * along - side * across|
      = 2 * |rescale side across (along * d) * (along * d) - side * across| := by ring_nf
    _ ≤ along * d := hnear
    _ = d * along := mul_comm _ _

/-! It is on the same side of a multiple as the exact value. -/

theorem rescale_mul_le (hside : 0 ≤ side) (hacross : 0 ≤ across) (halong : 0 < along) (hd : 0 < d)
    (hk : d ∣ k) (hle : side * across ≤ k * along) : rescale side across (along * d) * d ≤ k := by
  obtain ⟨j, rfl⟩ := hk
  rw [mul_comm d j]
  refine mul_le_mul_of_nonneg_right ?_ hd.le
  exact rescale_le (mul_nonneg hside hacross) (mul_pos halong hd) (by linarith)

theorem le_rescale_mul (hside : 0 ≤ side) (hacross : 0 ≤ across) (halong : 0 < along) (hd : 0 < d)
    (hk : d ∣ k) (hle : k * along ≤ side * across) : k ≤ rescale side across (along * d) * d := by
  obtain ⟨j, rfl⟩ := hk
  rw [mul_comm d j]
  refine mul_le_mul_of_nonneg_right ?_ hd.le
  exact le_rescale (mul_nonneg hside hacross) (mul_pos halong hd) (by linarith)

end Sides

/-! ## Fitted sizes -/

section Fit

variable {inW inH w h d e : Int}

theorem fitAspect_shrink (inW inH w h e : Int) :
    fitAspect inW inH w h .shrink e =
      (alignDown (min (proportionalSides inW inH w h (max e 1)).1 w) (max e 1),
        alignDown (min (proportionalSides inW inH w h (max e 1)).2 h) (max e 1)) := rfl

theorem fitAspect_grow (inW inH w h e : Int) :
    fitAspect inW inH w h .grow e =
      (alignUp (max (proportionalSides inW inH w h (max e 1)).1 w) (max e 1),
        alignUp (max (proportionalSides inW inH w h (max e 1)).2 h) (max e 1)) := rfl

/-- Width and height are treated alike. -/
theorem fitAspect_swap (inW inH w h : Int) (policy : AspectPolicy) (e : Int) :
    fitAspect inH inW h w policy e = (fitAspect inW inH w h policy e).swap := by
  cases policy <;> rfl

/-- The width that goes with a positive height. -/
theorem across_spec (hin : 0 < inW ∧ 0 < inH) (hh : 0 < h) (w : Int) (hd : 0 < d) :
    0 ≤ (proportionalSides inW inH w h d).1 ∧
      NearestMultiple d (h * inW) inH (proportionalSides inW inH w h d).1 :=
  ⟨le_rescale_mul hh.le hin.1.le hin.2 hd (dvd_zero d) (by simpa using (mul_pos hh hin.1).le),
    nearestMultiple_rescale hh.le hin.1.le hin.2 hd⟩

/-- If it is not beyond the request, the size shrinks to it, and grows to the height that goes with
the width. -/
theorem fitAspect_of_le (hin : 0 < inW ∧ 0 < inH) (hsize : 0 < w ∧ 0 < h)
    (hw : max e 1 ∣ w) (hh : max e 1 ∣ h) (hle : h * inW ≤ w * inH) :
    fitAspect inW inH w h .shrink e = ((proportionalSides inW inH w h (max e 1)).1, h) ∧
      fitAspect inW inH w h .grow e = (w, (proportionalSides inW inH w h (max e 1)).2) := by
  have hd : 0 < max e 1 := by omega
  have hacross : (proportionalSides inW inH w h (max e 1)).1 ≤ w :=
    rescale_mul_le hsize.2.le hin.1.le hin.2 hd hw hle
  have hdown : h ≤ (proportionalSides inW inH w h (max e 1)).2 :=
    le_rescale_mul hsize.1.le hin.2.le hin.1 hd hh hle
  obtain ⟨hnonneg, hnearest⟩ := across_spec hin hsize.2 w hd
  obtain ⟨hnonneg', hnearest'⟩ := across_spec hin.symm hsize.1 h hd
  rw [fitAspect_shrink, fitAspect_grow, min_eq_left hacross, min_eq_right hdown,
    max_eq_right hacross, max_eq_left hdown]
  constructor
  · rw [alignDown_of_dvd hnonneg hnearest.multiple, alignDown_of_dvd hsize.2.le hh]
  · rw [alignUp_of_dvd hsize.1.le hd hw]
    exact congrArg _ (alignUp_of_dvd hnonneg' hd hnearest'.multiple)

/-- A size that shrinks comes out in multiples that the request has room for. -/
theorem fitAspect_shrink_le (hin : 0 < inW ∧ 0 < inH) (hsize : 0 < w ∧ 0 < h) :
    max e 1 ∣ (fitAspect inW inH w h .shrink e).1 ∧ (fitAspect inW inH w h .shrink e).1 ≤ w := by
  have hd : 0 < max e 1 := by omega
  obtain ⟨hnonneg, -⟩ := across_spec hin hsize.2 w hd
  exact ⟨dvd_alignDown _ _,
    (alignDown_le (le_min hnonneg hsize.1.le) hd).trans (min_le_right _ _)⟩

/-- One that grows has room for the request. -/
theorem le_fitAspect_grow (inW inH : Int) (hsize : 0 < w ∧ 0 < h) :
    max e 1 ∣ (fitAspect inW inH w h .grow e).1 ∧ w ≤ (fitAspect inW inH w h .grow e).1 := by
  have hd : 0 < max e 1 := by omega
  exact ⟨dvd_alignUp _ _,
    (le_max_right _ _).trans (le_alignUp (hsize.1.le.trans (le_max_right _ _)) hd)⟩

/-- Both sides of a fitted size are multiples of the divisor, none beyond the request where it
shrinks and none short of it where it grows. If those of the request are multiples as well, one of
them is kept and the other becomes a nearest multiple to what the source's proportions ask for. -/
theorem fits_proportions (hin : 0 < inW ∧ 0 < inH) (hsize : 0 < w ∧ 0 < h) (divisibleBy : Int) :
    let size (policy : AspectPolicy) := fitAspect inW inH w h policy divisibleBy
    let d := max divisibleBy 1
    let shrunk := size .shrink
    let grown := size .grow
    (d ∣ shrunk.1 ∧ d ∣ shrunk.2 ∧ shrunk.1 ≤ w ∧ shrunk.2 ≤ h) ∧
    (d ∣ grown.1 ∧ d ∣ grown.2 ∧ w ≤ grown.1 ∧ h ≤ grown.2) ∧
    (d ∣ w → d ∣ h →
      (h * inW ≤ w * inH →
        shrunk.2 = h ∧ NearestMultiple d (h * inW) inH shrunk.1 ∧
        grown.1 = w ∧ NearestMultiple d (w * inH) inW grown.2) ∧
      (w * inH < h * inW →
        shrunk.1 = w ∧ NearestMultiple d (w * inH) inW shrunk.2 ∧
        grown.2 = h ∧ NearestMultiple d (h * inW) inH grown.1)) := by
  intro size d shrunk grown
  have hd : 0 < d := by omega
  obtain ⟨-, hwidth⟩ := across_spec hin hsize.2 w hd
  obtain ⟨-, hheight⟩ := across_spec hin.symm hsize.1 h hd
  refine ⟨?_, ?_, fun hw hh => ⟨fun hle => ?_, fun hlt => ?_⟩⟩
  · obtain ⟨hmultiple, hle⟩ := fitAspect_shrink_le (e := divisibleBy) hin hsize
    obtain ⟨hmultiple', hle'⟩ := fitAspect_shrink_le (e := divisibleBy) hin.symm hsize.symm
    rw [fitAspect_swap] at hmultiple' hle'
    exact ⟨hmultiple, hmultiple', hle, hle'⟩
  · obtain ⟨hmultiple, hle⟩ := le_fitAspect_grow (e := divisibleBy) inW inH hsize
    obtain ⟨hmultiple', hle'⟩ := le_fitAspect_grow (e := divisibleBy) inH inW hsize.symm
    rw [fitAspect_swap] at hmultiple' hle'
    exact ⟨hmultiple, hmultiple', hle, hle'⟩
  · obtain ⟨hshrunk, hgrown⟩ := fitAspect_of_le (e := divisibleBy) hin hsize hw hh hle
    simp only [shrunk, grown, size, hshrunk, hgrown]
    exact ⟨trivial, hwidth, trivial, hheight⟩
  · obtain ⟨hshrunk, hgrown⟩ :=
      fitAspect_of_le (e := divisibleBy) hin.symm hsize.symm hh hw hlt.le
    rw [fitAspect_swap, Prod.swap_eq_iff_eq_swap] at hshrunk hgrown
    simp only [shrunk, grown, size, hshrunk, hgrown]
    exact ⟨rfl, hheight, rfl, hwidth⟩

/-- A wide source in a narrower request. -/
theorem fits_proportions_sample :
    ((0 : Int) < 1920 ∧ (0 : Int) < 1080) ∧ ((0 : Int) < 640 ∧ (0 : Int) < 480) ∧
      (2 : Int) ∣ 640 ∧ (2 : Int) ∣ 480 ∧ (640 : Int) * 1080 < 480 * 1920 ∧
      fitAspect 1920 1080 640 480 .shrink 2 = (640, 360) ∧
      NearestMultiple 2 (640 * 1080) 1920 360 ∧
      fitAspect 1920 1080 640 480 .grow 2 = (854, 480) ∧
      NearestMultiple 2 (480 * 1920) 1080 854 := by
  have hin : (0 : Int) < 1920 ∧ (0 : Int) < 1080 := by decide
  have hsize : (0 : Int) < 640 ∧ (0 : Int) < 480 := by decide
  have hwidth : (2 : Int) ∣ 640 := by decide
  have hheight : (2 : Int) ∣ 480 := by decide
  have hnarrow : (640 : Int) * 1080 < 480 * 1920 := by decide
  obtain ⟨-, -, hkept⟩ := fits_proportions hin hsize 2
  obtain ⟨-, hshrunk, -, hgrown⟩ := (hkept hwidth hheight).2 hnarrow
  exact ⟨hin, hsize, hwidth, hheight, hnarrow, by decide, hshrunk, by decide, hgrown⟩

end Fit

end Blitter
