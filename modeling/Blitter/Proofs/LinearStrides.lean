import Blitter.Proofs.Reservation
import Blitter.Proofs.Rounding
import Blitter.Rect

/-!
# Strides of the linear layout

The strides that are recovered from a linear buffer are those that it was laid out with: the padded
columns of a packed picture, or the pitch and the rows of a planar one. The whole picture lies
within them.
-/
namespace Blitter

namespace PixelFormat

variable {f : PixelFormat} {width height : Nat}

theorem steps_le_four (f : PixelFormat) : ∀ step ∈ f.layout.steps, step ≤ 4 := by
  cases f <;> decide

/-- The first plane has a byte or more for each column. -/
theorem le_pitch (f : PixelFormat) (width : Nat) : width ≤ f.pitch width 0 := by
  by_cases hpacked : f.isPacked10 = true
  · have hgroups : parts width 256 ≤ gaplessGroups width := Nat.left_le_or
    rw [pitch_gapless hpacked, if_neg (by decide)]
    unfold parts at hgroups
    omega
  · have hstep : f.layout.steps.getD 0 0 ≠ 0 :=
      (step_eq_zero_iff f 0 f.planes_bounds.1).not.2 hpacked
    have hrow : f.rowBytes width 0 = width * f.layout.steps.getD 0 0 := by simp [rowBytes, parts]
    have hpitch := f.rowBytes_le_pitch width 0
    have hcolumns : width ≤ width * f.layout.steps.getD 0 0 :=
      Nat.le_mul_of_pos_right _ (Nat.pos_of_ne_zero hstep)
    omega

/-- Rows of at most 8192 columns have a pitch of few bits. -/
theorem pitch_lt_of_planar (hplanar : f.isPlanar = true) (hwidth : width ≤ 8192) :
    f.pitch width 0 < 2 ^ 16 := by
  by_cases hpacked : f.isPacked10 = true
  · have hparts : parts width 256 < 2 ^ 6 := by
      unfold parts
      omega
    have hgroups : gaplessGroups width < 2 ^ 6 := Nat.or_lt_two_pow hparts (by decide)
    rw [pitch_gapless hpacked, if_neg (by decide)]
    omega
  · have hstep : f.layout.steps.getD 0 0 ≤ 4 :=
      getD_steps (p := (· ≤ 4)) f.steps_le_four (by decide) 0
    have hrow : f.rowBytes width 0 ≤ 8192 * 4 := by
      simp only [rowBytes, parts]
      exact Nat.mul_le_mul (by simpa using hwidth) hstep
    rw [pitch, if_neg hpacked, if_pos hplanar]
    unfold padded
    omega

theorem bufferSize_lt (f : PixelFormat) (hwidth : width ≤ 8192) (hheight : height ≤ 8192) :
    f.bufferSize width height < 2 ^ 31 := by
  have hbits := f.bitsPerPixel_bounds.2
  have hcolumns : reservedColumns width ≤ 9856 := by
    unfold reservedColumns padded
    omega
  have hrows : reservedRows height ≤ 9856 := by
    unfold reservedRows padded
    omega
  have harea := Nat.mul_le_mul hcolumns (Nat.mul_le_mul hbits hrows)
  have hsize := f.eight_mul_bufferSize width height
  omega

/-- The pitch of a packed picture is that of its columns, padded to eight. -/
theorem fills_pitch_packed (height : Nat) (hpacked : f.isPlanar = false)
    (hwidth : 1 ≤ width ∧ width ≤ 8192) :
    Fills f (padded width 8) (f.pitch width 0) ∧
      reservedRows height * f.pitch width 0 ≤ f.bufferSize width height := by
  have hplanes : f.layout.planes = 1 := by
    have hbounds := f.planes_bounds
    have hsingle : ¬1 < f.layout.planes := by
      simpa [isPlanar, PixelLayout.isPlanar] using hpacked
    omega
  cases f.arrangement with
  | packed bytes pos _ gapless step bits =>
    have hpitch := pitch_packed width pos hplanes gapless step bits
    have hbits := f.bitsPerPixel_bounds
    have hcolumns : 1 ≤ padded width 8 ∧ padded width 8 ≤ 8192 := by
      unfold padded
      omega
    have hlength : padded width 8 * bytes ≤ 8192 * 4 := Nat.mul_le_mul hcolumns.2 (by omega)
    have hpos : 0 < padded width 8 * bytes := Nat.mul_pos hcolumns.1 pos
    refine ⟨⟨by omega, by rw [hpitch]; omega, ?_⟩, reservedRows_mul_pitch_le height hpitch bits⟩
    rw [hpitch, bits]
    push_cast
    ring
  | semiPlanar _ planes => omega
  | splitChroma planes => omega
  | gapless planes => omega

end PixelFormat

variable {f : PixelFormat} {width height : Nat}

section Linear

variable {fd : Int} {size : Nat}

theorem head?_planes_linear {planes : List Plane}
    (hplanes : (BufferLayout.linear f width height fd size).planes? = some planes) :
    planes.head? = some ⟨0, 0, f.pitch width 0⟩ := by
  rw [List.head?_eq_getElem?]
  exact (getElem?_planes_linear hplanes).2 ⟨f.planes_bounds.1, rfl⟩

/-- The object and the first plane are what strides are read from. -/
theorem statedStride?_linear (hpitch : f.pitch width 0 ≠ 0) :
    (BufferLayout.linear f width height fd size).statedStride? f =
      if f.isPlanar then
        some ⟨signed32 (f.pitch width 0),
          signed32 (f.planeOffset width height 1 / f.pitch width 0 : Nat)⟩
      else
        let rows := signed32 (size / f.pitch width 0 : Nat)
        some ⟨wholePart (Single.round (Single.round (f.pitch width 0 : Int) / f.bytesPerPixel)),
          if f.isRgb then rows else alignDown rows 2⟩ := by
  obtain ⟨planes, hplanes⟩ : ∃ planes,
      (BufferLayout.linear f width height fd size).planes? = some planes := ⟨_, rfl⟩
  have hfirst := head?_planes_linear hplanes
  have hobject : (BufferLayout.linear f width height fd size).objects.head? =
      some ⟨fd, size, .linear⟩ := rfl
  unfold BufferLayout.statedStride?
  simp only [hobject, hplanes, hfirst, Option.bind_eq_bind, Option.bind_some, hpitch, if_false]
  split
  · next hplanar =>
    have hsecond := (getElem?_planes_linear hplanes).2
      ⟨show 1 < f.layout.planes by simpa [PixelFormat.isPlanar, PixelLayout.isPlanar] using hplanar,
        rfl⟩
    rw [hsecond]
    rfl
  · rfl

/-- A planar picture states its pitch and its rows. -/
theorem stride?_linear_planar (hplanar : f.isPlanar = true) (hwidth : 1 ≤ width ∧ width ≤ 8192)
    (hheight : 1 ≤ height ∧ height ≤ 8192) :
    (BufferLayout.linear f width height fd size).stride? f = some ⟨f.pitch width 0, height⟩ := by
  have hpitch := f.le_pitch width
  have hbound := PixelFormat.pitch_lt_of_planar hplanar hwidth.2
  have hrows : f.planeOffset width height 1 / f.pitch width 0 = height := by
    simp only [PixelFormat.planeOffset, PixelFormat.stackedRows, Nat.lt_irrefl, if_false,
      Nat.zero_add]
    exact Nat.mul_div_cancel_left _ (by omega)
  rw [BufferLayout.stride?, statedStride?_linear (by omega), if_pos hplanar, hrows,
    signed32_of_range (by omega) (by omega), signed32_of_range (by omega) (by omega)]
  refine Option.filter_eq_some_iff.2 ⟨rfl, decide_eq_true ?_⟩
  constructor <;> dsimp only <;> omega

/-- A packed picture states its columns, padded to eight, and the rows that are reserved or more. -/
theorem stride?_linear_packed (hpacked : f.isPlanar = false) (hwidth : 1 ≤ width ∧ width ≤ 8192)
    (hheight : 1 ≤ height ∧ height ≤ 8192) :
    ∃ rows : Int, (BufferLayout.linear f width height fd (f.bufferSize width height)).stride? f =
        some ⟨padded width 8, rows⟩ ∧
      PixelFormat.reservedRows height ≤ rows ∧ (f.isRgb = false → 2 ∣ rows) := by
  obtain ⟨hfills, hroom⟩ := PixelFormat.fills_pitch_packed height hpacked hwidth
  have hsize := f.bufferSize_lt hwidth.2 hheight.2
  have hpitch := f.le_pitch width
  have hreserved : PixelFormat.reservedRows height ≤ f.bufferSize width height / f.pitch width 0 :=
    (Nat.le_div_iff_mul_le (by omega)).2 hroom
  have hless := Nat.div_le_self (f.bufferSize width height) (f.pitch width 0)
  obtain ⟨hrows, -, k, hblocks⟩ := PixelFormat.le_reservedRows height
  rw [BufferLayout.stride?, statedStride?_linear (by omega), hpacked, if_neg (by decide)]
  dsimp only
  rw [hfills.wholePart_quotient, signed32_of_range (by omega) (by omega)]
  generalize f.bufferSize width height / f.pitch width 0 = rows at hreserved hless
  have hcolumns := hfills.width.1
  have heven := alignDown_of_nonneg (show (0 : Int) ≤ rows by omega) 2
  by_cases hrgb : f.isRgb = true
  · refine ⟨rows, Option.filter_eq_some_iff.2 ⟨by rw [if_pos hrgb], ?_⟩, by omega, by simp [hrgb]⟩
    exact decide_eq_true ⟨hcolumns, by dsimp only; omega⟩
  · refine ⟨alignDown rows 2, Option.filter_eq_some_iff.2 ⟨by rw [if_neg hrgb], ?_⟩, by omega,
      fun _ => by omega⟩
    exact decide_eq_true ⟨hcolumns, by dsimp only; omega⟩

end Linear

/-- Strides are recovered from the linear layout in its reserved bytes: the padded columns of a
packed picture and rows enough for it, even unless it is RGB, or the pitch of a planar picture's
first plane and its very rows. The whole picture lies within them. -/
theorem linear_strides_recovered (f : PixelFormat) (width height : Nat) (fd : Int)
    (hwidth : 1 ≤ width ∧ width ≤ 8192) (hheight : 1 ≤ height ∧ height ≤ 8192) :
    ∃ planes first stride,
      (BufferLayout.linear f width height fd (f.bufferSize width height)).planes? = some planes ∧
      planes.head? = some first ∧
      (BufferLayout.linear f width height fd (f.bufferSize width height)).stride? f = some stride ∧
      (f.isPlanar = false → stride.width = padded width 8 ∧ height ≤ stride.height ∧
        (f.isRgb = false → 2 ∣ stride.height)) ∧
      (f.isPlanar = true → stride.width = first.pitch ∧ width ≤ stride.width ∧
        stride.height = height) ∧
      Rect.Inside ⟨0, 0, width, height⟩ stride.width stride.height := by
  obtain ⟨planes, hplanes⟩ : ∃ planes, (BufferLayout.linear f width height fd
      (f.bufferSize width height)).planes? = some planes := ⟨_, rfl⟩
  have hfirst : planes.head? = some ⟨0, 0, f.pitch width 0⟩ := head?_planes_linear hplanes
  cases hplanar : f.isPlanar with
  | true =>
    have hcolumns := f.le_pitch width
    refine ⟨planes, _, _, hplanes, hfirst, stride?_linear_planar hplanar hwidth hheight, by simp,
      fun _ => ⟨rfl, by simpa using hcolumns, rfl⟩, ?_⟩
    simp only [Rect.Inside]
    omega
  | false =>
    obtain ⟨rows, hstride, hrows, heven⟩ := stride?_linear_packed hplanar hwidth hheight
    have hcolumns := le_padded width (show 0 < 8 by decide)
    have hreserved := (PixelFormat.le_reservedRows height).1
    refine ⟨planes, _, _, hplanes, hfirst, hstride, fun _ => ⟨rfl, by dsimp only; omega, heven⟩,
      by simp, ?_⟩
    simp only [Rect.Inside]
    omega

/-- An odd number of rows of two-byte pixels is recovered as an even one. -/
theorem linear_strides_recovered_sample : (1 ≤ 31 ∧ 31 ≤ 8192) ∧ (1 ≤ 33 ∧ 33 ≤ 8192) ∧
    ∃ stride, (BufferLayout.linear .yuyv 31 33 7 8192).stride? .yuyv = some stride ∧
      stride.width = 32 ∧ 33 ≤ stride.height ∧ 2 ∣ stride.height := by
  obtain ⟨-, -, stride, -, -, hstride, hpacked, -⟩ :=
    linear_strides_recovered .yuyv 31 33 7 (by decide) (by decide)
  obtain ⟨hwidth, hheight, heven⟩ := hpacked rfl
  exact ⟨by decide, by decide, stride, hstride, hwidth, hheight, heven rfl⟩

end Blitter
