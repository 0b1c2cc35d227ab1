import Mathlib.Tactic.Ring
import Blitter.Proofs.Planes

/-!
# Reserved bytes

Whether the bytes that are reserved for a picture hold its linear layout. A fifth more on each side
covers what rows are padded by, with two exceptions. Three planes of few columns all take 64 bytes
a row, however short their chroma is. Gapless samples take up to 511 samples more a row.
-/
namespace Blitter

/-- Padding a row of wide samples takes no more than padding the samples would. -/
theorem padded_mul_le (n bytes : Nat) {block : Nat} (h : 0 < block) :
    padded (n * bytes) block ≤ padded n block * bytes :=
  padded_le h ((Nat.dvd_mul_left _ _).mul_right _) (Nat.mul_le_mul_right _ (le_padded n h))

namespace PixelFormat

/-- What the linear layout depends on in the table. -/
inductive Arrangement (f : PixelFormat) : Prop where
  /-- One plane of whole pixels. -/
  | packed (bytes : Nat) (pos : 0 < bytes) (planes : f.layout.planes = 1)
      (gapless : f.isPacked10 = false) (step : f.layout.steps.getD 0 0 = bytes)
      (bits : f.layout.bitsPerPixel = 8 * bytes)
  /-- A plane of luma and one of chroma in pairs. -/
  | semiPlanar (bytes : Nat) (planes : f.layout.planes = 2) (gapless : f.isPacked10 = false)
      (luma : f.layout.steps.getD 0 0 = bytes) (chroma : f.layout.steps.getD 1 0 = 2 * bytes)
      (bits : f.layout.chromaShiftX = 0 ∧ f.layout.chromaShiftY = 0 ∧
          f.layout.bitsPerPixel = 24 * bytes ∨
        f.layout.chromaShiftX = 1 ∧ f.layout.chromaShiftY = 0 ∧
          f.layout.bitsPerPixel = 16 * bytes ∨
        f.layout.chromaShiftX = 1 ∧ f.layout.chromaShiftY = 1 ∧
          f.layout.bitsPerPixel = 12 * bytes)
  /-- A plane of luma and one for each chroma component. -/
  | splitChroma (planes : f.layout.planes = 3) (gapless : f.isPacked10 = false)
      (steps : f.layout.steps = [1, 1, 1]) (across : f.layout.chromaShiftX = 1)
      (bits : f.layout.chromaShiftY = 0 ∧ f.layout.bitsPerPixel = 16 ∨
        f.layout.chromaShiftY = 1 ∧ f.layout.bitsPerPixel = 12)
  /-- Ten-bit samples that share bytes, in two planes. -/
  | gapless (planes : f.layout.planes = 2) (gapless : f.isPacked10 = true)

theorem arrangement (f : PixelFormat) : f.Arrangement := by
  cases f with
  | gray => exact .packed 1 (by decide) rfl rfl rfl rfl
  | yuyv | yvyu | uyvy | rgb555 | bgr555 | rgb565 | bgr565 =>
    exact .packed 2 (by decide) rfl rfl rfl rfl
  | rgb24 | bgr24 => exact .packed 3 (by decide) rfl rfl rfl rfl
  | rgba | rgbx | bgra | bgrx | argb | xrgb | abgr | xbgr =>
    exact .packed 4 (by decide) rfl rfl rfl rfl
  | nv12 | nv21 | nv16 | nv24 | nv42 => exact .semiPlanar 1 rfl rfl rfl rfl (by decide)
  | p010 | p210 => exact .semiPlanar 2 rfl rfl rfl rfl (by decide)
  | yuv420p | yuvj420p | yuv422p | yuvj422p => exact .splitChroma rfl rfl rfl rfl (by decide)
  | nv15 | nv20 => exact .gapless rfl rfl

variable {f : PixelFormat} {width height i a size : Nat}

/-! ## The last row -/

/-- Where the last row of the last plane ends. -/
def reach (f : PixelFormat) (width height : Nat) : Nat :=
  let last := f.layout.planes - 1
  let row := f.rowSpan width height last (f.rows height last - 1)
  row.1 + row.2

theorem rows_pos (f : PixelFormat) (i : Nat) (hheight : 1 ≤ height) : 0 < f.rows height i :=
  parts_shift_pos hheight _

theorem rowSpan_stop_mono (f : PixelFormat) (width height i : Nat) {a b : Nat} (hab : a ≤ b) :
    (f.rowSpan width height i a).1 + (f.rowSpan width height i a).2 ≤
      (f.rowSpan width height i b).1 + (f.rowSpan width height i b).2 :=
  Nat.add_le_add_right (f.rowSpan_start_mono width height i hab) _

/-- No row ends behind the last one. -/
theorem stop_le_reach (hi : i < f.layout.planes) (ha : a < f.rows height i) :
    (f.rowSpan width height i a).1 + (f.rowSpan width height i a).2 ≤ f.reach width height := by
  have hplanes := f.planes_bounds
  by_cases hlast : i = f.layout.planes - 1
  · subst hlast
    exact f.rowSpan_stop_mono width height _ (by omega)
  · by_cases hrows : f.rows height i ≤ f.stackedRows height (i + 1)
    · have hstop := f.rowSpan_stop_le_planeOffset width height hrows
        (show i < f.layout.planes - 1 by omega) ha
      simp only [reach, rowSpan] at hstop ⊢
      omega
    · -- only the second of three planes has more rows than are kept free
      have hfirst : i ≠ 0 := by
        rintro rfl
        simp [stackedRows] at hrows
      obtain ⟨rfl, hthree⟩ : i = 1 ∧ f.layout.planes = 3 := by omega
      have hsame : f.rows height 2 = f.rows height 1 := rfl
      have hlast := f.rowSpan_stop_mono width height 1
        (show a ≤ f.stackedRows height 2 + (f.rows height 2 - 1) by omega)
      rw [← rowSpan_third hthree] at hlast
      simpa only [reach, hthree] using hlast

/-- There is room for all rows exactly if there is for the last one. -/
theorem roomy_spans_iff (hheight : 1 ≤ height) :
    Roomy size (f.spans width height) ↔ f.reach width height ≤ size := by
  have hplanes := f.planes_bounds
  constructor
  · intro hroom
    refine hroom _ (List.mem_flatMap.2 ⟨f.layout.planes - 1, by simp; omega, List.mem_map.2
      ⟨f.rows height (f.layout.planes - 1) - 1, ?_, rfl⟩⟩)
    have hpos := f.rows_pos (f.layout.planes - 1) hheight
    simp
    omega
  · intro hreach s hs
    obtain ⟨i, hi, hs⟩ := List.mem_flatMap.1 hs
    obtain ⟨a, ha, rfl⟩ := List.mem_map.1 hs
    exact (stop_le_reach (List.mem_range.1 hi) (List.mem_range.1 ha)).trans hreach

/-! ## Columns and rows that are reserved -/

/-- Columns reserved for a picture. -/
def reservedColumns (width : Nat) : Nat := padded (width * 6 / 5) 64

/-- Rows reserved for a picture. -/
def reservedRows (height : Nat) : Nat := padded (height * 6 / 5) 64

theorem padded_le_reservedColumns (width : Nat) : padded width 64 ≤ reservedColumns width := by
  unfold reservedColumns padded
  omega

theorem le_reservedRows (height : Nat) :
    height ≤ reservedRows height ∧ 7 * height ≤ 6 * reservedRows height ∧
      64 ∣ reservedRows height := by
  unfold reservedRows padded
  by_cases hfew : height < 24
  · have hblock : height ≤ 0 ∨ 1 ≤ (height * 6 / 5 + 64 - 1) / 64 := by
      rw [Nat.le_div_iff_mul_le (by decide)]
      omega
    omega
  · omega

theorem eight_mul_bufferSize (f : PixelFormat) (width height : Nat) :
    8 * f.bufferSize width height =
      reservedColumns width * (f.layout.bitsPerPixel * reservedRows height) := by
  have hcolumns : 8 ∣ reservedColumns width :=
    (show 8 ∣ 64 by decide).trans (Nat.dvd_mul_left _ _)
  have hbits : 8 ∣ reservedColumns width * reservedRows height * f.layout.bitsPerPixel :=
    (hcolumns.mul_right _).mul_right _
  rw [← Nat.mul_comm (reservedRows height), ← Nat.mul_assoc]
  exact Nat.mul_div_cancel' hbits

/-- Past 54 columns a fifth more covers what chroma rows are padded by. -/
theorem padded_chroma_le (hwidth : 55 ≤ width) :
    3 * (padded width 64 + 2 * padded (parts width 2) 64) ≤ 7 * reservedColumns width := by
  have hreserved := padded_le_reservedColumns width
  by_cases hnarrow : width ≤ 128
  · have hchroma : padded (parts width 2) 64 = 64 := by
      unfold padded parts
      omega
    have hluma : padded width 64 ≤ 128 := by
      unfold padded
      omega
    have hwide : 128 ≤ reservedColumns width := by
      unfold reservedColumns padded
      omega
    omega
  · have hchroma : 2 * padded (parts width 2) 64 ≤ padded width 64 + 64 := by
      unfold padded parts
      omega
    have hluma : 192 ≤ padded width 64 := by
      unfold padded
      omega
    omega

/-! ## Each arrangement -/

theorem reach_le (f : PixelFormat) (width : Nat) (hheight : 1 ≤ height) :
    f.reach width height ≤ f.planeOffset width height (f.layout.planes - 1) +
      f.rows height (f.layout.planes - 1) * f.pitch width (f.layout.planes - 1) := by
  have hpos := f.rows_pos (f.layout.planes - 1) hheight
  exact f.rowSpan_stop_le width height _ (Nat.sub_lt hpos (by decide))

theorem pitch_packed (width : Nat) {bytes : Nat} (hpos : 0 < bytes) (hplanes : f.layout.planes = 1)
    (hgapless : f.isPacked10 = false) (hstep : f.layout.steps.getD 0 0 = bytes)
    (hbits : f.layout.bitsPerPixel = 8 * bytes) :
    f.pitch width 0 = padded width 8 * bytes := by
  have hplanar : f.isPlanar = false := by simp [isPlanar, PixelLayout.isPlanar, hplanes]
  have hbytes : f.layout.bitsPerPixel / 8 = bytes := by omega
  have hrow : f.rowBytes width 0 = width * bytes := by
    rw [rowBytes, hstep]
    simp [parts]
  simp only [pitch, hgapless, hplanar, hbytes, hrow, Nat.mul_div_cancel _ hpos]
  rfl

theorem pitch_planar (hplanes : 1 < f.layout.planes) (hgapless : f.isPacked10 = false) (i : Nat) :
    f.pitch width i = padded (f.rowBytes width i) 64 := by
  have hplanar : f.isPlanar = true := by simpa [isPlanar, PixelLayout.isPlanar] using hplanes
  simp [pitch, hgapless, hplanar]

/-- One plane of whole pixels has room for all rows that are reserved. -/
theorem reservedRows_mul_pitch_le (height : Nat) {bytes : Nat}
    (hpitch : f.pitch width 0 = padded width 8 * bytes)
    (hbits : f.layout.bitsPerPixel = 8 * bytes) :
    reservedRows height * f.pitch width 0 ≤ f.bufferSize width height := by
  have hcolumns : padded width 8 ≤ reservedColumns width :=
    (padded_le (by decide) ((show 8 ∣ 64 by decide).trans (Nat.dvd_mul_left _ _))
      (le_padded width (by decide))).trans (padded_le_reservedColumns width)
  have harea : reservedRows height * (padded width 8 * bytes) ≤
      reservedRows height * (reservedColumns width * bytes) :=
    Nat.mul_le_mul_left _ (Nat.mul_le_mul_right _ hcolumns)
  have hsize := f.eight_mul_bufferSize width height
  rw [hbits, show reservedColumns width * (8 * bytes * reservedRows height) =
    8 * (reservedRows height * (reservedColumns width * bytes)) by ring] at hsize
  rw [hpitch]
  omega

theorem reach_packed (f : PixelFormat) (width : Nat) {bytes : Nat} (hheight : 1 ≤ height)
    (hplanes : f.layout.planes = 1) (hpitch : f.pitch width 0 = padded width 8 * bytes)
    (hbits : f.layout.bitsPerPixel = 8 * bytes) :
    f.reach width height ≤ f.bufferSize width height := by
  have hreach := f.reach_le width hheight
  simp only [hplanes, Nat.sub_self, rows_zero, planeOffset, Nat.zero_add] at hreach
  have hrows : height * f.pitch width 0 ≤ reservedRows height * f.pitch width 0 :=
    Nat.mul_le_mul_right _ (le_reservedRows height).1
  exact hreach.trans (hrows.trans (reservedRows_mul_pitch_le height hpitch hbits))

/-- Two planes fit if their pitches, in columns that are reserved, take up no more rows of them than
are reserved. -/
theorem reach_of_columns {bytes bits : Nat} (pairs : Nat) (hheight : 1 ≤ height)
    (hplanes : f.layout.planes = 2)
    (hluma : f.pitch width 0 ≤ reservedColumns width * bytes)
    (hchroma : f.pitch width 1 ≤ reservedColumns width * bytes * pairs)
    (hbits : f.layout.bitsPerPixel = bits * bytes)
    (hrows : 8 * (height + f.rows height 1 * pairs) ≤ bits * reservedRows height) :
    f.reach width height ≤ f.bufferSize width height := by
  have hreach := f.reach_le width hheight
  simp only [hplanes, Nat.reduceSub, planeOffset, Nat.zero_add, stackedRows, Nat.lt_irrefl,
    if_false] at hreach
  have hfirst : f.pitch width 0 * height ≤ reservedColumns width * bytes * height :=
    Nat.mul_le_mul_right _ hluma
  have hsecond : f.rows height 1 * f.pitch width 1 ≤
      f.rows height 1 * (reservedColumns width * bytes * pairs) := Nat.mul_le_mul_left _ hchroma
  have harea := Nat.mul_le_mul_left (reservedColumns width * bytes) hrows
  have hsize := f.eight_mul_bufferSize width height
  rw [hbits, show reservedColumns width * (bits * bytes * reservedRows height) =
    reservedColumns width * bytes * (bits * reservedRows height) by ring] at hsize
  rw [show reservedColumns width * bytes * (8 * (height + f.rows height 1 * pairs)) =
    8 * (reservedColumns width * bytes * height) +
      8 * (f.rows height 1 * (reservedColumns width * bytes * pairs)) by ring] at harea
  omega

/-- Padding leaves a row of pairs within the columns that are reserved. -/
theorem padded_pairs_le (width bytes : Nat) :
    padded (parts width 2 * (2 * bytes)) 64 ≤ reservedColumns width * bytes := by
  have hpairs : padded (parts width 2 * 2) 64 ≤ reservedColumns width := by
    have heven : parts width 2 * 2 ≤ padded width 64 := by
      unfold padded parts
      omega
    exact (padded_le (by decide) (Nat.dvd_mul_left _ _) heven).trans
      (padded_le_reservedColumns width)
  rw [← Nat.mul_assoc]
  exact (padded_mul_le _ bytes (by decide)).trans (Nat.mul_le_mul_right _ hpairs)

theorem padded_samples_le (width bytes : Nat) :
    padded (width * bytes) 64 ≤ reservedColumns width * bytes :=
  (padded_mul_le width bytes (by decide)).trans
    (Nat.mul_le_mul_right _ (padded_le_reservedColumns width))

theorem reach_semiPlanar (f : PixelFormat) (width : Nat) {bytes : Nat} (hheight : 1 ≤ height)
    (hplanes : f.layout.planes = 2) (hgapless : f.isPacked10 = false)
    (hluma : f.layout.steps.getD 0 0 = bytes) (hchroma : f.layout.steps.getD 1 0 = 2 * bytes)
    (hbits : f.layout.chromaShiftX = 0 ∧ f.layout.chromaShiftY = 0 ∧
        f.layout.bitsPerPixel = 24 * bytes ∨
      f.layout.chromaShiftX = 1 ∧ f.layout.chromaShiftY = 0 ∧
        f.layout.bitsPerPixel = 16 * bytes ∨
      f.layout.chromaShiftX = 1 ∧ f.layout.chromaShiftY = 1 ∧
        f.layout.bitsPerPixel = 12 * bytes) :
    f.reach width height ≤ f.bufferSize width height := by
  obtain ⟨hrows, -, k, hblocks⟩ := le_reservedRows height
  have hfirst : f.pitch width 0 ≤ reservedColumns width * bytes := by
    rw [pitch_planar (by omega) hgapless, rowBytes, hluma]
    simpa [parts] using padded_samples_le width bytes
  have hsecond : f.pitch width 1 = padded (parts width (1 <<< f.layout.chromaShiftX) *
      (2 * bytes)) 64 := by
    rw [pitch_planar (by omega) hgapless, rowBytes, hchroma]
    rfl
  rcases hbits with ⟨hacross, hdown, hbits⟩ | ⟨hacross, hdown, hbits⟩ | ⟨hacross, hdown, hbits⟩
  · refine reach_of_columns 2 hheight hplanes hfirst ?_ hbits ?_
    · rw [hsecond, hacross, Nat.mul_assoc, Nat.mul_comm bytes]
      simpa [parts] using padded_samples_le width (2 * bytes)
    · simp [rows, parts, hdown]
      omega
  · refine reach_of_columns 1 hheight hplanes hfirst ?_ hbits ?_
    · rw [hsecond, hacross, Nat.mul_one]
      exact padded_pairs_le width bytes
    · simp [rows, parts, hdown]
      omega
  · refine reach_of_columns 1 hheight hplanes hfirst ?_ hbits ?_
    · rw [hsecond, hacross, Nat.mul_one]
      exact padded_pairs_le width bytes
    · simp [rows, parts, hdown]
      omega

/-- Chroma rows of three planes. -/
def chromaRows (f : PixelFormat) (height : Nat) : Nat :=
  if f.layout.chromaShiftY = 1 then height else 2 * height

theorem chromaRows_pos (f : PixelFormat) (hheight : 1 ≤ height) : 1 ≤ f.chromaRows height := by
  unfold chromaRows
  split <;> omega

theorem stackedRows_add_rows (f : PixelFormat) (height : Nat) :
    f.stackedRows height 2 + f.rows height 2 = f.chromaRows height := by
  have hshift := f.chromaShift_le_one.2
  obtain hzero | hone : f.layout.chromaShiftY = 0 ∨ f.layout.chromaShiftY = 1 := by omega
  · simp [stackedRows, rows, parts, chromaRows, hzero]
    omega
  · simp [stackedRows, rows, parts, chromaRows, hone, Nat.shiftRight_one]
    omega

/-- The last row of three planes, by the rows that chroma has room for altogether. -/
theorem reach_splitChroma (f : PixelFormat) (width : Nat) (hplanes : f.layout.planes = 3)
    (hsteps : f.layout.steps = [1, 1, 1]) (hacross : f.layout.chromaShiftX = 1)
    (hheight : 1 ≤ height) :
    f.reach width height = padded width 64 * height +
      (f.chromaRows height - 1) * padded (parts width 2) 64 + parts width 2 := by
  have hgapless := (steps_of_three hplanes).1
  have hluma : f.pitch width 0 = padded width 64 := by
    rw [pitch_planar (by omega) hgapless]
    simp [rowBytes, hsteps, parts]
  have hrow : f.rowBytes width 1 = parts width 2 := by simp [rowBytes, hsteps, hacross]
  have hchroma : f.pitch width 1 = padded (parts width 2) 64 := by
    rw [pitch_planar (by omega) hgapless, hrow]
  have hpos := f.rows_pos 2 hheight
  have hlast : f.reach width height =
      (f.rowSpan width height 1 (f.stackedRows height 2 + (f.rows height 2 - 1))).1 +
        (f.rowSpan width height 1 (f.stackedRows height 2 + (f.rows height 2 - 1))).2 := by
    rw [← rowSpan_third hplanes]
    simp only [reach, hplanes]
  rw [hlast, ← Nat.add_sub_assoc (Nat.succ_le_of_lt hpos), stackedRows_add_rows]
  simp only [rowSpan, planeOffset, hluma, hchroma, hrow, Nat.zero_add, stackedRows,
    Nat.lt_irrefl, if_false]

/-- Three planes of less than 55 columns take 64 bytes for each row, and 64 columns are reserved. -/
theorem reach_le_iff_of_narrow (hplanes : f.layout.planes = 3)
    (hsteps : f.layout.steps = [1, 1, 1]) (hacross : f.layout.chromaShiftX = 1)
    (hheight : 1 ≤ height) (hwidth : 1 ≤ width)
    (hnarrow : width < 55) : f.reach width height ≤ f.bufferSize width height ↔
      8 * (height + f.chromaRows height) ≤ f.layout.bitsPerPixel * reservedRows height := by
  obtain ⟨hcolumns, hluma, hchroma, hpos, hhigh⟩ : reservedColumns width = 64 ∧
      padded width 64 = 64 ∧ padded (parts width 2) 64 = 64 ∧ 1 ≤ parts width 2 ∧
        parts width 2 ≤ 64 := by
    unfold reservedColumns padded parts
    omega
  obtain ⟨-, -, k, hblocks⟩ := le_reservedRows height
  have harea : f.layout.bitsPerPixel * reservedRows height = 64 * (f.layout.bitsPerPixel * k) := by
    rw [hblocks, Nat.mul_left_comm]
  have hreach := f.reach_splitChroma width hplanes hsteps hacross hheight
  have hsize := f.eight_mul_bufferSize width height
  have hrows := f.chromaRows_pos hheight
  rw [hluma, hchroma] at hreach
  rw [hcolumns, harea] at hsize
  omega

/-- Three planes of more columns fit. -/
theorem reach_le_of_wide (hplanes : f.layout.planes = 3) (hsteps : f.layout.steps = [1, 1, 1])
    (hacross : f.layout.chromaShiftX = 1)
    (hbits : f.layout.chromaShiftY = 0 ∧ f.layout.bitsPerPixel = 16 ∨
      f.layout.chromaShiftY = 1 ∧ f.layout.bitsPerPixel = 12)
    (hheight : 1 ≤ height) (hwide : 55 ≤ width) :
    f.reach width height ≤ f.bufferSize width height := by
  have hreach := f.reach_splitChroma width hplanes hsteps hacross hheight
  have hsize := f.eight_mul_bufferSize width height
  have hluma := padded_le_reservedColumns width
  have hchroma := padded_chroma_le hwide
  have hlast := le_padded (parts width 2) (show 0 < 64 by decide)
  have hrows := f.chromaRows_pos hheight
  have hwhole : f.reach width height ≤ padded width 64 * height +
      f.chromaRows height * padded (parts width 2) 64 := by
    obtain ⟨n, hn⟩ := Nat.exists_eq_add_of_le' hrows
    rw [hn, Nat.add_sub_cancel] at hreach
    rw [hn, Nat.succ_mul]
    omega
  -- 7/3 of the columns for 6/7 of the rows
  have hcolumns := Nat.mul_le_mul_right height hchroma
  have hseven := Nat.mul_le_mul_left (reservedColumns width) (le_reservedRows height).2.1
  have hfirst := Nat.mul_le_mul_right height hluma
  rcases hbits with ⟨hdown, hbits⟩ | ⟨hdown, hbits⟩
  · simp only [chromaRows, hdown, Nat.zero_ne_one, if_false] at hwhole
    rw [hbits] at hsize
    linarith
  · simp only [chromaRows, hdown, if_true] at hwhole
    rw [hbits] at hsize
    linarith

/-- Groups of 256 samples that a gapless row takes up, always an odd number. -/
def gaplessGroups (samples : Nat) : Nat := parts samples 256 ||| 1

/-- A group of gapless samples has 320 bytes. -/
theorem pitch_gapless (hgapless : f.isPacked10 = true) (i : Nat) :
    f.pitch width i = 320 * gaplessGroups (if i = 1 then 2 * width else width) := by
  have hodd : ∀ samples, padded samples 256 ||| 256 = gaplessGroups samples * 256 := by
    intro samples
    have hshift : (parts samples 256 ||| 1) <<< 8 = parts samples 256 <<< 8 ||| 1 <<< 8 :=
      Nat.shiftLeft_or_distrib
    simp only [Nat.shiftLeft_eq, Nat.reducePow, Nat.one_mul] at hshift
    exact hshift.symm
  rw [pitch, if_pos hgapless]
  simp only [hodd]
  generalize gaplessGroups (if i = 1 then 2 * width else width) = groups
  unfold padded
  omega

theorem reach_gapless (hwidth : 1 ≤ width) (hplanes : f.layout.planes = 2)
    (hgapless : f.isPacked10 = true) : f.reach width height =
      320 * (gaplessGroups width * height +
        gaplessGroups (2 * width) * (f.rows height 1 - 1)) := by
  have hrow : f.rowBytes width 1 = 0 := (rowBytes_eq_zero_iff hwidth (by omega)).2 hgapless
  simp only [reach, hplanes, rowSpan, hrow, planeOffset, stackedRows, pitch_gapless hgapless,
    Nat.reduceSub, Nat.zero_ne_one, Nat.lt_irrefl, if_false, if_true, Nat.zero_add, Nat.add_zero]
  ring

/-! ## Pictures that do not fit -/

/-- The last row ends behind the reserved bytes. Three planes of less than 55 columns do so where
their rows, of 64 bytes each, outnumber those that are reserved. Gapless samples do where the rows
up to the last, of 320 bytes for each group, take more than all that is reserved. -/
def Overruns (f : PixelFormat) (width height : Nat) : Prop :=
  (f.layout.planes = 3 ∧ width < 55 ∧
    f.layout.bitsPerPixel * reservedRows height < 8 * (height + f.chromaRows height)) ∨
  (f.isPacked10 = true ∧ f.bufferSize width height <
    320 * (gaplessGroups width * height + gaplessGroups (2 * width) * (f.rows height 1 - 1)))

instance (f : PixelFormat) (width height : Nat) : Decidable (f.Overruns width height) :=
  inferInstanceAs (Decidable (_ ∨ _))

/-- The last row is within the reserved bytes exactly unless it is one of those that overrun. -/
theorem reach_le_iff (hwidth : 1 ≤ width) (hheight : 1 ≤ height) :
    f.reach width height ≤ f.bufferSize width height ↔ ¬f.Overruns width height := by
  cases f.arrangement with
  | packed bytes pos planes gapless step bits =>
    have hfits := f.reach_packed width hheight planes
      (pitch_packed width pos planes gapless step bits) bits
    simp [Overruns, planes, gapless, hfits]
  | semiPlanar bytes planes gapless luma chroma bits =>
    have hfits := f.reach_semiPlanar width hheight planes gapless luma chroma bits
    simp [Overruns, planes, gapless, hfits]
  | splitChroma planes gapless steps across bits =>
    by_cases hnarrow : width < 55
    · rw [reach_le_iff_of_narrow planes steps across hheight hwidth hnarrow]
      simp [Overruns, planes, gapless, hnarrow]
    · have hfits := reach_le_of_wide planes steps across bits hheight (not_lt.1 hnarrow)
      simp [Overruns, gapless, hnarrow, hfits]
  | gapless planes gapless =>
    simp [Overruns, planes, gapless, reach_gapless hwidth planes gapless]

/-- Bytes of all rows without what they are padded by. -/
def packedSize (f : PixelFormat) (width height : Nat) : Nat :=
  ((List.range f.layout.planes).map fun i => f.rows height i * f.rowBytes width i).sum

theorem total_spans (f : PixelFormat) (width height : Nat) :
    total (f.spans width height) = f.packedSize width height := by
  have hplane : ∀ i, total ((List.range (f.rows height i)).map (f.rowSpan width height i)) =
      f.rows height i * f.rowBytes width i := by
    intro i
    have hrow : (·.2) ∘ f.rowSpan width height i = fun _ => f.rowBytes width i := rfl
    rw [total, List.map_map, hrow, List.map_const', List.length_range, List.sum_replicate_nat]
  rw [spans, total_flatMap, packedSize]
  simp only [hplane]

end PixelFormat

variable {f : PixelFormat} {width height : Nat}

theorem roomy_planes_iff {fd : Int} {size room : Nat} {planes : List Plane}
    (hplanes : (BufferLayout.linear f width height fd size).planes? = some planes) :
    (∀ i p, planes[i]? = some p → ∀ row < f.rows height i,
      p.offset + row * p.pitch + f.rowBytes width i ≤ room) ↔
        Roomy room (f.spans width height) := by
  constructor
  · intro hrows s hs
    obtain ⟨i, hi, hs⟩ := List.mem_flatMap.1 hs
    obtain ⟨row, hrow, rfl⟩ := List.mem_map.1 hs
    have hplane := (getElem?_planes_linear hplanes).2 ⟨List.mem_range.1 hi, rfl⟩
    exact hrows i _ hplane row (List.mem_range.1 hrow)
  · intro hspans i p hp row hrow
    obtain ⟨hi, rfl⟩ := (getElem?_planes_linear hplanes).1 hp
    refine hspans (f.rowSpan width height i row) (List.mem_flatMap.2 ⟨i, List.mem_range.2 hi, ?_⟩)
    exact List.mem_map.2 ⟨row, List.mem_range.2 hrow, rfl⟩

/-- The reserved bytes hold all rows of the linear layout exactly unless the format overruns them.
Unpacking them then gives the rows of all planes without padding. Otherwise it fails. -/
theorem reserved_bytes_suffice_iff (f : PixelFormat) (width height : Nat) (fd : Int)
    (hwidth : 1 ≤ width) (hheight : 1 ≤ height) :
    ∃ planes,
      (BufferLayout.linear f width height fd (f.bufferSize width height)).planes? = some planes ∧
      planes.length = f.layout.planes ∧
      ((∀ i p, planes[i]? = some p → ∀ row < f.rows height i,
        p.offset + row * p.pitch + f.rowBytes width i ≤ f.bufferSize width height) ↔
          ¬f.Overruns width height) ∧
      ∀ bytes : Array UInt8, bytes.size = f.bufferSize width height →
        ((∃ out, (Frame.linear f width height fd (f.bufferSize width height)).unpack bytes =
          .ok out ∧ out.size = f.packedSize width height) ↔ ¬f.Overruns width height) ∧
        (f.Overruns width height → ∃ stop, f.bufferSize width height < stop ∧
          (Frame.linear f width height fd (f.bufferSize width height)).unpack bytes =
            .error (.shortOf stop)) := by
  obtain ⟨planes, hplanes⟩ : ∃ planes, (BufferLayout.linear f width height fd
      (f.bufferSize width height)).planes? = some planes := ⟨_, rfl⟩
  have hroom : Roomy (f.bufferSize width height) (f.spans width height) ↔
      ¬f.Overruns width height := by
    rw [PixelFormat.roomy_spans_iff hheight, PixelFormat.reach_le_iff hwidth hheight]
  refine ⟨planes, hplanes, length_planes_linear hplanes, (roomy_planes_iff hplanes).trans hroom,
    fun bytes hbytes => ?_⟩
  rw [← hbytes] at hroom
  by_cases hover : f.Overruns width height
  · obtain ⟨stop, hstop, hshort⟩ := Frame.unpack_of_not_roomy fd
      (f.bufferSize width height) (hroom.not.2 (not_not.2 hover))
    rw [hbytes] at hstop
    refine ⟨iff_of_false ?_ (not_not.2 hover), fun _ => ⟨stop, hstop, hshort⟩⟩
    rintro ⟨out, hout, -⟩
    cases hshort.symm.trans hout
  · have hread := Frame.unpack_of_roomy fd (f.bufferSize width height) (hroom.2 hover)
    refine ⟨iff_of_true ⟨_, hread, ?_⟩ hover, fun h => absurd h hover⟩
    rw [List.size_toArray, length_rows (hroom.2 hover), PixelFormat.total_spans]

/-- The most rows that a narrow picture of three planes can have within its first 64. -/
theorem reserved_bytes_suffice_iff_sample : 1 ≤ 54 ∧ 1 ≤ 48 ∧
    ∃ out, (Frame.linear .yuv420p 54 48 7 6144).unpack (Array.replicate 6144 0) = .ok out ∧
      out.size = 3888 := by
  obtain ⟨-, -, -, -, hreads⟩ :=
    reserved_bytes_suffice_iff .yuv420p 54 48 7 (by decide) (by decide)
  refine ⟨by decide, by decide, ?_⟩
  exact (hreads (Array.replicate 6144 0) Array.size_replicate).1.2 (by decide)

/-- Seventeen gapless rows, and 49 rows of three narrow planes, take more than is reserved. -/
theorem reserved_bytes_too_few :
    PixelFormat.nv15.bufferSize 2 17 = 7680 ∧ PixelFormat.yuv420p.bufferSize 2 49 = 6144 ∧
      (∃ stop, 7680 < stop ∧ (Frame.linear .nv15 2 17 7 7680).unpack (Array.replicate 7680 0) =
        .error (.shortOf stop)) ∧
      ∃ stop, 6144 < stop ∧ (Frame.linear .yuv420p 2 49 7 6144).unpack (Array.replicate 6144 0) =
        .error (.shortOf stop) := by
  have hgapless : ¬Roomy 7680 (PixelFormat.nv15.spans 2 17) := by decide
  have hnarrow : ¬Roomy 6144 (PixelFormat.yuv420p.spans 2 49) := by decide
  refine ⟨by decide, by decide, ?_, ?_⟩
  · rw [← @Array.size_replicate UInt8 7680 0] at hgapless
    simpa using Frame.unpack_of_not_roomy 7 7680 hgapless
  · rw [← @Array.size_replicate UInt8 6144 0] at hnarrow
    simpa using Frame.unpack_of_not_roomy 7 6144 hnarrow

end Blitter
