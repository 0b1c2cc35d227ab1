import Mathlib.Order.Monotone.Basic
import Mathlib.Tactic.Linarith
import Blitter.Proofs.Rows

/-!
# Planes of the linear layout

Where the rows of a picture lie in a linear buffer. Rows of one plane are apart since the pitch
covers them. Planes are apart too, except that the second and the third of three get an odd number
of rows in common: each has the half that is left over, and the layout keeps no room for it. A
picture that is stored row by row can be read back exactly where no rows meet.
-/
namespace Blitter

namespace PixelFormat

/-- The span of a row in the linear layout. -/
def rowSpan (f : PixelFormat) (width height plane row : Nat) : Nat × Nat :=
  (f.planeOffset width height plane + row * f.pitch width plane, f.rowBytes width plane)

/-- The rows of the linear layout, plane by plane. -/
def spans (f : PixelFormat) (width height : Nat) : List (Nat × Nat) :=
  (List.range f.layout.planes).flatMap fun plane =>
    (List.range (f.rows height plane)).map (f.rowSpan width height plane)

/-- The third plane begins before the second ends. -/
def Crowds (f : PixelFormat) (height : Nat) : Prop :=
  f.layout.planes = 3 ∧ f.layout.chromaShiftY = 1 ∧ height % 2 = 1

instance (f : PixelFormat) (height : Nat) : Decidable (f.Crowds height) :=
  inferInstanceAs (Decidable (_ ∧ _))

variable {f : PixelFormat} {width height i j a b : Nat}

/-! ## The table -/

theorem planes_bounds (f : PixelFormat) : 1 ≤ f.layout.planes ∧ f.layout.planes ≤ 3 := by
  cases f <;> decide

theorem chromaShift_le_one (f : PixelFormat) :
    f.layout.chromaShiftX ≤ 1 ∧ f.layout.chromaShiftY ≤ 1 := by
  cases f <;> decide

/-- Samples share bytes in all planes or in none. -/
theorem step_eq_zero_iff (f : PixelFormat) :
    ∀ i < f.layout.planes, f.layout.steps.getD i 0 = 0 ↔ f.isPacked10 = true := by
  cases f <;> decide

theorem steps_of_isPacked10 (hpacked : f.isPacked10 = true) :
    ∀ step ∈ f.layout.steps, step = 0 := by
  revert hpacked
  cases f <;> decide

theorem steps_of_three (hplanes : f.layout.planes = 3) :
    f.isPacked10 = false ∧ f.layout.steps.getD 2 0 = f.layout.steps.getD 1 0 := by
  revert hplanes
  cases f <;> decide

theorem pixelBytes_dvd_steps (hplanar : f.isPlanar = false) :
    ∀ step ∈ f.layout.steps, f.layout.bitsPerPixel / 8 ∣ step := by
  revert hplanar
  cases f <;> decide

theorem getD_steps {p : Nat → Prop} (hsteps : ∀ step ∈ f.layout.steps, p step) (hzero : p 0)
    (i : Nat) : p (f.layout.steps.getD i 0) := by
  rw [List.getD_eq_getElem?_getD]
  cases h : f.layout.steps[i]? with
  | none => exact hzero
  | some step => exact hsteps step (List.mem_of_getElem? h)

/-! ## Rows -/

theorem rowBytes_le_pitch (f : PixelFormat) (width i : Nat) :
    f.rowBytes width i ≤ f.pitch width i := by
  by_cases hpacked : f.isPacked10 = true
  · have hstep := getD_steps (p := (· = 0)) (steps_of_isPacked10 hpacked) rfl i
    rw [rowBytes, hstep, Nat.mul_zero]
    exact Nat.zero_le _
  · by_cases hplanar : f.isPlanar = true
    · rw [pitch, if_neg hpacked, if_pos hplanar]
      exact le_padded _ (by decide)
    · have hwhole := getD_steps (pixelBytes_dvd_steps (by simpa using hplanar)) (dvd_zero _) i
      rw [pitch, if_neg hpacked, if_neg hplanar]
      calc f.rowBytes width i
          = f.rowBytes width i / (f.layout.bitsPerPixel / 8) * (f.layout.bitsPerPixel / 8) :=
            (Nat.div_mul_cancel (hwhole.mul_left _)).symm
        _ ≤ _ := Nat.mul_le_mul_right _ (le_padded _ (by decide))

theorem parts_shift_pos {n : Nat} (hn : 1 ≤ n) (shift : Nat) : 0 < parts n (1 <<< shift) := by
  rw [Nat.one_shiftLeft]
  exact Nat.div_pos (by omega) (Nat.two_pow_pos _)

theorem rowBytes_eq_zero_iff (hwidth : 1 ≤ width) (hi : i < f.layout.planes) :
    f.rowBytes width i = 0 ↔ f.isPacked10 = true := by
  simp [rowBytes, (parts_shift_pos hwidth _).ne', ← step_eq_zero_iff f i hi]

@[simp] theorem rows_zero (f : PixelFormat) (height : Nat) : f.rows height 0 = height := by
  simp [rows, parts]

/-- Only planes that crowd have more rows than are kept free for them. -/
theorem rows_le_stackedRows (hcrowds : ¬f.Crowds height) (hi : i + 1 < f.layout.planes) :
    f.rows height i ≤ f.stackedRows height (i + 1) := by
  have hplanes := f.planes_bounds
  have hshift := f.chromaShift_le_one.2
  unfold Crowds at hcrowds
  by_cases hfirst : i = 0
  · simp [stackedRows, hfirst]
  · obtain hzero | hone : f.layout.chromaShiftY = 0 ∨ f.layout.chromaShiftY = 1 := by omega
    · simp [rows, stackedRows, parts, hzero]
    · have heven : height % 2 = 0 := by omega
      simp [rows, stackedRows, parts, hfirst, Nat.pos_of_ne_zero hfirst, hone, Nat.shiftRight_one]
      omega

/-! ## Planes -/

theorem planeOffset_mono (f : PixelFormat) (width height : Nat) :
    Monotone (f.planeOffset width height) :=
  monotone_nat_of_le_succ fun _ => Nat.le_add_right _ _

/-- Rows of a plane follow one another. -/
theorem rowSpan_start_mono (f : PixelFormat) (width height i : Nat) (hab : a ≤ b) :
    (f.rowSpan width height i a).1 ≤ (f.rowSpan width height i b).1 :=
  Nat.add_le_add_left (Nat.mul_le_mul_right _ hab) _

/-- A row ends before the next one of its plane begins. -/
theorem rowSpan_stop_le (f : PixelFormat) (width height i : Nat) (hab : a < b) :
    (f.rowSpan width height i a).1 + (f.rowSpan width height i a).2 ≤
      (f.rowSpan width height i b).1 := by
  have hpitch := f.rowBytes_le_pitch width i
  have hnext := f.rowSpan_start_mono width height i (Nat.succ_le_of_lt hab)
  simp only [rowSpan, Nat.succ_mul] at hnext ⊢
  omega

/-- A row ends before the next plane begins, where room is kept free for it. -/
theorem rowSpan_stop_le_planeOffset (f : PixelFormat) (width height : Nat)
    (hrows : f.rows height i ≤ f.stackedRows height (i + 1)) (hij : i < j)
    (ha : a < f.rows height i) :
    (f.rowSpan width height i a).1 + (f.rowSpan width height i a).2 ≤
      f.planeOffset width height j := by
  have hstop := f.rowSpan_stop_le width height i (ha.trans_le hrows)
  have hnext : f.planeOffset width height (i + 1) ≤ f.planeOffset width height j :=
    f.planeOffset_mono width height hij
  rw [planeOffset, Nat.mul_comm] at hnext
  exact hstop.trans hnext

/-- The third plane goes on where no more rows are kept free for the second. -/
theorem rowSpan_third (hplanes : f.layout.planes = 3) (row : Nat) :
    f.rowSpan width height 2 row =
      f.rowSpan width height 1 (f.stackedRows height 2 + row) := by
  obtain ⟨hunpacked, hstep⟩ := steps_of_three hplanes
  have hbytes : f.rowBytes width 2 = f.rowBytes width 1 := by
    simp only [rowBytes, hstep]
    rfl
  have hpitch : f.pitch width 2 = f.pitch width 1 := by simp [pitch, hunpacked, hbytes]
  rw [rowSpan, rowSpan, planeOffset, hbytes, hpitch, Nat.add_mul, Nat.mul_comm (f.pitch width 1),
    Nat.add_assoc]

/-- Rows of different planes are apart unless planes crowd. -/
theorem apart_of_ne (hcrowds : ¬f.Crowds height) (hij : i ≠ j) (hi : i < f.layout.planes)
    (hj : j < f.layout.planes) (ha : a < f.rows height i) (hb : b < f.rows height j) :
    Apart (f.rowSpan width height i a) (f.rowSpan width height j b) := by
  rw [apart_iff]
  rcases hij.lt_or_gt with hlt | hgt
  · have hrows := rows_le_stackedRows hcrowds (show i + 1 < f.layout.planes by omega)
    have hstop := f.rowSpan_stop_le_planeOffset width height hrows hlt ha
    have hstart : f.planeOffset width height j ≤ (f.rowSpan width height j b).1 :=
      Nat.le_add_right _ _
    omega
  · have hrows := rows_le_stackedRows hcrowds (show j + 1 < f.layout.planes by omega)
    have hstop := f.rowSpan_stop_le_planeOffset width height hrows hgt hb
    have hstart : f.planeOffset width height i ≤ (f.rowSpan width height i a).1 :=
      Nat.le_add_right _ _
    omega

/-- The row left over in the second of crowding planes is where the third begins. -/
theorem Crowds.shared (hcrowds : f.Crowds height) (hwidth : 1 ≤ width) :
    height / 2 < f.rows height 1 ∧ 0 < f.rows height 2 ∧
      ¬Apart (f.rowSpan width height 1 (height / 2)) (f.rowSpan width height 2 0) := by
  obtain ⟨hplanes, hshift, hodd⟩ := hcrowds
  have hhalf : parts height 2 = height / 2 + 1 := by
    unfold parts
    omega
  have hbytes : f.rowBytes width 1 ≠ 0 :=
    (rowBytes_eq_zero_iff hwidth (by omega)).not.2 (by simp [(steps_of_three hplanes).1])
  have hstacked : f.stackedRows height 2 = height / 2 := by
    simp [stackedRows, hshift, Nat.shiftRight_one]
  refine ⟨by simp [rows, hshift, hhalf], by simp [rows, hshift, hhalf], ?_⟩
  rw [rowSpan_third hplanes, hstacked, Nat.add_zero, apart_iff]
  simp only [rowSpan]
  omega

/-- Rows of one plane are apart. -/
theorem pairwise_rowSpan (f : PixelFormat) (width height i : Nat) :
    ((List.range (f.rows height i)).map (f.rowSpan width height i)).Pairwise Apart :=
  List.pairwise_map.2 <| List.pairwise_lt_range.imp fun hab =>
    apart_iff.2 (.inr (.inr (.inl (f.rowSpan_stop_le width height i hab))))

/-- No rows of the linear layout meet exactly unless its planes crowd. -/
theorem pairwise_spans_iff (hwidth : 1 ≤ width) :
    (f.spans width height).Pairwise Apart ↔ ¬f.Crowds height := by
  rw [spans, List.pairwise_flatMap]
  constructor
  · rintro ⟨-, hplanes⟩ hcrowds
    obtain ⟨hsecond, hthird, hshared⟩ := hcrowds.shared hwidth
    rw [List.pairwise_iff_getElem] at hplanes
    have hthree := hcrowds.1
    refine hshared (hplanes 1 2 (by simp; omega) (by simp; omega) (by decide) _ ?_ _ ?_)
    · exact List.mem_map.2 ⟨height / 2, by simpa using hsecond, by simp⟩
    · exact List.mem_map.2 ⟨0, by simpa using hthird, by simp⟩
  · intro hcrowds
    refine ⟨fun i _ => f.pairwise_rowSpan width height i, ?_⟩
    refine List.pairwise_lt_range.imp_of_mem fun hi hj hij => ?_
    simp only [List.mem_map, List.mem_range, forall_exists_index, and_imp,
      forall_apply_eq_imp_iff₂] at hi hj ⊢
    exact fun a ha b hb => apart_of_ne hcrowds hij.ne hi hj ha hb

end PixelFormat

/-! ## Pictures -/

namespace Frame

/-- All rows that a frame's layout states, as unpacking takes them. -/
def spans (frame : Frame) : List (Nat × Nat) :=
  (frame.layout?.bind (·.layers.head?)).elim [] frame.layerSpans

/-- Every picture that is stored in these bytes is read back as it was. -/
def KeepsPictures (frame : Frame) (bytes : Array UInt8) : Prop :=
  ∀ picture : List UInt8, picture.length = total frame.spans →
    ∃ stored, storeRows frame.spans bytes picture = .ok (some (stored, [])) ∧
      frame.unpack stored = .ok picture.toArray

variable {f : PixelFormat} {width height size : Nat} {fd : Int} {bytes : Array UInt8}

theorem spans_linear : (linear f width height fd size).spans = f.spans width height := by
  have hplanes : ((List.range f.layout.planes).map fun plane =>
      (⟨0, f.planeOffset width height plane, f.pitch width plane⟩ : Plane)).zipIdx =
      (List.range f.layout.planes).map fun plane =>
        (⟨0, f.planeOffset width height plane, f.pitch width plane⟩, plane) := by
    refine List.ext_getElem (by simp) fun i _ _ => by simp
  simp [spans, linear, layout?, BufferLayout.linear, layerSpans, hplanes, List.flatMap_map,
    PixelFormat.spans, rowSpans]
  rfl

/-- Unpacking a linear buffer reads the rows of its planes. -/
theorem unpack_linear : (linear f width height fd size).unpack bytes =
    (f.spans width height).foldlM
      (fun out (start, count) => do return out ++ (← bytesAt bytes start count)) #[] := by
  have hlinear : Modifier.linear.isAfbc = false := by decide
  rw [← @spans_linear f width height size fd]
  simp only [unpack, linear, layout?, BufferLayout.linear, Option.elim_some, List.head?_cons, bind,
    Except.bind, hlinear, Bool.false_eq_true, if_false]
  rfl

theorem unpack_of_roomy (fd : Int) (size : Nat)
    (hroom : Roomy bytes.size (f.spans width height)) :
    (linear f width height fd size).unpack bytes =
      .ok ((f.spans width height).flatMap (rowAt bytes)).toArray := by
  rw [unpack_linear, foldlM_bytesAt _ hroom, Array.empty_append]

theorem unpack_of_not_roomy (fd : Int) (size : Nat)
    (hshort : ¬Roomy bytes.size (f.spans width height)) :
    ∃ stop, bytes.size < stop ∧
      (linear f width height fd size).unpack bytes = .error (.shortOf stop) := by
  rw [unpack_linear]
  exact exists_foldlM_bytesAt_error _ hshort

/-- Packing stores the rows of the planes, unless one of them has none. -/
theorem packPlanes_eq (frame : Frame) {planes : List (Plane × Nat)} (file : List UInt8)
    (hrows : ∀ p ∈ planes, frame.format.rowBytes frame.width p.2 ≠ 0) :
    frame.packPlanes planes bytes file =
      storeRows (planes.flatMap fun p => frame.rowSpans p.2 p.1) bytes file := by
  induction planes generalizing bytes file with
  | nil => rfl
  | cons p planes ih =>
    have hp := List.forall_mem_cons.1 hrows
    rw [packPlanes, if_neg hp.1, List.flatMap_cons, storeRows_append]
    rcases storeRows (frame.rowSpans p.2 p.1) bytes file with error | _ | ⟨stored, rest⟩
    · rfl
    · rfl
    · exact ih rest hp.2

/-- Packing into a linear buffer stores the rows of its planes, where samples share no bytes. -/
theorem pack_linear (hwidth : 1 ≤ width) (file : List UInt8) :
    (linear f width height fd size).pack bytes file =
      if f.isPacked10 then .error (.noRows f) else storeRows (f.spans width height) bytes file := by
  split
  · next hpacked =>
    obtain rfl | rfl : f = .nv15 ∨ f = .nv20 := by simpa [PixelFormat.isPacked10] using hpacked
    · rfl
    · rfl
  · next hunpacked =>
    rw [← @spans_linear f width height size fd]
    refine packPlanes_eq _ file fun p hp => ?_
    have hindex : p.2 < f.layout.planes := by
      simpa [linear, layout?, BufferLayout.linear, BufferLayout.planes?] using
        List.snd_lt_of_mem_zipIdx hp
    exact (PixelFormat.rowBytes_eq_zero_iff hwidth hindex).not.2 hunpacked

/-- A linear buffer with room for its rows keeps every picture exactly unless its planes crowd. -/
theorem keepsPictures_iff (hwidth : 1 ≤ width) (hroom : Roomy bytes.size (f.spans width height)) :
    (linear f width height fd size).KeepsPictures bytes ↔ ¬f.Crowds height := by
  rw [← PixelFormat.pairwise_spans_iff hwidth, ← reads_back_iff hroom, KeepsPictures, spans_linear]
  refine forall₂_congr fun picture _ => exists_congr fun stored => and_congr_right fun hstored => ?_
  rw [unpack_of_roomy fd size (by rw [size_storeRows hstored]; exact hroom)]
  simp

end Frame

/-! ## The result -/

section Linear

variable {f : PixelFormat} {width height : Nat}

theorem getElem?_planes_linear {fd : Int} {size i : Nat} {p : Plane} {planes : List Plane}
    (hplanes : (BufferLayout.linear f width height fd size).planes? = some planes) :
    planes[i]? = some p ↔
      i < f.layout.planes ∧ ⟨0, f.planeOffset width height i, f.pitch width i⟩ = p := by
  cases hplanes
  by_cases hi : i < f.layout.planes
  · simp [hi]
  · simp [hi]

theorem length_planes_linear {fd : Int} {size : Nat} {planes : List Plane}
    (hplanes : (BufferLayout.linear f width height fd size).planes? = some planes) :
    planes.length = f.layout.planes := by
  cases hplanes
  simp

/-- The rows of a plane are where the linear layout puts them. -/
theorem rowSpans_linear {fd : Int} {size i : Nat} {p : Plane} {planes : List Plane}
    (hplanes : (BufferLayout.linear f width height fd size).planes? = some planes)
    (hp : planes[i]? = some p) :
    i < f.layout.planes ∧ p.pitch = f.pitch width i ∧
      (Frame.linear f width height fd size).rowSpans i p =
        (List.range (f.rows height i)).map (f.rowSpan width height i) := by
  obtain ⟨hi, rfl⟩ := (getElem?_planes_linear hplanes).1 hp
  exact ⟨hi, rfl, rfl⟩

/-- The linear layout has the pitch cover the rows and keeps the rows of each plane apart. Rows of
different planes are apart exactly unless planes crowd, and exactly then every picture that is
stored row by row where there is room for it is read back by unpacking. -/
theorem linear_planes_apart_iff (f : PixelFormat) (width height : Nat) (fd : Int) (size : Nat)
    (hwidth : 1 ≤ width) :
    ∃ planes, (BufferLayout.linear f width height fd size).planes? = some planes ∧
      planes.length = f.layout.planes ∧
      (∀ i p, planes[i]? = some p → f.rowBytes width i ≤ p.pitch ∧
        ((Frame.linear f width height fd size).rowSpans i p).Pairwise Apart) ∧
      ((∀ i j p q, planes[i]? = some p → planes[j]? = some q → i ≠ j →
        ∀ s ∈ (Frame.linear f width height fd size).rowSpans i p,
          ∀ t ∈ (Frame.linear f width height fd size).rowSpans j q, Apart s t) ↔
        ¬f.Crowds height) ∧
      (∀ bytes, Roomy bytes.size (Frame.linear f width height fd size).spans →
        ((Frame.linear f width height fd size).KeepsPictures bytes ↔ ¬f.Crowds height)) ∧
      ∀ bytes file, (Frame.linear f width height fd size).pack bytes file =
        if f.isPacked10 then .error (.noRows f)
        else storeRows (Frame.linear f width height fd size).spans bytes file := by
  obtain ⟨planes, hplanes⟩ : ∃ planes,
      (BufferLayout.linear f width height fd size).planes? = some planes := ⟨_, rfl⟩
  refine ⟨planes, hplanes, length_planes_linear hplanes, fun i p hp => ?_,
    ⟨fun hapart hcrowds => ?_, ?_⟩, ?_, ?_⟩
  · obtain ⟨-, hpitch, hrows⟩ := rowSpans_linear hplanes hp
    rw [hpitch, hrows]
    exact ⟨f.rowBytes_le_pitch width i, f.pairwise_rowSpan width height i⟩
  · obtain ⟨hsecond, hthird, hshared⟩ := hcrowds.shared hwidth
    have hthree := hcrowds.1
    have hplane := fun i (hi : i < f.layout.planes) =>
      (getElem?_planes_linear hplanes).2 ⟨hi, rfl⟩
    refine hshared (hapart 1 2 _ _ (hplane 1 (by omega)) (hplane 2 (by omega)) (by decide)
      _ ?_ _ ?_)
    · exact List.mem_map.2 ⟨height / 2, List.mem_range.2 hsecond, rfl⟩
    · exact List.mem_map.2 ⟨0, List.mem_range.2 hthird, rfl⟩
  · intro hcrowds i j p q hp hq hij s hs t ht
    obtain ⟨hi, -, hfirst⟩ := rowSpans_linear hplanes hp
    obtain ⟨hj, -, hsecond⟩ := rowSpans_linear hplanes hq
    rw [hfirst, List.mem_map] at hs
    rw [hsecond, List.mem_map] at ht
    obtain ⟨a, ha, rfl⟩ := hs
    obtain ⟨b, hb, rfl⟩ := ht
    exact PixelFormat.apart_of_ne hcrowds hij hi hj (List.mem_range.1 ha) (List.mem_range.1 hb)
  · intro bytes hroom
    rw [Frame.spans_linear] at hroom
    exact Frame.keepsPictures_iff hwidth hroom
  · intro bytes file
    rw [Frame.spans_linear]
    exact Frame.pack_linear hwidth file

/-- A picture of odd height whose planes do not crowd. -/
theorem linear_planes_apart_iff_sample : 1 ≤ 5 ∧
    (Frame.linear .nv12 5 3 7 512).KeepsPictures (Array.replicate 512 0) := by
  obtain ⟨planes, -, -, -, -, hkeeps, -⟩ :=
    linear_planes_apart_iff .nv12 5 3 7 512 (by decide)
  refine ⟨by decide, (hkeeps _ ?_).2 (by decide)⟩
  rw [Array.size_replicate]
  decide

/-- With three rows of 4:2:0 planes, the second row of the second plane is the first row of the
third one, and pictures are lost. -/
theorem third_plane_over_second :
    (BufferLayout.linear .yuv420p 4 3 7 4096).planes? =
        some [⟨0, 0, 64⟩, ⟨0, 192, 64⟩, ⟨0, 256, 64⟩] ∧
      (256, 2) ∈ (Frame.linear .yuv420p 4 3 7 4096).rowSpans 1 ⟨0, 192, 64⟩ ∧
      (256, 2) ∈ (Frame.linear .yuv420p 4 3 7 4096).rowSpans 2 ⟨0, 256, 64⟩ ∧
      ¬(Frame.linear .yuv420p 4 3 7 4096).KeepsPictures (Array.replicate 4096 0) := by
  refine ⟨by decide, by decide, by decide, fun hkeeps => ?_⟩
  have hroom : Roomy (Array.replicate 4096 (0 : UInt8)).size (PixelFormat.yuv420p.spans 4 3) := by
    rw [Array.size_replicate]
    decide
  exact (Frame.keepsPictures_iff (by decide) hroom).1 hkeeps (by decide)

end Linear
end Blitter
