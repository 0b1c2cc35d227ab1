/-!
# Words and alignment

Quantities are unbounded integers. Where the hardware interface narrows one to 32 bits, `signed32`
keeps its low bits. `padded` and `alignUp` round up to whole blocks, `alignDown` rounds down.
-/
namespace Blitter

/-- The 32-bit integer with the low bits of `v`. -/
def signed32 (v : Int) : Int := v.bmod 0x100000000

theorem signed32_of_range {v : Int} (low : -0x80000000 ≤ v) (high : v < 0x80000000) :
    signed32 v = v :=
  Int.bmod_eq_of_le (by omega) (by omega)

/-- A word that is positive is the number that it was made of. -/
theorem signed32_of_pos {n : Nat} (hn : n < 0x100000000) (hpos : 0 < signed32 n) :
    signed32 n = n := by
  unfold signed32 Int.bmod at hpos ⊢
  dsimp only at hpos ⊢
  split at hpos
  · split <;> omega
  · omega

/-- The least multiple of `block` not below `n`. -/
def padded (n block : Nat) : Nat := (n + block - 1) / block * block

theorem padded_mod (n block : Nat) : padded n block % block = 0 := Nat.mul_mod_left _ _

theorem le_padded (n : Nat) {block : Nat} (h : 0 < block) : n ≤ padded n block := by
  have key : (n + block - 1) % block < block := Nat.mod_lt _ h
  have split := Nat.div_add_mod (n + block - 1) block
  rw [Nat.mul_comm] at split
  unfold padded
  omega

theorem padded_le {n block m : Nat} (h : 0 < block) (hdvd : block ∣ m) (hle : n ≤ m) :
    padded n block ≤ m := by
  obtain ⟨k, rfl⟩ := hdvd
  rw [padded, Nat.mul_comm block k]
  exact Nat.mul_le_mul_right _ ((Nat.div_le_iff_le_mul_add_pred h).2 (by omega))

/-- `v` rounded up to a multiple of `block`; for a negative `v` the quotient goes toward zero. -/
def alignUp (v block : Int) : Int := (v + block - 1).tdiv block * block

theorem dvd_alignUp (v block : Int) : block ∣ alignUp v block := Int.dvd_mul_left _ _

theorem alignUp_of_nonneg {v block : Int} (hv : 0 ≤ v) (hb : 0 < block) :
    alignUp v block = v + block - 1 - (v + block - 1) % block := by
  have split := Int.mul_ediv_add_emod (v + block - 1) block
  rw [alignUp, Int.tdiv_eq_ediv_of_nonneg (by omega), Int.mul_comm]
  omega

theorem le_alignUp {v block : Int} (hv : 0 ≤ v) (hb : 0 < block) : v ≤ alignUp v block := by
  have key := Int.emod_lt_of_pos (v + block - 1) hb
  rw [alignUp_of_nonneg hv hb]
  omega

theorem alignUp_lt {v block : Int} (hv : 0 ≤ v) (hb : 0 < block) :
    alignUp v block < v + block := by
  have key := Int.emod_nonneg (v + block - 1) (Int.ne_of_gt hb)
  rw [alignUp_of_nonneg hv hb]
  omega

theorem alignUp_le {v block n : Int} (hv : 0 ≤ v) (hb : 0 < block) (hdvd : block ∣ n)
    (hle : v ≤ n) : alignUp v block ≤ n := by
  have hlt := alignUp_lt hv hb
  apply Decidable.byContradiction
  intro hn
  have hgap := Int.le_of_dvd (by omega) (Int.dvd_sub (dvd_alignUp v block) hdvd)
  omega

theorem alignUp_of_dvd {v block : Int} (hv : 0 ≤ v) (hb : 0 < block) (h : block ∣ v) :
    alignUp v block = v :=
  Int.le_antisymm (alignUp_le hv hb h (Int.le_refl v)) (le_alignUp hv hb)

theorem alignUp_nonpos {v block : Int} (hv : v ≤ 0) (hb : 0 < block) : alignUp v block ≤ 0 := by
  have hlast : (block - 1).tdiv block = 0 := Int.tdiv_eq_zero_of_lt (by omega) (by omega)
  have hle := Int.tdiv_le_tdiv hb (show v + block - 1 ≤ block - 1 by omega)
  rw [hlast] at hle
  exact Int.mul_nonpos_of_nonpos_of_nonneg hle (Int.le_of_lt hb)

theorem alignUp_pos_iff {v block : Int} (hb : 0 < block) : 0 < alignUp v block ↔ 0 < v := by
  constructor
  · intro h
    apply Decidable.byContradiction
    intro hv
    have hle := alignUp_nonpos (show v ≤ 0 by omega) hb
    omega
  · intro hv
    exact Int.lt_of_lt_of_le hv (le_alignUp (Int.le_of_lt hv) hb)

/-- `v` rounded toward zero to a multiple of `block`. -/
def alignDown (v block : Int) : Int := v.tdiv block * block

theorem dvd_alignDown (v block : Int) : block ∣ alignDown v block := Int.dvd_mul_left _ _

theorem alignDown_of_nonneg {v : Int} (hv : 0 ≤ v) (block : Int) :
    alignDown v block = v - v % block := by
  have split := Int.mul_ediv_add_emod v block
  rw [alignDown, Int.tdiv_eq_ediv_of_nonneg hv, Int.mul_comm]
  omega

theorem alignDown_le {v block : Int} (hv : 0 ≤ v) (hb : 0 < block) : alignDown v block ≤ v := by
  have hrest := Int.emod_nonneg v (Int.ne_of_gt hb)
  rw [alignDown_of_nonneg hv]
  omega

theorem alignDown_of_dvd {v block : Int} (hv : 0 ≤ v) (h : block ∣ v) : alignDown v block = v := by
  rw [alignDown_of_nonneg hv, Int.emod_eq_zero_of_dvd h, Int.sub_zero]

theorem alignDown_nonpos {v block : Int} (hv : v ≤ 0) (hb : 0 < block) : alignDown v block ≤ 0 := by
  have hle := Int.tdiv_le_tdiv hb hv
  rw [Int.zero_tdiv] at hle
  exact Int.mul_nonpos_of_nonpos_of_nonneg hle (Int.le_of_lt hb)

/-- A number of parts of size `part` that cover `n`. -/
def parts (n part : Nat) : Nat := (n + part - 1) / part

/-- Lower-case hexadecimal digits after `0x`. -/
def hexText (n : Nat) : String := "0x" ++ String.ofList (Nat.toDigits 16 n)

end Blitter
