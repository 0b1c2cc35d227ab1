import Mathlib.Algebra.Ring.Nat
import Mathlib.Order.Interval.Set.Disjoint
import Mathlib.Tactic.Set
import Blitter.Buffer.Pack

/-!
# Rows in a mapping

Spans of a mapping that rows are stored at and read back from. Every picture is read back as it was
stored exactly if no two of the spans share a byte.
-/
namespace Blitter

/-- The places of a span's bytes. -/
def spanned (s : Nat × Nat) : Set Nat := Set.Ico s.1 (s.1 + s.2)

@[simp] theorem mem_spanned {s : Nat × Nat} {k : Nat} :
    k ∈ spanned s ↔ s.1 ≤ k ∧ k < s.1 + s.2 := Iff.rfl

instance (s : Nat × Nat) (k : Nat) : Decidable (k ∈ spanned s) :=
  decidable_of_iff _ mem_spanned.symm

/-- No byte belongs to both spans. -/
def Apart (s t : Nat × Nat) : Prop := ∀ k ∈ spanned s, k ∉ spanned t

theorem apart_iff {s t : Nat × Nat} : Apart s t ↔
    s.2 = 0 ∨ t.2 = 0 ∨ s.1 + s.2 ≤ t.1 ∨ t.1 + t.2 ≤ s.1 := by
  constructor
  · intro hapart
    have hlater := hapart (max s.1 t.1)
    simp only [mem_spanned] at hlater
    omega
  · intro hplaces k hs ht
    rw [mem_spanned] at hs ht
    omega

/-- All bytes of the spans are in a mapping of this size. -/
def Roomy (size : Nat) (spans : List (Nat × Nat)) : Prop := ∀ s ∈ spans, s.1 + s.2 ≤ size

instance (size : Nat) (spans : List (Nat × Nat)) : Decidable (Roomy size spans) :=
  inferInstanceAs (Decidable (∀ s ∈ spans, s.1 + s.2 ≤ size))

/-- How many bytes the spans have together. -/
def total (spans : List (Nat × Nat)) : Nat := (spans.map (·.2)).sum

@[simp] theorem total_nil : total [] = 0 := rfl

@[simp] theorem total_cons (s : Nat × Nat) (spans : List (Nat × Nat)) :
    total (s :: spans) = s.2 + total spans := by simp [total]

@[simp] theorem total_append (spans others : List (Nat × Nat)) :
    total (spans ++ others) = total spans + total others := by simp [total]

theorem total_flatMap {α : Type} (items : List α) (spans : α → List (Nat × Nat)) :
    total (items.flatMap spans) = (items.map fun item => total (spans item)).sum := by
  induction items with
  | nil => rfl
  | cons item items ih => simp [ih]

/-- The bytes of a span. -/
def rowAt (bytes : Array UInt8) (s : Nat × Nat) : List UInt8 :=
  (bytes.extract s.1 (s.1 + s.2)).toList

section Rows

variable {bytes stored : Array UInt8} {s t : Nat × Nat} {spans others : List (Nat × Nat)}
  {row picture file rest : List UInt8} {start k : Nat}

theorem length_rowAt (h : s.1 + s.2 ≤ bytes.size) : (rowAt bytes s).length = s.2 := by
  simp [rowAt]
  omega

theorem getElem?_rowAt (hk : k < s.2) (h : s.1 + s.2 ≤ bytes.size) :
    (rowAt bytes s)[k]? = bytes[s.1 + k]? := by
  rw [rowAt, Array.getElem?_toList, Array.getElem?_extract, Nat.min_eq_left h, if_pos (by omega)]

/-- A row is made of the bytes in its span. -/
theorem rowAt_eq_iff (h : s.1 + s.2 ≤ bytes.size) (hlength : row.length = s.2) :
    rowAt bytes s = row ↔ ∀ k < s.2, bytes[s.1 + k]? = row[k]? := by
  constructor
  · rintro rfl k hk
    exact (getElem?_rowAt hk h).symm
  · intro hbytes
    refine List.ext_getElem? fun k => ?_
    by_cases hk : k < s.2
    · rw [getElem?_rowAt hk h, hbytes k hk]
    · have hlengths := length_rowAt h
      rw [List.getElem?_eq_none (by omega), List.getElem?_eq_none (by omega)]

theorem length_rows (h : Roomy bytes.size spans) :
    (spans.flatMap (rowAt bytes)).length = total spans := by
  induction spans with
  | nil => rfl
  | cons s spans ih =>
    have hs := List.forall_mem_cons.1 h
    simp [length_rowAt hs.1, ih hs.2]

/-! ## Reading -/

/-- Reading takes the bytes of all spans. -/
theorem foldlM_bytesAt (out : Array UInt8) (hroom : Roomy bytes.size spans) :
    spans.foldlM (fun out (start, count) => do return out ++ (← bytesAt bytes start count)) out =
      .ok (out ++ (spans.flatMap (rowAt bytes)).toArray) := by
  induction spans generalizing out with
  | nil => simp [pure, Except.pure]
  | cons s spans ih =>
    obtain ⟨start, count⟩ := s
    have hs := List.forall_mem_cons.1 hroom
    have hread : bytesAt bytes start count = .ok (rowAt bytes (start, count)).toArray :=
      if_pos hs.1
    simp only [List.foldlM_cons, hread]
    exact (ih (out ++ (rowAt bytes (start, count)).toArray) hs.2).trans (by simp)

/-- Reading stops at a span that is not in the mapping. -/
theorem exists_foldlM_bytesAt_error (out : Array UInt8) (hshort : ¬Roomy bytes.size spans) :
    ∃ stop, bytes.size < stop ∧
      spans.foldlM (fun out (start, count) => do return out ++ (← bytesAt bytes start count)) out =
        .error (.shortOf stop) := by
  induction spans generalizing out with
  | nil => simp [Roomy] at hshort
  | cons s spans ih =>
    obtain ⟨start, count⟩ := s
    by_cases h : start + count ≤ bytes.size
    · have hread : bytesAt bytes start count = .ok (rowAt bytes (start, count)).toArray := if_pos h
      simp only [List.foldlM_cons, hread]
      exact ih _ fun hspans => hshort (List.forall_mem_cons.2 ⟨h, hspans⟩)
    · have hread : bytesAt bytes start count = .error (.shortOf (start + count)) := if_neg h
      simp only [List.foldlM_cons, hread]
      exact ⟨start + count, not_le.1 h, rfl⟩

/-! ## Storing a row -/

theorem size_overwrite (h : start + row.length ≤ bytes.size) :
    (overwrite bytes start row).size = bytes.size := by
  simp [overwrite]
  omega

theorem getElem?_overwrite (h : start + row.length ≤ bytes.size) (k : Nat) :
    (overwrite bytes start row)[k]? =
      if k ∈ spanned (start, row.length) then row[k - start]? else bytes[k]? := by
  have hstart : min start bytes.size = start := by omega
  unfold overwrite
  by_cases hlow : k < start
  · have hin : k < bytes.size := by omega
    simp [Array.getElem?_append, hstart, hlow, hin, not_le.2 hlow]
  · by_cases hhigh : k < start + row.length
    · have hin : k - start < row.length := by omega
      simp [Array.getElem?_append, hstart, hlow, not_lt.1 hlow, hhigh, hin]
    · have hplace : start + row.length + (k - start - row.length) = k := by omega
      have hout : ¬k - start < row.length := by omega
      simp [Array.getElem?_append, Array.getElem?_extract, hstart, hlow, hhigh, hout, hplace]
      omega

/-! ## Storing rows -/

/-- Rows are stored where there is room, from as much of the file as they need. -/
theorem exists_storeRows (file : List UInt8) (hroom : Roomy bytes.size spans)
    (hlong : total spans ≤ file.length) :
    ∃ stored, storeRows spans bytes file = .ok (some (stored, file.drop (total spans))) := by
  induction spans generalizing bytes file with
  | nil => exact ⟨bytes, by simp [storeRows]⟩
  | cons s spans ih =>
    have hs := List.forall_mem_cons.1 hroom
    rw [total_cons] at hlong
    have hrow : (file.take s.2).length = s.2 := by simp; omega
    have hsize : (overwrite bytes s.1 (file.take s.2)).size = bytes.size :=
      size_overwrite (by rw [hrow]; exact hs.1)
    obtain ⟨stored, hstored⟩ := ih (file.drop s.2) (hsize ▸ hs.2) (by rw [List.length_drop]; omega)
    refine ⟨stored, ?_⟩
    rw [storeRows, if_neg (by omega), if_neg (by omega), hstored, List.drop_drop, total_cons]

/-- Rows that were stored: the first, then the others. -/
theorem storeRows_cons_ok (h : storeRows (s :: spans) bytes file = .ok (some (stored, rest))) :
    s.1 + s.2 ≤ bytes.size ∧ (file.take s.2).length = s.2 ∧
      storeRows spans (overwrite bytes s.1 (file.take s.2)) (file.drop s.2) =
        .ok (some (stored, rest)) := by
  rw [storeRows] at h
  split at h
  · cases h
  · split at h
    · cases h
    · exact ⟨by omega, by simp; omega, h⟩

/-- Rows are stored one after the other, until one of them cannot be. -/
theorem storeRows_append : storeRows (spans ++ others) bytes file =
    match storeRows spans bytes file with
    | .ok (some (stored, rest)) => storeRows others stored rest
    | ended => ended := by
  induction spans generalizing bytes file with
  | nil => rfl
  | cons s spans ih =>
    rw [List.cons_append, storeRows, storeRows]
    split
    · rfl
    · split
      · rfl
      · exact ih

theorem size_storeRows (h : storeRows spans bytes file = .ok (some (stored, rest))) :
    stored.size = bytes.size := by
  induction spans generalizing bytes file with
  | nil =>
    cases h
    rfl
  | cons s spans ih =>
    obtain ⟨hroom, hrow, hspans⟩ := storeRows_cons_ok h
    rw [ih hspans, size_overwrite (by omega)]

/-- Bytes outside the spans stay as they are. -/
theorem getElem?_storeRows (h : storeRows spans bytes file = .ok (some (stored, rest)))
    (hk : ∀ s ∈ spans, k ∉ spanned s) : stored[k]? = bytes[k]? := by
  induction spans generalizing bytes file with
  | nil =>
    cases h
    rfl
  | cons s spans ih =>
    obtain ⟨hroom, hrow, hspans⟩ := storeRows_cons_ok h
    have hs := List.forall_mem_cons.1 hk
    rw [ih hspans hs.2, getElem?_overwrite (by omega), hrow, if_neg hs.1]

/-- Bytes inside the spans are from the file. -/
theorem mem_of_storeRows (h : storeRows spans bytes file = .ok (some (stored, rest)))
    (hk : ∃ s ∈ spans, k ∈ spanned s) : ∃ b ∈ file, stored[k]? = some b := by
  induction spans generalizing bytes file with
  | nil => simp at hk
  | cons s spans ih =>
    obtain ⟨hroom, hrow, hspans⟩ := storeRows_cons_ok h
    by_cases hlater : ∃ t ∈ spans, k ∈ spanned t
    · obtain ⟨b, hb, hstored⟩ := ih hspans hlater
      exact ⟨b, List.mem_of_mem_drop hb, hstored⟩
    · have hs : k ∈ spanned s := by
        obtain ⟨t, ht, hkt⟩ := hk
        cases ht with
        | head => exact hkt
        | tail _ ht => exact absurd ⟨t, ht, hkt⟩ hlater
      have hin : k - s.1 < (file.take s.2).length := by
        rw [mem_spanned] at hs
        omega
      refine ⟨(file.take s.2)[k - s.1], List.mem_of_mem_take (List.getElem_mem hin), ?_⟩
      rw [getElem?_storeRows hspans (by simpa using hlater), getElem?_overwrite (by omega), hrow,
        if_pos hs, List.getElem?_eq_getElem hin]

/-- A row that is apart from all that are stored later is still there. -/
theorem rowAt_storeRows (h : storeRows spans bytes file = .ok (some (stored, rest)))
    (hs : s.1 + s.2 ≤ bytes.size) (hapart : ∀ t ∈ spans, Apart s t) :
    rowAt stored s = rowAt bytes s := by
  rw [rowAt_eq_iff (by rw [size_storeRows h]; exact hs) (length_rowAt hs)]
  intro k hk
  rw [getElem?_rowAt hk hs]
  exact getElem?_storeRows h fun t ht => hapart t ht _ (by simpa using hk)

theorem rowAt_overwrite (h : start + row.length ≤ bytes.size) :
    rowAt (overwrite bytes start row) (start, row.length) = row := by
  rw [rowAt_eq_iff (by rw [size_overwrite h]; exact h) rfl]
  intro k hk
  simp only at hk
  simp [getElem?_overwrite h, hk]

/-! ## Reading back -/

/-- Rows that are apart are read back from where they were stored. -/
theorem rows_of_storeRows (h : storeRows spans bytes file = .ok (some (stored, rest)))
    (hapart : spans.Pairwise Apart) : spans.flatMap (rowAt stored) = file.take (total spans) := by
  induction spans generalizing bytes file with
  | nil => simp
  | cons s spans ih =>
    obtain ⟨hroom, hrow, hspans⟩ := storeRows_cons_ok h
    obtain ⟨hfirst, hothers⟩ := List.pairwise_cons.1 hapart
    have hself : rowAt (overwrite bytes s.1 (file.take s.2)) s = file.take s.2 := by
      have hstored := rowAt_overwrite (show s.1 + (file.take s.2).length ≤ bytes.size by omega)
      rwa [hrow] at hstored
    have hkept : rowAt stored s = file.take s.2 := by
      rw [rowAt_storeRows hspans (by rw [size_overwrite (by omega)]; exact hroom) hfirst, hself]
    rw [List.flatMap_cons, hkept, ih hspans hothers, total_cons, List.take_add]

/-- Of two spans that share a byte, one is in front of a place where the other is behind. -/
theorem exists_split_of_not_pairwise (hshared : ¬spans.Pairwise Apart) :
    ∃ front back, spans = front ++ back ∧ ∃ s ∈ front, ∃ t ∈ back, ¬Apart s t := by
  rw [List.pairwise_iff_getElem] at hshared
  push Not at hshared
  obtain ⟨i, j, hi, hj, hij, hshared⟩ := hshared
  exact ⟨spans.take j, spans.drop j, (List.take_append_drop j spans).symm,
    spans[i], List.mem_take_iff_getElem.2 ⟨i, by omega, rfl⟩,
    spans[j], List.mem_drop_iff_getElem.2 ⟨0, by omega, by simp⟩, hshared⟩

/-- If two spans share a byte, a picture that is zero up to the second of them is lost. -/
theorem exists_lost (hroom : Roomy bytes.size spans) (hshared : ¬spans.Pairwise Apart) :
    ∃ picture stored, picture.length = total spans ∧
      storeRows spans bytes picture = .ok (some (stored, [])) ∧
      spans.flatMap (rowAt stored) ≠ picture := by
  obtain ⟨front, back, rfl, s, hs, t, ht, hst⟩ := exists_split_of_not_pairwise hshared
  obtain ⟨k, hks, hkt⟩ : ∃ k, k ∈ spanned s ∧ k ∈ spanned t := by
    simpa only [Apart, not_forall, not_not, exists_prop] using hst
  set zeros : List UInt8 := List.replicate (total front) 0
  set ones : List UInt8 := List.replicate (total back) 1
  have hroomy := List.forall_mem_append.1 hroom
  obtain ⟨half, hhalf⟩ := exists_storeRows (zeros ++ ones) hroomy.1 (by simp [zeros])
  have hleft : (zeros ++ ones).drop (total front) = ones := by simp [zeros]
  rw [hleft] at hhalf
  have hroomyBack : Roomy half.size back := by
    rw [size_storeRows hhalf]
    exact hroomy.2
  obtain ⟨stored, hstored⟩ := exists_storeRows ones hroomyBack (by simp [ones])
  refine ⟨zeros ++ ones, stored, by simp [zeros, ones], ?_, fun hread => ?_⟩
  · rw [storeRows_append, hhalf]
    simpa [ones] using hstored
  · have hsize : stored.size = bytes.size := (size_storeRows hstored).trans (size_storeRows hhalf)
    have hfront : front.flatMap (rowAt stored) = zeros := by
      rw [List.flatMap_append] at hread
      refine List.append_inj_left hread ?_
      rw [length_rows (by rw [hsize]; exact hroomy.1)]
      simp [zeros]
    -- the shared byte is a one from `t`, and `s` was zero
    obtain ⟨b, hb, hone⟩ := mem_of_storeRows hstored ⟨t, ht, hkt⟩
    rw [mem_spanned] at hks
    have hrow : (rowAt stored s)[k - s.1]? = some b := by
      rw [getElem?_rowAt (by omega) (by rw [hsize]; exact hroomy.1 s hs), ← hone]
      congr 1
      omega
    have hzero : b ∈ zeros := by
      rw [← hfront]
      exact List.mem_flatMap.2 ⟨s, hs, List.mem_of_getElem? hrow⟩
    rw [List.eq_of_mem_replicate hb] at hzero
    exact absurd (List.eq_of_mem_replicate hzero) (by decide)

/-- Every picture can be stored and read back exactly if no byte is shared. -/
theorem reads_back_iff (hroom : Roomy bytes.size spans) :
    (∀ picture : List UInt8, picture.length = total spans →
      ∃ stored, storeRows spans bytes picture = .ok (some (stored, [])) ∧
        spans.flatMap (rowAt stored) = picture) ↔ spans.Pairwise Apart := by
  constructor
  · intro hreads
    by_contra hshared
    obtain ⟨picture, stored, hlength, hstored, hlost⟩ := exists_lost hroom hshared
    obtain ⟨other, hother, hread⟩ := hreads picture hlength
    cases hstored.symm.trans hother
    exact hlost hread
  · intro hapart picture hlength
    obtain ⟨stored, hstored⟩ := exists_storeRows picture hroom hlength.ge
    have hnothing : picture.drop (total spans) = [] := by simp [hlength]
    rw [hnothing] at hstored
    refine ⟨stored, hstored, ?_⟩
    rw [rows_of_storeRows hstored hapart, ← hlength, List.take_length]

end Rows
end Blitter
