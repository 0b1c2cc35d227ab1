import Blitter.Blit.SlotPool

/-!
# What a pool holds for the hardware

`SlotPool.Holds` ties a pool to a list of cargoes: their slots are the locked ones, no two of them
are the same, and each still has the frame and the surface of its cargo. A slot out of use is empty
and unlocked. `recycle` and `acquire` keep this, and so does every change of a slot that the pool
holds for nobody; locking a slot adds a cargo, and unlocking one removes it.
-/
namespace Blitter

/-- A frame with its surface, and the slot they are in. -/
structure Cargo where
  slot : SlotId
  frame : Frame
  surface : Surface
  deriving DecidableEq

/-- The slot of a cargo. -/
def Cargo.inSlot (c : Cargo) (locked : Bool) : Slot where
  frame := some c.frame
  surface := c.surface
  queued := true
  locked := locked

namespace SlotPool

variable {p q : SlotPool} {held : List Cargo} {c : Cargo} {id : SlotId}

structure Holds (p : SlotPool) (held : List Cargo) : Prop where
  nodup : (held.map (·.slot)).Nodup
  stowed : ∀ c ∈ held, p.slot? c.slot = some (c.inSlot true)
  locked : ∀ id s, p.slot? id = some s → s.locked = true → id ∈ held.map (·.slot)
  idle : ∀ id s, p.slot? id = some s → s.queued = false → s.locked = false ∧ s.frame = none

/-! ## Single slots -/

theorem lt_size {s : Slot} (h : p.slot? id = some s) : id < p.size :=
  (List.getElem?_eq_some_iff.1 h).1

theorem exists_modify? {s : Slot} (h : p.slot? id = some s) (change : Slot → Slot) :
    ∃ q, p.modify? id change = some q ∧ q.slot? id = some (change s) := by
  have hq : p.modify? id change = some ⟨p.slots.modify id change⟩ := if_pos (lt_size h)
  refine ⟨_, hq, ?_⟩
  rw [slot?_of_modify? hq, if_pos rfl, h]
  rfl

theorem size_of_modify? {change : Slot → Slot} (h : p.modify? id change = some q) :
    q.size = p.size := by
  unfold modify? at h
  split at h
  · cases h
    simp [size]
  · cases h

theorem modify?_comp {r : SlotPool} {f g : Slot → Slot} (hf : p.modify? id f = some q)
    (hg : q.modify? id g = some r) : p.modify? id (g ∘ f) = some r := by
  unfold modify? at hf hg ⊢
  split at hf
  · next hlt =>
    cases hf
    rw [if_pos (by simpa [size] using hlt)] at hg
    cases hg
    rw [if_pos hlt, List.modify_modify_eq]
  · cases hf

/-- The slot that `acquire` takes was not in use. -/
theorem queued_free {s : Slot} (h : p.slot? p.free = some s) : s.queued = false := by
  have hlt : p.free < p.slots.length := lt_size h
  have hs : p.slots[p.free] = s := by
    rw [slot?, List.getElem?_eq_getElem hlt] at h
    exact Option.some.inj h
  have hfree : (!p.slots[p.free].queued) = true := List.findIdx_getElem (w := hlt)
  rw [hs] at hfree
  simpa using hfree

theorem slot?_acquire_of_ne (h : id ≠ p.acquire.1) : p.acquire.2.slot? id = p.slot? id := by
  change id ≠ p.free at h
  have hle : p.free ≤ p.slots.length := List.findIdx_le_length
  unfold acquire slot?
  simp only [List.getElem?_modify, if_neg (Ne.symm h), id_map']
  split
  · rfl
  · next hn =>
    have heq : p.free = p.slots.length := Nat.le_antisymm hle (Nat.not_lt.1 hn)
    by_cases hlt : id < p.slots.length
    · rw [List.getElem?_append_left hlt]
    · have hgt : p.slots.length < id :=
        Nat.lt_of_le_of_ne (Nat.not_lt.1 hlt) (heq ▸ Ne.symm h)
      rw [List.getElem?_eq_none (by simpa using Nat.succ_le_of_lt hgt),
        List.getElem?_eq_none (Nat.le_of_lt hgt)]

theorem slot?_acquire_self :
    p.acquire.2.slot? p.acquire.1 =
      some { (p.slot? p.free).getD .idle with queued := true, locked := false, surface := {} } := by
  have hle : p.free ≤ p.slots.length := List.findIdx_le_length
  change p.acquire.2.slot? p.free = _
  unfold acquire slot?
  simp only [List.getElem?_modify, if_true]
  split
  · next hlt =>
    rw [List.getElem?_eq_getElem hlt]
    rfl
  · next hn =>
    have heq : p.free = p.slots.length := Nat.le_antisymm hle (Nat.not_lt.1 hn)
    simp [heq]

theorem size_acquire (p : SlotPool) :
    p.acquire.2.size = if p.free < p.size then p.size else p.size + 1 := by
  by_cases h : p.free < p.slots.length <;> simp [acquire, size, h]

/-- If no slot is free, each is in use. -/
theorem queued_of_free_eq {s : Slot} (hfree : p.free = p.size) (h : p.slot? id = some s) :
    s.queued = true := by
  simpa using List.findIdx_eq_length.1 hfree s (List.mem_of_getElem? h)

/-! ## Keeping what is held -/

namespace Holds

theorem empty : Holds {} [] := by
  constructor <;> simp [slot?]

/-- A slot that is not locked is held for nobody. -/
theorem not_mem {s : Slot} (h : p.Holds held) (hs : p.slot? id = some s) (hl : s.locked = false) :
    id ∉ held.map (·.slot) := by
  intro hm
  obtain ⟨c, hc, rfl⟩ := List.mem_map.1 hm
  rw [h.stowed c hc] at hs
  cases hs
  cases hl

/-- Only one slot has changed, and what is held for the others stays. -/
theorem of_others {held' : List Cargo} (h : p.Holds held)
    (others : ∀ k, k ≠ id → q.slot? k = p.slot? k) (nodup : (held'.map (·.slot)).Nodup)
    (stowed : ∀ c ∈ held', q.slot? c.slot = some (c.inSlot true))
    (kept : ∀ k, k ≠ id → k ∈ held.map (·.slot) → k ∈ held'.map (·.slot))
    (locked : ∀ s, q.slot? id = some s → s.locked = true → id ∈ held'.map (·.slot))
    (idle : ∀ s, q.slot? id = some s → s.queued = false → s.locked = false ∧ s.frame = none) :
    q.Holds held' := by
  refine ⟨nodup, stowed, ?_, ?_⟩
  · intro k s hk hl
    by_cases he : k = id
    · subst he
      exact locked s hk hl
    · exact kept k he (h.locked k s (others k he ▸ hk) hl)
  · intro k s hk hq
    by_cases he : k = id
    · subst he
      exact idle s hk hq
    · exact h.idle k s (others k he ▸ hk) hq

/-- Only a slot held for nobody has changed, and it is not locked afterwards. -/
theorem of_changed (h : p.Holds held) (hid : id ∉ held.map (·.slot))
    (others : ∀ k, k ≠ id → q.slot? k = p.slot? k)
    (changed : ∀ s, q.slot? id = some s → s.locked = false ∧ (s.queued = false → s.frame = none)) :
    q.Holds held := by
  refine h.of_others others h.nodup ?_ (fun _ _ hk => hk) ?_ ?_
  · intro c hc
    have hne : c.slot ≠ id := by
      rintro rfl
      exact hid (List.mem_map_of_mem hc)
    rw [others _ hne]
    exact h.stowed c hc
  · intro s hs hl
    rw [(changed s hs).1] at hl
    cases hl
  · intro s hs hq
    exact ⟨(changed s hs).1, (changed s hs).2 hq⟩

theorem modify (h : p.Holds held) (hid : id ∉ held.map (·.slot)) {change : Slot → Slot}
    (hq : p.modify? id change = some q)
    (changed : ∀ s, p.slot? id = some s →
      (change s).locked = false ∧ ((change s).queued = false → (change s).frame = none)) :
    q.Holds held := by
  refine h.of_changed hid (fun k hk => ?_) (fun s hs => ?_)
  · rw [slot?_of_modify? hq, if_neg (Ne.symm hk)]
  · rw [slot?_of_modify? hq, if_pos rfl, Option.map_eq_some_iff] at hs
    obtain ⟨s, hs, rfl⟩ := hs
    exact changed s hs

theorem recycle (h : p.Holds held) : p.recycle.Holds held := by
  refine ⟨h.nodup, ?_, ?_, ?_⟩
  · intro c hc
    rw [slot?_recycle, h.stowed c hc]
    rfl
  · intro id s hs hl
    rw [slot?_recycle, Option.map_eq_some_iff] at hs
    obtain ⟨s, hs, rfl⟩ := hs
    refine h.locked id s hs ?_
    unfold Slot.recycle at hl
    split at hl <;> exact hl
  · intro id s hs hq
    rw [slot?_recycle, Option.map_eq_some_iff] at hs
    obtain ⟨s, hs, rfl⟩ := hs
    unfold Slot.recycle at hq ⊢
    split
    · next hr => exact ⟨by simpa using (Bool.and_eq_true_iff.1 hr).2, rfl⟩
    · next hr =>
      rw [if_neg hr] at hq
      exact h.idle id s hs hq

/-- A slot taken into use is held for nobody, and there is nothing in it. -/
theorem acquire (h : p.Holds held) :
    p.acquire.2.Holds held ∧ p.acquire.1 ∉ held.map (·.slot) ∧
      p.acquire.2.slot? p.acquire.1 = some { queued := true } := by
  have hempty : ((p.slot? p.free).getD .idle).frame = none := by
    cases hs : p.slot? p.free with
    | none => rfl
    | some s => exact (h.idle _ s hs (queued_free hs)).2
  have hself : p.acquire.2.slot? p.acquire.1 = some { queued := true } := by
    rw [slot?_acquire_self]
    simp only [hempty]
  have hfresh : p.acquire.1 ∉ held.map (·.slot) := by
    intro hm
    obtain ⟨c, hc, hslot⟩ := List.mem_map.1 hm
    have hs := h.stowed c hc
    rw [hslot] at hs
    have hqueued := queued_free hs
    cases hqueued
  refine ⟨h.of_changed hfresh (fun k hk => slot?_acquire_of_ne hk) (fun s hs => ?_), hfresh, hself⟩
  rw [hself] at hs
  cases hs
  exact ⟨rfl, fun hq => by cases hq⟩

/-- The slots that the hardware uses are no more than what is held. -/
theorem size_le (h : p.Holds held)
    (hfull : ∀ id s, p.slot? id = some s → s.locked = true) : p.size ≤ held.length := by
  have hsubset : List.range p.size ⊆ held.map (·.slot) := by
    intro id hid
    have hlt : id < p.slots.length := List.mem_range.1 hid
    have hs : p.slot? id = some p.slots[id] := List.getElem?_eq_getElem hlt
    exact h.locked id _ hs (hfull id _ hs)
  simpa using List.nodup_range.length_le_of_subset hsubset

/-- A pool grows only if the hardware uses every slot that it has. -/
theorem size_recycle_acquire (h : p.Holds held) :
    p.recycle.acquire.2.size ≤ max p.size (held.length + 1) := by
  rw [size_acquire, size_recycle]
  split
  · omega
  · next hfree =>
    have hnone : p.recycle.free = p.recycle.size :=
      Nat.le_antisymm List.findIdx_le_length (by simpa using hfree)
    have hlocked : ∀ id s, p.recycle.slot? id = some s → s.locked = true := by
      intro id s hs
      have hqueued := queued_of_free_eq hnone hs
      rw [slot?_recycle, Option.map_eq_some_iff] at hs
      obtain ⟨s, -, rfl⟩ := hs
      grind [Slot.recycle]
    have hle := h.recycle.size_le hlocked
    rw [size_recycle] at hle
    omega

/-- Locking a slot that is in use adds its cargo. -/
theorem lock (h : p.Holds held) (hc : p.slot? c.slot = some (c.inSlot false))
    (hq : p.setLocked? c.slot true = some q) : q.Holds (held ++ [c]) := by
  have hfresh := h.not_mem hc rfl
  have hslot := slot?_of_modify? hq
  have hself : q.slot? c.slot = some (c.inSlot true) := by
    rw [hslot, if_pos rfl, hc]
    rfl
  have others : ∀ k, k ≠ c.slot → q.slot? k = p.slot? k := fun k hk => by
    rw [hslot, if_neg (Ne.symm hk)]
  refine h.of_others others ?_ ?_ ?_ ?_ ?_
  · rw [List.map_append, List.map_singleton, List.nodup_append]
    refine ⟨h.nodup, by simp, ?_⟩
    rintro a ha b hb rfl
    rw [List.mem_singleton.1 hb] at ha
    exact hfresh ha
  · intro d hd
    rcases List.mem_append.1 hd with hd | hd
    · have hne : d.slot ≠ c.slot := fun he => hfresh (List.mem_map.2 ⟨d, hd, he⟩)
      rw [others _ hne]
      exact h.stowed d hd
    · rw [List.mem_singleton.1 hd]
      exact hself
  · intro k _ hk
    rw [List.map_append]
    exact List.mem_append_left _ hk
  · intro s _ _
    simp
  · intro s hs hqueued
    rw [hself] at hs
    cases hs
    cases hqueued

/-- Changing a held slot so that it is unlocked and still in use takes its cargo away. -/
theorem unlock (h : p.Holds (c :: held)) {change : Slot → Slot}
    (hq : p.modify? c.slot change = some q) (hl : (change (c.inSlot true)).locked = false)
    (hu : (change (c.inSlot true)).queued = true) : q.Holds held := by
  have hslot := slot?_of_modify? hq
  have hself : q.slot? c.slot = some (change (c.inSlot true)) := by
    rw [hslot, if_pos rfl, h.stowed c List.mem_cons_self]
    rfl
  have others : ∀ k, k ≠ c.slot → q.slot? k = p.slot? k := fun k hk => by
    rw [hslot, if_neg (Ne.symm hk)]
  obtain ⟨hfresh, hnodup⟩ := List.nodup_cons.1 h.nodup
  refine h.of_others others hnodup ?_ ?_ ?_ ?_
  · intro d hd
    have hne : d.slot ≠ c.slot := fun he => hfresh (List.mem_map.2 ⟨d, hd, he⟩)
    rw [others _ hne]
    exact h.stowed d (List.mem_cons_of_mem _ hd)
  · intro k hne hk
    exact (List.mem_cons.1 hk).resolve_left hne
  · intro s hs hlocked
    rw [hself] at hs
    cases hs
    cases hl.symm.trans hlocked
  · intro s hs hqueued
    rw [hself] at hs
    cases hs
    cases hu.symm.trans hqueued

/-- The first cargo's slot can give up its fence, its lock and its frame, in this order. -/
theorem retire (h : p.Holds (c :: held)) :
    ∃ d₁ d₂ d₃, p.modifySurface? c.slot (fun s => { s with outFence := -1 }) = some d₁ ∧
      d₁.setLocked? c.slot false = some d₂ ∧
      d₂.takeFrame? c.slot = some (some c.frame, d₃) ∧ d₃.Holds held := by
  have hc := h.stowed c List.mem_cons_self
  obtain ⟨d₁, hd₁, hs₁⟩ := exists_modify? hc
    (fun s => { s with surface := { s.surface with outFence := -1 } })
  obtain ⟨d₂, hd₂, hs₂⟩ := exists_modify? hs₁ (fun s => { s with locked := false })
  obtain ⟨d₃, hd₃, -⟩ := exists_modify? hs₂ (fun s => { s with frame := none })
  refine ⟨d₁, d₂, d₃, hd₁, hd₂, ?_, h.unlock (modify?_comp (modify?_comp hd₁ hd₂) hd₃) rfl rfl⟩
  unfold takeFrame?
  rw [hs₂, hd₃]
  rfl

end Holds
end SlotPool
end Blitter
