import Blitter.Blit.Surface
import Blitter.Buffer.Frame
import Blitter.Role

/-!
# Slot pools

A slot holds a frame and the surface it was described as. It is in use while somebody needs the
frame, and locked while the hardware does. `recycle` frees what is in use without being locked, and
`acquire` adds a slot only if none is free, so a pool grows no further than its locks make it. An
operation on a slot that the pool does not have has no result.
-/
namespace Blitter

abbrev SlotId := Nat

structure Slot where
  frame : Option Frame := none
  surface : Surface := {}
  /-- In use by a frame. -/
  queued : Bool := false
  /-- In use by the hardware. -/
  locked : Bool := false
  deriving DecidableEq

namespace Slot

def idle : Slot := {}

/-- Lets go of a frame that the hardware does not use. -/
def recycle (s : Slot) : Slot :=
  if s.queued && !s.locked then { s with frame := none, queued := false } else s

end Slot

structure SlotPool where
  slots : List Slot := []
  deriving DecidableEq

namespace SlotPool

def size (p : SlotPool) : Nat := p.slots.length

/-- How many slots are in use. -/
def inUse (p : SlotPool) : Nat := p.slots.countP (·.queued)

/-- How many slots the hardware uses. -/
def lockedCount (p : SlotPool) : Nat := p.slots.countP (·.locked)

def slot? (p : SlotPool) (id : SlotId) : Option Slot := p.slots[id]?

/-- Changes a slot. -/
def modify? (p : SlotPool) (id : SlotId) (change : Slot → Slot) : Option SlotPool :=
  if id < p.size then some ⟨p.slots.modify id change⟩ else none

/-- Lets go of all frames that the hardware does not use. -/
def recycle (p : SlotPool) : SlotPool := ⟨p.slots.map Slot.recycle⟩

/-- The first slot not in use, or one behind the last. -/
def free (p : SlotPool) : SlotId := p.slots.findIdx (!·.queued)

/-- Takes a slot into use, a new one if none is free, and clears its surface. -/
def acquire (p : SlotPool) : SlotId × SlotPool :=
  let id := p.free
  let slots := if id < p.size then p.slots else p.slots ++ [Slot.idle]
  (id, ⟨slots.modify id fun s => { s with queued := true, locked := false, surface := {} }⟩)

/-- Puts a frame and its surface into a slot. -/
def attach? (p : SlotPool) (id : SlotId) (frame : Frame) (surface : Surface) : Option SlotPool :=
  p.modify? id fun s => { s with frame := some frame, surface := surface }

/-- Takes a slot out of use at once. -/
def release? (p : SlotPool) (id : SlotId) : Option SlotPool :=
  p.modify? id fun s => { s with frame := none, queued := false, locked := false }

/-- Takes the frame out of a slot, which stays in use until it is recycled. -/
def takeFrame? (p : SlotPool) (id : SlotId) : Option (Option Frame × SlotPool) := do
  let s ← p.slot? id
  let p ← p.modify? id fun s => { s with frame := none }
  return (s.frame, p)

def setLocked? (p : SlotPool) (id : SlotId) (locked : Bool) : Option SlotPool :=
  p.modify? id fun s => { s with locked := locked }

/-- Changes the surface in a slot. -/
def modifySurface? (p : SlotPool) (id : SlotId) (change : Surface → Surface) : Option SlotPool :=
  p.modify? id fun s => { s with surface := change s.surface }

def surface? (p : SlotPool) (id : SlotId) : Option Surface := (p.slot? id).map (·.surface)

@[simp] theorem size_recycle (p : SlotPool) : p.recycle.size = p.size := by
  simp [recycle, size]

@[simp] theorem slot?_recycle (p : SlotPool) (id : SlotId) :
    p.recycle.slot? id = (p.slot? id).map Slot.recycle := by
  simp [recycle, slot?]

@[simp] theorem isSome_modify? (p : SlotPool) (id : SlotId) (change : Slot → Slot) :
    (p.modify? id change).isSome = decide (id < p.size) := by
  by_cases h : id < p.size <;> simp [modify?, h]

/-- Changing a slot leaves the others as they are. -/
theorem slot?_of_modify? {p q : SlotPool} {id : SlotId} {change : Slot → Slot}
    (h : p.modify? id change = some q) (k : SlotId) :
    q.slot? k = if id = k then (p.slot? k).map change else p.slot? k := by
  unfold modify? at h
  split at h
  · cases h
    by_cases hk : id = k <;> simp [slot?, hk]
  · cases h

end SlotPool

/-- A pool for each role. -/
structure Pools where
  source : SlotPool := {}
  destination : SlotPool := {}
  pattern : SlotPool := {}
  placement : SlotPool := {}
  deriving DecidableEq

namespace Pools

def get (p : Pools) : Role → SlotPool
  | .source => p.source
  | .destination => p.destination
  | .pattern => p.pattern
  | .placement => p.placement

def set (p : Pools) (role : Role) (pool : SlotPool) : Pools :=
  match role with
  | .source => { p with source := pool }
  | .destination => { p with destination := pool }
  | .pattern => { p with pattern := pool }
  | .placement => { p with placement := pool }

@[simp] theorem get_set_self (p : Pools) (role : Role) (pool : SlotPool) :
    (p.set role pool).get role = pool := by
  cases role <;> rfl

@[simp] theorem set_set (p : Pools) (role : Role) (a b : SlotPool) :
    (p.set role a).set role b = p.set role b := by
  cases role <;> rfl

theorem get_set_of_ne (p : Pools) {r s : Role} (pool : SlotPool) (h : s ≠ r) :
    (p.set r pool).get s = p.get s := by
  cases r <;> cases s <;> first | rfl | exact absurd rfl h

end Pools
end Blitter
