import Blitter.Proofs.Holding
import Blitter.Proofs.Outcome

/-!
# The extent of a pipeline

How many blits may be in flight and how many slots each pool has. Only taking a slot into use can
change it: every other operation of the pipeline changes slots where they are.
-/
namespace Blitter

namespace Pipeline

variable {α γ : Type} {read : Pipeline → γ}

/-- The depth, and the size of each pool. -/
def extent (p : Pipeline) : Nat × (Role → Nat) := (p.depth, fun role => (p.pools.get role).size)

theorem extent_set {p : Pipeline} {role : Role} {q : SlotPool}
    (h : q.size = (p.pools.get role).size) :
    extent { p with pools := p.pools.set role q } = extent p := by
  refine Prod.ext rfl (funext fun r => ?_)
  change ((p.pools.set role q).get r).size = (p.pools.get r).size
  by_cases hr : r = role
  · subst hr
    rw [Pools.get_set_self, h]
  · rw [Pools.get_set_of_ne _ _ hr]

/-! ## Steps -/

theorem keeps_orFail (x : Except Error α) : Keeps read (orFail x) := by
  cases x <;> exact fun _ => rfl

theorem keeps_surface (role : Role) (id : SlotId) : Keeps read (surface role id) := by
  refine Keeps.get.bind fun p => ?_
  cases (p.pools.get role).surface? id <;> exact fun _ => rfl

theorem keeps_ask (request : Journal → α × Journal) : Keeps extent (ask request) := fun _ => rfl

theorem keeps_onSlot (role : Role) (id : SlotId) (change : Slot → Slot) :
    Keeps extent (onSlot role id (·.modify? · change)) := by
  intro p
  unfold onSlot
  rw [bind_of_ok get_run]
  dsimp only
  cases h : (p.pools.get role).modify? id change with
  | none => rfl
  | some q => exact extent_set (SlotPool.size_of_modify? h)

theorem keeps_takeFrame (id : SlotId) : Keeps extent (takeFrame id) := by
  intro p
  unfold takeFrame
  rw [bind_of_ok get_run]
  cases h : p.pools.destination.takeFrame? id with
  | none => rfl
  | some taken =>
    obtain ⟨s, -, hmodify⟩ := Option.bind_eq_some_iff.1 h
    obtain ⟨q, hq, htaken⟩ := Option.bind_eq_some_iff.1 hmodify
    cases htaken
    exact extent_set (SlotPool.size_of_modify? hq)

theorem keeps_setLocked (job : Job) (locked : Bool) : Keeps extent (setLocked job locked) := by
  refine (keeps_onSlot _ _ _).bind fun _ => (keeps_onSlot _ _ _).bind fun _ => ?_
  split
  · exact .pure _
  · exact keeps_onSlot _ _ _

/-! ## Operations -/

theorem keeps_blitTo (host : Host) (source : Surface) (role : Role) (id : SlotId)
    (pattern : Option Surface) : Keeps extent (blitTo host source role id pattern) :=
  (keeps_surface _ _).bind fun _ => (keeps_ask _).bind fun _ => (keeps_onSlot _ _ _).bind fun _ =>
    keeps_orFail _

theorem keeps_submit (host : Host) (job : Job) : Keeps extent (submit host job) := by
  have hissue (pattern : Option Surface) : Keeps extent (do
      let source ← surface .source job.source
      blitTo host source .destination job.destination pattern
      setLocked job true
      modify fun p => { p with jobs := p.jobs ++ [job] }) :=
    (keeps_surface _ _).bind fun _ => (keeps_blitTo _ _ _ _ _).bind fun _ =>
      (keeps_setLocked _ _).bind fun _ _ => rfl
  unfold submit
  cases job.pattern with
  | none => exact (Keeps.pure none).bind hissue
  | some id => exact (keeps_surface _ _).map.bind hissue

theorem keeps_wait (host : Host) (job : Job) : Keeps extent (wait host job) := by
  refine (keeps_surface _ _).bind fun _ => (keeps_onSlot _ _ _).bind fun _ => ?_
  split
  · exact .pure _
  · exact keeps_ask _

theorem keeps_retire (host : Host) (job : Job) : Keeps extent (retire host job) :=
  (keeps_wait _ _).bind fun _ => (keeps_setLocked _ _).bind fun _ =>
    (keeps_takeFrame _).bind fun _ => .pure _

theorem keeps_deliver (host : Host) (frame : Frame) : Keeps extent (deliver host frame) :=
  (keeps_ask _).bind fun _ => keeps_orFail _

theorem keeps_drainOverDepth (host : Host) : Keeps extent (drainOverDepth host) := by
  refine Keeps.get.bind fun p => ?_
  split
  · exact .pure _
  · split
    · exact .pure _
    · refine Keeps.bind (fun _ => rfl) fun _ => (keeps_retire _ _).bind ?_
      rintro ⟨waited, frame⟩
      refine (keeps_orFail waited).bind fun _ => ?_
      cases frame with
      | none => exact .pure _
      | some frame => exact (keeps_deliver _ _).bind fun _ => .pure _

theorem keeps_finish (host : Host) (delivering : Bool) (jobs : List Job) :
    Keeps extent (finish host delivering jobs) := by
  induction jobs with
  | nil => exact .pure _
  | cons job rest ih =>
    have hrest (count : Nat) : Keeps extent (do return count + (← finish host delivering rest)) :=
      ih.bind fun _ => .pure _
    refine Keeps.bind (fun _ => rfl) fun _ => (keeps_retire _ _).bind ?_
    rintro ⟨waited, frame⟩
    cases frame with
    | none => exact (Keeps.pure 0).bind hrest
    | some frame =>
      cases delivering with
      | false => exact (Keeps.pure 0).bind hrest
      | true => exact (keeps_deliver _ _).bind fun _ => (Keeps.pure 1).bind hrest

theorem keeps_drainAll (host : Host) (delivering : Bool) :
    Keeps extent (drainAll host delivering) :=
  Keeps.get.bind fun _ => keeps_finish _ _ _

end Pipeline
end Blitter
