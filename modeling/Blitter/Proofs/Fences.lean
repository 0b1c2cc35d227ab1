import Blitter.Proofs.Accounts
import Blitter.Proofs.Start

/-!
# Fences

Every accepted blit leaves a fence, in a slot that is used again later. The fences are waited for in
the order in which they were handed out, each once, whatever the waits and the deliveries between
them come to; closing waits for the rest.
-/
namespace Blitter

namespace Session

variable {host : Host} {s : Session} {ops : List Operation}

/-- The fences of the main blits that the hardware has accepted. -/
def acceptedFences (s : Session) : List Int :=
  (s.mainBlits.filter (·.isAccepted)).map (·.answer.fence)

/-- The fences that the surfaces of the jobs in flight hold. -/
def pendingFences (s : Session) : List (Option Int) :=
  s.pipeline.jobs.map fun job =>
    (s.pipeline.pools.destination.surface? job.destination).map (·.outFence)

theorem pendingFences_eq (h : s.pipeline.Carries ops) :
    s.pendingFences = (ops.map (·.fence)).map some := by
  have hheld : s.pipeline.pools.destination.Holds (Pools.cargoes .destination ops) :=
    h.held .destination
  unfold pendingFences
  rw [h.jobs, List.map_map, List.map_map]
  refine List.map_congr_left fun o ho => ?_
  have htarget : o.target ∈ Pools.cargoes .destination ops :=
    List.mem_filterMap.2 ⟨o, ho, rfl⟩
  have hslot := hheld.stowed _ htarget
  change Option.map _ (s.pipeline.pools.destination.surface? o.target.slot) = some o.fence
  rw [SlotPool.surface?, hslot]
  rfl

/-- The fences of the operations in flight come after those that have been waited for. -/
theorem run_fences (hs : Started host s) (calls : List Call) :
    let t := s.run host calls
    let left := (s.operations host calls).drop (s.fates host calls).length
    t.acceptedFences = t.pipeline.journal.synced ++ left.map (·.fence) ∧
      t.pendingFences = (left.map (·.fence)).map some := by
  intro t left
  have haccounts := run_accounts host hs.carries calls
  have haccepted : t.acceptedFences = (s.operations host calls).map (·.fence) := by
    rw [acceptedFences, haccounts.blits, mainBlits, hs.journal]
    change List.map _ (List.filter _ (List.map _ _)) = _
    rw [List.filter_map, List.map_map]
    rfl
  have hsynced : t.pipeline.journal.synced =
      ((s.operations host calls).take (s.fates host calls).length).map (·.fence) := by
    rw [haccounts.synced, hs.journal]
    rfl
  refine ⟨?_, pendingFences_eq haccounts.carries⟩
  rw [haccepted, hsynced, ← List.map_append, List.take_append_drop]

/-- Closing waits for the fences of what is in flight, oldest first. -/
theorem close_fences (host : Host) (h : s.pipeline.Carries ops) :
    let closed := s.after host .close
    closed.pipeline.Carries [] ∧ closed.acceptedFences = s.acceptedFences ∧
      closed.pipeline.journal.synced = s.pipeline.journal.synced ++ ops.map (·.fence) := by
  intro closed
  have haccounts := (close_accounts host h).1
  have hnone : ops ++ accepted [] = ops := List.append_nil ops
  have hcarries := haccounts.carries
  have hsynced := haccounts.synced
  rw [hnone, List.length_replicate, List.drop_length] at hcarries
  rw [hnone, List.length_replicate, List.take_length] at hsynced
  refine ⟨hcarries, ?_, hsynced⟩
  rw [acceptedFences, haccounts.blits, List.map_nil, List.append_nil]
  rfl

/-- In every run the fences of accepted blits are waited for in order and each once; those of the
jobs in flight are still to come. Closing waits for these and no others, and then there is nothing
left to wait for. -/
theorem fences_waited_once (hs : Started host s) (calls : List Call) :
    let t := s.run host calls
    let closed := t.after host .close
    (∃ pending, t.acceptedFences = t.pipeline.journal.synced ++ pending ∧
      t.pendingFences = pending.map some) ∧
    closed.pipeline.journal.synced = closed.acceptedFences ∧
    closed.acceptedFences = t.acceptedFences ∧
    (closed.after host .close).pipeline.journal.synced = closed.pipeline.journal.synced := by
  intro t closed
  obtain ⟨haccepted, hpending⟩ := run_fences hs calls
  obtain ⟨hcarries, hsame, hsynced⟩ :=
    close_fences host (run_accounts host hs.carries calls).carries
  obtain ⟨-, -, hagain⟩ := close_fences host hcarries
  refine ⟨⟨_, haccepted, hpending⟩, ?_, hsame, ?_⟩
  · rw [hsame, haccepted]
    exact hsynced
  · rw [hagain, List.map_nil, List.append_nil]

theorem fences_waited_once_sample :
    let t := Sample.session.run Sample.host
      [.process (Sample.frame 1) none, .process (Sample.frame 2) none]
    let closed := t.after Sample.host .close
    Started Sample.host Sample.session ∧ t.pipeline.journal.synced = [1] ∧
      closed.pipeline.journal.synced = closed.acceptedFences ∧ closed.acceptedFences = [1, 2] :=
  ⟨Sample.started, by decide +kernel, (fences_waited_once Sample.started _).2.1, by decide +kernel⟩

end Session
end Blitter
