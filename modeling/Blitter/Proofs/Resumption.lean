import Mathlib.Data.List.Basic
import Blitter.Proofs.CallEffect
import Blitter.Proofs.Fences

/-!
# Resuming a flush

A flush hands over what is in flight, oldest first, and stops at a frame that the consumer refuses.
This frame is gone, but the session is none the worse for it: what was behind it is still in flight
in the slots it had, and the next flush goes on from there. What the waits come to never matters.
-/
namespace Blitter

/-- A job in flight, with the fence by which it is waited for and the frame that it writes. -/
structure Pending where
  job : Job
  fence : Int
  frame : Frame
  deriving DecidableEq

def Operation.pending (o : Operation) : Pending := ⟨o.job, o.fence, o.frame⟩

/-- A consumer that has been handed the first frames takes each of the others after them. -/
def Host.Takes (host : Host) : List Frame → List Frame → Prop
  | _, [] => True
  | given, frame :: rest =>
    host.deliver (given ++ [frame]) = .ok () ∧ host.Takes (given ++ [frame]) rest

namespace Journal

/-- The journal once these jobs were waited for and their frames taken. -/
def served (j : Journal) (pending : List Pending) : Journal :=
  { j with
    synced := j.synced ++ pending.map (·.fence)
    handed := j.handed ++ pending.map fun d => ⟨d.frame, true⟩ }

/-- The journal once a job was waited for and its frame refused. -/
def refused (j : Journal) (d : Pending) : Journal :=
  { j with synced := j.synced ++ [d.fence], handed := j.handed ++ [⟨d.frame, false⟩] }

/-- The journal once the end of the stream was signalled. -/
def ended (j : Journal) : Journal := { j with ends := j.ends + 1 }

/-- The frames that the consumer was handed. -/
def offered (j : Journal) : List Frame := j.handed.map (·.frame)

@[simp] theorem served_nil (j : Journal) : j.served [] = j := by simp [served]

theorem offered_served (j : Journal) (pending : List Pending) :
    (j.served pending).offered = j.offered ++ pending.map (·.frame) := by
  simp [offered, served]

end Journal

namespace Pipeline

variable {p : Pipeline} {ops : List Operation} {host : Host} {j : Journal}

/-- Frames that are taken are out of the way of the others. -/
theorem conclude_append {before : List Operation}
    (h : host.Takes j.offered (before.map (·.frame))) (rest : List Operation) :
    let served := j.served (before.map (·.pending))
    conclude host true (before ++ rest) j =
      ((conclude host true rest served).1.map (before.length + ·),
        (conclude host true rest served).2) := by
  induction before generalizing j with
  | nil =>
    have hzero (r : Except Error Nat) : r.map (0 + ·) = r := by
      cases r <;> simp [Except.map]
    exact Prod.ext ((hzero _).symm.trans (by simp)) (by simp)
  | cons o before ih =>
    obtain ⟨htaken, hbefore⟩ := h
    let next := j.served [o.pending]
    have hnext : next.offered = j.offered ++ [o.frame] := j.offered_served _
    have hgiven : host.runDeliver o.frame (host.runSync o.fence j).2 = (.ok (), next) :=
      Host.runDeliver_of htaken
    have hserved : next.served (before.map (·.pending)) =
        j.served ((o :: before).map (·.pending)) := by
      simp [next, Journal.served]
    rw [List.cons_append, conclude_taken hgiven, ih (hnext ▸ hbefore), hserved]
    refine Prod.ext ?_ rfl
    rcases (conclude host true rest _).1 with e | n
    · rfl
    · simp only [Except.map, List.length_cons]
      congr 1
      omega

/-- Finishing for a consumer that takes everything. -/
theorem drainAll_taken (h : p.Carries ops)
    (htakes : host.Takes p.journal.offered (ops.map (·.frame))) :
    ∃ q, drainAll host true p = (.ok ops.length, q) ∧ q.Carries [] ∧
      q.journal = p.journal.served (ops.map (·.pending)) := by
  obtain ⟨pools, hheld, hfinish⟩ := finish_run host true h.held h.fenced h.jobs
  have hended := conclude_append htakes []
  rw [List.append_nil] at hended
  rw [hended] at hheld hfinish
  exact ⟨_, (bind_of_ok get_run).trans (h.jobs ▸ hfinish), ⟨rfl, hheld, by simp⟩, rfl⟩

/-- Finishing for a consumer that refuses one of the frames leaves the operations behind it. -/
theorem drainAll_refused {before rest : List Operation} {o : Operation} {e : Error}
    (h : p.Carries (before ++ o :: rest))
    (htakes : host.Takes p.journal.offered (before.map (·.frame)))
    (hrefuses : host.deliver (p.journal.offered ++ before.map (·.frame) ++ [o.frame]) =
      .error e) :
    ∃ q, drainAll host true p = (.error (.error e), q) ∧ q.Carries rest ∧
      q.journal = (p.journal.served (before.map (·.pending))).refused o.pending := by
  obtain ⟨pools, hheld, hfinish⟩ := finish_run host true h.held h.fenced h.jobs
  let served := p.journal.served (before.map (·.pending))
  have hoffered : served.offered = p.journal.offered ++ before.map (·.frame) := by
    simp [served, Journal.offered_served, Operation.pending, Function.comp_def]
  rw [← hoffered] at hrefuses
  have hgiven : host.runDeliver o.frame (host.runSync o.fence served).2 =
      (.error e, served.refused o.pending) :=
    Host.runDeliver_of hrefuses
  rw [conclude_append htakes, conclude_refused hgiven] at hheld hfinish
  exact ⟨_, (bind_of_ok get_run).trans (h.jobs ▸ hfinish),
    ⟨rfl, hheld, fun o' ho => h.fenced o' (by simp [ho])⟩, rfl⟩

end Pipeline

namespace Session

variable {host later : Host} {s t : Session} {ops : List Operation} {pending : List Pending}

/-- The frames that the jobs in flight write. -/
def pendingFrames (s : Session) : List (Option Frame) :=
  s.pipeline.jobs.map fun job =>
    (s.pipeline.pools.destination.slot? job.destination).bind (·.frame)

/-- In flight are these jobs, oldest first. Their slots have these fences and frames and are
locked, and no others are. -/
structure Queues (s : Session) (pending : List Pending) : Prop where
  jobs : s.pipeline.jobs = pending.map (·.job)
  fences : s.pendingFences = pending.map fun d => some d.fence
  frames : s.pendingFrames = pending.map fun d => some d.frame
  locked : ∀ role id, (∃ slot, (s.pipeline.pools.get role).slot? id = some slot ∧
    slot.locked = true) ↔ id ∈ s.slotsInFlight role

theorem pendingFrames_eq (h : s.pipeline.Carries ops) :
    s.pendingFrames = ops.map fun o => some o.frame := by
  have hheld : s.pipeline.pools.destination.Holds (Pools.cargoes .destination ops) :=
    h.held .destination
  unfold pendingFrames
  rw [h.jobs, List.map_map]
  refine List.map_congr_left fun o ho => ?_
  have htarget : o.target ∈ Pools.cargoes .destination ops := List.mem_filterMap.2 ⟨o, ho, rfl⟩
  have hslot := hheld.stowed _ htarget
  change (s.pipeline.pools.destination.slot? o.target.slot).bind _ = some o.frame
  rw [hslot]
  rfl

theorem queues_of_carries (h : s.pipeline.Carries ops) : s.Queues (ops.map (·.pending)) := by
  refine ⟨?_, ?_, ?_, locked_iff h⟩
  · rw [h.jobs, List.map_map]
    rfl
  · rw [pendingFences_eq h, List.map_map, List.map_map]
    rfl
  · rw [pendingFrames_eq h, List.map_map]
    rfl

/-- A flush for a consumer that takes everything: each job is waited for and its frame handed over,
in order, and the end of the stream is signalled. Nothing is left in flight, so another flush only
signals the end once more. -/
structure FlushesAll (host : Host) (s : Session) (pending : List Pending) : Prop where
  answer : (call host .flush s).1 = .ok none
  journal : (s.after host .flush).pipeline.journal = (s.pipeline.journal.served pending).ended
  emptied : (s.after host .flush).Queues []
  again : ∀ later, (call later .flush (s.after host .flush)).1 = .ok none ∧
    ((s.after host .flush).after later .flush).pipeline.journal =
      (s.after host .flush).pipeline.journal.ended

theorem flush_taken (host : Host) (h : s.pipeline.Carries ops)
    (htakes : host.Takes s.pipeline.journal.offered (ops.map (·.frame))) :
    (call host .flush s).1 = .ok none ∧ (s.after host .flush).pipeline.Carries [] ∧
      (s.after host .flush).pipeline.journal =
        (s.pipeline.journal.served (ops.map (·.pending))).ended := by
  obtain ⟨q, hdrain, hcarries, hjournal⟩ := Pipeline.drainAll_taken h htakes
  have hcall := call_flush (r := .ok ops.length) hdrain
  rw [after, hcall]
  exact ⟨rfl, ⟨hcarries.jobs, hcarries.held, hcarries.fenced⟩, by rw [← hjournal]; rfl⟩

theorem flushesAll_of_takes (h : s.pipeline.Carries ops)
    (htakes : host.Takes s.pipeline.journal.offered (ops.map (·.frame))) :
    FlushesAll host s (ops.map (·.pending)) := by
  obtain ⟨hanswer, hcarries, hjournal⟩ := flush_taken host h htakes
  refine ⟨hanswer, hjournal, queues_of_carries hcarries, fun later => ?_⟩
  obtain ⟨hagain, -, hsignalled⟩ := flush_taken later hcarries trivial
  exact ⟨hagain, by rw [hsignalled]; simp⟩

/-- A flush for a consumer that takes the frames of the first jobs and refuses the next one. The
error is passed on and the end of the stream not signalled. The jobs up to the refused one were
waited for and their slots are unlocked. The others are in flight as before, and a consumer that
takes them is handed these and no others by a later flush. -/
structure Interrupted (host : Host) (s : Session) (before : List Pending) (d : Pending)
    (rest : List Pending) (e : Error) : Prop where
  answer : (call host .flush s).1 = .error (.error e)
  journal : (s.after host .flush).pipeline.journal =
    (s.pipeline.journal.served before).refused d
  queued : (s.after host .flush).Queues rest
  unlocked : ∀ gone ∈ before ++ [d], ∀ role id, gone.job.slot? role = some id →
    ∀ slot, ((s.after host .flush).pipeline.pools.get role).slot? id = some slot →
      slot.locked = false
  intact : ∀ role, ∀ id ∈ (s.after host .flush).slotsInFlight role,
    ((s.after host .flush).pipeline.pools.get role).slot? id =
      (s.pipeline.pools.get role).slot? id
  resumes : ∀ later : Host,
    later.Takes (s.after host .flush).pipeline.journal.offered (rest.map (·.frame)) →
      FlushesAll later (s.after host .flush) rest

/-- Slots of operations that have left are not locked: no two operations have one in common. -/
theorem unlocked_of_carries {gone rest : List Operation} (h : s.pipeline.Carries (gone ++ rest))
    (ht : t.pipeline.Carries rest) {o : Operation} (ho : o ∈ gone) {role : Role} {id : SlotId}
    (hid : o.job.slot? role = some id) {slot : Slot}
    (hslot : (t.pipeline.pools.get role).slot? id = some slot) : slot.locked = false := by
  -- A slot that is locked belongs to an operation that is left, so none of those gone had it.
  have hnodup := (h.held role).nodup
  rw [Pools.cargoes, List.filterMap_append, List.map_append, List.nodup_append] at hnodup
  rw [slot?_job, Option.map_eq_some_iff] at hid
  obtain ⟨c, hc, rfl⟩ := hid
  have hgone : c.slot ∈ (gone.filterMap (·.cargo? role)).map (·.slot) :=
    List.mem_map_of_mem (List.mem_filterMap.2 ⟨o, ho, hc⟩)
  refine Bool.eq_false_iff.2 fun hlocked => ?_
  exact hnodup.2.2 _ hgone _ ((ht.held role).locked _ _ hslot hlocked) rfl

theorem interrupted_of_refused {before rest : List Operation} {o : Operation} {e : Error}
    (h : s.pipeline.Carries (before ++ o :: rest))
    (htakes : host.Takes s.pipeline.journal.offered (before.map (·.frame)))
    (hrefuses : host.deliver
      (s.pipeline.journal.offered ++ before.map (·.frame) ++ [o.frame]) = .error e) :
    Interrupted host s (before.map (·.pending)) o.pending (rest.map (·.pending)) e := by
  obtain ⟨q, hdrain, hq, hjournal⟩ := Pipeline.drainAll_refused h htakes hrefuses
  have hcall := call_flush (r := .error e) hdrain
  have hafter : (s.after host .flush).pipeline = q := by
    rw [after, hcall]
    rfl
  have hcarries : (s.after host .flush).pipeline.Carries rest := hafter ▸ hq
  refine ⟨by rw [hcall]; rfl, hafter ▸ hjournal, queues_of_carries hcarries, ?_,
    slots_of_subset h hcarries (by simp), ?_⟩
  · rw [List.append_cons] at h
    rw [← List.map_singleton, ← List.map_append]
    intro gone hgone role id hid slot hslot
    obtain ⟨o', ho', rfl⟩ := List.mem_map.1 hgone
    exact unlocked_of_carries h hcarries ho' hid hslot
  · intro later htakes
    rw [List.map_map] at htakes
    exact flushesAll_of_takes hcarries htakes

/-- Flushing what is in flight after a run, for whatever consumer and whatever the waits come to. If
every frame is taken, all jobs are finished. If one is refused, the jobs up to it are gone, those
behind it stay as they are, and a later flush finishes them. -/
theorem flush_resumes {inputs : List Pad} {output : Pad} {p : Parameters} {o : Options}
    (h : create host inputs output p o = .ok s) (calls : List Call) :
    let t := s.run host calls
    ∃ pending, t.Queues pending ∧ ∀ consumer : Host,
      (consumer.Takes t.pipeline.journal.offered (pending.map (·.frame)) →
        FlushesAll consumer t pending) ∧
      ∀ before d rest e, pending = before ++ d :: rest →
        consumer.Takes t.pipeline.journal.offered (before.map (·.frame)) →
        consumer.deliver (t.pipeline.journal.offered ++ before.map (·.frame) ++ [d.frame]) =
          .error e →
        Interrupted consumer t before d rest e := by
  intro t
  obtain ⟨ops, hcarries⟩ : ∃ ops, t.pipeline.Carries ops :=
    ⟨_, (run_accounts host (create_ok h).1.carries calls).carries⟩
  have hframes (ops : List Operation) :
      (ops.map (·.pending)).map (·.frame) = ops.map (·.frame) := List.map_map
  refine ⟨ops.map (·.pending), queues_of_carries hcarries, fun consumer => ⟨fun htakes => ?_, ?_⟩⟩
  · rw [hframes] at htakes
    exact flushesAll_of_takes hcarries htakes
  · intro before d rest e hsplit htakes hrefuses
    obtain ⟨before, more, rfl, rfl, hmore⟩ := List.map_eq_append_iff.1 hsplit
    obtain ⟨o, rest, rfl, rfl, rfl⟩ := List.map_eq_cons_iff.1 hmore
    rw [hframes] at htakes hrefuses
    exact interrupted_of_refused hcarries htakes hrefuses

/-- Three jobs that cannot be waited for, and a consumer that refuses the second frame. -/
theorem flush_resumes_sample :
    let s : Session := { Sample.session with afbcOutput := false, pipeline := { depth := 3 } }
    let calls : List Call := [.process (Sample.frame 1) none, .process (Sample.frame 2) none,
      .process (Sample.frame 3) none]
    let t := s.run Sample.host calls
    let consumer : Host := { Sample.host with
      sync := fun _ => some "timed out"
      deliver := fun frames => if frames.length = 2 then .error (.delivery "full") else .ok () }
    create Sample.host [Sample.mainPad, Sample.overlayPad] Sample.mainPad { alpha := 255 }
        { depth := 3 } = .ok s ∧
      ∃ a b c, t.Queues [a, b, c] ∧ FlushesAll Sample.host t [a, b, c] ∧
        Interrupted consumer t [a] b [c] (.delivery "full") ∧
        FlushesAll Sample.host (t.after consumer .flush) [c] := by
  intro s calls t consumer
  have hcreate : create Sample.host [Sample.mainPad, Sample.overlayPad] Sample.mainPad
      { alpha := 255 } { depth := 3 } = .ok s := ok_of_toOption (by decide +kernel)
  obtain ⟨pending, hqueues, hflush⟩ := flush_resumes hcreate calls
  have hlength : (s.run Sample.host calls).pipeline.jobs.length = 3 := by decide +kernel
  have hoffered : (s.run Sample.host calls).pipeline.journal.offered = [] := by decide +kernel
  rw [hqueues.jobs, List.length_map] at hlength
  obtain ⟨a, b, c, rfl⟩ := List.length_eq_three.1 hlength
  have hinterrupted : Interrupted consumer t [a] b [c] (.delivery "full") := by
    refine (hflush consumer).2 [a] b [c] _ rfl ?_ ?_
    · rw [hoffered]
      exact ⟨rfl, trivial⟩
    · rw [hoffered]
      rfl
  exact ⟨hcreate, a, b, c, hqueues, (hflush Sample.host).1 ⟨rfl, rfl, rfl, trivial⟩, hinterrupted,
    hinterrupted.resumes Sample.host ⟨rfl, trivial⟩⟩

end Session
end Blitter
