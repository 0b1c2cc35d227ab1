import Blitter.Proofs.Accounts
import Blitter.Proofs.Start

/-!
# Custody of slots

The slots of the jobs in flight are locked, and no others are. Each still has the frame and the
surface it was submitted with, and no call takes one of them into use for something else. So no call
ever asks for a slot that is missing, and no job is without its frame when it is finished.
-/
namespace Blitter

/-- The slot that a job has in a role's pool. -/
def Job.slot? (j : Job) : Role → Option SlotId
  | .source => some j.source
  | .destination => some j.destination
  | .pattern => j.pattern
  | .placement => none

/-- The job of an operation names the slots of its cargoes. -/
theorem slot?_job (o : Operation) (role : Role) :
    o.job.slot? role = (o.cargo? role).map (·.slot) := by
  cases role <;> rfl

namespace Session

variable {host : Host} {s t u : Session} {ops : List Operation} {role : Role}

/-- The slots of the jobs in flight in a role's pool. -/
def slotsInFlight (s : Session) (role : Role) : List SlotId :=
  s.pipeline.jobs.filterMap (·.slot? role)

theorem slotsInFlight_eq (h : s.pipeline.Carries ops) (role : Role) :
    s.slotsInFlight role = (Pools.cargoes role ops).map (·.slot) := by
  unfold slotsInFlight Pools.cargoes
  rw [h.jobs, List.filterMap_map, List.map_filterMap]
  congr 1
  funext o
  exact slot?_job o role

/-- A slot is locked as long as a job in flight has it. -/
theorem locked_iff (h : s.pipeline.Carries ops) (role : Role) (id : SlotId) :
    (∃ slot, (s.pipeline.pools.get role).slot? id = some slot ∧ slot.locked = true) ↔
      id ∈ s.slotsInFlight role := by
  rw [slotsInFlight_eq h]
  constructor
  · rintro ⟨slot, hslot, hlocked⟩
    exact (h.held role).locked id slot hslot hlocked
  · intro hid
    obtain ⟨c, hc, rfl⟩ := List.mem_map.1 hid
    exact ⟨_, (h.held role).stowed c hc, rfl⟩

/-! ## Described frames lie in the buffers that their surfaces name -/

theorem fd_of_overlaid {view : View} {overlay : Frame} {c : Cargo}
    (h : Overlaid host s view overlay c) : c.frame.fd? = some c.surface.fd := by
  rcases h with ⟨hframe, hdescribed⟩ | ⟨input, answer, surface, -, hdescribed, hshown⟩
  · rw [hframe]
    exact describeInput_fd (Prod.ext hdescribed rfl)
  · obtain ⟨allocated, -, hcanvas⟩ := ok_of_bind hdescribed
    rw [hshown]
    exact (describeCanvas_ok hcanvas).1

theorem Prepared.fd {source : Frame} {overlay : Option Frame} {l : Load}
    (h : Prepared host s source overlay u l t) (role : Role) {c : Cargo}
    (hc : l.cargo? role = some c) : c.frame.fd? = some c.surface.fd := by
  cases role with
  | source =>
    cases hc
    rw [h.given]
    exact describeInput_fd h.input
  | destination =>
    cases hc
    obtain ⟨-, -, -, hfd, -⟩ := h.destination
    exact hfd
  | pattern =>
    have hblends := h.overlaid
    rcases hactive : s.activeOverlay? overlay with _ | ⟨view, frame⟩
    · rw [hactive] at hblends
      cases hblends.1.symm.trans hc
    · rw [hactive] at hblends
      obtain ⟨-, c', hc', -, hoverlaid⟩ := hblends
      cases hc'.symm.trans hc
      exact fd_of_overlaid hoverlaid
  | placement => cases hc

/-- Also when the blit has been issued. -/
theorem Prepared.fd_of_operation {source : Frame} {overlay : Option Frame} {o : Operation}
    (h : Prepared host s source overlay u o.load t) {c : Cargo} (hc : o.cargo? role = some c) :
    c.frame.fd? = some c.surface.fd := by
  cases role with
  | source => exact h.fd .source hc
  | destination =>
    cases hc
    exact h.fd .destination (c := o.load.destination) rfl
  | pattern => exact h.fd .pattern hc
  | placement => cases hc

/-! ## Slots taken into use -/

/-- No job in flight has the slot. -/
def IsFree (ops : List Operation) (a : Role × SlotId) : Prop :=
  a.2 ∉ (Pools.cargoes a.1 ops).map (·.slot)

theorem taken_free (h : s.pipeline.pools.Holds ops) (role : Role) :
    IsFree ops (role, (s.taken role).1) :=
  (h role).recycle.acquire.2.1

theorem overlaySlots_free (h : s.pipeline.pools.Holds ops) (view : View) (overlay : Frame) :
    ∀ a ∈ s.overlaySlots view overlay, IsFree ops a := by
  obtain ⟨r, t, hinput, hund, -⟩ := submitInput_yields .placement view overlay false s
  have hplacement := taken_free h .placement
  have hpattern := taken_free (hund.holds h) .pattern
  unfold overlaySlots
  rw [hinput]
  split
  · cases r with
    | error e => simpa using hplacement
    | ok id => simpa using ⟨hplacement, hpattern⟩
  · simpa using taken_free h .pattern

/-- Slots are taken into use only when no job in flight has them. -/
theorem acquisitions_free (h : s.pipeline.pools.Holds ops) (host : Host) (source : Frame)
    (overlay : Option Frame) : ∀ a ∈ s.acquisitions host source overlay, IsFree ops a := by
  obtain ⟨r, t, hinput, hund, -⟩ :=
    submitInput_yields .source s.main source (s.activeOverlay? overlay).isSome s
  obtain ⟨r', u, houtput, hund', -⟩ := queryOutput_lands host source t
  have hsource := taken_free h .source
  have hdestination := taken_free (hund.holds h) .destination
  simp only [acquisitions, hinput]
  cases r with
  | error e => simpa using hsource
  | ok id =>
    simp only [houtput]
    cases r' with
    | error e => simpa using ⟨hsource, hdestination⟩
    | ok id' =>
      rcases s.activeOverlay? overlay with _ | ⟨view, frame⟩
      · simpa using ⟨hsource, hdestination⟩
      · have hoverlay := overlaySlots_free (hund'.holds (hund.holds h)) view frame
        simpa [List.forall_mem_cons] using ⟨hsource, hdestination, fun a b => hoverlay (a, b)⟩

theorem overlaySlots_roles (s : Session) (view : View) (overlay : Frame) :
    ((s.overlaySlots view overlay).map (·.1)).Sublist [.placement, .pattern] := by
  unfold overlaySlots
  split
  · split <;> simp
  · simp

/-- No pool is asked for a slot twice in a call. -/
theorem acquisitions_roles (host : Host) (s : Session) (source : Frame) (overlay : Option Frame) :
    ((s.acquisitions host source overlay).map (·.1)).Sublist touched := by
  unfold acquisitions touched
  simp only [List.map_cons]
  refine List.Sublist.cons_cons _ ?_
  split
  · simp
  · rw [List.map_cons]
    refine List.Sublist.cons_cons _ ?_
    split
    · simp
    · rcases s.activeOverlay? overlay with _ | ⟨view, frame⟩
      · simp
      · exact overlaySlots_roles _ view frame

/-! ## Calls find every slot they name -/

theorem call_finds_slots (host : Host) (h : s.pipeline.Carries ops) (c : Call) (id : SlotId) :
    (call host c s).1 ≠ .error (.noSlot id) := by
  cases c with
  | process source overlay =>
    obtain ⟨r, t, f, hrun, -, hr⟩ := process_cases host source overlay h
    rw [call_process, hrun]
    cases hr with
    | handed o ho ha hover answer => cases answer <;> nofun
    | _ => nofun
  | flush =>
    obtain ⟨q, r, n, given, hdrain, -, -⟩ := Pipeline.drainAll_delivering host h
    rw [call_flush hdrain]
    cases r <;> nofun
  | close => nofun

/-- A call that delivers nothing has let nothing go. -/
theorem inFlight_of_notReady (h : s.pipeline.Carries ops) {source : Frame}
    {overlay : Option Frame} (hr : (process host source overlay s).1 = .ok .notReady) :
    (s.after host (.process source overlay)).inFlight = s.inFlight + 1 := by
  obtain ⟨haccounts, hend⟩ := process_accounts host source overlay h
  have hjobs := haccounts.carries.jobs
  generalize s.departures host (.process source overlay) = f at hjobs hend
  generalize (process host source overlay s).1 = r at hr hend
  cases hend with
  | queued o ho ha hfits =>
    have hone : accepted (s.attempt? host (.process source overlay)).toList = [o] := by
      rw [ho]
      exact List.filter_cons_of_pos ha
    rw [hone] at hjobs
    unfold inFlight
    rw [hjobs, h.jobs]
    simp
  | refused e he => cases hr
  | handed o ho ha hover answer => cases answer <;> cases hr
  | waitFailed o oldest text ho ha hover holdest hsync => cases hr

/-- What holds of the slots in every state that a run reaches. -/
structure Custody (host : Host) (s : Session) (calls : List Call) : Prop where
  /-- The locked slots are those of the jobs in flight. -/
  locked : ∀ role id, (∃ slot, ((s.run host calls).pipeline.pools.get role).slot? id = some slot ∧
    slot.locked = true) ↔ id ∈ (s.run host calls).slotsInFlight role
  /-- No two jobs have a slot in common. -/
  distinct : ∀ role, ((s.run host calls).slotsInFlight role).Nodup
  /-- The slots of a job are in use and have what it was submitted with. -/
  kept : ∀ (i : Nat) (job : Job), (s.run host calls).pipeline.jobs[i]? = some job →
    ∃ o before source overlay rest, job = o.job ∧
      calls = before ++ .process source overlay :: rest ∧
      (s.run host before).attempt? host (.process source overlay) = some o ∧
      ∀ role id, job.slot? role = some id → ∃ c, o.cargo? role = some c ∧
        ((s.run host calls).pipeline.pools.get role).slot? id = some (c.inSlot true) ∧
        c.frame.fd? = some c.surface.fd
  /-- A slot that is not in use is not locked, and there is no frame in it. -/
  idle : ∀ role id slot, ((s.run host calls).pipeline.pools.get role).slot? id = some slot →
    slot.queued = false → slot.locked = false ∧ slot.frame = none
  /-- Every slot that a call takes into use is free of jobs in flight, and is taken once. -/
  taken : ∀ source overlay,
    let slots := (s.run host calls).acquisitions host source overlay
    slots.Nodup ∧ ∀ role id, (role, id) ∈ slots → id ∉ (s.run host calls).slotsInFlight role
  /-- No call looks for a slot that is missing, closing included. -/
  found : ∀ c id, (call host c (s.run host calls)).1 ≠ .error (.noSlot id)
  closed : ∃ n, (Pipeline.drainAll host false (s.run host calls).pipeline).1 = .ok n
  /-- No job is found without its frame: a call that delivers nothing has let nothing go. -/
  framed : ∀ source overlay, (process host source overlay (s.run host calls)).1 = .ok .notReady →
    ((s.run host calls).after host (.process source overlay)).inFlight =
      (s.run host calls).inFlight + 1

/-- The slots of jobs in flight are never recycled and never used for anything else. -/
theorem run_keeps_custody (hs : Started host s) (calls : List Call) : Custody host s calls := by
  have haccounts := run_accounts host hs.carries calls
  have hcarries := haccounts.carries
  have hheld := hcarries.held
  refine ⟨locked_iff hcarries, ?_, ?_, fun role => (hheld role).idle, ?_,
    call_finds_slots host hcarries, ?_, fun _ _ => inFlight_of_notReady hcarries⟩
  · intro role
    rw [slotsInFlight_eq hcarries]
    exact (hheld role).nodup
  · intro i job hjob
    rw [hcarries.jobs, List.getElem?_map, Option.map_eq_some_iff] at hjob
    obtain ⟨o, ho, rfl⟩ := hjob
    have hrun : (s.operations host calls)[(s.fates host calls).length + i]? = some o := by
      rw [← List.getElem?_drop]
      exact ho
    obtain ⟨before, source, overlay, rest, hcalls, -, hattempt⟩ := attempt_of_operations hrun
    obtain ⟨u, t, -, -, hl, -⟩ := prepared_of_attempt? hattempt
    refine ⟨o, before, source, overlay, rest, rfl, hcalls, hattempt, fun role id hid => ?_⟩
    rw [slot?_job, Option.map_eq_some_iff] at hid
    obtain ⟨c, hc, rfl⟩ := hid
    have hmem : c ∈ Pools.cargoes role _ := List.mem_filterMap.2 ⟨o, List.mem_of_getElem? ho, hc⟩
    exact ⟨c, hc, (hheld role).stowed c hmem, hl.fd_of_operation hc⟩
  · intro source overlay
    have hroles := (acquisitions_roles host (s.run host calls) source overlay).nodup (by decide)
    refine ⟨List.Pairwise.of_map _ (fun a b hne => ?_) hroles, fun role id hid => ?_⟩
    · rintro rfl
      exact hne rfl
    · rw [slotsInFlight_eq hcarries]
      exact acquisitions_free hheld host source overlay (role, id) hid
  · obtain ⟨q, hdrain, -⟩ := Pipeline.drainAll_discarding host hcarries
    rw [hdrain]
    exact ⟨0, rfl⟩

theorem run_keeps_custody_sample :
    let calls : List Call := [.process (Sample.frame 1) none,
      .process (Sample.frame 2) (some Sample.unalignedOverlay)]
    let t := Sample.session.run Sample.host calls
    Started Sample.host Sample.session ∧ Custody Sample.host Sample.session calls ∧
      t.inFlight = 1 ∧ t.slotsInFlight .source = [1] ∧ t.slotsInFlight .pattern = [0] :=
  ⟨Sample.started, run_keeps_custody Sample.started _, by decide +kernel, by decide +kernel,
    by decide +kernel⟩

end Session
end Blitter
