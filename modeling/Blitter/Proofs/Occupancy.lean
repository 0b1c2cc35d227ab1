import Blitter.Proofs.CallEffect
import Blitter.Proofs.Settings

/-!
# How much is in flight

The depth bounds the jobs in flight between calls, and within a call there is one more at most. A
pool takes another slot into use only when the hardware uses all that it has, so no pool has more
slots than that either; placements, which are over before their call is, make do with one. What a
process call answers tells whether a frame was taken.
-/
namespace Blitter

/-- How many slots the pool of a role has at most. -/
def Role.capacity (depth : Nat) : Role → Nat
  | .source | .destination | .pattern => depth + 1
  | .placement => 1

namespace Pipeline

variable {p q : Pipeline} {ops : List Operation}

/-- No pool has more slots than its capacity. -/
def PoolsFit (p : Pipeline) : Prop := ∀ role, (p.pools.get role).size ≤ role.capacity p.depth

/-- The depth is this, and one job at most is in flight beyond it. -/
structure Bounded (depth : Nat) (p : Pipeline) : Prop where
  depth_eq : p.depth = depth
  jobs : p.jobs.length ≤ depth + 1
  pools : p.PoolsFit

theorem length_cargoes_lt (role : Role) {depth : Nat} (h : ops.length ≤ depth) :
    (Pools.cargoes role ops).length < role.capacity depth := by
  have hle : (Pools.cargoes role ops).length ≤ ops.length := List.length_filterMap_le ..
  cases role with
  | placement => simp [Pools.cargoes, Operation.cargo?, Role.capacity]
  | _ =>
    simp only [Role.capacity]
    omega

theorem depth_of_extent (h : q.extent = p.extent) : q.depth = p.depth := congrArg (·.1) h

theorem PoolsFit.of_extent (h : p.PoolsFit) (hextent : q.extent = p.extent) : q.PoolsFit := by
  intro role
  have hsize : (q.pools.get role).size = (p.pools.get role).size :=
    congrFun (congrArg (·.2) hextent) role
  rw [hsize, depth_of_extent hextent]
  exact h role

theorem poolsFit_empty {depth : Nat} {jobs : List Job} {j : Journal} :
    PoolsFit { pools := {}, jobs := jobs, depth := depth, journal := j } := by
  intro role
  cases role <;> exact Nat.zero_le _

end Pipeline

namespace Session

variable {host : Host} {s t : Session} {ops : List Operation} {inputs : List Pad} {output : Pad}
  {p : Parameters} {o : Options}

/-! ## Stages of a call -/

/-- A process call up to the answer to its main blit. -/
def issueBlit (host : Host) (source : Frame) (overlay : Option Frame) : SessionM Unit := do
  onPipeline (Pipeline.submit host (← prepare host source overlay))

/-- Pipelines that a call passes through: with everything prepared and with the blit issued, or with
the jobs in flight finished, and in the end. -/
def stages (host : Host) (s : Session) (c : Call) : List Pipeline :=
  match c with
  | .process source overlay => [(prepare host source overlay s).2.pipeline,
    (issueBlit host source overlay s).2.pipeline, (s.after host c).pipeline]
  | .flush => [(Pipeline.drainAll host true s.pipeline).2, (s.after host c).pipeline]
  | .close => [(Pipeline.drainAll host false s.pipeline).2, (s.after host c).pipeline]

theorem keeps_onPipeline {α : Type} {m : PipelineM α} (hm : Keeps Pipeline.extent m) :
    Keeps (·.pipeline.extent) (onPipeline m) := fun s => hm s.pipeline

/-- Only preparing a frame takes slots into use. -/
theorem extent_after_process (host : Host) (s : Session) (source : Frame)
    (overlay : Option Frame) : (s.after host (.process source overlay)).pipeline.extent =
      (prepare host source overlay s).2.pipeline.extent := by
  rw [after_process]
  exact Keeps.first (fun job => (keeps_onPipeline (Pipeline.keeps_submit host job)).bind fun _ =>
    (keeps_onPipeline (Pipeline.keeps_drainOverDepth host)).bind fun _ => .pure _) _ s

theorem extent_issueBlit (host : Host) (s : Session) (source : Frame) (overlay : Option Frame) :
    (issueBlit host source overlay s).2.pipeline.extent =
      (prepare host source overlay s).2.pipeline.extent :=
  Keeps.first (fun job => keeps_onPipeline (Pipeline.keeps_submit host job)) _ s

theorem extent_after_flush (host : Host) (s : Session) :
    (s.after host .flush).pipeline.extent = s.pipeline.extent :=
  (((keeps_onPipeline (Pipeline.keeps_drainAll host true)).bind fun _ => fun _ => rfl).bind
    fun _ => .pure _ : Keeps (·.pipeline.extent) (call host .flush)) s

/-! ## Bounds -/

/-- The session is within its bounds between calls. -/
structure Settled (s : Session) (ops : List Operation) : Prop where
  carries : s.pipeline.Carries ops
  fits : ops.length ≤ s.pipeline.depth
  pools : s.pipeline.PoolsFit

namespace Settled

theorem bounded (h : s.Settled ops) : s.pipeline.Bounded s.pipeline.depth := by
  refine ⟨rfl, ?_, h.pools⟩
  have hfits := h.fits
  simp only [h.carries.jobs, List.length_map]
  omega

/-- A pool grows only if the jobs in flight use all its slots. -/
theorem of_undisturbed {touched : List Role} (h : s.Settled ops)
    (hund : Undisturbed touched s t) : t.Settled ops ∧ t.pipeline.depth = s.pipeline.depth := by
  have hdepth : t.pipeline.depth = s.pipeline.depth := by rw [hund.pipeline]
  refine ⟨⟨hund.carries h.carries, hdepth ▸ h.fits, fun role => ?_⟩, hdepth⟩
  have hsize := hund.sizes role _ (h.carries.held role)
  have hheld := Pipeline.length_cargoes_lt role h.fits
  have hpool := h.pools role
  rw [hdepth]
  omega

/-- A job that joins the queue is the only one beyond the depth, and leaves if there is one. -/
theorem inFlight_after (h : s.Settled ops) (host : Host) (c : Call) :
    (s.after host c).inFlight ≤ s.pipeline.depth := by
  have hfits := h.fits
  have hjobs := (call_accounts host h.carries c).inFlight_eq
  rw [List.length_append] at hjobs
  cases c with
  | process source overlay =>
    have hend := (process_accounts host source overlay h.carries).2
    generalize (process host source overlay s).1 = r at hend
    generalize s.departures host (.process source overlay) = f at hjobs hend
    generalize s.attempt? host (.process source overlay) = attempt at hjobs hend
    have hone : (accepted attempt.toList).length ≤ 1 := by
      refine Nat.le_trans (List.length_filter_le ..) ?_
      cases attempt <;> simp
    cases hend with
    | refused e hnone =>
      rw [hnone] at hjobs
      simp only [List.length_nil] at hjobs
      omega
    | queued o ho ha hroom =>
      simp only [List.length_nil] at hjobs
      omega
    | handed | waitFailed =>
      simp only [List.length_singleton] at hjobs
      omega
  | flush | close =>
    have hnone : (accepted (none : Option Operation).toList).length = 0 := rfl
    simp only [attempt?, hnone] at hjobs
    omega

/-- Preparing a frame and issuing its blit. -/
theorem process_stages (h : s.Settled ops) (host : Host) (source : Frame)
    (overlay : Option Frame) :
    let prepared := (prepare host source overlay s).2
    prepared.Settled ops ∧ prepared.pipeline.depth = s.pipeline.depth ∧
      (issueBlit host source overlay s).2.pipeline.Bounded s.pipeline.depth := by
  intro prepared
  obtain ⟨r, v, hprepare, hund, hcases⟩ := prepare_cases host source overlay s
  have hprepared : prepared = v := by simp only [prepared, hprepare]
  have hextent := extent_issueBlit host s source overlay
  rw [hprepare] at hextent
  rw [hprepared]
  obtain ⟨hv, hdepth⟩ := h.of_undisturbed hund
  refine ⟨hv, hdepth, (Pipeline.depth_of_extent hextent).trans hdepth, ?_,
    hv.pools.of_extent hextent⟩
  rw [← hdepth]
  rcases hcases with ⟨e, rfl⟩ | ⟨u, l, rfl, hl⟩
  · have hissue : issueBlit host source overlay s = (.error (.error e), v) :=
      bind_of_error hprepare
    rw [hissue]
    exact hv.bounded.jobs
  · obtain ⟨allocated, -, -, -, hfenced⟩ := hl.destination
    obtain ⟨q, r, hsubmit, -, -, hend⟩ :=
      Pipeline.submit_carries host hv.carries hl.ready hfenced
    have hissue : issueBlit host source overlay s = (r, { v with pipeline := q }) :=
      (bind_of_ok hprepare).trans (onPipeline_run hsubmit)
    have hfits := hv.fits
    rw [hissue]
    rcases hend with ⟨-, -, hq⟩ | ⟨-, -, hq⟩
    · simp only [hq.jobs, List.length_map, List.length_append, List.length_singleton]
      omega
    · simp only [hq.jobs, List.length_map]
      omega

/-- Every call keeps the bounds. -/
theorem after (h : s.Settled ops) (host : Host) (c : Call) :
    (∃ ops', (s.after host c).Settled ops') ∧
      (s.after host c).pipeline.depth = s.pipeline.depth := by
  have hcarries := (call_accounts host h.carries c).carries
  have hfits := h.inFlight_after host c
  have hpools : (s.after host c).pipeline.depth = s.pipeline.depth ∧
      (s.after host c).pipeline.PoolsFit := by
    cases c with
    | process source overlay =>
      obtain ⟨hprepared, hdepth, -⟩ := h.process_stages host source overlay
      have hextent := extent_after_process host s source overlay
      exact ⟨(Pipeline.depth_of_extent hextent).trans hdepth, hprepared.pools.of_extent hextent⟩
    | flush =>
      have hextent := extent_after_flush host s
      exact ⟨Pipeline.depth_of_extent hextent, h.pools.of_extent hextent⟩
    | close =>
      have hextent := Pipeline.keeps_drainAll host false s.pipeline
      exact ⟨congrArg (·.1) hextent, Pipeline.poolsFit_empty⟩
  refine ⟨⟨_, hcarries, ?_, hpools.2⟩, hpools.1⟩
  rwa [inFlight, hcarries.jobs, List.length_map, ← hpools.1] at hfits

/-- So does every run. -/
theorem run (h : s.Settled ops) (host : Host) (calls : List Call) :
    (∃ ops', (s.run host calls).Settled ops') ∧
      (s.run host calls).pipeline.depth = s.pipeline.depth := by
  induction calls generalizing s ops with
  | nil => exact ⟨⟨ops, h⟩, rfl⟩
  | cons c rest ih =>
    obtain ⟨⟨ops', hafter⟩, hdepth⟩ := h.after host c
    rw [run_cons, ← hdepth]
    exact ih hafter

/-- Finishing only takes jobs away. -/
theorem drained (h : s.Settled ops) (host : Host) (delivering : Bool) :
    (Pipeline.drainAll host delivering s.pipeline).2.Bounded s.pipeline.depth := by
  have hextent := Pipeline.keeps_drainAll host delivering s.pipeline
  refine ⟨Pipeline.depth_of_extent hextent, ?_, h.pools.of_extent hextent⟩
  have hle : (Pipeline.drainAll host delivering s.pipeline).2.jobs.length ≤ ops.length := by
    cases delivering with
    | true =>
      obtain ⟨q, r, n, given, hdrain, hsettles, -⟩ := Pipeline.drainAll_delivering host h.carries
      simp [hdrain, hsettles.carries.jobs]
    | false =>
      obtain ⟨q, hdrain, hsettles⟩ := Pipeline.drainAll_discarding host h.carries
      simp [hdrain, hsettles.carries.jobs]
  exact Nat.le_succ_of_le (Nat.le_trans hle h.fits)

/-- Within a call the bounds hold at every stage. -/
theorem stages (h : s.Settled ops) (host : Host) (c : Call) :
    ∀ q ∈ s.stages host c, q.Bounded s.pipeline.depth := by
  obtain ⟨⟨ops', hafter⟩, hdepth⟩ := h.after host c
  have hlast := hafter.bounded
  rw [hdepth] at hlast
  cases c with
  | process source overlay =>
    obtain ⟨hprepared, hkept, hissued⟩ := h.process_stages host source overlay
    have hfirst := hprepared.bounded
    rw [hkept] at hfirst
    simp [Session.stages, hfirst, hissued, hlast]
  | flush => simp [Session.stages, h.drained, hlast]
  | close => simp [Session.stages, h.drained, hlast]

end Settled

theorem Created.settled (h : s.Created) : s.Settled [] := by
  refine ⟨h.carries, Nat.zero_le _, ?_⟩
  obtain ⟨depth, hpipeline⟩ := h.pipeline
  rw [hpipeline]
  exact Pipeline.poolsFit_empty

theorem depthFor_le (depth : Nat) (pads : List Pad) : depthFor depth pads ≤ depth := by
  unfold depthFor
  split <;> omega

theorem depthFor_large {depth : Nat} {pads : List Pad} {pad : Pad} (hpad : pad ∈ pads)
    (hlarge : largePixels < pad.pixels) : depthFor depth pads ≤ 1 := by
  have hany : (pads.any fun pad => largePixels < pad.pixels) = true :=
    List.any_eq_true.2 ⟨pad, hpad, decide_eq_true hlarge⟩
  rw [depthFor, if_pos hany]
  exact Nat.min_le_right ..

/-! ## Answers -/

theorem Leaves.handed_since {jobs : List Job} {waited : List Int} {given : List Handover}
    (h : Leaves s t jobs waited given) :
    (t.pipeline.journal.since s.pipeline.journal).handed = given := by
  simp [Journal.since, h.handed]

/-- A frame was taken by the consumer exactly if the answer says so. Of the calls that do not fail,
the others have offered it none. -/
theorem Effect.tells_delivery {attempt : Option Operation} {r : Except Failure FrameStatus}
    (h : Effect host s t attempt r) :
    let asked := t.pipeline.journal.since s.pipeline.journal
    (r = .ok .delivered ↔ asked.delivered.length = 1) ∧
      (r = .ok .notReady ↔ (∃ status, r = .ok status) ∧ asked.handed = []) := by
  cases h <;> simp [Journal.delivered, Leaves.handed_since ‹_›]

/-- The depth is no more than was asked for and than is allowed, and one for large pictures. After
every call no more jobs are in flight than that, and within a call one more at most. No pool has
more slots than the jobs in flight and the one being prepared can use. A process call answers that a
frame was delivered exactly if one was taken, and if it does not fail, that none was ready exactly
if none was offered. -/
theorem occupancy_bounded (h : create host inputs output p o = .ok s) :
    s.pipeline.depth ≤ min o.depth greatestDepth ∧
    (∀ pad ∈ output :: inputs, largePixels < pad.pixels → s.pipeline.depth ≤ 1) ∧
    ∀ calls,
      let t := s.run host calls
      t.pipeline.depth = s.pipeline.depth ∧ t.inFlight ≤ s.pipeline.depth ∧ t.pipeline.PoolsFit ∧
      (∀ c, ∀ q ∈ t.stages host c, q.Bounded s.pipeline.depth) ∧
      ∀ source overlay,
        let r := (process host source overlay t).1
        let asked := (t.after host (.process source overlay)).pipeline.journal.since
          t.pipeline.journal
        (r = .ok .delivered ↔ asked.delivered.length = 1) ∧
          (r = .ok .notReady ↔ (∃ status, r = .ok status) ∧ asked.handed = []) := by
  obtain ⟨hcreated, hdepth, -, hpipeline⟩ := create_ok h
  have hasked : s.pipeline.depth = depthFor o.depth (output :: inputs) := by rw [hpipeline]
  have hle := depthFor_le o.depth (output :: inputs)
  refine ⟨by omega, fun pad hpad hlarge => hasked ▸ depthFor_large hpad hlarge, fun calls => ?_⟩
  intro t
  obtain ⟨⟨ops, hsettled⟩, hkept⟩ := hcreated.settled.run host calls
  refine ⟨hkept, ?_, hsettled.pools, fun c => ?_, fun source overlay => ?_⟩
  · have hfits := hsettled.fits
    simp only [t, inFlight, hsettled.carries.jobs, List.length_map]
    omega
  · rw [← hkept]
    exact hsettled.stages host c
  · exact (effect_of_process host source overlay hsettled.carries).tells_delivery

/-- Large pictures, for which more blits in flight are asked for than there may be. -/
theorem occupancy_bounded_sample :
    let pad : Pad := ⟨6000, 6000, .nv12⟩
    let view : View := { pad := pad, active := ⟨0, 0, 6000, 6000⟩ }
    let s : Session := { Sample.session with
      main := view, overlay := none, output := view, afbcOutput := false, overlayFits := false }
    let picture : Frame := Frame.linear .nv12 6000 6000 3 54000000
    let c : Call := .process picture none
    let t := s.run Sample.host [c]
    create Sample.host [pad] pad {} { depth := 3 } = .ok s ∧ largePixels < pad.pixels ∧
      s.pipeline.depth ≤ 1 ∧ t.inFlight ≤ s.pipeline.depth ∧
      (process Sample.host picture none t).1 = .ok .delivered ∧
      ((t.after Sample.host c).pipeline.journal.since t.pipeline.journal).delivered.length = 1 := by
  intro pad view s picture c t
  have hcreate : create Sample.host [pad] pad {} { depth := 3 } = .ok s :=
    ok_of_toOption (by decide +kernel)
  have hlarge : largePixels < pad.pixels := by decide +kernel
  have hdelivered : (process Sample.host picture none t).1 = .ok .delivered :=
    ok_of_toOption (by decide +kernel)
  obtain ⟨-, hdepth, hruns⟩ := occupancy_bounded hcreate
  obtain ⟨-, hflight, -, -, hanswers⟩ := hruns [c]
  exact ⟨hcreate, hlarge, hdepth pad (by simp) hlarge, hflight, hdelivered,
    (hanswers picture none).1.1 hdelivered⟩

/-- A frame that is refused is offered to nobody, and is not answered as none being ready. -/
theorem refused_without_delivery :
    let inMemory : Frame := { Sample.frame 1 with storage := .memory 0 }
    let s := Sample.session
    Started Sample.host s ∧
      ¬((process Sample.host inMemory none s).1 = .ok .notReady ↔
        ((s.after Sample.host (.process inMemory none)).pipeline.journal.since
          s.pipeline.journal).handed = []) := by
  intro inMemory s
  have hrefused : (process Sample.host inMemory none s).1 =
      .error (.error (.invalidFrame .inputInMemory)) := by decide +kernel
  have hhanded : ((s.after Sample.host (.process inMemory none)).pipeline.journal.since
      s.pipeline.journal).handed = [] := by decide +kernel
  refine ⟨Sample.started, ?_⟩
  rw [hrefused, hhanded]
  simp

end Session
end Blitter
