import Blitter.Proofs.Custody

/-!
# The effect of a call on the work in flight

A process call that fails before its main blit is accepted leaves the work in flight alone: jobs and
slots stay, nothing is waited for and nothing is handed over. Otherwise the new job joins the queue.
If the queue is then longer than the depth allows, the oldest job leaves it, whether or not its wait
and its delivery succeed.
-/
namespace Blitter

theorem Host.runDeliver_of {host : Host} {frame : Frame} {j : Journal} {answer : Except Error Unit}
    (h : host.deliver (j.handed.map (·.frame) ++ [frame]) = answer) :
    host.runDeliver frame j =
      (answer, { j with handed := j.handed ++ [⟨frame, answer.isOk⟩] }) := by
  rw [← h]
  rfl

namespace Pipeline

variable {p q : Pipeline} {ops : List Operation} {host : Host}

/-- From `p` to `q` these operations have come to be in flight, these fences were waited for and
these frames handed over. -/
structure Becomes (p q : Pipeline) (ops : List Operation) (waited : List Int)
    (given : List Handover) : Prop where
  carries : q.Carries ops
  synced : q.journal.synced = p.journal.synced ++ waited
  handed : q.journal.handed = p.journal.handed ++ given

/-- How a call ends that issues the blit of `o` with `ops` in flight, and what the pipeline is
then. -/
inductive Ending (host : Host) (p : Pipeline) (ops : List Operation) (o : Operation)
    (q : Pipeline) : Except Failure FrameStatus → Prop
  | refused {e : Error} (check : o.load.blit.check o.answer = .error e)
    (becomes : Becomes p q ops [] []) : Ending host p ops o q (.error (.error e))
  | queued (check : o.load.blit.check o.answer = .ok ())
    (becomes : Becomes p q (ops ++ [o]) [] []) : Ending host p ops o q (.ok .notReady)
  | delivered (check : o.load.blit.check o.answer = .ok ()) {oldest : Operation}
    {rest : List Operation} (queue : ops ++ [o] = oldest :: rest)
    (becomes : Becomes p q rest [oldest.fence] [⟨oldest.frame, true⟩]) :
    Ending host p ops o q (.ok .delivered)
  | waitFailed (check : o.load.blit.check o.answer = .ok ()) {oldest : Operation}
    {rest : List Operation} (queue : ops ++ [o] = oldest :: rest) {text : String}
    (sync : host.sync (p.journal.synced ++ [oldest.fence]) = some text)
    (becomes : Becomes p q rest [oldest.fence] []) :
    Ending host p ops o q (.error (.error (.sync text)))
  | deliveryFailed (check : o.load.blit.check o.answer = .ok ()) {oldest : Operation}
    {rest : List Operation} (queue : ops ++ [o] = oldest :: rest) {e : Error}
    (deliver : host.deliver (p.journal.handed.map (·.frame) ++ [oldest.frame]) = .error e)
    (becomes : Becomes p q rest [oldest.fence] [⟨oldest.frame, false⟩]) :
    Ending host p ops o q (.error (.error e))

/-- Draining once the accepted `o` has joined the queue. -/
theorem drain_ends (host : Host) {o : Operation} (h : p.Carries (ops ++ [o]))
    (check : o.load.blit.check o.answer = .ok ()) :
    ∃ r q, drainOverDepth host p = (r, q) ∧ q.journal.blits = p.journal.blits ∧
      q.journal.requests = p.journal.requests ∧
      Ending host p ops o q (r.map fun taken => if taken then .delivered else .notReady) := by
  by_cases hfits : (ops ++ [o]).length ≤ p.depth
  · exact ⟨_, p, drainOverDepth_below h.jobs hfits, rfl, rfl,
      .queued check ⟨h, by simp, by simp⟩⟩
  · rcases hqueue : ops ++ [o] with _ | ⟨oldest, rest⟩
    · simp at hqueue
    rw [hqueue] at h hfits
    obtain ⟨pools, hheld, hdrain⟩ := drainOverDepth_above host h.held
      (h.fenced oldest List.mem_cons_self) h.jobs (Nat.le_of_lt_succ (Nat.lt_of_not_le hfits))
    have hrest := fun o' ho => h.fenced o' (List.mem_cons_of_mem _ ho)
    rcases hs : host.sync (p.journal.synced ++ [oldest.fence]) with _ | text
    · have hwait : (host.runSync oldest.fence p.journal).1 = .ok () := by simp [Host.runSync, hs]
      simp only [hwait] at hdrain
      rcases hd : host.deliver (p.journal.handed.map (·.frame) ++ [oldest.frame]) with e | ⟨⟩
      · rw [Host.runDeliver_of (j := (host.runSync oldest.fence p.journal).2) hd] at hdrain
        exact ⟨_, _, hdrain, rfl, rfl,
          .deliveryFailed check hqueue hd ⟨⟨rfl, hheld, hrest⟩, rfl, rfl⟩⟩
      · rw [Host.runDeliver_of (j := (host.runSync oldest.fence p.journal).2) hd] at hdrain
        exact ⟨_, _, hdrain, rfl, rfl, .delivered check hqueue ⟨⟨rfl, hheld, hrest⟩, rfl, rfl⟩⟩
    · have hwait : (host.runSync oldest.fence p.journal).1 = .error (.sync text) := by
        simp [Host.runSync, hs]
      simp only [hwait] at hdrain
      exact ⟨_, _, hdrain, rfl, rfl,
        .waitFailed check hqueue hs ⟨⟨rfl, hheld, hrest⟩, rfl, by simp [Host.runSync]⟩⟩

/-- Nothing is waited for or handed over between `p` and `p'`. -/
theorem Ending.of_journal {p' : Pipeline} {o : Operation} {r : Except Failure FrameStatus}
    (h : Ending host p' ops o q r) (hsynced : p'.journal.synced = p.journal.synced)
    (hhanded : p'.journal.handed = p.journal.handed) : Ending host p ops o q r := by
  have hbecomes {ops' : List Operation} {waited : List Int} {given : List Handover}
      (hb : Becomes p' q ops' waited given) : Becomes p q ops' waited given :=
    ⟨hb.carries, by rw [hb.synced, hsynced], by rw [hb.handed, hhanded]⟩
  cases h with
  | refused check becomes => exact .refused check (hbecomes becomes)
  | queued check becomes => exact .queued check (hbecomes becomes)
  | delivered check queue becomes => exact .delivered check queue (hbecomes becomes)
  | waitFailed check queue sync becomes =>
    exact .waitFailed check queue (hsynced ▸ sync) (hbecomes becomes)
  | deliveryFailed check queue deliver becomes =>
    exact .deliveryFailed check queue (hhanded ▸ deliver) (hbecomes becomes)

end Pipeline

namespace Session

variable {s t v : Session} {ops : List Operation} {host : Host}

/-- Issuing the blit of a prepared load, and draining if it is accepted. -/
theorem process_ends {source : Frame} {overlay : Option Frame} {l : Load}
    (hprepare : prepare host source overlay s = (.ok l.job, v))
    (hready : v.pipeline.pools.Ready l) (hfenced : l.destination.surface.completion = .fenced)
    (h : v.pipeline.Carries ops) :
    let o : Operation := ⟨l, (host.runBlit l.blit v.pipeline.journal).1⟩
    ∃ r q, process host source overlay s = (r, { v with pipeline := q }) ∧
      q.journal.blits = v.pipeline.journal.blits ++ [o.entry] ∧
      q.journal.requests = v.pipeline.journal.requests ∧
      Pipeline.Ending host v.pipeline ops o q r := by
  intro o
  rcases hcheck : l.blit.check o.answer with e | ⟨⟩
  · obtain ⟨pools, hheld, hsubmit⟩ := Pipeline.submit_refused host h.held hready hcheck
    refine ⟨_, _, (bind_of_ok hprepare).trans (bind_of_error (onPipeline_run hsubmit)), rfl, rfl,
      .refused hcheck ⟨⟨h.jobs, hheld, h.fenced⟩, ?_, ?_⟩⟩
    · exact (List.append_nil _).symm
    · exact (List.append_nil _).symm
  · have haccepted : o.entry.isAccepted = true := (o.isAccepted_iff hfenced).2 hcheck
    obtain ⟨p, r, hsubmit, -, hjournal, hend⟩ := Pipeline.submit_carries host h hready hfenced
    rcases hend with ⟨-, rfl, hcarries⟩ | ⟨hrefused, -⟩
    · obtain ⟨r, q, hdrain, hblits, hrequests, hending⟩ := Pipeline.drain_ends host hcarries hcheck
      have hissued := onPipeline_run hsubmit
      have hdrained := onPipeline_run (s := { v with pipeline := p }) hdrain
      refine ⟨_, q, ?_, ?_, ?_, hending.of_journal ?_ ?_⟩
      · refine (bind_of_ok hprepare).trans ((bind_of_ok hissued).trans ?_)
        cases r with
        | error e => exact bind_of_error hdrained
        | ok taken => exact bind_of_ok hdrained
      · rw [hblits, hjournal]
      · rw [hrequests, hjournal]
      · rw [hjournal]
      · rw [hjournal]
    · cases haccepted.symm.trans hrefused

/-! ## In terms of jobs -/

/-- From `s` to `t` these jobs have come to be in flight, these fences were waited for and these
frames handed over. -/
structure Leaves (s t : Session) (jobs : List Job) (waited : List Int) (given : List Handover) :
    Prop where
  jobs : t.pipeline.jobs = jobs
  synced : t.pipeline.journal.synced = s.pipeline.journal.synced ++ waited
  handed : t.pipeline.journal.handed = s.pipeline.journal.handed ++ given

/-- What a process call with this main blit does, by how it ends. -/
inductive Effect (host : Host) (s t : Session) (attempt : Option Operation) :
    Except Failure FrameStatus → Prop
  /-- No main blit has been accepted. -/
  | refused (e : Error) (none_accepted : ∀ o ∈ attempt, o.entry.isAccepted = false)
    (leaves : Leaves s t s.pipeline.jobs [] [])
    (slots : ∀ role, ∀ id ∈ s.slotsInFlight role,
      (t.pipeline.pools.get role).slot? id = (s.pipeline.pools.get role).slot? id) :
    Effect host s t attempt (.error (.error e))
  | notReady (o : Operation) (issued : attempt = some o) (accepted : o.entry.isAccepted = true)
    (leaves : Leaves s t (s.pipeline.jobs ++ [o.job]) [] []) :
    Effect host s t attempt (.ok .notReady)
  | delivered (o : Operation) (issued : attempt = some o) (accepted : o.entry.isAccepted = true)
    (fence : Int) (frame : Frame)
    (leaves : Leaves s t (s.pipeline.jobs ++ [o.job]).tail [fence] [⟨frame, true⟩]) :
    Effect host s t attempt (.ok .delivered)
  | waitFailed (o : Operation) (issued : attempt = some o) (accepted : o.entry.isAccepted = true)
    (fence : Int) (text : String)
    (sync : host.sync (s.pipeline.journal.synced ++ [fence]) = some text)
    (leaves : Leaves s t (s.pipeline.jobs ++ [o.job]).tail [fence] []) :
    Effect host s t attempt (.error (.error (.sync text)))
  | deliveryFailed (o : Operation) (issued : attempt = some o)
    (accepted : o.entry.isAccepted = true) (fence : Int) (frame : Frame) (e : Error)
    (deliver : host.deliver (s.pipeline.journal.handed.map (·.frame) ++ [frame]) = .error e)
    (leaves : Leaves s t (s.pipeline.jobs ++ [o.job]).tail [fence] [⟨frame, false⟩]) :
    Effect host s t attempt (.error (.error e))

/-- Slots of operations that stay in flight are as they were. -/
theorem slots_of_subset {rest : List Operation} (h : s.pipeline.Carries ops)
    (ht : t.pipeline.Carries rest) (hrest : rest ⊆ ops) (role : Role) :
    ∀ id ∈ t.slotsInFlight role,
      (t.pipeline.pools.get role).slot? id = (s.pipeline.pools.get role).slot? id := by
  intro id hid
  rw [slotsInFlight_eq ht] at hid
  obtain ⟨c, hc, rfl⟩ := List.mem_map.1 hid
  have hheld : c ∈ Pools.cargoes role ops := List.filterMap_subset _ hrest hc
  rw [(h.held role).stowed c hheld, (ht.held role).stowed c hc]

theorem slots_of_carries (h : s.pipeline.Carries ops) (h' : t.pipeline.Carries ops) (role : Role) :
    ∀ id ∈ s.slotsInFlight role,
      (t.pipeline.pools.get role).slot? id = (s.pipeline.pools.get role).slot? id := by
  rw [slotsInFlight_eq h, ← slotsInFlight_eq h']
  exact slots_of_subset h h' (List.Subset.refl ops) role

theorem leaves_of_becomes {q : Pipeline} {ops' : List Operation} {waited : List Int}
    {given : List Handover} (h : s.pipeline.Becomes q ops' waited given)
    {jobs : List Job} (hjobs : ops'.map (·.job) = jobs) :
    Leaves s { t with pipeline := q } jobs waited given :=
  ⟨h.carries.jobs.trans hjobs, h.synced, h.handed⟩

/-- The ending of a call is its effect. -/
theorem effect_of_ending {o : Operation} {q : Pipeline} {r : Except Failure FrameStatus}
    (h : s.pipeline.Carries ops) (hfenced : o.IsFenced)
    (hend : Pipeline.Ending host s.pipeline ops o q r) :
    Effect host s { t with pipeline := q } (some o) r := by
  have hiff := o.isAccepted_iff hfenced
  have htail {oldest : Operation} {rest : List Operation} (hqueue : ops ++ [o] = oldest :: rest) :
      rest.map (·.job) = (s.pipeline.jobs ++ [o.job]).tail := by
    rw [h.jobs, ← List.map_singleton, ← List.map_append, hqueue]
    rfl
  cases hend with
  | @refused e check becomes =>
    refine .refused e ?_ (leaves_of_becomes becomes h.jobs.symm)
      (slots_of_carries h becomes.carries)
    rintro o' ⟨⟩
    rw [Bool.eq_false_iff, ne_eq, hiff]
    exact fun hok => by cases hok.symm.trans check
  | queued check becomes =>
    refine .notReady o rfl (hiff.2 check) (leaves_of_becomes becomes ?_)
    rw [List.map_append, h.jobs]
    rfl
  | delivered check queue becomes =>
    exact .delivered o rfl (hiff.2 check) _ _ (leaves_of_becomes becomes (htail queue))
  | waitFailed check queue sync becomes =>
    exact .waitFailed o rfl (hiff.2 check) _ _ sync (leaves_of_becomes becomes (htail queue))
  | deliveryFailed check queue deliver becomes =>
    exact .deliveryFailed o rfl (hiff.2 check) _ _ _ deliver
      (leaves_of_becomes becomes (htail queue))

theorem effect_of_process (host : Host) (source : Frame) (overlay : Option Frame)
    (h : s.pipeline.Carries ops) :
    let c : Call := .process source overlay
    Effect host s (s.after host c) (s.attempt? host c) (process host source overlay s).1 := by
  intro c
  have hafter : s.after host c = (process host source overlay s).2 := after_process ..
  obtain ⟨r, v, hprepare, hund, hcases⟩ := prepare_cases host source overlay s
  -- Preparations leave the work in flight alone, also when they fail.
  have hprepared := hund.carries h
  rcases hcases with ⟨e, rfl⟩ | ⟨u, l, rfl, hl⟩
  · have hrun : process host source overlay s = (.error (.error e), v) := bind_of_error hprepare
    have hnone : s.attempt? host c = none := by simp only [c, attempt?, hprepare]
    have hsynced := congrArg Journal.synced hund.journal
    have hhanded := congrArg Journal.handed hund.journal
    rw [hafter, hrun, hnone]
    refine .refused e (by simp) ⟨?_, ?_, ?_⟩ (slots_of_carries h hprepared)
    · exact hprepared.jobs.trans h.jobs.symm
    · exact hsynced.trans (List.append_nil _).symm
    · exact hhanded.trans (List.append_nil _).symm
  · obtain ⟨allocated, -, -, -, hfenced⟩ := hl.destination
    obtain ⟨r, q, hrun, -, -, hend⟩ := process_ends hprepare hl.ready hfenced hprepared
    have hsome : s.attempt? host c =
        some ⟨l, (host.runBlit l.blit v.pipeline.journal).1⟩ := by
      simp only [c, attempt?, hprepare, hl.ready.load?_eq]
      rfl
    rw [hafter, hrun, hsome]
    refine effect_of_ending h hfenced (hend.of_journal ?_ ?_)
    · rw [hund.journal]
    · rw [hund.journal]

/-- In every state that a run reaches, a process call issues one main blit at most. If none is
accepted, the call fails, and jobs, slots, waits and deliveries are as before. Otherwise its job
joins the queue; either that is all, or the oldest job leaves with one wait and, unless the wait
fails, one delivery, and the call fails if one of these does. -/
theorem process_effect (hs : Started host s) (calls : List Call) (source : Frame)
    (overlay : Option Frame) :
    let u := s.run host calls
    let c : Call := .process source overlay
    (u.after host c).mainBlits = u.mainBlits ++ (u.attempt? host c).toList.map (·.entry) ∧
      Effect host u (u.after host c) (u.attempt? host c) (process host source overlay u).1 := by
  intro u c
  have hcarries := (run_accounts host hs.carries calls).carries
  exact ⟨(call_accounts host hcarries c).blits, effect_of_process host source overlay hcarries⟩

/-- With one operation in flight, a call that pushes it out and one that is refused. -/
theorem process_effect_sample :
    let u := Sample.session.run Sample.host [.process (Sample.frame 1) none]
    let next : Frame := Sample.frame 2
    let inMemory : Frame := { next with storage := .memory 0 }
    Started Sample.host Sample.session ∧ u.inFlight = 1 ∧
      Effect Sample.host u (u.after Sample.host (.process next none))
        (u.attempt? Sample.host (.process next none)) (.ok .delivered) ∧
      Effect Sample.host u (u.after Sample.host (.process inMemory none))
        (u.attempt? Sample.host (.process inMemory none))
        (.error (.error (.invalidFrame .inputInMemory))) := by
  intro u next inMemory
  have hnext : (process Sample.host next none u).1 = .ok .delivered :=
    ok_of_toOption (by decide +kernel)
  have hrefused : (process Sample.host inMemory none u).1 =
      .error (.error (.invalidFrame .inputInMemory)) := by decide +kernel
  refine ⟨Sample.started, by decide +kernel, ?_, ?_⟩
  · rw [← hnext]
    exact (process_effect Sample.started _ next none).2
  · rw [← hrefused]
    exact (process_effect Sample.started _ inMemory none).2

end Session
end Blitter
