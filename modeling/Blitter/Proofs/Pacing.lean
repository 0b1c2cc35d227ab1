import Blitter.Proofs.Likeness
import Blitter.Proofs.Resumption

/-!
# Pacing

The depth of the pipeline and the flushes of a run decide when frames are delivered, and nothing
else. Two sessions with other depths, called the same but for flushes, stay `Abreast`: they have
issued the same operations and are alike, though one may have finished more of them. A flush brings
a session level with everything it has issued.
-/
namespace Blitter

/-- Waits and deliveries always succeed. -/
structure Host.Obliging (host : Host) : Prop where
  sync : ∀ fences, host.sync fences = none
  deliver : ∀ frames, host.deliver frames = .ok ()

theorem Host.Obliging.takes {host : Host} (h : host.Obliging) (given frames : List Frame) :
    host.Takes given frames := by
  induction frames generalizing given with
  | nil => trivial
  | cons frame rest ih => exact ⟨h.deliver _, ih _⟩

/-- The same was asked of the host, but for signals of the end of the stream. -/
structure Journal.SameWork (j j' : Journal) : Prop where
  blits : j.blits = j'.blits
  requests : j.requests = j'.requests
  synced : j.synced = j'.synced
  handed : j.handed = j'.handed

namespace Journal.SameWork

variable {j j' j'' : Journal}

theorem symm (h : SameWork j j') : SameWork j' j :=
  ⟨h.blits.symm, h.requests.symm, h.synced.symm, h.handed.symm⟩

theorem trans (h : SameWork j j') (h' : SameWork j' j'') : SameWork j j'' :=
  ⟨h.blits.trans h'.blits, h.requests.trans h'.requests, h.synced.trans h'.synced,
    h.handed.trans h'.handed⟩

end Journal.SameWork

/-! ## Operations issued -/

/-- What finishing an operation asks of the host. -/
def Operation.due (o : Operation) : Int × Frame := (o.fence, o.frame)

namespace Pipeline

variable {p q : Pipeline} {issued : List (Int × Frame)} {ops : List Operation} {host : Host}

/-- All operations so far, of which `ops` are in flight and the others were finished. -/
structure Serves (p : Pipeline) (issued : List (Int × Frame)) (ops : List Operation) : Prop where
  carries : p.Carries ops
  finished : ∃ done, issued = done ++ ops.map (·.due) ∧
    p.journal.synced = done.map (·.1) ∧ p.journal.handed = done.map fun due => ⟨due.2, true⟩

theorem serves_empty {depth : Nat} : ({ depth := depth } : Pipeline).Serves [] [] :=
  ⟨carries_empty, [], rfl, rfl, rfl⟩

theorem Serves.of_journal (h : p.Serves issued ops) (hq : q.Carries ops)
    (hsynced : q.journal.synced = p.journal.synced)
    (hhanded : q.journal.handed = p.journal.handed) : q.Serves issued ops := by
  obtain ⟨done, hissued, hs, hh⟩ := h.finished
  exact ⟨hq, done, hissued, hsynced.trans hs, hhanded.trans hh⟩

/-- A blit that was issued is refused, or it is one more operation. Whether operations are finished
with it depends on the depth. -/
theorem Ending.serves (hobliging : host.Obliging) {o : Operation}
    {r : Except Failure FrameStatus} (h : p.Serves issued ops) (hend : Ending host p ops o q r) :
    (∃ e, o.load.blit.check o.answer = .error e ∧ r = .error (.error e) ∧ q.Serves issued ops) ∨
      (o.load.blit.check o.answer = .ok () ∧ (∃ status, r = .ok status) ∧
        ∃ rest, q.Serves (issued ++ [o.due]) rest) := by
  obtain ⟨done, hissued, hsynced, hhanded⟩ := h.finished
  cases hend with
  | refused check becomes =>
    refine .inl ⟨_, check, rfl, becomes.carries, done, hissued, ?_, ?_⟩
    · rw [becomes.synced, hsynced, List.append_nil]
    · rw [becomes.handed, hhanded, List.append_nil]
  | queued check becomes =>
    refine .inr ⟨check, ⟨_, rfl⟩, ops ++ [o], becomes.carries, done, ?_, ?_, ?_⟩
    · rw [hissued, List.map_append, List.append_assoc]
      rfl
    · rw [becomes.synced, hsynced, List.append_nil]
    · rw [becomes.handed, hhanded, List.append_nil]
  | @delivered check oldest rest queue becomes =>
    -- The oldest operation goes from those in flight to those finished.
    refine .inr ⟨check, ⟨_, rfl⟩, rest, becomes.carries, done ++ [oldest.due], ?_, ?_, ?_⟩
    · have hdue := congrArg (List.map Operation.due) queue
      rw [List.map_append, List.map_cons] at hdue
      rw [hissued, List.append_assoc, List.append_assoc]
      exact congrArg (done ++ ·) hdue
    · rw [becomes.synced, hsynced, List.map_append]
      rfl
    · rw [becomes.handed, hhanded, List.map_append]
      rfl
  | waitFailed _ _ sync => cases (hobliging.sync _).symm.trans sync
  | deliveryFailed _ _ deliver => cases (hobliging.deliver _).symm.trans deliver

/-- Everything is waited for and handed over. -/
theorem drainAll_obliging (hobliging : host.Obliging) (h : p.Serves issued ops) :
    ∃ q, drainAll host true p = (.ok ops.length, q) ∧ q.Serves issued [] ∧
      q.journal.blits = p.journal.blits ∧ q.journal.requests = p.journal.requests := by
  obtain ⟨done, hissued, hsynced, hhanded⟩ := h.finished
  obtain ⟨q, hdrain, hcarries, hjournal⟩ := drainAll_taken h.carries (hobliging.takes _ _)
  refine ⟨q, hdrain, ⟨hcarries, done ++ ops.map (·.due), ?_, ?_, ?_⟩, ?_, ?_⟩
  · rw [hissued, List.map_nil, List.append_nil]
  · simp [hjournal, Journal.served, hsynced, Operation.due, Operation.pending]
  · simp [hjournal, Journal.served, hhanded, Operation.due, Operation.pending]
  · rw [hjournal]
    rfl
  · rw [hjournal]
    rfl

end Pipeline

namespace Session

variable {s s' t t' : Session} {issued : List (Int × Frame)} {ops : List Operation} {host : Host}

theorem Undisturbed.serves {touched : List Role} (hu : Undisturbed touched s t)
    (h : s.pipeline.Serves issued ops) : t.pipeline.Serves issued ops := by
  have hj := hu.journal
  refine h.of_journal (hu.carries h.carries) ?_ ?_
  · rw [hj]
  · rw [hj]

/-- Both sessions have issued the same operations and will treat a frame the same. -/
structure Abreast (s s' : Session) : Prop where
  alike : Alike s s'
  serves : ∃ issued ops ops', s.pipeline.Serves issued ops ∧ s'.pipeline.Serves issued ops'

/-- A flush finishes everything, and later frames do not notice it. -/
theorem flush_serves (hobliging : host.Obliging) (h : s.pipeline.Serves issued ops) :
    (s.after host .flush).pipeline.Serves issued [] ∧ Alike s (s.after host .flush) := by
  obtain ⟨q, hdrain, hserves, hblits, hrequests⟩ := Pipeline.drainAll_obliging hobliging h
  have hafter : s.after host .flush = { s with pipeline := { q with
      journal := { q.journal with ends := q.journal.ends + 1 } } } :=
    congrArg Prod.snd (call_flush (r := .ok ops.length) hdrain)
  rw [hafter]
  refine ⟨hserves.of_journal ?_ rfl rfl, rfl, rfl, rfl, hblits.symm, hrequests.symm⟩
  exact ⟨hserves.carries.jobs, hserves.carries.held, hserves.carries.fenced⟩

/-- Issuing the same blit keeps sessions abreast, even if only one of them has to finish an
operation for it. -/
theorem issue_abreast (hobliging : host.Obliging) {source : Frame} {overlay : Option Frame}
    {l l' : Load} (hprepare : prepare host source overlay s = (.ok l.job, t))
    (hprepare' : prepare host source overlay s' = (.ok l'.job, t')) (h : Abreast t t')
    (hready : t.pipeline.pools.Ready l) (hready' : t'.pipeline.pools.Ready l')
    (hblit : l.blit = l'.blit) (hframe : l.destination.frame = l'.destination.frame)
    (hfenced : l.destination.surface.completion = .fenced) :
    let x := process host source overlay s
    let x' := process host source overlay s'
    Abreast x.2 x'.2 ∧ (x.1.map fun _ => ()) = x'.1.map fun _ => () := by
  intro x x'
  obtain ⟨halike, issued, ops, ops', hserves, hserves'⟩ := h
  have hfenced' : l'.destination.surface.completion = .fenced :=
    (congrArg (·.destination.completion) hblit).symm.trans hfenced
  have hanswer : (host.runBlit l'.blit t'.pipeline.journal).1 =
      (host.runBlit l.blit t.pipeline.journal).1 := by
    simp only [Host.runBlit, hblit, halike.blits]
  obtain ⟨r, q, hrun, hblits, hrequests, hend⟩ :=
    process_ends hprepare hready hfenced hserves.carries
  obtain ⟨r', q', hrun', hblits', hrequests', hend'⟩ :=
    process_ends hprepare' hready' hfenced' hserves'.carries
  rw [hanswer] at hblits' hend'
  rw [show x = _ from hrun, show x' = _ from hrun']
  have halike' : Alike { t with pipeline := q } { t' with pipeline := q' } := by
    refine ⟨halike.settings, halike.unit, halike.afbcOutput, ?_, ?_⟩
    · rw [hblits, hblits', halike.blits, Operation.entry, Operation.entry, hblit]
    · rw [hrequests, hrequests', halike.requests]
  rcases hend.serves hobliging hserves with ⟨e, hcheck, rfl, hq⟩ | ⟨hcheck, ⟨status, rfl⟩, rest, hq⟩
  · rcases hend'.serves hobliging hserves' with ⟨e', hcheck', rfl, hq'⟩ | ⟨hcheck', -⟩
    · rw [← hblit, hcheck] at hcheck'
      cases hcheck'
      exact ⟨⟨halike', issued, ops, ops', hq, hq'⟩, rfl⟩
    · rw [← hblit, hcheck] at hcheck'
      cases hcheck'
  · rcases hend'.serves hobliging hserves' with ⟨e', hcheck', -⟩ | ⟨-, ⟨status', rfl⟩, rest', hq'⟩
    · rw [← hblit, hcheck] at hcheck'
      cases hcheck'
    · refine ⟨⟨halike', _, rest, rest', hq, ?_⟩, rfl⟩
      rw [Operation.due, Operation.frame, hframe]
      exact hq'

/-- Sessions that are abreast process a frame alike, and are abreast after it. -/
theorem process_abreast (hobliging : host.Obliging) (h : Abreast s s') (source : Frame)
    (overlay : Option Frame) :
    let x := process host source overlay s
    let x' := process host source overlay s'
    Abreast x.2 x'.2 ∧ (x.1.map fun _ => ()) = x'.1.map fun _ => () := by
  intro x x'
  obtain ⟨halike, issued, ops, ops', hserves, hserves'⟩ := h
  rcases hprepare : prepare host source overlay s with ⟨r, t⟩
  rcases hprepare' : prepare host source overlay s' with ⟨r', t'⟩
  have hmatching := prepare_matching host halike source overlay
  rw [hprepare, hprepare'] at hmatching
  have ht : Abreast t t' :=
    ⟨hmatching.alike, issued, ops, ops', hmatching.left.serves hserves,
      hmatching.right.serves hserves'⟩
  rcases hmatching.results with ⟨e, he, he'⟩ | ⟨job, job', hjob, hjob', hload⟩
  · cases he
    cases he'
    rw [show x = (.error e, t) from bind_of_error hprepare,
      show x' = (.error e, t') from bind_of_error hprepare']
    exact ⟨ht, rfl⟩
  · cases hjob
    cases hjob'
    obtain ⟨l, l', rfl, rfl, hready, hready', hblit, hframe, hfenced⟩ := hload
    exact issue_abreast hobliging hprepare hprepare' ht hready hready' hblit hframe hfenced

/-! ## Runs -/

/-- Whether a process call succeeds, and the failure if not. -/
def verdict (host : Host) (s : Session) : Call → List (Except Failure Unit)
  | .process source overlay => [(process host source overlay s).1.map fun _ => ()]
  | .flush | .close => []

/-- The verdicts of a run, one for each process call. -/
def verdicts (host : Host) (s : Session) (calls : List Call) : List (Except Failure Unit) :=
  collect (verdict host) host s calls

/-- A session stays abreast of one that is not flushed. -/
theorem run_abreast (hobliging : host.Obliging) (h : Abreast s s') {calls : List Call}
    (hclose : .close ∉ calls) :
    let unflushed := calls.filter (· ≠ .flush)
    Abreast (s.run host calls) (s'.run host unflushed) ∧
      s.verdicts host calls = s'.verdicts host unflushed := by
  intro unflushed
  -- The induction is on the calls of `s`. A flush is a step of `s` alone.
  induction calls generalizing s s' with
  | nil => exact ⟨h, rfl⟩
  | cons c rest ih =>
    have hrest : .close ∉ rest := fun hmem => hclose (List.mem_cons_of_mem _ hmem)
    cases c with
    | process source overlay =>
      obtain ⟨hstep, hverdict⟩ := process_abreast hobliging h source overlay
      rw [← after_process, ← after_process] at hstep
      obtain ⟨hrun, hverdicts⟩ := ih hstep hrest
      exact ⟨hrun, List.cons_eq_cons.2 ⟨hverdict, hverdicts⟩⟩
    | flush =>
      obtain ⟨halike, issued, ops, ops', hserves, hserves'⟩ := h
      obtain ⟨hflushed, hunnoticed⟩ := flush_serves hobliging hserves
      exact ih ⟨hunnoticed.symm.trans halike, issued, [], ops', hflushed, hserves'⟩ hrest
    | close => exact absurd List.mem_cons_self hclose

/-- Sessions that are abreast have done the same work once both are flushed. -/
theorem Abreast.sameWork (hobliging : host.Obliging) (h : Abreast s s') :
    (s.after host .flush).pipeline.journal.SameWork (s'.after host .flush).pipeline.journal := by
  obtain ⟨halike, issued, ops, ops', hserves, hserves'⟩ := h
  obtain ⟨⟨-, done, hissued, hsynced, hhanded⟩, hunnoticed⟩ := flush_serves hobliging hserves
  obtain ⟨⟨-, done', hissued', hsynced', hhanded'⟩, hunnoticed'⟩ := flush_serves hobliging hserves'
  have hdone : done = done' := by simpa using hissued.symm.trans hissued'
  have halike' := (hunnoticed.symm.trans halike).trans hunnoticed'
  refine ⟨halike'.blits, halike'.requests, ?_, ?_⟩
  · rw [hsynced, hsynced', hdone]
  · rw [hhanded, hhanded', hdone]

end Session

/-! ## Setups -/

/-- What a filter is started with. -/
inductive Setup where
  | transform (settings : TransformSettings) (input : Pad)
  | composite (settings : CompositeSettings) (main overlay : Pad)

namespace Setup

variable {host : Host} {setup : Setup} {f : Filter}

def start (host : Host) : Setup → Except Error Filter
  | transform settings input => settings.start host input
  | composite settings main overlay => settings.start host main overlay

/-- The same with another depth. -/
def withDepth (depth : Nat) : Setup → Setup
  | transform settings input =>
    transform { settings with options := { settings.options with depth := depth } } input
  | composite settings main overlay =>
    composite { settings with options := { settings.options with depth := depth } } main overlay

end Setup

/-- The depth asked for decides on the pipeline alone. -/
theorem Session.create_withDepth {host : Host} {inputs : List Pad} {output : Pad} {p : Parameters}
    {o : Options} {s : Session} (h : create host inputs output p o = .ok s) {depth : Nat}
    (hdepth : depth ≤ greatestDepth) :
    create host inputs output p { o with depth := depth } =
      .ok { s with pipeline := { depth := depthFor depth (output :: inputs) } } := by
  unfold create at h ⊢
  obtain ⟨⟨main, overlay⟩, hsplit, h⟩ := ok_of_bind h
  refine (ok_bind hsplit).trans ?_
  dsimp only at h ⊢
  split at h
  · cases h
  rw [if_neg (by omega)]
  obtain ⟨hardware, hhardware, h⟩ := ok_of_bind h
  obtain ⟨mainView, hmain, h⟩ := ok_of_bind h
  obtain ⟨overlayView, hoverlay, h⟩ := ok_of_bind h
  obtain ⟨destination, hdestination, h⟩ := ok_of_bind h
  obtain ⟨r, hroute, h⟩ := ok_of_bind h
  cases h
  exact (ok_bind hhardware).trans ((ok_bind hmain).trans ((ok_bind hoverlay).trans
    ((ok_bind hdestination).trans (ok_bind hroute))))

theorem Setup.start_withDepth {host : Host} {setup : Setup} {f : Filter}
    (h : setup.start host = .ok f) {depth : Nat} (hdepth : depth ≤ Session.greatestDepth) :
    ∃ n, (setup.withDepth depth).start host =
      .ok { f with session := { f.session with pipeline := { depth := n } } } := by
  cases setup with
  | transform settings input =>
    obtain ⟨⟨⟩, hsize, h⟩ := ok_of_bind h
    obtain ⟨output, houtput, h⟩ := ok_of_bind h
    obtain ⟨session, hsession, h⟩ := ok_of_bind h
    cases h
    exact ⟨_, (ok_bind hsize).trans ((ok_bind houtput).trans
      (ok_bind (Session.create_withDepth hsession hdepth)))⟩
  | composite settings main overlay =>
    obtain ⟨⟨⟩, hmain, h⟩ := ok_of_bind h
    obtain ⟨⟨⟩, hoverlay, h⟩ := ok_of_bind h
    obtain ⟨session, hsession, h⟩ := ok_of_bind h
    cases h
    exact ⟨_, (ok_bind hmain).trans ((ok_bind hoverlay).trans
      (ok_bind (Session.create_withDepth hsession hdepth)))⟩

namespace Session

variable {host : Host}

/-- The depth of a session and the flushes of a run change nothing that is done, if the run ends
with a flush: blits, requests, waits and deliveries are the same, and each frame is processed with
the same success or failure. -/
theorem pacing_changes_no_work (hobliging : host.Obliging) {setup : Setup} {f : Filter}
    (hstart : setup.start host = .ok f) {d d' : Nat} (hd : d ≤ greatestDepth)
    (hd' : d' ≤ greatestDepth) {calls calls' : List Call} (hclose : .close ∉ calls)
    (hclose' : .close ∉ calls')
    (hsame : calls.filter (· ≠ .flush) = calls'.filter (· ≠ .flush)) :
    ∃ g g', (setup.withDepth d).start host = .ok g ∧ (setup.withDepth d').start host = .ok g' ∧
      (g.session.run host (calls ++ [.flush])).pipeline.journal.SameWork
        (g'.session.run host (calls' ++ [.flush])).pipeline.journal ∧
      g.session.verdicts host calls = g'.session.verdicts host calls' := by
  obtain ⟨n, hg⟩ := setup.start_withDepth hstart hd
  obtain ⟨n', hg'⟩ := setup.start_withDepth hstart hd'
  refine ⟨_, _, hg, hg', ?_⟩
  have habreast (n : Nat) :
      Abreast { f.session with pipeline := { depth := n } } f.session.idle :=
    ⟨⟨rfl, rfl, rfl, rfl, rfl⟩, [], [], [], Pipeline.serves_empty, Pipeline.serves_empty⟩
  -- Both runs are held against one that is never flushed.
  obtain ⟨hrun, hverdicts⟩ := run_abreast hobliging (habreast n) hclose
  obtain ⟨hrun', hverdicts'⟩ := run_abreast hobliging (habreast n') hclose'
  rw [← hsame] at hrun' hverdicts'
  rw [run_append, run_append]
  exact ⟨(hrun.sameWork hobliging).trans (hrun'.sameWork hobliging).symm,
    hverdicts.trans hverdicts'.symm⟩

/-- Three frames, the second of which is refused, at the least and the greatest depth. -/
theorem pacing_changes_no_work_sample :
    let setup : Setup := .composite Sample.settings Sample.mainPad Sample.overlayPad
    let first : Call := .process (Sample.frame 1) none
    let refused : Call := .process { Sample.frame 2 with storage := .memory 0 } none
    let moving : Call := .process (Sample.frame 3) (some Sample.unalignedOverlay)
    let calls := [first, refused, .flush, moving]
    let calls' := [.flush, first, .flush, refused, moving]
    Sample.host.Obliging ∧ setup.start Sample.host = .ok ⟨Sample.session, Sample.mainPad⟩ ∧
      ∃ g g', (setup.withDepth 0).start Sample.host = .ok g ∧
        (setup.withDepth 4).start Sample.host = .ok g' ∧
        (g.session.run Sample.host (calls ++ [.flush])).pipeline.journal.SameWork
          (g'.session.run Sample.host (calls' ++ [.flush])).pipeline.journal ∧
        g.session.verdicts Sample.host calls = g'.session.verdicts Sample.host calls' := by
  intro setup first refused moving calls calls'
  have hobliging : Sample.host.Obliging := ⟨fun _ => rfl, fun _ => rfl⟩
  have hstart : setup.start Sample.host = .ok ⟨Sample.session, Sample.mainPad⟩ := by decide +kernel
  exact ⟨hobliging, hstart, pacing_changes_no_work hobliging hstart (by decide) (by decide)
    (by decide) (by decide) (by decide +kernel)⟩

end Session
end Blitter
