import Blitter.Proofs.Accounts
import Blitter.Proofs.Start

/-!
# Delivery

Frames reach the consumer in the order in which their blits were accepted, each at most once and
each as it was allocated for its own blit. Of the others it is known what became of them. The
fences of accepted blits are waited for in the same order, each once.
-/
namespace Blitter

theorem handedFrames_sublist (ops : List Operation) (fates : List Fate) :
    (handedFrames ops fates).Sublist (ops.map (·.frame)) := by
  induction ops generalizing fates with
  | nil => simp [handedFrames]
  | cons o ops ih =>
    cases fates with
    | nil => simp [handedFrames]
    | cons f fates =>
      have hrest := ih fates
      unfold handedFrames at hrest ⊢
      by_cases h : f = .handed
      · simpa [h] using hrest
      · simpa [h] using hrest.cons o.frame

namespace Session

variable {host : Host} {s : Session}

/-- An operation blits a frame that the call was given, onto the frame that was allocated in the
same call and carries the time stamp of the former. -/
structure Originates (host : Host) (s : Session) (source : Frame) (o : Operation) : Prop where
  given : o.load.source.frame = source
  allocated : ∃ allocated,
    host.allocate (s.pipeline.journal.requests ++ [s.output.pad]) = .ok allocated ∧
      o.frame.IsAllocated allocated source

/-- What becomes of the operations of a run. Those that have left the pipeline have a fate, oldest
first. -/
structure Delivery (host : Host) (s : Session) (calls : List Call) : Prop where
  /-- The operations are the main blits that the hardware has accepted, in order. -/
  accepted : (s.run host calls).mainBlits.filter (·.isAccepted) =
    (s.operations host calls).map (·.entry)
  /-- Each of them comes from a process call of its own. -/
  origin : ∀ i o, (s.operations host calls)[i]? = some o →
    ∃ before source overlay rest, calls = before ++ .process source overlay :: rest ∧
      i = (s.operations host before).length ∧ Originates host (s.run host before) source o
  /-- The consumer is handed the frames of those whose fate it is. -/
  handed : (s.run host calls).pipeline.journal.handed.map (·.frame) =
    handedFrames (s.operations host calls) (s.fates host calls)
  /-- It is handed them in order. -/
  ordered : ((s.run host calls).pipeline.journal.handed.map (·.frame)).Sublist
    ((s.operations host calls).map (·.frame))
  /-- Those without a fate are in flight. -/
  waiting : (s.fates host calls).length ≤ (s.operations host calls).length ∧
    (s.run host calls).pipeline.jobs =
      ((s.operations host calls).drop (s.fates host calls).length).map (·.job)
  /-- A frame is dropped by a process call that fails because the fence could not be waited for. -/
  dropped : ∀ i, (s.fates host calls)[i]? = some .waitFailed →
    ∃ o before source overlay rest text, (s.operations host calls)[i]? = some o ∧
      calls = before ++ .process source overlay :: rest ∧ i = (s.fates host before).length ∧
      host.sync ((s.run host before).pipeline.journal.synced ++ [o.fence]) = some text ∧
      (process host source overlay (s.run host before)).1 = .error (.error (.sync text))
  /-- A frame is discarded by closing the session. -/
  discarded : ∀ i, (s.fates host calls)[i]? = some .discarded →
    ∃ before rest, calls = before ++ .close :: rest ∧ (s.fates host before).length ≤ i ∧
      i < (s.fates host (before ++ [.close])).length

theorem originates_of_attempt? {source : Frame} {overlay : Option Frame} {o : Operation}
    (h : s.attempt? host (.process source overlay) = some o) : Originates host s source o := by
  obtain ⟨u, t, -, -, hl, -⟩ := prepared_of_attempt? h
  obtain ⟨allocated, hallocated, hframe, -, -⟩ := hl.destination
  exact ⟨hl.given, allocated, hallocated, hframe⟩

/-- The oldest operation that a call finds in flight, or else its own, is the next one of the run
to meet its fate. -/
theorem getElem?_operations {before : List Call} {c : Call} {i : Nat} {o : Operation}
    (hi : i ≤ (s.operations host before).length)
    (h : ((s.operations host before).drop i ++
      Session.accepted ((s.run host before).attempt? host c).toList).head? = some o)
    (rest : List Call) : (s.operations host (before ++ c :: rest))[i]? = some o := by
  have hsplit : s.operations host (before ++ c :: rest) =
      s.operations host before ++ (Session.accepted ((s.run host before).attempt? host c).toList ++
        (s.run host (before ++ [c])).operations host rest) := by
    rw [operations_eq_collect, operations_eq_collect, operations_eq_collect, collect_append,
      collect, run_append]
    rfl
  rw [hsplit, ← List.head?_drop, List.drop_append_of_le_length hi, ← List.append_assoc,
    List.head?_append, h]
  rfl

/-- Only closing discards frames. -/
theorem eq_close_of_discarded {c : Call} (h : Fate.discarded ∈ s.departures host c) :
    c = .close := by
  cases c with
  | process source overlay => simp [departures, List.mem_replicate] at h
  | flush => simp [departures, List.mem_replicate] at h
  | close => rfl

/-- Only a process call drops a frame: the oldest operation's, and no other one leaves then. -/
theorem processed_of_waitFailed {ops : List Operation} {c : Call} (hs : s.pipeline.Carries ops)
    (h : Fate.waitFailed ∈ s.departures host c) :
    ∃ source overlay oldest text, c = .process source overlay ∧
      s.departures host c = [.waitFailed] ∧
      (ops ++ Session.accepted (s.attempt? host c).toList).head? = some oldest ∧
      host.sync (s.pipeline.journal.synced ++ [oldest.fence]) = some text ∧
      (process host source overlay s).1 = .error (.error (.sync text)) := by
  cases c with
  | process source overlay =>
    obtain ⟨-, hr⟩ := process_accounts host source overlay hs
    generalize s.departures host (.process source overlay) = f at hr h ⊢
    generalize hresult : (process host source overlay s).1 = r at hr
    cases hr with
    | refused e he => cases h
    | queued o ho ha hfits => cases h
    | handed o ho ha hover answer => cases List.mem_singleton.1 h
    | waitFailed o oldest text ho ha hover holdest hsync =>
      have hone : Session.accepted (s.attempt? host (.process source overlay)).toList = [o] := by
        rw [ho]
        exact List.filter_cons_of_pos ha
      exact ⟨source, overlay, oldest, text, rfl, rfl, by rw [hone]; exact holdest, hsync, hresult⟩
  | flush =>
    obtain ⟨n, -, hf⟩ := flush_accounts host hs
    rw [hf] at h
    cases List.eq_of_mem_replicate h
  | close =>
    obtain ⟨-, hf⟩ := close_accounts host hs
    rw [hf] at h
    cases List.eq_of_mem_replicate h

/-- A frame is dropped for a wait that failed, by the process call that waited. -/
theorem dropped_of_fates (hs : s.pipeline.Carries []) {calls : List Call} {i : Nat}
    (h : (s.fates host calls)[i]? = some .waitFailed) :
    ∃ o before source overlay rest text, (s.operations host calls)[i]? = some o ∧
      calls = before ++ .process source overlay :: rest ∧ i = (s.fates host before).length ∧
      host.sync ((s.run host before).pipeline.journal.synced ++ [o.fence]) = some text ∧
      (process host source overlay (s.run host before)).1 = .error (.error (.sync text)) := by
  obtain ⟨before, c, rest, j, rfl, hi, hfate⟩ := exists_of_collect h
  have hbefore := run_accounts host hs before
  obtain ⟨source, overlay, oldest, text, rfl, hf, holdest, hsync, hresult⟩ :=
    processed_of_waitFailed hbefore.carries (List.mem_of_getElem? hfate)
  have hj : j < (Session.departures host (s.run host before) (.process source overlay)).length :=
    (List.getElem?_eq_some_iff.1 hfate).1
  rw [hf] at hj
  have hi' : i = (s.fates host before).length := by
    rw [fates, hi, Nat.lt_one_iff.1 hj]
    rfl
  refine ⟨oldest, before, source, overlay, rest, text, ?_, rfl, hi', hsync, hresult⟩
  refine getElem?_operations (hi' ▸ hbefore.length_le) ?_ rest
  rw [hi']
  exact holdest

/-- A frame is discarded by closing the session. -/
theorem discarded_of_fates {calls : List Call} {i : Nat}
    (h : (s.fates host calls)[i]? = some .discarded) :
    ∃ before rest, calls = before ++ .close :: rest ∧ (s.fates host before).length ≤ i ∧
      i < (s.fates host (before ++ [.close])).length := by
  obtain ⟨before, c, rest, j, rfl, hi, hfate⟩ := exists_of_collect h
  cases eq_close_of_discarded (List.mem_of_getElem? hfate)
  have hj := (List.getElem?_eq_some_iff.1 hfate).1
  have hlength : (s.fates host (before ++ [.close])).length =
      (s.fates host before).length + ((s.run host before).departures host .close).length := by
    rw [fates, collect_append, collect, collect, List.append_nil, List.length_append]
    rfl
  change i = (s.fates host before).length + j at hi
  exact ⟨before, rest, rfl, by omega, by omega⟩

/-- Whatever the host answers, a run delivers the frames of its operations in order and each at
most once, and loses none of them unless a wait fails or the session is closed. -/
theorem run_delivers (hs : Started host s) (calls : List Call) : Delivery host s calls := by
  have haccounts := run_accounts host hs.carries calls
  have hblits : s.mainBlits = [] := by
    rw [mainBlits, hs.journal]
    rfl
  have hhanded : (s.run host calls).pipeline.journal.handed.map (·.frame) =
      handedFrames (s.operations host calls) (s.fates host calls) := by
    have h := haccounts.handed
    rw [hs.journal] at h
    exact h
  exact {
    accepted := by
      rw [haccounts.blits, hblits, List.nil_append, List.filter_map]
      rfl
    origin := by
      intro i o ho
      obtain ⟨before, source, overlay, rest, hcalls, hi, hattempt⟩ := attempt_of_operations ho
      exact ⟨before, source, overlay, rest, hcalls, hi, originates_of_attempt? hattempt⟩
    handed := hhanded
    ordered := hhanded ▸ handedFrames_sublist _ _
    waiting := ⟨haccounts.length_le, haccounts.carries.jobs⟩
    dropped := fun i => dropped_of_fates hs.carries
    discarded := fun i => discarded_of_fates }

theorem run_delivers_sample :
    let calls : List Call := [.process (Sample.frame 1) none,
      .process (Sample.frame 2) (some Sample.unalignedOverlay), .process (Sample.frame 3) none,
      .flush]
    Started Sample.host Sample.session ∧ Delivery Sample.host Sample.session calls ∧
      (Sample.session.run Sample.host calls).pipeline.journal.delivered.map (·.pts) =
        [some 1, some 2, some 3] :=
  ⟨Sample.started, run_delivers Sample.started _, by decide +kernel⟩

end Session
end Blitter
