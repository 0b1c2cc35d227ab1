import Blitter.Proofs.InFlight

/-!
# Leaving the pipeline

Operations leave the pipeline oldest first, each with a fate: its frame is handed to the consumer,
or dropped because its fence could not be waited for, or let go of when the session is closed.
`Pipeline.Settles` says what this does to the pipeline and its journal, and `drainOverDepth` and
`drainAll` settle operations in this sense whatever the host answers.
-/
namespace Blitter

/-- How an operation left the pipeline. -/
inductive Fate where
  | handed
  | waitFailed
  | discarded
  deriving DecidableEq

/-- The frames of the operations that were handed over, of those that have a fate. -/
def handedFrames (ops : List Operation) (fates : List Fate) : List Frame :=
  ((ops.zip fates).filter (·.2 = .handed)).map (·.1.frame)

theorem handedFrames_append (ops : List Operation) (first rest : List Fate) :
    handedFrames ops (first ++ rest) =
      handedFrames ops first ++ handedFrames (ops.drop first.length) rest := by
  induction first generalizing ops with
  | nil => simp [handedFrames]
  | cons f first ih =>
    cases ops with
    | nil => simp [handedFrames]
    | cons o ops =>
      have := ih ops
      unfold handedFrames at this ⊢
      by_cases h : f = .handed <;> simp [h, this]

/-- Operations that have no fate yet do not matter. -/
theorem handedFrames_of_le (ops more : List Operation) {fates : List Fate}
    (h : fates.length ≤ ops.length) :
    handedFrames (ops ++ more) fates = handedFrames ops fates := by
  have hzip : (ops ++ more).zip fates = ops.zip fates := by
    induction ops generalizing fates with
    | nil => simp [List.eq_nil_of_length_eq_zero (Nat.le_zero.1 h)]
    | cons o ops ih =>
      cases fates with
      | nil => rfl
      | cons f fates => simp [ih (Nat.le_of_succ_le_succ h)]
  unfold handedFrames
  rw [hzip]

theorem handedFrames_handed (ops : List Operation) (n : Nat) :
    handedFrames ops (List.replicate n .handed) = (ops.take n).map (·.frame) := by
  induction n generalizing ops with
  | zero => simp [handedFrames]
  | succ n ih =>
    cases ops with
    | nil => simp [handedFrames]
    | cons o ops =>
      have := ih ops
      unfold handedFrames at this ⊢
      simp [List.replicate_succ, this]

/-- A frame is handed over for every fate that says so. -/
theorem length_handedFrames {ops : List Operation} {fates : List Fate}
    (h : fates.length ≤ ops.length) : (handedFrames ops fates).length = fates.count .handed := by
  have hsnd : (ops.zip fates).map (·.2) = fates := List.map_snd_zip h
  calc (handedFrames ops fates).length
      = ((ops.zip fates).filter (·.2 = .handed)).length := List.length_map _
    _ = (ops.zip fates).countP (·.2 = .handed) := List.countP_eq_length_filter.symm
    _ = ((ops.zip fates).map (·.2)).countP (· == .handed) := by
      rw [List.countP_map]
      rfl
    _ = fates.count .handed := by
      rw [hsnd]
      rfl

theorem handedFrames_of_not_mem (ops : List Operation) {fates : List Fate}
    (h : Fate.handed ∉ fates) : handedFrames ops fates = [] := by
  unfold handedFrames
  rw [List.filter_eq_nil_iff.2, List.map_nil]
  rintro ⟨o, f⟩ hmem
  have hf : f ≠ .handed := fun he => h (he ▸ (List.of_mem_zip hmem).2)
  simp [hf]

namespace Pipeline

variable {p : Pipeline} {ops : List Operation} {host : Host}

/-- From `p` to `q` the oldest of the operations have met these fates and nothing else has changed:
their fences were waited for, and `given` was handed over. -/
structure Settles (p q : Pipeline) (ops : List Operation) (fates : List Fate)
    (given : List Handover) : Prop where
  length_le : fates.length ≤ ops.length
  carries : q.Carries (ops.drop fates.length)
  depth : q.depth = p.depth
  journal : q.journal = { p.journal with
    synced := p.journal.synced ++ (ops.take fates.length).map (·.fence)
    handed := p.journal.handed ++ given }
  frames : given.map (·.frame) = handedFrames ops fates

theorem deliver_run (host : Host) (frame : Frame) :
    deliver host frame p = ((host.runDeliver frame p.journal).1.mapError .error,
      { p with journal := (host.runDeliver frame p.journal).2 }) := by
  refine (bind_of_ok (ask_run _)).trans ?_
  cases (host.runDeliver frame p.journal).1 <;> rfl

theorem drainOverDepth_below (hj : p.jobs = ops.map (·.job)) (hlen : ops.length ≤ p.depth) :
    drainOverDepth host p = (.ok false, p) := by
  refine (bind_of_ok get_run).trans ?_
  rw [hj]
  cases ops with
  | nil => rfl
  | cons o ops =>
    rw [List.length_cons] at hlen
    simp only [List.map_cons, List.length_map]
    rw [if_pos (by omega)]
    rfl

/-- With more operations in flight than the depth allows, the oldest one is retired. Its frame is
handed over unless the wait failed. -/
theorem drainOverDepth_above (host : Host) {o : Operation} (h : p.pools.Holds (o :: ops))
    (hf : o.IsFenced) (hj : p.jobs = o.job :: ops.map (·.job)) (hlen : p.depth ≤ ops.length) :
    let waited := host.runSync o.fence p.journal
    let given := host.runDeliver o.frame waited.2
    ∃ pools : Pools, pools.Holds ops ∧ drainOverDepth host p =
      match waited.1 with
      | .error e => (.error (.error e),
          { p with pools := pools, jobs := ops.map (·.job), journal := waited.2 })
      | .ok () => ((given.1.map fun _ => true).mapError .error,
          { p with pools := pools, jobs := ops.map (·.job), journal := given.2 }) := by
  intro waited given
  let p₁ : Pipeline := { p with jobs := ops.map (·.job) }
  obtain ⟨pools, hheld, hretire⟩ := retire_run (p := p₁) host h hf
  refine ⟨pools, hheld, ?_⟩
  refine (bind_of_ok get_run).trans ?_
  rw [hj]
  simp only [List.length_map]
  rw [if_neg (by omega)]
  refine (bind_of_ok (modify_run _)).trans ((bind_of_ok hretire).trans ?_)
  change (orFail waited.1 >>= _) _ = _
  rcases waited.1 with e | ⟨⟩
  · exact bind_of_error (orFail_error e)
  · refine (bind_of_ok (orFail_ok ())).trans ?_
    have hgive : deliver host o.frame { p₁ with pools := pools, journal := waited.2 } =
        (given.1.mapError .error, { p₁ with pools := pools, journal := given.2 }) :=
      deliver_run host o.frame
    rcases hg : given.1 with e | ⟨⟩ <;> rw [hg] at hgive
    · exact bind_of_error hgive
    · exact bind_of_ok hgive

/-- What finishing asks of the host: every fence is waited for and, with `delivering`, every frame
is handed over. A frame that is refused ends it; the operations behind it are left. -/
def conclude (host : Host) (delivering : Bool) :
    List Operation → Journal → Except Error Nat × List Operation × Journal
  | [], j => (.ok 0, [], j)
  | o :: ops, j =>
    let j := (host.runSync o.fence j).2
    if delivering then
      match host.runDeliver o.frame j with
      | (.error e, j) => (.error e, ops, j)
      | (.ok (), j) =>
        ((conclude host delivering ops j).1.map (1 + ·), (conclude host delivering ops j).2)
    else conclude host delivering ops j

theorem conclude_refused {o : Operation} {e : Error} {j j' : Journal}
    (h : host.runDeliver o.frame (host.runSync o.fence j).2 = (.error e, j')) :
    conclude host true (o :: ops) j = (.error e, ops, j') := by
  rw [conclude, if_pos rfl, h]

theorem conclude_taken {o : Operation} {j j' : Journal}
    (h : host.runDeliver o.frame (host.runSync o.fence j).2 = (.ok (), j')) :
    conclude host true (o :: ops) j =
      ((conclude host true ops j').1.map (1 + ·), (conclude host true ops j').2) := by
  rw [conclude, if_pos rfl, h]

/-- Counting on after the rest has been finished. -/
theorem finish_add {delivering : Bool} {jobs : List Job} {q : Pipeline} {r : Except Error Nat}
    (n : Nat) (h : finish host delivering jobs p = (r.mapError .error, q)) :
    (do return n + (← finish host delivering jobs) : PipelineM Nat) p =
      ((r.map (n + ·)).mapError .error, q) := by
  cases r with
  | error e => exact bind_of_error h
  | ok m => exact bind_of_ok h

/-- Finishing the jobs of operations comes down to what they ask of the host, and the pools go on
holding those that are left. -/
theorem finish_run (host : Host) (delivering : Bool) (h : p.pools.Holds ops)
    (hf : ∀ o ∈ ops, o.IsFenced) (hj : p.jobs = ops.map (·.job)) :
    let ended := conclude host delivering ops p.journal
    ∃ pools : Pools, pools.Holds ended.2.1 ∧ finish host delivering (ops.map (·.job)) p =
      (ended.1.mapError .error,
        { p with pools := pools, jobs := ended.2.1.map (·.job), journal := ended.2.2 }) := by
  induction ops generalizing p with
  | nil =>
    refine ⟨p.pools, h, ?_⟩
    change (_, p) = (_, { p with jobs := [] })
    rw [← show p.jobs = [] from hj]
    rfl
  | cons o ops ih =>
    let p₁ : Pipeline := { p with jobs := ops.map (·.job) }
    obtain ⟨pools, hheld, hretire⟩ :=
      retire_run (p := p₁) host h (hf o List.mem_cons_self)
    let p₂ : Pipeline := { p₁ with pools := pools, journal := (host.runSync o.fence p.journal).2 }
    have hrest := fun o' ho => hf o' (List.mem_cons_of_mem _ ho)
    have hstep : finish host delivering (o.job :: ops.map (·.job)) p = (do
        let count ← if delivering then do deliver host o.frame; pure 1 else pure 0
        return count + (← finish host delivering (ops.map (·.job))) : PipelineM Nat) p₂ :=
      (bind_of_ok (modify_run _)).trans (bind_of_ok hretire)
    rw [List.map_cons, hstep]
    cases delivering with
    | false =>
      obtain ⟨pools, hheld, hfinish⟩ := ih (p := p₂) hheld hrest rfl
      have hzero (r : Except Error Nat) : r.map (0 + ·) = r := by
        cases r <;> simp [Except.map]
      refine ⟨pools, hheld, (bind_of_ok (pure_run 0)).trans ((finish_add 0 hfinish).trans ?_)⟩
      rw [hzero]
      rfl
    | true =>
      have hgive := deliver_run host o.frame (p := p₂)
      rcases hd : host.runDeliver o.frame p₂.journal with ⟨e | ⟨⟩, j⟩ <;> rw [hd] at hgive
      · rw [conclude_refused hd]
        exact ⟨pools, hheld, bind_of_error hgive⟩
      · rw [conclude_taken hd]
        obtain ⟨pools, hheld, hfinish⟩ := ih (p := { p₂ with journal := j }) hheld hrest rfl
        refine ⟨pools, hheld, (bind_of_ok hgive).trans ((bind_of_ok (pure_run 1)).trans ?_)⟩
        exact finish_add 1 hfinish

/-- Finishing without a consumer waits for everything. -/
theorem conclude_discarding (host : Host) (ops : List Operation) (j : Journal) :
    conclude host false ops j =
      (.ok 0, [], { j with synced := j.synced ++ ops.map (·.fence) }) := by
  induction ops generalizing j with
  | nil => simp [conclude]
  | cons o ops ih =>
    rw [conclude, if_neg (by decide), ih]
    simp [Host.runSync]

/-- Finishing for a consumer gives it the frames in order, up to one that it refuses. -/
theorem conclude_delivering (host : Host) (ops : List Operation) (j : Journal) :
    ∃ done given,
      (conclude host true ops j).2 =
        (ops.drop done.length, { j with
          synced := j.synced ++ done.map (·.fence)
          handed := j.handed ++ given }) ∧
      done <+: ops ∧ given.map (·.frame) = done.map (·.frame) ∧
      ∀ n, (conclude host true ops j).1 = .ok n → done = ops := by
  induction ops generalizing j with
  | nil => exact ⟨[], [], by simp [conclude], by simp, rfl, fun _ _ => rfl⟩
  | cons o ops ih =>
    let waited := (host.runSync o.fence j).2
    let taken := (host.runDeliver o.frame waited).1.isOk
    rcases hd : host.runDeliver o.frame waited with ⟨e | ⟨⟩, j'⟩
    · have hj : j' = (host.runDeliver o.frame waited).2 := by rw [hd]
      rw [conclude_refused hd]
      refine ⟨[o], [⟨o.frame, taken⟩], ?_, ⟨ops, rfl⟩, rfl, fun n hn => by cases hn⟩
      rw [hj]
      rfl
    · have hj : j' = (host.runDeliver o.frame waited).2 := by rw [hd]
      rw [conclude_taken hd]
      obtain ⟨done, given, hrest, hprefix, hframes, hall⟩ := ih j'
      refine ⟨o :: done, ⟨o.frame, taken⟩ :: given, ?_, ?_, ?_, ?_⟩
      · rw [hrest, hj]
        simp [Host.runDeliver, Host.runSync, waited, taken]
      · exact List.cons_prefix_cons.2 ⟨rfl, hprefix⟩
      · simp [hframes]
      · intro n hn
        rcases hc : (conclude host true ops j').1 with e | m
        · rw [hc] at hn
          cases hn
        · rw [hall m hc]

/-! ## Fates -/

/-- How too many operations in flight are dealt with: none is too many, or the oldest one leaves. -/
inductive Overflow (host : Host) (p : Pipeline) (ops : List Operation) :
    List Fate → Except Failure Bool → Prop where
  | fits (h : ops.length ≤ p.depth) : Overflow host p ops [] (.ok false)
  | handed (h : p.depth < ops.length) (answer : Except Error Unit) :
    Overflow host p ops [.handed] ((answer.map fun _ => true).mapError .error)
  | waitFailed (h : p.depth < ops.length) (o : Operation) (text : String)
    (ho : ops.head? = some o) (hs : host.sync (p.journal.synced ++ [o.fence]) = some text) :
    Overflow host p ops [.waitFailed] (.error (.error (.sync text)))

theorem drainOverDepth_settles (host : Host) (h : p.Carries ops) :
    ∃ q r fates given, drainOverDepth host p = (r, q) ∧ Settles p q ops fates given ∧
      Overflow host p ops fates r := by
  by_cases hlen : ops.length ≤ p.depth
  · exact ⟨p, .ok false, [], [], drainOverDepth_below h.jobs hlen,
      ⟨by simp, by simpa using h, rfl, by simp, by simp [handedFrames]⟩, .fits hlen⟩
  · have hover : p.depth < ops.length := by omega
    cases ops with
    | nil => exact absurd (Nat.zero_le _) hlen
    | cons o rest =>
      have hrest := fun o' ho => h.fenced o' (List.mem_cons_of_mem _ ho)
      obtain ⟨pools, hheld, hdrain⟩ := drainOverDepth_above host h.held
        (h.fenced o List.mem_cons_self) h.jobs (Nat.le_of_lt_succ hover)
      rcases hs : host.sync (p.journal.synced ++ [o.fence]) with _ | text
      · have hwait : (host.runSync o.fence p.journal).1 = .ok () := by simp [Host.runSync, hs]
        simp only [hwait] at hdrain
        exact ⟨_, _, [.handed], [⟨o.frame, _⟩], hdrain,
          ⟨by simp, ⟨rfl, hheld, hrest⟩, rfl, rfl, by simp [handedFrames]⟩, .handed hover _⟩
      · have hwait : (host.runSync o.fence p.journal).1 = .error (.sync text) := by
          simp [Host.runSync, hs]
        simp only [hwait] at hdrain
        exact ⟨_, _, [.waitFailed], [], hdrain,
          ⟨by simp, ⟨rfl, hheld, hrest⟩, rfl, by simp [Host.runSync], by simp [handedFrames]⟩,
          .waitFailed hover o text rfl hs⟩

/-- Handing over everything in flight, up to a frame that the consumer refuses. -/
theorem drainAll_delivering (host : Host) (h : p.Carries ops) :
    ∃ (q : Pipeline) (r : Except Error Nat) (n : Nat) (given : List Handover),
      drainAll host true p = (r.mapError .error, q) ∧
      Settles p q ops (List.replicate n .handed) given ∧ (∀ m, r = .ok m → n = ops.length) := by
  obtain ⟨done, given, hended, hprefix, hframes, hall⟩ :=
    conclude_delivering host ops p.journal
  obtain ⟨pools, hheld, hfinish⟩ := finish_run host true h.held h.fenced h.jobs
  rw [hended] at hheld hfinish
  have hdone : done = ops.take done.length := List.prefix_iff_eq_take.1 hprefix
  refine ⟨_, _, done.length, given, (bind_of_ok get_run).trans (h.jobs ▸ hfinish), ?_, ?_⟩
  · refine ⟨?_, ?_, rfl, ?_, ?_⟩
    · rw [List.length_replicate]
      exact hprefix.length_le
    · rw [List.length_replicate]
      exact ⟨rfl, hheld, fun o ho => h.fenced o (List.mem_of_mem_drop ho)⟩
    · rw [List.length_replicate, ← hdone]
    · rw [handedFrames_handed, ← hdone]
      exact hframes
  · intro m hm
    rw [hall m hm]

/-- Letting go of everything in flight. -/
theorem drainAll_discarding (host : Host) (h : p.Carries ops) :
    ∃ q, drainAll host false p = (.ok 0, q) ∧
      Settles p q ops (List.replicate ops.length .discarded) [] := by
  obtain ⟨pools, hheld, hfinish⟩ := finish_run host false h.held h.fenced h.jobs
  rw [conclude_discarding] at hheld hfinish
  have hdrain : drainAll host false p = (.ok 0, { p with
      pools := pools
      jobs := []
      journal := { p.journal with synced := p.journal.synced ++ ops.map (·.fence) } }) :=
    (bind_of_ok get_run).trans (h.jobs ▸ hfinish)
  refine ⟨_, hdrain, by simp, ?_, rfl, by simp, ?_⟩
  · rw [List.length_replicate, List.drop_length]
    exact ⟨rfl, hheld, by simp⟩
  · rw [handedFrames_of_not_mem _ (by simp [List.mem_replicate])]
    rfl

end Pipeline
end Blitter
