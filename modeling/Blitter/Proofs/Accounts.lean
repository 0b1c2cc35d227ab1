import Blitter.Filter.Composite
import Blitter.Proofs.Draining
import Blitter.Proofs.Preparation
import Blitter.Session.Run

/-!
# Accounts of a run

Every process call attempts at most one main blit; if the hardware accepts it, an operation joins
those in flight. `attempts`, `operations` and `fates` list what the calls of a run have done,
`Accounts` says how the journal and the pipeline agree with the lists. Each call keeps the accounts,
however it ends, and so does every run.
-/
namespace Blitter

namespace Pools

/-- The cargo in a slot. -/
def cargoAt? (pools : Pools) (role : Role) (id : SlotId) : Option Cargo :=
  ((pools.get role).slot? id).bind fun slot => slot.frame.map (⟨id, ·, slot.surface⟩)

/-- The load that a job names. -/
def load? (pools : Pools) (job : Job) : Option Load := do
  let source ← pools.cargoAt? .source job.source
  let destination ← pools.cargoAt? .destination job.destination
  match job.pattern with
  | none => return ⟨source, destination, none⟩
  | some id => return ⟨source, destination, some (← pools.cargoAt? .pattern id)⟩

theorem Ready.load?_eq {pools : Pools} {l : Load} (h : pools.Ready l) :
    pools.load? l.job = some l := by
  have hcargo : ∀ role c, l.cargo? role = some c → pools.cargoAt? role c.slot = some c := by
    intro role c hc
    simp [cargoAt?, h role c hc, Cargo.inSlot]
  have hsource := hcargo .source l.source rfl
  have hdestination := hcargo .destination l.destination rfl
  rcases l with ⟨source, destination, _ | pattern⟩
  · simp [load?, Load.job, hsource, hdestination]
  · simp [load?, Load.job, hsource, hdestination, hcargo .pattern pattern rfl]

end Pools

namespace Session

variable {s t u : Session} {ops : List Operation} {host : Host}

/-! ## What calls do -/

/-- The main blit that a call issues, with the hardware's answer. -/
def attempt? (host : Host) (s : Session) : Call → Option Operation
  | .process source overlay =>
    match prepare host source overlay s with
    | (.error _, _) => none
    | (.ok job, t) => (t.pipeline.pools.load? job).map fun l =>
      ⟨l, (host.runBlit l.blit t.pipeline.journal).1⟩
  | .flush | .close => none

/-- The operations among attempts: those that the hardware has accepted. -/
def accepted (attempts : List Operation) : List Operation :=
  attempts.filter (·.entry.isAccepted)

/-- The fates that operations meet in a call, oldest first. In a call other than `close` those that
leave are handed over if the consumer was given as many frames. -/
def departures (host : Host) (s : Session) (c : Call) : List Fate :=
  let t := s.after host c
  let left := s.inFlight + (accepted (s.attempt? host c).toList).length - t.inFlight
  let handed := t.pipeline.journal.handed.length - s.pipeline.journal.handed.length
  match c with
  | .close => List.replicate left .discarded
  | .process .. | .flush =>
    List.replicate handed .handed ++ List.replicate (left - handed) .waitFailed

/-- What the calls of a run contribute, one after the other. -/
def collect {α : Type} (contribution : Session → Call → List α) (host : Host) (s : Session) :
    List Call → List α
  | [] => []
  | c :: rest => contribution s c ++ collect contribution host (s.after host c) rest

/-- The main blits that a run issues. -/
def attempts (host : Host) (s : Session) (calls : List Call) : List Operation :=
  collect (fun s c => (s.attempt? host c).toList) host s calls

/-- The operations that a run adds to those in flight. -/
def operations (host : Host) (s : Session) (calls : List Call) : List Operation :=
  accepted (attempts host s calls)

/-- The fates of the oldest operations of a run. -/
def fates (host : Host) (s : Session) (calls : List Call) : List Fate :=
  collect (departures host) host s calls

/-- The main blits that a session has issued. -/
def mainBlits (s : Session) : List BlitEntry := s.pipeline.journal.blits.filter (·.isMain)

/-! ## Keeping accounts -/

/-- From `s`, with these operations in flight, to `t` main blits were attempted and the oldest
operations have met their fates. -/
structure Accounts (s t : Session) (ops attempts : List Operation) (fates : List Fate) :
    Prop where
  length_le : fates.length ≤ (ops ++ accepted attempts).length
  carries : t.pipeline.Carries ((ops ++ accepted attempts).drop fates.length)
  blits : t.mainBlits = s.mainBlits ++ attempts.map (·.entry)
  synced : t.pipeline.journal.synced =
    s.pipeline.journal.synced ++ ((ops ++ accepted attempts).take fates.length).map (·.fence)
  handed : t.pipeline.journal.handed.map (·.frame) =
    s.pipeline.journal.handed.map (·.frame) ++ handedFrames (ops ++ accepted attempts) fates

theorem accepted_append (a b : List Operation) : accepted (a ++ b) = accepted a ++ accepted b :=
  List.filter_append ..

namespace Accounts

variable {a b : List Operation} {f g : List Fate}

theorem refl (h : s.pipeline.Carries ops) : Accounts s s ops [] [] := by
  constructor <;> simp [accepted, handedFrames, h]

theorem trans (h : Accounts s t ops a f)
    (h' : Accounts t u ((ops ++ accepted a).drop f.length) b g) :
    Accounts s u ops (a ++ b) (f ++ g) := by
  have hle := h.length_le
  have hsplit : (ops ++ accepted (a ++ b)) = (ops ++ accepted a) ++ accepted b := by
    rw [accepted_append, List.append_assoc]
  have hdrop : ((ops ++ accepted a).drop f.length ++ accepted b) =
      ((ops ++ accepted a) ++ accepted b).drop f.length := by
    rw [List.drop_append_of_le_length hle]
  have hcarries := h'.carries
  have hsynced := h'.synced
  have hhanded := h'.handed
  have hlength := h'.length_le
  rw [hdrop] at hcarries hsynced hhanded hlength
  constructor
  · rw [hsplit, List.length_append]
    rw [List.length_drop] at hlength
    have hsum : ((ops ++ accepted a) ++ accepted b).length =
        (ops ++ accepted a).length + (accepted b).length := List.length_append
    omega
  · rw [hsplit, List.length_append, ← List.drop_drop]
    exact hcarries
  · rw [h'.blits, h.blits, List.map_append, List.append_assoc]
  · rw [hsynced, h.synced, hsplit, List.length_append, List.take_add, List.map_append,
      List.take_append_of_le_length hle, List.append_assoc]
  · rw [hhanded, h.handed, hsplit, handedFrames_append, handedFrames_of_le _ _ hle,
      List.append_assoc]

end Accounts

/-- Settling operations keeps accounts. -/
theorem accounts_of_settles {q : Pipeline} {f : List Fate} {given : List Handover}
    (h : s.pipeline.Settles q ops f given) : Accounts s { s with pipeline := q } ops [] f := by
  have hj := h.journal
  refine ⟨?_, ?_, ?_, ?_, ?_⟩
  · simpa [accepted] using h.length_le
  · simpa [accepted] using h.carries
  · simp [mainBlits, hj]
  · simp [accepted, hj]
  · simp [accepted, hj, h.frames]

/-- Signalling the end of the stream is not accounted for. -/
theorem Accounts.signalled {a : List Operation} {f : List Fate} (h : Accounts s t ops a f)
    (n : Nat) :
    Accounts s { t with pipeline := { t.pipeline with journal :=
      { t.pipeline.journal with ends := n } } } ops a f :=
  ⟨h.length_le, ⟨h.carries.jobs, h.carries.held, h.carries.fenced⟩, h.blits, h.synced, h.handed⟩

/-- Nothing is accounted for when what is in flight is left alone. -/
theorem accounts_of_undisturbed {touched : List Role} (h : s.pipeline.Carries ops)
    (hu : Undisturbed touched s t) : Accounts s t ops [] [] := by
  have hj := hu.journal
  refine ⟨Nat.zero_le _, by simpa [accepted] using hu.carries h, ?_, ?_, ?_⟩
  · simpa [mainBlits] using hu.blits
  · rw [hj]
    simp
  · rw [hj]
    simp [handedFrames]

/-- An attempt is accounted for whether it is accepted or not. -/
theorem Accounts.attempted {o : Operation} {q : Pipeline} (h : Accounts s t ops [] [])
    (ho : o.IsFenced) (hcarries : q.Carries (ops ++ accepted [o]))
    (hjournal : q.journal = { t.pipeline.journal with
      blits := t.pipeline.journal.blits ++ [o.entry] }) :
    Accounts s { t with pipeline := q } ops [o] [] := by
  have hmain : o.entry.isMain = true := decide_eq_true ho
  have hblits := h.blits
  refine ⟨Nat.zero_le _, hcarries, ?_, ?_, ?_⟩
  · simp only [mainBlits, List.map_nil, List.append_nil] at hblits ⊢
    rw [hjournal]
    simp [hblits, hmain]
  · rw [hjournal]
    simpa using h.synced
  · rw [hjournal]
    simpa [handedFrames] using h.handed

/-! ## Fates -/

theorem Accounts.inFlight_eq {a : List Operation} {f : List Fate} (h : Accounts s t ops a f) :
    t.inFlight = (ops ++ accepted a).length - f.length := by
  simp [inFlight, h.carries.jobs]

/-- The fates of a call can be read off how many jobs have left and how many frames were given. -/
theorem Accounts.counts {a : List Operation} {f : List Fate} (h : Accounts s t ops a f)
    (hs : s.pipeline.Carries ops) :
    s.inFlight + (accepted a).length - t.inFlight = f.length ∧
      t.pipeline.journal.handed.length - s.pipeline.journal.handed.length = f.count .handed := by
  have hle := h.length_le
  have hbefore : s.inFlight = ops.length := by simp [inFlight, hs.jobs]
  have hafter := h.inFlight_eq
  have hhanded := congrArg List.length h.handed
  rw [List.length_append, length_handedFrames hle, List.length_map, List.length_map] at hhanded
  rw [List.length_append] at hle hafter
  constructor
  · omega
  · omega

/-- Accounts of a call say what its fates are read as. -/
theorem departures_eq {c : Call} {f : List Fate} (hs : s.pipeline.Carries ops)
    (h : Accounts s (s.after host c) ops (s.attempt? host c).toList f) :
    s.departures host c = match c with
      | .close => List.replicate f.length .discarded
      | .process .. | .flush => List.replicate (f.count .handed) .handed ++
        List.replicate (f.length - f.count .handed) .waitFailed := by
  obtain ⟨hleft, hhanded⟩ := h.counts hs
  unfold departures
  cases c with
  | process source overlay =>
    simp only
    rw [hleft, hhanded]
  | flush =>
    simp only
    rw [hleft, hhanded]
  | close =>
    simp only
    rw [hleft]

/-! ## Finishing -/

theorem call_process (host : Host) (source : Frame) (overlay : Option Frame) (s : Session) :
    call host (.process source overlay) s =
      ((process host source overlay s).1.map some, (process host source overlay s).2) := by
  change (some <$> process host source overlay : SessionM _) s = _
  rcases h : process host source overlay s with ⟨e | status, t⟩
  · rw [map_eq_pure_bind, bind_of_error h]
    rfl
  · rw [map_of_ok h]
    rfl

/-- The end of the stream is signalled if every frame was taken. -/
theorem call_flush {q : Pipeline} {r : Except Error Nat}
    (h : Pipeline.drainAll host true s.pipeline = (r.mapError .error, q)) :
    call host .flush s = ((r.map fun _ => none).mapError .error, { s with pipeline := { q with
      journal := { q.journal with ends := q.journal.ends + if r.isOk then 1 else 0 } } }) := by
  have hrun := onPipeline_run h
  cases r with
  | error e => exact bind_of_error (bind_of_error hrun)
  | ok n =>
    have hflush : flush host s = (.ok (), _) := (bind_of_ok hrun).trans rfl
    exact bind_of_ok hflush

theorem after_close {q : Pipeline} {r : Except Failure Nat}
    (h : Pipeline.drainAll host false s.pipeline = (r, q)) :
    s.after host .close = { s with pipeline := q.clear } := by
  change close host s = _
  unfold close
  rw [h]

/-- Everything that leaves in a flush is handed over. -/
theorem flush_accounts (host : Host) (h : s.pipeline.Carries ops) :
    ∃ n, Accounts s (s.after host .flush) ops [] (List.replicate n .handed) ∧
      s.departures host .flush = List.replicate n .handed := by
  obtain ⟨q, r, n, given, hdrain, hsettles, -⟩ := Pipeline.drainAll_delivering host h
  have haccounts : Accounts s (s.after host .flush) ops [] (List.replicate n .handed) := by
    rw [after, call_flush hdrain]
    exact (accounts_of_settles hsettles).signalled _
  refine ⟨n, haccounts, ?_⟩
  rw [departures_eq (c := .flush) h haccounts]
  simp

/-- Everything leaves when the session is closed, and nothing is handed over. -/
theorem close_accounts (host : Host) (h : s.pipeline.Carries ops) :
    Accounts s (s.after host .close) ops [] (List.replicate ops.length .discarded) ∧
      s.departures host .close = List.replicate ops.length .discarded := by
  obtain ⟨q, hdrain, hsettles⟩ := Pipeline.drainAll_discarding host h
  have hafter := after_close hdrain
  have hsettled := accounts_of_settles hsettles
  have hjobs : q.jobs = [] := by
    rw [hsettles.carries.jobs]
    simp
  have haccounts :
      Accounts s (s.after host .close) ops [] (List.replicate ops.length .discarded) := by
    rw [hafter]
    refine ⟨hsettled.length_le, ?_, hsettled.blits, hsettled.synced, hsettled.handed⟩
    simp only [accepted, List.filter_nil, List.append_nil, List.length_replicate, List.drop_length]
    exact ⟨hjobs, Pools.holds_empty, by simp⟩
  refine ⟨haccounts, ?_⟩
  rw [departures_eq (c := .close) h haccounts]
  simp

/-! ## Processing -/

/-- How a process call ends, with the fate that the oldest operation has met. -/
inductive Processed (host : Host) (s : Session) (ops : List Operation)
    (attempt : Option Operation) : List Fate → Except Failure FrameStatus → Prop where
  | refused (e : Error) (h : accepted attempt.toList = []) :
    Processed host s ops attempt [] (.error (.error e))
  | queued (o : Operation) (ho : attempt = some o) (ha : o.entry.isAccepted = true)
    (hfits : ops.length < s.pipeline.depth) : Processed host s ops attempt [] (.ok .notReady)
  | handed (o : Operation) (ho : attempt = some o) (ha : o.entry.isAccepted = true)
    (hover : s.pipeline.depth ≤ ops.length) (answer : Except Error Unit) :
    Processed host s ops attempt [.handed]
      ((answer.map fun _ => .delivered).mapError .error)
  | waitFailed (o oldest : Operation) (text : String) (ho : attempt = some o)
    (ha : o.entry.isAccepted = true) (hover : s.pipeline.depth ≤ ops.length)
    (holdest : (ops ++ [o]).head? = some oldest)
    (hsync : host.sync (s.pipeline.journal.synced ++ [oldest.fence]) = some text) :
    Processed host s ops attempt [.waitFailed] (.error (.error (.sync text)))

/-- Once the blit of a call has been accepted, the rest is up to the oldest operation in flight. -/
theorem process_of_accepted {source : Frame} {overlay : Option Frame} {job : Job} {q : Pipeline}
    {o : Operation} (hprepare : prepare host source overlay s = (.ok job, t))
    (hissued : onPipeline (Pipeline.submit host job) t = (.ok (), { t with pipeline := q }))
    (hattempted : Accounts s { t with pipeline := q } ops [o] [])
    (haccepted : o.entry.isAccepted = true) (hq : q.Carries (ops ++ [o]))
    (hdepth : q.depth = s.pipeline.depth)
    (hsynced : q.journal.synced = s.pipeline.journal.synced) :
    ∃ r u f, process host source overlay s = (r, u) ∧ Accounts s u ops [o] f ∧
      Processed host s ops (some o) f r := by
  have hone : accepted [o] = [o] := List.filter_cons_of_pos haccepted
  have hlength : (ops ++ [o]).length = ops.length + 1 := List.length_append
  obtain ⟨q', r, f, given, hdrain, hsettles, hoverflow⟩ := Pipeline.drainOverDepth_settles host hq
  have hdrained := onPipeline_run (s := { t with pipeline := q }) hdrain
  have haccounts := hattempted.trans (b := []) (g := f) (by
    rw [hone]
    exact accounts_of_settles hsettles)
  rcases hoverflow with hfits | ⟨hover, answer⟩ | ⟨hover, oldest, text, holdest, hsync⟩
  · have hrun : process host source overlay s = (.ok .notReady, _) :=
      (bind_of_ok hprepare).trans ((bind_of_ok hissued).trans (bind_of_ok hdrained))
    exact ⟨_, _, [], hrun, haccounts, .queued o rfl haccepted (by omega)⟩
  · have hlate : s.pipeline.depth ≤ ops.length := by omega
    rcases answer with e | ⟨⟩
    · have hrun : process host source overlay s = (.error (.error e), _) :=
        (bind_of_ok hprepare).trans ((bind_of_ok hissued).trans (bind_of_error hdrained))
      exact ⟨_, _, [.handed], hrun, haccounts, .handed o rfl haccepted hlate (.error e)⟩
    · have hrun : process host source overlay s = (.ok .delivered, _) :=
        (bind_of_ok hprepare).trans ((bind_of_ok hissued).trans (bind_of_ok hdrained))
      exact ⟨_, _, [.handed], hrun, haccounts, .handed o rfl haccepted hlate (.ok ())⟩
  · have hrun : process host source overlay s = (.error (.error (.sync text)), _) :=
      (bind_of_ok hprepare).trans ((bind_of_ok hissued).trans (bind_of_error hdrained))
    rw [hsynced] at hsync
    exact ⟨_, _, [.waitFailed], hrun, haccounts,
      .waitFailed o oldest text rfl haccepted (by omega) holdest hsync⟩

theorem process_cases (host : Host) (source : Frame) (overlay : Option Frame)
    (h : s.pipeline.Carries ops) :
    let attempt := s.attempt? host (.process source overlay)
    ∃ r t f, process host source overlay s = (r, t) ∧ Accounts s t ops attempt.toList f ∧
      Processed host s ops attempt f r := by
  intro attempt
  obtain ⟨r, t, hprepare, hund, hcases⟩ := prepare_cases host source overlay s
  rcases hcases with ⟨e, rfl⟩ | ⟨u, l, rfl, hl⟩
  · have hnone : attempt = none := by
      simp only [attempt, attempt?, hprepare]
    refine ⟨_, t, [], bind_of_error hprepare, ?_, .refused e (by simp [hnone, accepted])⟩
    rw [hnone]
    exact accounts_of_undisturbed h hund
  · obtain ⟨allocated, -, -, -, hfenced⟩ := hl.destination
    have hprepared := accounts_of_undisturbed h hund
    have hcarries : t.pipeline.Carries ops := by simpa [accepted] using hprepared.carries
    let o : Operation := ⟨l, (host.runBlit l.blit t.pipeline.journal).1⟩
    have hattempt : attempt = some o := by
      simp only [attempt, attempt?, hprepare, hl.ready.load?_eq]
      rfl
    obtain ⟨q, r, hsubmit, hdepth, hjournal, hend⟩ :=
      Pipeline.submit_carries host hcarries hl.ready hfenced
    have hissued := onPipeline_run hsubmit
    rw [hattempt]
    rcases hend with ⟨haccepted, rfl, hq⟩ | ⟨hrefused, ⟨e, rfl⟩, hq⟩
    · have hone : accepted [o] = [o] := List.filter_cons_of_pos haccepted
      have hattempted : Accounts s { t with pipeline := q } ops [o] [] :=
        hprepared.attempted hfenced (by rwa [hone]) hjournal
      refine process_of_accepted hprepare hissued hattempted haccepted hq ?_ ?_
      · rw [hdepth, hund.pipeline]
      · rw [hjournal, hund.journal]
    · have hnone : accepted [o] = [] := List.filter_cons_of_neg (ne_true_of_eq_false hrefused)
      have hrun : process host source overlay s =
          (.error (.error e), { t with pipeline := q }) :=
        (bind_of_ok hprepare).trans (bind_of_error hissued)
      exact ⟨_, _, [], hrun, hprepared.attempted hfenced (by simpa [hnone] using hq) hjournal,
        .refused e hnone⟩

/-! ## Calls and runs -/

theorem after_process (host : Host) (s : Session) (source : Frame) (overlay : Option Frame) :
    s.after host (.process source overlay) = (process host source overlay s).2 := by
  rw [after, call_process]

/-- A process call accounts for its attempt and for one fate at most. -/
theorem process_accounts (host : Host) (source : Frame) (overlay : Option Frame)
    (h : s.pipeline.Carries ops) :
    let c : Call := .process source overlay
    Accounts s (s.after host c) ops (s.attempt? host c).toList (s.departures host c) ∧
      Processed host s ops (s.attempt? host c) (s.departures host c)
        (process host source overlay s).1 := by
  intro c
  obtain ⟨r, t, f, hrun, haccounts, hr⟩ := process_cases host source overlay h
  have hafter : s.after host c = t := by rw [after_process, hrun]
  rw [← hafter] at haccounts
  have hf : s.departures host c = f := by
    rw [departures_eq (c := c) h haccounts]
    cases hr <;> rfl
  rw [hf, hrun]
  exact ⟨haccounts, hr⟩

/-- Every call keeps accounts. -/
theorem call_accounts (host : Host) (h : s.pipeline.Carries ops) (c : Call) :
    Accounts s (s.after host c) ops (s.attempt? host c).toList (s.departures host c) := by
  cases c with
  | process source overlay => exact (process_accounts host source overlay h).1
  | flush =>
    obtain ⟨n, haccounts, hf⟩ := flush_accounts host h
    rw [hf]
    exact haccounts
  | close =>
    obtain ⟨haccounts, hf⟩ := close_accounts host h
    rw [hf]
    exact haccounts

/-- Every run keeps accounts. -/
theorem run_accounts (host : Host) (h : s.pipeline.Carries ops) (calls : List Call) :
    Accounts s (s.run host calls) ops (s.attempts host calls) (s.fates host calls) := by
  induction calls generalizing s ops with
  | nil => exact Accounts.refl h
  | cons c rest ih =>
    have hcall := call_accounts host h c
    exact hcall.trans (ih hcall.carries)

/-! ## Looking things up -/

/-- What a run has collected comes from one of its calls. -/
theorem exists_of_collect {α : Type} {contribution : Session → Call → List α} {calls : List Call}
    {i : Nat} {a : α} (h : (collect contribution host s calls)[i]? = some a) :
    ∃ before c rest j, calls = before ++ c :: rest ∧
      i = (collect contribution host s before).length + j ∧
      (contribution (s.run host before) c)[j]? = some a := by
  induction calls generalizing s i with
  | nil => simp [collect] at h
  | cons c rest ih =>
    rw [collect, List.getElem?_append] at h
    split at h
    · exact ⟨[], c, rest, i, rfl, by simp [collect], h⟩
    · next hi =>
      obtain ⟨before, c', rest', j, hcalls, hj, ha⟩ := ih h
      refine ⟨c :: before, c', rest', j, by rw [hcalls]; rfl, ?_, ha⟩
      rw [collect, List.length_append]
      omega

theorem operations_eq_collect (host : Host) (s : Session) (calls : List Call) :
    s.operations host calls =
      collect (fun s c => accepted (s.attempt? host c).toList) host s calls := by
  unfold operations attempts
  induction calls generalizing s with
  | nil => rfl
  | cons c rest ih => rw [collect, collect, accepted_append, ih]

theorem collect_append {α : Type} (contribution : Session → Call → List α) (host : Host)
    (s : Session) (first rest : List Call) :
    collect contribution host s (first ++ rest) =
      collect contribution host s first ++ collect contribution host (s.run host first) rest := by
  induction first generalizing s with
  | nil => rfl
  | cons c first ih =>
    rw [List.cons_append, collect, collect, ih, List.append_assoc]
    rfl

/-- An attempt is made of what the call has prepared. -/
theorem prepared_of_attempt? {source : Frame} {overlay : Option Frame} {o : Operation}
    (h : s.attempt? host (.process source overlay) = some o) :
    ∃ u t, prepare host source overlay s = (.ok o.load.job, t) ∧
      Undisturbed touched s t ∧ Prepared host s source overlay u o.load t ∧
      o.answer = (host.runBlit o.load.blit t.pipeline.journal).1 := by
  obtain ⟨r, t, hprepare, hund, hcases⟩ := prepare_cases host source overlay s
  unfold attempt? at h
  rcases hcases with ⟨e, rfl⟩ | ⟨u, l, rfl, hl⟩
  · simp only [hprepare] at h
    cases h
  · simp only [hprepare, hl.ready.load?_eq] at h
    cases h
    exact ⟨u, t, hprepare, hund, hl, rfl⟩

/-- An operation of a run comes from a process call of its own. -/
theorem attempt_of_operations {calls : List Call} {i : Nat} {o : Operation}
    (h : (s.operations host calls)[i]? = some o) :
    ∃ before source overlay rest, calls = before ++ .process source overlay :: rest ∧
      i = (s.operations host before).length ∧
      (s.run host before).attempt? host (.process source overlay) = some o := by
  rw [operations_eq_collect] at h
  obtain ⟨before, c, rest, j, hcalls, hi, ho⟩ := exists_of_collect h
  have hattempt : (s.run host before).attempt? host c = some o := by
    simpa using (List.mem_filter.1 (List.mem_of_getElem? ho)).1
  have hj : j < 1 := by
    have hlt := (List.getElem?_eq_some_iff.1 ho).1
    refine Nat.lt_of_lt_of_le hlt (Nat.le_trans (List.length_filter_le _ _) ?_)
    rw [hattempt]
    exact Nat.le_refl 1
  have hi' : i = (s.operations host before).length := by
    rw [operations_eq_collect, hi]
    omega
  cases c with
  | process source overlay => exact ⟨before, source, overlay, rest, hcalls, hi', hattempt⟩
  | flush => cases hattempt
  | close => cases hattempt

end Session
end Blitter
