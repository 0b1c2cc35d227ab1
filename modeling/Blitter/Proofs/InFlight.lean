import Blitter.Proofs.Holding
import Blitter.Proofs.Outcome

/-!
# Work in flight

An `Operation` is a blit that the hardware has accepted, with everything it works on.
`Pools.Holds` says that the pools keep the cargoes of the operations in flight and lock no other
slot. Submitting a load that is ready adds one operation at the end, or none if the blit fails;
retiring takes the oldest one off, waits for its fence and returns the frame it wrote.
-/
namespace Blitter

namespace BlitEntry

/-- The blit hands out a fence: it writes an output and not a canvas. -/
def isMain (e : BlitEntry) : Bool := e.blit.destination.completion = .fenced

/-- The hardware has accepted the blit and has given a fence for it. -/
def isAccepted (e : BlitEntry) : Bool := e.answer.status = 0 && decide (0 < e.answer.fence)

end BlitEntry

/-- Everything one blit works on. -/
structure Load where
  source : Cargo
  destination : Cargo
  pattern : Option Cargo
  deriving DecidableEq

namespace Load

def job (l : Load) : Job := ⟨l.source.slot, l.destination.slot, l.pattern.map (·.slot)⟩

def blit (l : Load) : Blit := ⟨l.source.surface, l.destination.surface, l.pattern.map (·.surface)⟩

def cargo? (l : Load) : Role → Option Cargo
  | .source => some l.source
  | .destination => some l.destination
  | .pattern => l.pattern
  | .placement => none

end Load

/-- A load with the hardware's answer to its blit. -/
structure Operation where
  load : Load
  answer : BlitAnswer
  deriving DecidableEq

namespace Operation

def job (o : Operation) : Job := o.load.job

def entry (o : Operation) : BlitEntry := ⟨o.load.blit, o.answer⟩

def fence (o : Operation) : Int := o.answer.fence

/-- The frame that the blit writes. -/
def frame (o : Operation) : Frame := o.load.destination.frame

/-- The destination as the hardware left it, with the fence in its surface. -/
def target (o : Operation) : Cargo where
  slot := o.load.destination.slot
  frame := o.frame
  surface := o.load.blit.written o.answer

def cargo? (o : Operation) : Role → Option Cargo
  | .source => some o.load.source
  | .destination => some o.target
  | .pattern => o.load.pattern
  | .placement => none

/-- The blit hands out a fence. -/
def IsFenced (o : Operation) : Prop := o.load.destination.surface.completion = .fenced

theorem isAccepted_iff (o : Operation) (h : o.IsFenced) :
    o.entry.isAccepted = true ↔ o.load.blit.check o.answer = .ok () := by
  have hfenced : o.load.blit.destination.completion = .fenced := h
  unfold Blit.check BlitEntry.isAccepted
  by_cases hs : o.answer.status = 0
  · by_cases hf : o.answer.fence ≤ 0
    · have hpos : ¬ 0 < o.answer.fence := by omega
      simp [entry, hfenced, hs, hf, hpos]
    · have hpos : 0 < o.answer.fence := by omega
      simp [entry, hs, hf, hpos]
  · simp [entry, hs]

end Operation

namespace Pools

/-- The cargoes of a load are in their slots, and the hardware does not use them yet. -/
def Ready (pools : Pools) (l : Load) : Prop :=
  ∀ role c, l.cargo? role = some c → (pools.get role).slot? c.slot = some (c.inSlot false)

/-- What the operations have in the pool of a role. -/
def cargoes (role : Role) (ops : List Operation) : List Cargo := ops.filterMap (·.cargo? role)

def Holds (pools : Pools) (ops : List Operation) : Prop :=
  ∀ role, (pools.get role).Holds (cargoes role ops)

theorem holds_empty : Holds {} [] := by
  intro role
  cases role <;> exact SlotPool.Holds.empty

theorem Holds.set {pools : Pools} {ops : List Operation} {role : Role} {q : SlotPool}
    (h : pools.Holds ops) (hq : q.Holds (cargoes role ops)) : (pools.set role q).Holds ops := by
  intro r
  by_cases hr : r = role
  · subst hr
    rwa [get_set_self]
  · rw [get_set_of_ne _ _ hr]
    exact h r

end Pools

namespace Pipeline

variable {p : Pipeline} {ops : List Operation} {host : Host}

/-- Marks the slots of a job in all three pools. -/
theorem setLocked_run (job : Job) (locked : Bool) {a b c : SlotPool}
    (ha : p.pools.source.setLocked? job.source locked = some a)
    (hb : p.pools.destination.setLocked? job.destination locked = some b)
    (hc : job.pattern.elim (some p.pools.pattern) (p.pools.pattern.setLocked? · locked) = some c) :
    setLocked job locked p = (.ok (),
      { p with pools := { p.pools with source := a, destination := b, pattern := c } }) := by
  unfold setLocked
  rw [bind_of_ok (onSlot_run .source ha), bind_of_ok (onSlot_run .destination hb)]
  rcases job with ⟨source, destination, _ | id⟩
  · cases hc
    rfl
  · exact onSlot_run .pattern hc

/-- A blit is journalled, its answer is kept in the surface of the slot it writes, and an answer
that breaks the promise is an error. -/
theorem blitTo_run (host : Host) (source : Surface) (role : Role) (pattern : Option Surface)
    {c : Cargo} (hc : (p.pools.get role).slot? c.slot = some (c.inSlot false)) :
    let blit : Blit := ⟨source, c.surface, pattern⟩
    let asked := host.runBlit blit p.journal
    ∃ q : SlotPool, (∀ held, (p.pools.get role).Holds held → q.Holds held) ∧
      q.slot? c.slot = some (Cargo.inSlot ⟨c.slot, c.frame, blit.written asked.1⟩ false) ∧
      blitTo host source role c.slot pattern p = ((blit.check asked.1).mapError .error,
        { p with pools := p.pools.set role q, journal := asked.2 }) := by
  intro blit asked
  obtain ⟨q, hq, hslot⟩ := SlotPool.exists_modify? hc
    (fun s => { s with surface := blit.written asked.1 })
  refine ⟨q, fun held h => h.modify (h.not_mem hc rfl) hq fun s hs => ?_, hslot, ?_⟩
  · rw [hc] at hs
    cases hs
    exact ⟨rfl, fun hqueued => by cases hqueued⟩
  · unfold blitTo
    rw [bind_of_ok (surface_run role hc), bind_of_ok (ask_run _)]
    refine (bind_of_ok (onSlot_run (p := { p with journal := asked.2 }) role hq)).trans ?_
    change orFail (blit.check asked.1) _ = _
    cases blit.check asked.1 <;> rfl

/-! ## Submitting -/

theorem cargoes_concat (role : Role) (ops : List Operation) (o : Operation) :
    Pools.cargoes role (ops ++ [o]) = Pools.cargoes role ops ++ (o.cargo? role).toList := by
  unfold Pools.cargoes
  rw [List.filterMap_append]
  cases h : o.cargo? role <;> simp [h]

/-- The pattern's slot of a ready load, if there is one, can be locked. -/
theorem lock_pattern {l : Load} (h : p.pools.Holds ops) (hr : p.pools.Ready l) :
    ∃ c, l.job.pattern.elim (some p.pools.pattern) (p.pools.pattern.setLocked? · true) = some c ∧
      c.Holds (Pools.cargoes .pattern ops ++ l.pattern.toList) := by
  have hp : p.pools.pattern.Holds (Pools.cargoes .pattern ops) := h .pattern
  change ∃ c, (l.pattern.map (·.slot)).elim _ _ = some c ∧ _
  rcases hpat : l.pattern with _ | cargo
  · exact ⟨_, rfl, by simpa using hp⟩
  · have hslot : p.pools.pattern.slot? cargo.slot = some (cargo.inSlot false) :=
      hr .pattern cargo hpat
    obtain ⟨c, hc, -⟩ := SlotPool.exists_modify? hslot (fun s => { s with locked := true })
    exact ⟨c, hc, hp.lock hslot hc⟩

/-- Reading a ready load's surfaces finds what its blit hands to the hardware. -/
theorem submit_eq {l : Load} (hr : p.pools.Ready l) :
    submit host l.job p = (do
      blitTo host l.source.surface .destination l.destination.slot (l.pattern.map (·.surface))
      setLocked l.job true
      modify fun p => { p with jobs := p.jobs ++ [l.job] } : PipelineM Unit) p := by
  have hsource := surface_run .source (hr .source l.source rfl)
  unfold submit
  rcases hpat : l.pattern with _ | cargo
  · have hnone : l.job.pattern = none := by simp [Load.job, hpat]
    rw [hnone]
    exact (bind_of_ok (pure_run none)).trans (bind_of_ok hsource)
  · have hsome : l.job.pattern = some cargo.slot := by simp [Load.job, hpat]
    rw [hsome]
    exact (bind_of_ok (map_of_ok (surface_run .pattern (hr .pattern cargo hpat)))).trans
      (bind_of_ok hsource)

/-- A blit that fails leaves everything in flight as it was. -/
theorem submit_refused (host : Host) {l : Load} {e : Error} (h : p.pools.Holds ops)
    (hr : p.pools.Ready l) (he : l.blit.check (host.runBlit l.blit p.journal).1 = .error e) :
    ∃ pools : Pools, pools.Holds ops ∧ submit host l.job p =
      (.error (.error e),
        { p with pools := pools, journal := (host.runBlit l.blit p.journal).2 }) := by
  obtain ⟨q, hq, -, hblit⟩ := blitTo_run host l.source.surface .destination
    (l.pattern.map (·.surface)) (hr .destination l.destination rfl)
  refine ⟨p.pools.set .destination q, h.set (hq _ (h .destination)), ?_⟩
  rw [submit_eq hr]
  refine bind_of_error (hblit.trans ?_)
  change ((l.blit.check (host.runBlit l.blit p.journal).1).mapError Failure.error, _) = _
  rw [he]
  rfl

/-- An accepted blit adds its operation at the end of those in flight. -/
theorem submit_accepted (host : Host) {l : Load} (h : p.pools.Holds ops) (hr : p.pools.Ready l)
    (hok : l.blit.check (host.runBlit l.blit p.journal).1 = .ok ()) :
    ∃ pools : Pools, pools.Holds (ops ++ [⟨l, (host.runBlit l.blit p.journal).1⟩]) ∧
      submit host l.job p =
        (.ok (), { p with
          pools := pools
          jobs := p.jobs ++ [l.job]
          journal := (host.runBlit l.blit p.journal).2 }) := by
  let o : Operation := ⟨l, (host.runBlit l.blit p.journal).1⟩
  obtain ⟨q, hq, htarget, hblit⟩ := blitTo_run host l.source.surface .destination
    (l.pattern.map (·.surface)) (hr .destination l.destination rfl)
  change q.slot? o.target.slot = some (o.target.inSlot false) at htarget
  obtain ⟨a, ha, -⟩ := SlotPool.exists_modify? (hr .source l.source rfl)
    (fun s => { s with locked := true })
  obtain ⟨b, hb, -⟩ := SlotPool.exists_modify? htarget (fun s => { s with locked := true })
  obtain ⟨c, hc, hpattern⟩ := lock_pattern h hr
  refine ⟨{ p.pools with source := a, destination := b, pattern := c }, ?_, ?_⟩
  · intro role
    rw [cargoes_concat]
    cases role with
    | source => exact (h .source).lock (hr .source l.source rfl) ha
    | destination => exact (hq _ (h .destination)).lock htarget hb
    | pattern => exact hpattern
    | placement =>
      change p.pools.placement.Holds (Pools.cargoes .placement ops ++ [])
      rw [List.append_nil]
      exact h .placement
  · let p₁ : Pipeline := { p with
      pools := p.pools.set .destination q
      journal := (host.runBlit l.blit p.journal).2 }
    have hblit : blitTo host l.source.surface .destination l.destination.slot
        (l.pattern.map (·.surface)) p = (.ok (), p₁) := by
      refine hblit.trans ?_
      change ((l.blit.check (host.runBlit l.blit p.journal).1).mapError Failure.error, _) = _
      rw [hok]
      rfl
    rw [submit_eq hr]
    exact (bind_of_ok hblit).trans
      (bind_of_ok (setLocked_run (p := p₁) l.job true ha hb hc))

/-! ## Retiring -/

/-- The pattern's slot of a retired job, if there is one, can be unlocked. -/
theorem unlock_pattern {o : Operation} (h : p.pools.Holds (o :: ops)) :
    ∃ c, o.job.pattern.elim (some p.pools.pattern) (p.pools.pattern.setLocked? · false) = some c ∧
      c.Holds (Pools.cargoes .pattern ops) := by
  have hp : p.pools.pattern.Holds (Pools.cargoes .pattern (o :: ops)) := h .pattern
  unfold Pools.cargoes at hp
  rw [List.filterMap_cons] at hp
  change ∃ c, (o.load.pattern.map (·.slot)).elim _ _ = some c ∧ _
  rcases hpat : o.load.pattern with _ | cargo
  · simp only [Operation.cargo?, hpat] at hp
    exact ⟨_, rfl, hp⟩
  · simp only [Operation.cargo?, hpat] at hp
    obtain ⟨c, hc, -⟩ := SlotPool.exists_modify? (hp.stowed _ List.mem_cons_self)
      (fun s => { s with locked := false })
    exact ⟨c, hc, hp.unlock hc rfl rfl⟩

/-- Retiring the oldest operation waits for its fence alone and returns the frame it wrote. -/
theorem retire_run (host : Host) {o : Operation} (h : p.pools.Holds (o :: ops)) (hf : o.IsFenced) :
    ∃ pools : Pools, pools.Holds ops ∧ retire host o.job p =
      (.ok ((host.runSync o.fence p.journal).1, some o.frame),
        { p with pools := pools, journal := (host.runSync o.fence p.journal).2 }) := by
  have hs : p.pools.source.Holds (o.load.source :: Pools.cargoes .source ops) := h .source
  have hd : p.pools.destination.Holds (o.target :: Pools.cargoes .destination ops) :=
    h .destination
  obtain ⟨a, ha, -⟩ := SlotPool.exists_modify? (hs.stowed _ List.mem_cons_self)
    (fun s => { s with locked := false })
  obtain ⟨d₁, d₂, d₃, hd₁, hd₂, hd₃, hheld⟩ := hd.retire
  obtain ⟨c, hc, hpattern⟩ := unlock_pattern h
  refine ⟨{ p.pools with source := a, destination := d₃, pattern := c }, ?_, ?_⟩
  · intro role
    cases role with
    | source => exact hs.unlock ha rfl rfl
    | destination => exact hheld
    | pattern => exact hpattern
    | placement => exact h .placement
  · -- the pipeline after the wait, after unlocking and after taking the frame
    let journal := (host.runSync o.fence p.journal).2
    let p₁ : Pipeline :=
      { p with pools := { p.pools with destination := d₁ }, journal := journal }
    let p₂ : Pipeline :=
      { p₁ with pools := { p.pools with source := a, destination := d₂, pattern := c } }
    have hwait : wait host o.job p = (.ok (host.runSync o.fence p.journal).1, p₁) := by
      have hslot := hd.stowed _ List.mem_cons_self
      refine (bind_of_ok (surface_run .destination hslot)).trans
        ((bind_of_ok (onSlot_run .destination hd₁)).trans ?_)
      have hcompletion : (o.target.inSlot true).surface.completion = .fenced := hf
      rw [hcompletion]
      rfl
    have hunlock : setLocked o.job false p₁ = (.ok (), p₂) :=
      setLocked_run (p := p₁) o.job false ha hd₂ hc
    have htake : takeFrame o.job.destination p₂ = (.ok (some o.frame),
        { p₂ with pools := { p.pools with source := a, destination := d₃, pattern := c } }) := by
      refine (bind_of_ok get_run).trans ?_
      change (orNoSlot _ (d₂.takeFrame? o.target.slot) >>= _) _ = _
      rw [hd₃]
      rfl
    exact (bind_of_ok hwait).trans ((bind_of_ok hunlock).trans (bind_of_ok htake))

/-! ## The whole pipeline -/

/-- The operations in flight are these, oldest first, and the pools hold what they work on. -/
structure Carries (p : Pipeline) (ops : List Operation) : Prop where
  jobs : p.jobs = ops.map (·.job)
  held : p.pools.Holds ops
  fenced : ∀ o ∈ ops, o.IsFenced

theorem carries_empty {depth : Nat} : Carries { depth := depth } [] :=
  ⟨rfl, Pools.holds_empty, by simp⟩

/-- Submitting a ready load issues its blit, and adds an operation if the hardware accepts it. -/
theorem submit_carries (host : Host) {l : Load} (h : p.Carries ops) (hr : p.pools.Ready l)
    (hf : l.destination.surface.completion = .fenced) :
    let o : Operation := ⟨l, (host.runBlit l.blit p.journal).1⟩
    ∃ q r, submit host l.job p = (r, q) ∧ q.depth = p.depth ∧
      q.journal = { p.journal with blits := p.journal.blits ++ [o.entry] } ∧
      (o.entry.isAccepted = true ∧ r = .ok () ∧ q.Carries (ops ++ [o]) ∨
        o.entry.isAccepted = false ∧ (∃ e, r = .error (.error e)) ∧ q.Carries ops) := by
  intro o
  have hiff := o.isAccepted_iff hf
  rcases hc : l.blit.check o.answer with e | ⟨⟩
  · obtain ⟨pools, hheld, hsubmit⟩ := submit_refused host h.held hr hc
    have hrefused : o.entry.isAccepted = false := by
      rw [Bool.eq_false_iff, ne_eq, hiff]
      exact fun hok => by cases hok.symm.trans hc
    exact ⟨_, _, hsubmit, rfl, rfl, .inr ⟨hrefused, ⟨e, rfl⟩, h.jobs, hheld, h.fenced⟩⟩
  · obtain ⟨pools, hheld, hsubmit⟩ := submit_accepted host h.held hr hc
    refine ⟨_, _, hsubmit, rfl, rfl, .inl ⟨hiff.2 hc, rfl, ?_, hheld, ?_⟩⟩
    · simp [h.jobs, Operation.job, o]
    · intro o' ho
      rcases List.mem_append.1 ho with ho | ho
      · exact h.fenced o' ho
      · rw [List.mem_singleton.1 ho]
        exact hf

end Pipeline
end Blitter
