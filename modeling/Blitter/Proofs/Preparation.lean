import Blitter.Proofs.Description
import Blitter.Proofs.Extent
import Blitter.Proofs.InFlight

/-!
# Preparing a blit

Before the main blit of a frame is submitted, its frames are described and put into slots. None of
this touches what is in flight: `Undisturbed` says so, of every step and however it ends. A step
that takes a slot either fails or `Yields` a cargo in it, and `Prepared` says what a load is made of
when all steps have gone well.
-/
namespace Blitter

namespace Session

variable {s t u : Session} {role : Role}

/-- `t` is `s` after work on these pools only. Settings, jobs and what the host was asked for them
stay, no slot that is held changes, and a pool grows only beyond slots that are all held. -/
structure Undisturbed (touched : List Role) (s t : Session) : Prop where
  session : t = { s with unit := t.unit, afbcOutput := t.afbcOutput, pipeline := t.pipeline }
  pipeline : t.pipeline =
    { s.pipeline with pools := t.pipeline.pools, journal := t.pipeline.journal }
  journal : t.pipeline.journal = { s.pipeline.journal with
    blits := t.pipeline.journal.blits, requests := t.pipeline.journal.requests }
  blits : t.pipeline.journal.blits.filter (·.isMain) = s.pipeline.journal.blits.filter (·.isMain)
  pools : ∀ r ∉ touched, t.pipeline.pools.get r = s.pipeline.pools.get r
  held : ∀ r cargoes, (s.pipeline.pools.get r).Holds cargoes →
    (t.pipeline.pools.get r).Holds cargoes
  sizes : ∀ r cargoes, (s.pipeline.pools.get r).Holds cargoes →
    (t.pipeline.pools.get r).size ≤ max (s.pipeline.pools.get r).size (cargoes.length + 1)

namespace Undisturbed

variable {a b : List Role}

theorem refl (s : Session) : Undisturbed [] s s :=
  ⟨rfl, rfl, rfl, rfl, fun _ _ => rfl, fun _ _ h => h, fun _ _ _ => Nat.le_max_left ..⟩

theorem trans (h : Undisturbed a s t) (h' : Undisturbed b t u) : Undisturbed (a ++ b) s u := by
  have hs := h.session
  have hp := h.pipeline
  have hj := h.journal
  have hs' := h'.session
  have hp' := h'.pipeline
  have hj' := h'.journal
  refine ⟨?_, ?_, ?_, h'.blits.trans h.blits, ?_, fun r c hc => h'.held r c (h.held r c hc), ?_⟩
  · rw [hs] at hs'
    exact hs'
  · rw [hp] at hp'
    exact hp'
  · rw [hj] at hj'
    exact hj'
  · intro r hr
    rw [List.mem_append, not_or] at hr
    exact (h'.pools r hr.2).trans (h.pools r hr.1)
  · intro r c hc
    have hs := h.sizes r c hc
    have hs' := h'.sizes r c (h.held r c hc)
    omega

theorem mono (h : Undisturbed a s t) (hab : a ⊆ b) : Undisturbed b s t :=
  { h with pools := fun r hr => h.pools r fun ha => hr (hab ha) }

/-- The unit and the compression of outputs are the session's own. -/
theorem resettled (h : Undisturbed a s t) (unit : UnitState) (afbc : Bool) :
    Undisturbed a s { t with unit := unit, afbcOutput := afbc } := by
  have hs := h.session
  refine ⟨?_, h.pipeline, h.journal, h.blits, h.pools, h.held, h.sizes⟩
  rw [hs]

theorem main (h : Undisturbed a s t) : t.main = s.main := by
  rw [h.session]

theorem holds {ops : List Operation} (h : Undisturbed a s t) (hs : s.pipeline.pools.Holds ops) :
    t.pipeline.pools.Holds ops :=
  fun r => h.held r _ (hs r)

theorem carries {ops : List Operation} (h : Undisturbed a s t) (hs : s.pipeline.Carries ops) :
    t.pipeline.Carries ops := by
  refine ⟨?_, h.holds hs.held, hs.fenced⟩
  rw [h.pipeline]
  exact hs.jobs

end Undisturbed

/-- The cargo is in its slot of a role's pool, and the hardware does not use it yet. -/
def Stows (s : Session) (role : Role) (c : Cargo) : Prop :=
  (s.pipeline.pools.get role).slot? c.slot = some (c.inSlot false)

/-- A step has failed, or it has put a cargo of some kind into a slot. -/
def Yields (role : Role) (kind : Cargo → Prop) (r : Except Failure SlotId) (t : Session) : Prop :=
  (∃ e, r = .error (.error e)) ∨ ∃ c, r = .ok c.slot ∧ t.Stows role c ∧ kind c

theorem Yields.imp {kind kind' : Cargo → Prop} {r : Except Failure SlotId}
    (h : Yields role kind r t) (hk : ∀ c, kind c → kind' c) : Yields role kind' r t := by
  rcases h with he | ⟨c, hr, hs, hc⟩
  · exact .inl he
  · exact .inr ⟨c, hr, hs, hk c hc⟩

/-- A step has failed because the frame could not be described, or the described frame is in this
slot. -/
def Lands (role : Role) (id : SlotId) (described : Except Error (Frame × Surface))
    (r : Except Failure SlotId) (t : Session) : Prop :=
  match described with
  | .error e => r = .error (.error e)
  | .ok (frame, surface) => r = .ok id ∧ t.Stows role ⟨id, frame, surface⟩

theorem Lands.yields {id : SlotId} {described : Except Error (Frame × Surface)}
    {r : Except Failure SlotId} (h : Lands role id described r t) :
    Yields role (fun c => c.slot = id ∧ described = .ok (c.frame, c.surface)) r t := by
  rcases described with e | ⟨frame, surface⟩
  · exact .inl ⟨e, h⟩
  · exact .inr ⟨⟨id, frame, surface⟩, h.1, h.2, rfl, rfl⟩

theorem Stows.of_undisturbed {touched : List Role} {c : Cargo} (h : s.Stows role c)
    (ht : Undisturbed touched s t) (hr : role ∉ touched) : t.Stows role c := by
  unfold Stows
  rw [ht.pools role hr]
  exact h

/-- The session with another pool for a role. -/
def withPool (s : Session) (role : Role) (pool : SlotPool) : Session :=
  { s with pipeline := { s.pipeline with pools := s.pipeline.pools.set role pool } }

theorem undisturbed_withPool (s : Session) (role : Role) {q : SlotPool}
    (hq : ∀ cargoes, (s.pipeline.pools.get role).Holds cargoes → q.Holds cargoes)
    (hsize : ∀ cargoes, (s.pipeline.pools.get role).Holds cargoes →
      q.size ≤ max (s.pipeline.pools.get role).size (cargoes.length + 1)) :
    Undisturbed [role] s (s.withPool role q) := by
  refine ⟨rfl, rfl, rfl, rfl, fun r hr => ?_, fun r cargoes h => ?_, fun r cargoes h => ?_⟩
  · exact Pools.get_set_of_ne _ _ (List.ne_of_not_mem_cons hr)
  all_goals
    simp only [withPool]
    by_cases hr : r = role
  · subst hr
    rw [Pools.get_set_self]
    exact hq cargoes h
  · rw [Pools.get_set_of_ne _ _ hr]
    exact h
  · subst hr
    rw [Pools.get_set_self]
    exact hsize cargoes h
  · rw [Pools.get_set_of_ne _ _ hr]
    exact Nat.le_max_left ..

/-- The pool has one slot changed, which is held for nobody. -/
theorem undisturbed_modify (s : Session) (role : Role) {id : SlotId} {change : Slot → Slot}
    {slot : Slot} {q : SlotPool} (hq : (s.pipeline.pools.get role).modify? id change = some q)
    (hs : (s.pipeline.pools.get role).slot? id = some slot) (hl : slot.locked = false)
    (changed : (change slot).locked = false ∧
      ((change slot).queued = false → (change slot).frame = none)) :
    Undisturbed [role] s (s.withPool role q) := by
  refine undisturbed_withPool s role (fun cargoes h => ?_) fun cargoes _ => ?_
  · refine h.modify (h.not_mem hs hl) hq fun slot' hs' => ?_
    cases hs.symm.trans hs'
    exact changed
  · rw [SlotPool.size_of_modify? hq]
    exact Nat.le_max_left ..

/-! ## Taking and filling slots -/

/-- The pool of a role once a slot of it has been taken into use, and the slot. -/
def taken (s : Session) (role : Role) : SlotId × SlotPool :=
  (s.pipeline.pools.get role).recycle.acquire

theorem acquire_run (role : Role) (s : Session) :
    acquire role s = (.ok (s.taken role).1, s.withPool role (s.taken role).2) := by
  unfold taken acquire
  refine onPipeline_run ((bind_of_ok (modify_run _)).trans ?_)
  change (Except.ok _,
    ({ s.pipeline with pools := (s.pipeline.pools.set role _).set role _ } : Pipeline)) = _
  rw [Pools.set_set, Pools.get_set_self]
  rfl

theorem undisturbed_taken (s : Session) (role : Role) :
    Undisturbed [role] s (s.withPool role (s.taken role).2) :=
  undisturbed_withPool s role (fun _ h => h.recycle.acquire.1) fun _ h => h.size_recycle_acquire

/-- A slot just taken into use is not locked. -/
theorem slot?_taken (s : Session) (role : Role) :
    ∃ slot, (s.taken role).2.slot? (s.taken role).1 = some slot ∧ slot.queued = true ∧
      slot.locked = false :=
  ⟨_, SlotPool.slot?_acquire_self, rfl, rfl⟩

/-- A slot in use that the hardware does not use takes a frame with its surface. -/
theorem settle_ok {id : SlotId} {slot : Slot} (frame : Frame) (surface : Surface)
    (hs : (s.pipeline.pools.get role).slot? id = some slot) (hq : slot.queued = true)
    (hl : slot.locked = false) :
    ∃ t, settle role id (.ok (frame, surface)) s = (.ok (), t) ∧ Undisturbed [role] s t ∧
      t = s.withPool role (t.pipeline.pools.get role) ∧ t.Stows role ⟨id, frame, surface⟩ := by
  obtain ⟨q, hattach, hslot⟩ := SlotPool.exists_modify? hs
    (fun s => { s with frame := some frame, surface := surface })
  refine ⟨s.withPool role q, ?_, undisturbed_modify s role hattach hs hl ?_, ?_, ?_⟩
  · change onPipeline (Pipeline.onSlot role id (·.attach? · frame surface)) s = _
    exact onPipeline_run (Pipeline.onSlot_run role hattach)
  · exact ⟨hl, fun hfree => by cases hq.symm.trans hfree⟩
  · simp [withPool]
  · change ((s.pipeline.pools.set role q).get role).slot? id = _
    rw [Pools.get_set_self, hslot]
    simp [Cargo.inSlot, hq, hl]

/-- A slot whose frame could not be described is given back. -/
theorem settle_error {id : SlotId} {slot : Slot} (e : Error)
    (hs : (s.pipeline.pools.get role).slot? id = some slot) (hl : slot.locked = false) :
    ∃ t, settle role id (.error e) s = (.error (.error e), t) ∧ Undisturbed [role] s t ∧
      t = s.withPool role (t.pipeline.pools.get role) := by
  obtain ⟨q, hrelease, -⟩ := SlotPool.exists_modify? hs
    (fun s => { s with frame := none, queued := false, locked := false })
  refine ⟨s.withPool role q, ?_, undisturbed_modify s role hrelease hs hl ?_, ?_⟩
  · have hrun : onPipeline (Pipeline.onSlot role id (·.release? ·)) s =
        (.ok (), s.withPool role q) :=
      onPipeline_run (Pipeline.onSlot_run role hrelease)
    exact bind_of_ok hrun
  · exact ⟨rfl, fun _ => rfl⟩
  · simp [withPool]

/-- Putting a described frame into a slot, as the last step of taking it in. -/
theorem settle_lands (role : Role) {id : SlotId} {slot : Slot}
    (described : Except Error (Frame × Surface))
    (hs : (s.pipeline.pools.get role).slot? id = some slot) (hq : slot.queued = true)
    (hl : slot.locked = false) :
    ∃ r q, (settle role id described >>= fun _ => pure id) s = (r, s.withPool role q) ∧
      Undisturbed [role] s (s.withPool role q) ∧
      Lands role id described r (s.withPool role q) := by
  rcases described with e | ⟨frame, surface⟩
  · obtain ⟨t, hsettle, hund, ht⟩ := settle_error e hs hl
    rw [ht] at hsettle hund
    exact ⟨_, _, bind_of_error hsettle, hund, rfl⟩
  · obtain ⟨t, hsettle, hund, ht, hstows⟩ := settle_ok frame surface hs hq hl
    rw [ht] at hsettle hund hstows
    exact ⟨_, _, bind_of_ok hsettle, hund, rfl, hstows⟩

/-- Taking in an input describes it with the unit in force and leaves the unit it has led to. -/
theorem submitInput_lands (role : Role) (view : View) (frame : Frame) (blended : Bool)
    (s : Session) :
    let described := s.describeInput role view frame blended
    ∃ r t, submitInput role view frame blended s = (r, t) ∧ Undisturbed [role] s t ∧
      t.unit = described.2 ∧ t.afbcOutput = s.afbcOutput ∧
      t.pipeline.journal = s.pipeline.journal ∧
      Lands role (s.taken role).1 (described.1.map (frame, ·)) r t := by
  intro described
  let taken := s.withPool role (s.taken role).2
  let rerouted : Session := { taken with unit := described.2 }
  obtain ⟨slot, hslot, hq, hl⟩ := slot?_taken s role
  have hs : (rerouted.pipeline.pools.get role).slot? (s.taken role).1 = some slot := by
    change ((s.pipeline.pools.set role _).get role).slot? _ = _
    rw [Pools.get_set_self]
    exact hslot
  obtain ⟨r, q, hsettle, hund, hlands⟩ := settle_lands role (described.1.map (frame, ·)) hs hq hl
  have hrun : submitInput role view frame blended s = (r, rerouted.withPool role q) :=
    (bind_of_ok (acquire_run role s)).trans ((bind_of_ok get_run).trans
      ((bind_of_ok (set_run _)).trans hsettle))
  have htaken := (undisturbed_taken s role).resettled described.2 s.afbcOutput
  exact ⟨r, _, hrun, (htaken.trans hund).mono (by simp), rfl, rfl, rfl, hlands⟩

theorem submitInput_yields (role : Role) (view : View) (frame : Frame) (blended : Bool)
    (s : Session) :
    let described := s.describeInput role view frame blended
    ∃ r t, submitInput role view frame blended s = (r, t) ∧ Undisturbed [role] s t ∧
      t.unit = described.2 ∧ t.afbcOutput = s.afbcOutput ∧
      t.pipeline.journal = s.pipeline.journal ∧
      Yields role (fun c => c.slot = (s.taken role).1 ∧ c.frame = frame ∧
        described.1 = .ok c.surface) r t := by
  intro described
  obtain ⟨r, t, hrun, hund, hunit, hafbc, hjournal, hlands⟩ :=
    submitInput_lands role view frame blended s
  refine ⟨r, t, hrun, hund, hunit, hafbc, hjournal, hlands.yields.imp fun c hc => ⟨hc.1, ?_⟩⟩
  obtain ⟨-, hc⟩ := hc
  change described.1.map _ = _ at hc
  rcases hd : described.1 with e | surface <;> rw [hd] at hc <;> cases hc
  exact ⟨rfl, rfl⟩

/-! ## Allocated frames -/

/-- The session once a buffer has been asked for. -/
def asking (s : Session) (request : Pad) : Session :=
  { s with pipeline := { s.pipeline with journal := { s.pipeline.journal with
      requests := s.pipeline.journal.requests ++ [request] } } }

theorem undisturbed_asking (s : Session) (request : Pad) : Undisturbed [] s (s.asking request) :=
  ⟨rfl, rfl, rfl, rfl, fun _ _ => rfl, fun _ _ h => h, fun _ _ _ => Nat.le_max_left ..⟩

theorem allocate_run (host : Host) (request : Pad) (s : Session) :
    allocate host request s =
      (.ok (host.allocate (s.pipeline.journal.requests ++ [request])), s.asking request) :=
  rfl

/-- Querying an output allocates one frame and describes it with the unit in force. -/
theorem queryOutput_lands (host : Host) (source : Frame) (s : Session) :
    let answer := host.allocate (s.pipeline.journal.requests ++ [s.output.pad])
    let described := s.describeAnswer answer source
    ∃ r t, queryOutput host source s = (r, t) ∧ Undisturbed [.destination] s t ∧
      t.unit = s.unit ∧ t.afbcOutput = described.2 ∧
      t.pipeline.journal = (s.asking s.output.pad).pipeline.journal ∧
      Lands .destination (s.taken .destination).1 described.1 r t := by
  intro answer described
  let taken := s.withPool .destination (s.taken .destination).2
  let asked : Session := { taken.asking s.output.pad with afbcOutput := described.2 }
  obtain ⟨slot, hslot, hq, hl⟩ := slot?_taken s .destination
  obtain ⟨r, q, hsettle, hund, hlands⟩ :=
    settle_lands (s := asked) .destination described.1 hslot hq hl
  have hrun : queryOutput host source s = (r, asked.withPool .destination q) :=
    (bind_of_ok (acquire_run .destination s)).trans ((bind_of_ok get_run).trans
      ((bind_of_ok (allocate_run host s.output.pad taken)).trans
        ((bind_of_ok (modify_run _)).trans hsettle)))
  refine ⟨r, _, hrun, ?_, rfl, rfl, rfl, hlands⟩
  have htaken := (undisturbed_taken s .destination).trans (undisturbed_asking taken s.output.pad)
  exact ((htaken.resettled s.unit described.2).trans hund).mono (by simp)

/-- Querying a canvas allocates one frame of the main picture's size. -/
theorem queryCanvas_lands (host : Host) (view : View) (overlay : Frame) (s : Session) :
    let request : Pad := { s.main.pad with format := view.format }
    let answer := host.allocate (s.pipeline.journal.requests ++ [request])
    ∃ r t, queryCanvas host view overlay s = (r, t) ∧ Undisturbed [.pattern] s t ∧
      t.unit = s.unit ∧ t.afbcOutput = s.afbcOutput ∧
      t.pipeline.journal = (s.asking request).pipeline.journal ∧
      Lands .pattern (s.taken .pattern).1 (answer.bind (s.describeCanvas view · overlay)) r t := by
  intro request answer
  let taken := s.withPool .pattern (s.taken .pattern).2
  obtain ⟨slot, hslot, hq, hl⟩ := slot?_taken s .pattern
  obtain ⟨r, q, hsettle, hund, hlands⟩ :=
    settle_lands (s := taken.asking request) .pattern
      (answer.bind (s.describeCanvas view · overlay)) hslot hq hl
  have hrun : queryCanvas host view overlay s =
      (r, (taken.asking request).withPool .pattern q) :=
    (bind_of_ok (acquire_run .pattern s)).trans ((bind_of_ok get_run).trans
      ((bind_of_ok (allocate_run host request taken)).trans hsettle))
  refine ⟨r, _, hrun, ?_, rfl, rfl, rfl, hlands⟩
  have htaken := (undisturbed_taken s .pattern).trans (undisturbed_asking taken request)
  exact (htaken.trans hund).mono (by simp)

/-! ## Overlays -/

/-- The role in which an overlay frame is taken in. -/
def overlayRole (s : Session) (view : View) : Role :=
  if s.needsCanvas view then .placement else .pattern

/-- The slots that taking in an overlay takes into use, each with its role. -/
def overlaySlots (s : Session) (view : View) (overlay : Frame) : List (Role × SlotId) :=
  if s.needsCanvas view then
    (.placement, (s.taken .placement).1) ::
      match submitInput .placement view overlay false s with
      | (.ok _, t) => [(.pattern, (t.taken .pattern).1)]
      | (.error _, _) => []
  else [(.pattern, (s.taken .pattern).1)]

/-- What the main blit reads as the overlay: the overlay frame itself, or a canvas that was written
by a placement blit and since then shows the whole picture. -/
inductive Overlaid (host : Host) (s : Session) (view : View) (overlay : Frame) (c : Cargo) : Prop
  | direct (frame : c.frame = overlay)
    (described : (s.describeInput .pattern view overlay false).1 = .ok c.surface)
    (covers : s.needsCanvas view = false)
  | placed (input : Surface) (answer : BlitAnswer) (surface : Surface)
    (taken : (s.describeInput .placement view overlay false).1 = .ok input)
    (described : (host.allocate
        (s.pipeline.journal.requests ++ [{ s.main.pad with format := view.format }])).bind
      ({ s with unit := (s.describeInput .placement view overlay false).2 }.describeCanvas
        view · overlay) = .ok (c.frame, surface))
    (shown : c.surface = { surface with outFence := answer.fence }.showing s.main.active)
    (needed : s.needsCanvas view = true)

/-- Issuing a placement blit writes the canvas and leaves everything else. -/
theorem place_run (host : Host) {input canvas : Cargo} (hi : s.Stows .placement input)
    (hc : s.Stows .pattern canvas) (hb : canvas.surface.completion = .blocking) :
    let blit : Blit := ⟨input.surface, canvas.surface, none⟩
    let asked := host.runBlit blit s.pipeline.journal
    ∃ t, onPipeline (do
        let source ← Pipeline.surface .placement input.slot
        Pipeline.blitTo host source .pattern canvas.slot none) s =
          ((blit.check asked.1).mapError .error, t) ∧
      Undisturbed [.pattern] s t ∧ t.unit = s.unit ∧ t.afbcOutput = s.afbcOutput ∧
      t.pipeline.journal = asked.2 ∧
      t.Stows .pattern { canvas with surface := blit.written asked.1 } := by
  intro blit asked
  obtain ⟨q, hkeep, hslot, hblit⟩ :=
    Pipeline.blitTo_run (p := s.pipeline) host input.surface .pattern none hc
  have hmain : (⟨blit, asked.1⟩ : BlitEntry).isMain = false := by
    simp [BlitEntry.isMain, blit, hb]
  have hextent := Pipeline.keeps_blitTo host input.surface .pattern canvas.slot none s.pipeline
  rw [hblit] at hextent
  have hsize : q.size = (s.pipeline.pools.get .pattern).size :=
    congrFun (congrArg (·.2) hextent) .pattern
  have hund := undisturbed_withPool s .pattern hkeep fun _ _ => hsize ▸ Nat.le_max_left ..
  refine ⟨_, onPipeline_run ((bind_of_ok (Pipeline.surface_run .placement hi)).trans hblit), ?_,
    rfl, rfl, rfl, ?_⟩
  · refine ⟨rfl, rfl, rfl, ?_, hund.pools, hund.held, hund.sizes⟩
    change (s.pipeline.journal.blits ++ [(⟨blit, asked.1⟩ : BlitEntry)]).filter (·.isMain) = _
    simp [hmain]
  · exact hslot

theorem changeSurface_run {c : Cargo} (hc : s.Stows role c) (change : Surface → Surface) :
    ∃ q, changeSurface role c.slot change s = (.ok (), s.withPool role q) ∧
      Undisturbed [role] s (s.withPool role q) ∧
      (s.withPool role q).Stows role { c with surface := change c.surface } := by
  obtain ⟨q, hq, hslot⟩ := SlotPool.exists_modify? hc
    (fun s => { s with surface := change s.surface })
  refine ⟨q, ?_, undisturbed_modify s role hq hc rfl ⟨rfl, fun hfree => by cases hfree⟩, ?_⟩
  · change onPipeline (Pipeline.onSlot role c.slot (·.modifySurface? · change)) s = _
    exact onPipeline_run (Pipeline.onSlot_run role hq)
  · change ((s.pipeline.pools.set role q).get role).slot? c.slot = _
    rw [Pools.get_set_self]
    exact hslot

/-- Once an overlay and its canvas are described, the placement is issued, and if it is accepted the
canvas shows the whole picture. -/
theorem placeOverlay_run (host : Host) {view : View} {overlay : Frame} {input canvas : Cargo}
    (hinput : submitInput .placement view overlay false s = (.ok input.slot, t))
    (hcanvas : queryCanvas host view overlay t = (.ok canvas.slot, u))
    (hi : u.Stows .placement input) (hc : u.Stows .pattern canvas)
    (hb : canvas.surface.completion = .blocking) :
    let blit : Blit := ⟨input.surface, canvas.surface, none⟩
    let asked := host.runBlit blit u.pipeline.journal
    ∃ v, placeOverlay host view overlay s =
        (((blit.check asked.1).map fun _ => canvas.slot).mapError .error, v) ∧
      Undisturbed [.pattern] u v ∧ v.unit = u.unit ∧ v.afbcOutput = u.afbcOutput ∧
      v.pipeline.journal = asked.2 ∧ (blit.check asked.1 = .ok () → v.Stows .pattern
        { canvas with surface := (blit.written asked.1).showing u.main.active }) := by
  intro blit asked
  obtain ⟨v, hplace, hund, hunit, hafbc, hjournal, hstows⟩ := place_run host hi hc hb
  rcases hcheck : blit.check asked.1 with e | ⟨⟩
  · rw [hcheck] at hplace
    exact ⟨v, (bind_of_ok hinput).trans ((bind_of_ok hcanvas).trans (bind_of_error hplace)),
      hund, hunit, hafbc, hjournal, nofun⟩
  · rw [hcheck] at hplace
    obtain ⟨q, hshow, hund', hstows'⟩ := changeSurface_run hstows (·.showing v.main.active)
    refine ⟨v.withPool .pattern q, ?_, (hund.trans hund').mono (by simp), hunit, hafbc, hjournal,
      fun _ => hund.main ▸ hstows'⟩
    exact (bind_of_ok hinput).trans ((bind_of_ok hcanvas).trans ((bind_of_ok hplace).trans
      ((bind_of_ok get_run).trans (bind_of_ok hshow))))

theorem placeOverlay_yields (host : Host) (view : View) (overlay : Frame) (s : Session)
    (h : s.needsCanvas view = true) :
    let described := s.describeInput .placement view overlay false
    ∃ r t, placeOverlay host view overlay s = (r, t) ∧
      Undisturbed [.placement, .pattern] s t ∧ t.unit = described.2 ∧
      t.afbcOutput = s.afbcOutput ∧
      Yields .pattern (fun c => (.pattern, c.slot) ∈ s.overlaySlots view overlay ∧
        Overlaid host s view overlay c) r t := by
  intro described
  obtain ⟨r₁, s₁, hinput, hund₁, hunit₁, hafbc₁, hjournal₁, hyields₁⟩ :=
    submitInput_yields .placement view overlay false s
  rcases hyields₁ with ⟨e, rfl⟩ | ⟨input, rfl, hstows₁, -, hframe, hdescribed⟩
  · exact ⟨_, s₁, bind_of_error hinput, hund₁.mono (by simp), hunit₁, hafbc₁, .inl ⟨e, rfl⟩⟩
  obtain ⟨r₂, s₂, hcanvas, hund₂, hunit₂, hafbc₂, hjournal₂, hlands₂⟩ :=
    queryCanvas_lands host view overlay s₁
  have hund := hund₁.trans hund₂
  have hunit : s₂.unit = described.2 := hunit₂.trans hunit₁
  have hafbc : s₂.afbcOutput = s.afbcOutput := hafbc₂.trans hafbc₁
  rcases hlands₂.yields with ⟨e, rfl⟩ | ⟨canvas, rfl, hstows₂, hslot, hcanvasdescribed⟩
  · exact ⟨_, s₂, (bind_of_ok hinput).trans (bind_of_error hcanvas), hund, hunit, hafbc,
      .inl ⟨e, rfl⟩⟩
  obtain ⟨allocated, hallocated, hcanvasok⟩ := ok_of_bind hcanvasdescribed
  obtain ⟨t, hrun, hund₃, hunit₃, hafbc₃, -, hstows₃⟩ := placeOverlay_run host hinput hcanvas
    (hstows₁.of_undisturbed hund₂ (by decide)) hstows₂ (describeCanvas_ok hcanvasok).2.1
  let blit : Blit := ⟨input.surface, canvas.surface, none⟩
  let answer := (host.runBlit blit s₂.pipeline.journal).1
  let shown : Cargo := { canvas with surface := (blit.written answer).showing s₂.main.active }
  refine ⟨_, t, hrun, (hund.trans hund₃).mono (by decide), hunit₃.trans hunit,
    hafbc₃.trans hafbc, ?_⟩
  rcases hcheck : blit.check answer with e | ⟨⟩
  · exact .inl ⟨e, rfl⟩
  · refine .inr ⟨shown, rfl, hstows₃ hcheck, ?_,
      .placed input.surface answer canvas.surface hdescribed ?_ ?_ h⟩
    · rw [overlaySlots, if_pos h, hinput]
      simp [shown, hslot]
    · have hs₁ := hund₁.session
      rw [hs₁, hunit₁] at hcanvasdescribed
      change (host.allocate (s₁.pipeline.journal.requests ++ _)).bind _ = _ at hcanvasdescribed
      rw [congrArg Journal.requests hjournal₁] at hcanvasdescribed
      exact hcanvasdescribed
    · rw [← hund.main]
      rfl

theorem submitOverlay_run (host : Host) (view : View) (overlay : Frame) (s : Session) :
    submitOverlay host view overlay s =
      if s.needsCanvas view then placeOverlay host view overlay s
      else submitInput .pattern view overlay false s := by
  refine (bind_of_ok get_run).trans ?_
  split <;> rfl

/-- Taking in an overlay yields what the main blit reads of it. -/
theorem submitOverlay_yields (host : Host) (view : View) (overlay : Frame) (s : Session) :
    let described := s.describeInput (s.overlayRole view) view overlay false
    ∃ r t, submitOverlay host view overlay s = (r, t) ∧
      Undisturbed [.placement, .pattern] s t ∧ t.unit = described.2 ∧
      t.afbcOutput = s.afbcOutput ∧
      Yields .pattern (fun c => (.pattern, c.slot) ∈ s.overlaySlots view overlay ∧
        Overlaid host s view overlay c) r t := by
  by_cases h : s.needsCanvas view = true
  · have hrole : s.overlayRole view = .placement := if_pos h
    rw [hrole]
    obtain ⟨r, t, hrun, hrest⟩ := placeOverlay_yields host view overlay s h
    exact ⟨r, t, by rw [submitOverlay_run, if_pos h, hrun], hrest⟩
  · have hrole : s.overlayRole view = .pattern := if_neg h
    rw [hrole]
    obtain ⟨r, t, hrun, hund, hunit, hafbc, -, hyields⟩ :=
      submitInput_yields .pattern view overlay false s
    refine ⟨r, t, by rw [submitOverlay_run, if_neg h, hrun], hund.mono (by decide), hunit, hafbc,
      hyields.imp fun c hc => ⟨?_, .direct hc.2.1 hc.2.2 (Bool.eq_false_iff.2 h)⟩⟩
    rw [overlaySlots, if_neg h, hc.1]
    exact List.mem_singleton_self _

/-- What becomes of the overlay between `u` and `t`, if there is one. -/
def Blends (host : Host) (active : Option (View × Frame)) (u : Session) (pattern : Option Cargo)
    (t : Session) : Prop :=
  match active with
  | none => pattern = none ∧ t.unit = u.unit
  | some (view, overlay) =>
    t.unit = (u.describeInput (u.overlayRole view) view overlay false).2 ∧
      ∃ c, pattern = some c ∧ (.pattern, c.slot) ∈ u.overlaySlots view overlay ∧
        Overlaid host u view overlay c

theorem Blends.slot_mem {host : Host} {active : Option (View × Frame)} {pattern : Option Cargo}
    {c : Cargo} (h : Blends host active u pattern t) (hc : pattern = some c) :
    (.pattern, c.slot) ∈ active.elim [] fun (view, overlay) => u.overlaySlots view overlay := by
  rcases active with _ | ⟨view, overlay⟩
  · cases h.1.symm.trans hc
  · obtain ⟨-, c', hc', hslot, -⟩ := h
    cases hc'.symm.trans hc
    exact hslot

theorem submitActive_yields (host : Host) (active : Option (View × Frame)) (u : Session) :
    ∃ r t, (active.mapM fun (view, overlay) => submitOverlay host view overlay) u = (r, t) ∧
      Undisturbed [.placement, .pattern] u t ∧ t.afbcOutput = u.afbcOutput ∧
      ((∃ e, r = .error (.error e)) ∨ ∃ pattern : Option Cargo,
        r = .ok (pattern.map (·.slot)) ∧ (∀ c ∈ pattern, t.Stows .pattern c) ∧
          Blends host active u pattern t) := by
  rcases active with _ | ⟨view, overlay⟩
  · exact ⟨_, u, rfl, (Undisturbed.refl u).mono (by decide), rfl,
      .inr ⟨none, rfl, by simp, rfl, rfl⟩⟩
  · obtain ⟨r, t, hrun, hund, hunit, hafbc, hyields⟩ := submitOverlay_yields host view overlay u
    rcases hyields with ⟨e, rfl⟩ | ⟨c, rfl, hstows, hc⟩
    · refine ⟨_, t, ?_, hund, hafbc, .inl ⟨e, rfl⟩⟩
      exact bind_of_error hrun
    · refine ⟨_, t, ?_, hund, hafbc, .inr ⟨some c, rfl, ?_, hunit, c, rfl, hc⟩⟩
      · exact bind_of_ok hrun
      · simpa using hstows

/-! ## The whole load -/

/-- The slots that preparing takes into use, in order, each with its role. -/
def acquisitions (host : Host) (s : Session) (source : Frame) (overlay : Option Frame) :
    List (Role × SlotId) :=
  let active := s.activeOverlay? overlay
  (.source, (s.taken .source).1) ::
    match submitInput .source s.main source active.isSome s with
    | (.error _, _) => []
    | (.ok _, t) => (.destination, (t.taken .destination).1) ::
      match queryOutput host source t with
      | (.error _, _) => []
      | (.ok _, u) => active.elim [] fun (view, frame) => u.overlaySlots view frame

/-- What a prepared load is made of. The session is `u` once source and output are described, and
`t` in the end. -/
structure Prepared (host : Host) (s : Session) (source : Frame) (overlay : Option Frame)
    (u : Session) (l : Load) (t : Session) : Prop where
  between : Undisturbed [.source, .destination] s u
  asked : u.pipeline.journal.requests = s.pipeline.journal.requests ++ [s.output.pad]
  ready : t.pipeline.pools.Ready l
  given : l.source.frame = source
  input : s.describeInput .source s.main source (s.activeOverlay? overlay).isSome =
    (.ok l.source.surface, u.unit)
  output : ∃ surface, { s with unit := u.unit }.describeAnswer
      (host.allocate (s.pipeline.journal.requests ++ [s.output.pad])) source =
        (.ok (l.destination.frame, surface), t.afbcOutput) ∧
      l.destination.surface = { surface with core := t.unit.core }
  overlaid : Blends host (s.activeOverlay? overlay) u l.pattern t
  taken : ∀ role c, l.cargo? role = some c →
    (role, c.slot) ∈ s.acquisitions host source overlay

/-- The destination of a prepared load is a frame allocated for it, written through a fence. -/
theorem Prepared.destination {host : Host} {source : Frame} {overlay : Option Frame} {l : Load}
    (h : Prepared host s source overlay u l t) :
    ∃ allocated, host.allocate (s.pipeline.journal.requests ++ [s.output.pad]) = .ok allocated ∧
      l.destination.frame.IsAllocated allocated source ∧
      l.destination.frame.fd? = some l.destination.surface.fd ∧
      l.destination.surface.completion = .fenced := by
  obtain ⟨surface, houtput, hsurface⟩ := h.output
  obtain ⟨allocated, hallocated, hdescribed⟩ := describeAnswer_ok houtput
  obtain ⟨hframe, hfd, hfenced, -, -⟩ := describeOutput_ok hdescribed
  rw [hsurface]
  exact ⟨allocated, hallocated, hframe, hfd, hfenced⟩

/-- The pools that a call works on. -/
def touched : List Role := [.source, .destination, .placement, .pattern]

theorem setCore_run {c : Cargo} (hc : s.Stows .destination c) :
    ∃ q, setCore c.slot s = (.ok (), s.withPool .destination q) ∧
      Undisturbed [.destination] s (s.withPool .destination q) ∧
      (s.withPool .destination q).Stows .destination
        { c with surface := { c.surface with core := s.unit.core } } := by
  obtain ⟨q, hrun, hund, hstows⟩ :=
    changeSurface_run hc fun surface => { surface with core := s.unit.core }
  exact ⟨q, (bind_of_ok get_run).trans hrun, hund, hstows⟩

/-- Describing source, output and overlay either fails or gives a load that is ready, and leaves
what is in flight alone in both cases. -/
theorem prepare_cases (host : Host) (source : Frame) (overlay : Option Frame) (s : Session) :
    ∃ r t, prepare host source overlay s = (r, t) ∧ Undisturbed touched s t ∧
      ((∃ e, r = .error (.error e)) ∨
        ∃ u l, r = .ok l.job ∧ Prepared host s source overlay u l t) := by
  obtain ⟨r₁, s₁, hinput, hund₁, hunit₁, hafbc₁, hjournal₁, hyields₁⟩ :=
    submitInput_yields .source s.main source (s.activeOverlay? overlay).isSome s
  rcases hyields₁ with ⟨e, rfl⟩ | ⟨input, rfl, hstows₁, hinputslot, hframe, hdescribed⟩
  · exact ⟨_, s₁, (bind_of_ok get_run).trans (bind_of_error hinput), hund₁.mono (by decide),
      .inl ⟨e, rfl⟩⟩
  obtain ⟨r₂, u, houtput, hund₂, hunit₂, hafbc₂, hjournal₂, hlands₂⟩ :=
    queryOutput_lands host source s₁
  have hund : Undisturbed [.source, .destination] s u := hund₁.trans hund₂
  rcases hlands₂.yields with ⟨e, rfl⟩ | ⟨output, rfl, hstows₂, houtputslot, houtputdescribed⟩
  · exact ⟨_, u, (bind_of_ok get_run).trans ((bind_of_ok hinput).trans (bind_of_error houtput)),
      hund.mono (by decide), .inl ⟨e, rfl⟩⟩
  obtain ⟨r₃, v, hoverlay, hund₃, hafbc₃, hpattern⟩ :=
    submitActive_yields host (s.activeOverlay? overlay) u
  rcases hpattern with ⟨e, rfl⟩ | ⟨pattern, rfl, hstows₃, hblends⟩
  · exact ⟨_, v, (bind_of_ok get_run).trans ((bind_of_ok hinput).trans ((bind_of_ok houtput).trans
      (bind_of_error hoverlay))), (hund.trans hund₃).mono (by decide), .inl ⟨e, rfl⟩⟩
  obtain ⟨q, hcore, hund₄, hstows₄⟩ := setCore_run (hstows₂.of_undisturbed hund₃ (by decide))
  let t := v.withPool .destination q
  let l : Load :=
    ⟨input, { output with surface := { output.surface with core := v.unit.core } }, pattern⟩
  have hrun : prepare host source overlay s = (.ok l.job, t) :=
    (bind_of_ok get_run).trans ((bind_of_ok hinput).trans ((bind_of_ok houtput).trans
      ((bind_of_ok hoverlay).trans (bind_of_ok hcore))))
  refine ⟨_, t, hrun, ((hund.trans hund₃).trans hund₄).mono (by decide), .inr ⟨u, l, rfl, ?_⟩⟩
  have htaken : s.acquisitions host source overlay =
      (.source, input.slot) :: (.destination, output.slot) ::
        (s.activeOverlay? overlay).elim [] fun (view, frame) => u.overlaySlots view frame := by
    rw [acquisitions, hinput, hinputslot, houtputslot]
    simp only [houtput]
  refine ⟨hund, ?_, ?_, hframe, ?_, ?_, hblends, ?_⟩
  · rw [hjournal₂, hund₁.session]
    exact congrArg (·.requests ++ _) hjournal₁
  · intro role c hc
    cases role with
    | source =>
      cases hc
      exact hstows₁.of_undisturbed ((hund₂.trans hund₃).trans hund₄) (by decide)
    | destination =>
      cases hc
      exact hstows₄
    | pattern => exact (hstows₃ c hc).of_undisturbed hund₄ (by decide)
    | placement => cases hc
  · rw [hunit₂, hunit₁, ← hdescribed]
  · have hs₁ := hund₁.session
    rw [hafbc₁, ← hunit₂] at hs₁
    have hanswer : s₁.describeAnswer
        (host.allocate (s₁.pipeline.journal.requests ++ [s₁.output.pad])) source =
          (.ok (output.frame, output.surface), v.afbcOutput) :=
      Prod.ext houtputdescribed (hafbc₂.symm.trans hafbc₃.symm)
    rw [hjournal₁, hs₁] at hanswer
    exact ⟨output.surface, hanswer, rfl⟩
  · intro role c hc
    rw [htaken]
    cases role with
    | source =>
      cases hc
      exact List.mem_cons_self
    | destination =>
      cases hc
      exact List.mem_cons_of_mem _ List.mem_cons_self
    | pattern => exact List.mem_cons_of_mem _ (List.mem_cons_of_mem _ (hblends.slot_mem hc))
    | placement => cases hc

end Session
end Blitter
