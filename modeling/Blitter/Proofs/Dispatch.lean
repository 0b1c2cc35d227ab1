import Blitter.Proofs.CallEffect
import Blitter.Proofs.UnitInForce

/-!
# Blits on the cores in force

A process call issues one main blit at most, and before that at most one that places the overlay on
its canvas. Each asks for the cores in force when it is issued. Inputs can move the session only
before: the destination of the main blit is given its cores last, and a placement follows the check
of its overlay. A check that fails may leave a unit with cores of the other generation, but no blit
is issued then.
-/
namespace Blitter

/-- A blit with its answer, and the unit in force when it is issued. -/
structure Dispatch where
  unit : UnitState
  entry : BlitEntry

namespace Dispatch

/-- A blit on the cores in force that blocks and goes before other blits. -/
structure IsPlacement (d : Dispatch) : Prop where
  core : d.entry.blit.destination.core = d.unit.core
  completion : d.entry.blit.destination.completion = .blocking
  priority : d.entry.blit.destination.priority = 1

/-- A blit on the cores in force that hands out a fence. -/
structure IsMain (d : Dispatch) : Prop where
  core : d.entry.blit.destination.core = d.unit.core
  completion : d.entry.blit.destination.completion = .fenced

end Dispatch

/-! ## Units and their cores -/

namespace UnitState

variable {unit unit' : UnitState} {h : Hardware} {source destination : View} {strideX strideY : Int}
  {isAfbc : Bool}

/-- On the legacy unit, the cores are its first one or both of them. -/
def OnItsCores (unit : UnitState) : Prop :=
  unit.onLegacy = true → unit.core = .legacy ∨ unit.core = CoreMask.legacy.union .legacySecond

/-- A check that fails can leave the legacy unit with modern cores only. -/
def Consistent (unit : UnitState) : Prop := unit.core.isModernOnly = true ∨ unit.OnItsCores

theorem Consistent.revalidate (hunit : unit.Consistent) (h : Hardware)
    (source destination : View) (strideX strideY : Int) (isAfbc : Bool) :
    (unit.revalidate h source destination strideX strideY isAfbc).2.Consistent := by
  rcases revalidate_cases unit h source destination strideX strideY isAfbc with
    ⟨-, hr⟩ | ⟨hmodern, -, hr⟩ | ⟨hmodern, e, -, hr⟩ <;> rw [hr]
  · exact hunit
  · dsimp only
    split
    · exact .inr fun _ => .inl rfl
    · exact .inl hmodern
  · exact .inl hmodern

/-- A check that passes leaves the unit on its cores. -/
theorem Consistent.onItsCores (hunit : unit.Consistent)
    (hpass : unit.revalidate h source destination strideX strideY isAfbc = (.ok (), unit')) :
    unit'.OnItsCores := by
  rcases revalidate_cases unit h source destination strideX strideY isAfbc with
    ⟨hcore, hr⟩ | ⟨hmodern, -, hr⟩ | ⟨-, e, -, hr⟩ <;> cases hr.symm.trans hpass
  · exact hunit.resolve_left (ne_true_of_eq_false hcore)
  · intro hlegacy
    exact .inl (if_pos hlegacy)

end UnitState

namespace Session

variable {host : Host} {s t u : Session} {view : View} {overlay : Frame} {ops : List Operation}

theorem onItsCores_of_describeInput {role : Role} {blended : Bool} {surface : Surface}
    {unit : UnitState} (hs : s.unit.Consistent)
    (h : s.describeInput role view overlay blended = (.ok surface, unit)) : unit.OnItsCores := by
  obtain ⟨buffer, rect, -, hpass, -⟩ := describeInput_ok h
  exact hs.onItsCores hpass

theorem Created.onItsCores (h : s.Created) : s.unit.OnItsCores := by
  obtain ⟨r, inputs, hroute, hunit⟩ := h.routed
  obtain ⟨-, -, hcore⟩ := route_ok hroute
  rw [hunit]
  intro hlegacy
  dsimp only at hlegacy ⊢
  rw [hcore, hlegacy]
  cases hpro : s.hardware.pro <;> simp [Route.cores, CoreMask.allLegacy, hpro]

/-! ## The blits of a call -/

/-- Takes in an overlay and asks for its canvas, which is all up to the placement. -/
def layOut (host : Host) (view : View) (overlay : Frame) : SessionM Blit := do
  let input ← submitInput .placement view overlay false
  let canvas ← queryCanvas host view overlay
  return ⟨← onPipeline (Pipeline.surface .placement input),
    ← onPipeline (Pipeline.surface .pattern canvas), none⟩

/-- The blit that places an overlay, if it needs a canvas and gets one. -/
def overlayPlacement (host : Host) (s : Session) (view : View) (overlay : Frame) :
    List Dispatch :=
  if s.needsCanvas view then
    match layOut host view overlay s with
    | (.ok blit, t) => [⟨t.unit, ⟨blit, (host.runBlit blit t.pipeline.journal).1⟩⟩]
    | (.error _, _) => []
  else []

/-- The placements that a call issues. -/
def placements (host : Host) (s : Session) : Call → List Dispatch
  | .process source overlay =>
    match s.activeOverlay? overlay with
    | none => []
    | some (view, frame) =>
      match describeFrames host source true s with
      | (.ok _, u) => u.overlayPlacement host view frame
      | (.error _, _) => []
  | .flush | .close => []

/-- The main blits that a call issues, once everything is prepared. -/
def mains (host : Host) (s : Session) : Call → List Dispatch
  | .process source overlay => (s.attempt? host (.process source overlay)).toList.map fun o =>
    ⟨(prepare host source overlay s).2.unit, o.entry⟩
  | .flush | .close => []

theorem length_overlayPlacement (host : Host) (s : Session) (view : View) (overlay : Frame) :
    (s.overlayPlacement host view overlay).length ≤ 1 := by
  unfold overlayPlacement
  grind

theorem length_placements (host : Host) (s : Session) (c : Call) :
    (s.placements host c).length ≤ 1 := by
  cases c with
  | process source overlay =>
    simp only [placements]
    split
    · simp
    · split
      · exact length_overlayPlacement host _ _ _
      · simp
  | flush | close => simp [placements]

theorem length_mains (host : Host) (s : Session) (c : Call) : (s.mains host c).length ≤ 1 := by
  cases c with
  | process source overlay =>
    simp only [mains, List.length_map]
    cases s.attempt? host (.process source overlay) <;> simp
  | flush | close => simp [mains]

/-! ## Placements -/

/-- Changing a surface moves nothing and asks nothing. -/
theorem keeps_changeSurface (role : Role) (id : SlotId) (change : Surface → Surface) :
    Keeps (fun s : Session => (s.unit, s.pipeline.journal)) (changeSurface role id change) := by
  intro s
  have honSlot : Keeps (·.journal) (Pipeline.onSlot role id (·.modifySurface? · change)) := by
    intro p
    unfold Pipeline.onSlot
    rw [bind_of_ok get_run]
    dsimp only
    cases (p.pools.get role).modifySurface? id change <;> rfl
  exact Prod.ext rfl (honSlot s.pipeline)

/-- An overlay that needs a canvas is described for its placement, which leaves this unit, and the
canvas for it. -/
structure LaysOut (host : Host) (s : Session) (view : View) (overlay : Frame) (unit : UnitState)
    (input canvas : Surface) : Prop where
  needed : s.needsCanvas view = true
  input : s.describeInput .placement view overlay false = (.ok input, unit)
  canvas : ∃ u allocated frame,
    host.allocate (s.pipeline.journal.requests ++ [{ s.main.pad with format := view.format }]) =
        .ok allocated ∧
      describeCanvas u view allocated overlay = .ok (frame, canvas)

/-- What is laid out is what the slots have. -/
theorem layOut_run {input canvas : Cargo}
    (hinput : submitInput .placement view overlay false s = (.ok input.slot, t))
    (hcanvas : queryCanvas host view overlay t = (.ok canvas.slot, u))
    (hi : u.Stows .placement input) (hc : u.Stows .pattern canvas) :
    layOut host view overlay s = (.ok ⟨input.surface, canvas.surface, none⟩, u) :=
  (bind_of_ok hinput).trans ((bind_of_ok hcanvas).trans
    ((bind_of_ok (onPipeline_run (Pipeline.surface_run .placement hi))).trans
      (bind_of_ok (onPipeline_run (Pipeline.surface_run .pattern hc)))))

/-- Placing an overlay issues its placement, on the unit that the overlay has passed the check of
and that stays in force. -/
theorem placeOverlay_dispatches (host : Host) (view : View) (overlay : Frame) (s : Session)
    (h : s.needsCanvas view = true) :
    let t := (placeOverlay host view overlay s).2
    let placed := s.overlayPlacement host view overlay
    t.pipeline.journal.blits = s.pipeline.journal.blits ++ placed.map (·.entry) ∧
      ∀ d ∈ placed, d.IsPlacement ∧ d.unit = t.unit ∧ d.entry.blit.pattern = none ∧
        s.LaysOut host view overlay d.unit d.entry.blit.source d.entry.blit.destination := by
  intro t placed
  obtain ⟨r₁, s₁, hinput, hund₁, hunit₁, -, hjournal₁, hlands₁⟩ :=
    submitInput_lands .placement view overlay false s
  rcases hdescribed : (s.describeInput .placement view overlay false).1 with e | surface <;>
    rw [hdescribed] at hlands₁
  -- An overlay that is not described, or that gets no canvas, is not placed.
  · cases hlands₁
    have hrun : placeOverlay host view overlay s = (.error (.error e), s₁) := bind_of_error hinput
    have hnone : placed = [] := by
      simp [placed, overlayPlacement, layOut, bind_of_error hinput]
    simp only [t]
    rw [hrun, hnone, hjournal₁]
    simp
  obtain ⟨rfl, hstows₁⟩ := hlands₁
  obtain ⟨r₂, s₂, hcanvas, hund₂, hunit₂, -, hjournal₂, hlands₂⟩ :=
    queryCanvas_lands host view overlay s₁
  have hblits : s₂.pipeline.journal.blits = s.pipeline.journal.blits := by
    rw [hjournal₂]
    simp [asking, hjournal₁]
  rcases hanswered : (host.allocate (s₁.pipeline.journal.requests ++
      [{ s₁.main.pad with format := view.format }])).bind (s₁.describeCanvas view · overlay) with
    e | ⟨frame, canvas⟩ <;> rw [hanswered] at hlands₂
  · cases hlands₂
    have hrun : placeOverlay host view overlay s = (.error (.error e), s₂) :=
      (bind_of_ok hinput).trans (bind_of_error hcanvas)
    have hnone : placed = [] := by
      simp [placed, overlayPlacement, layOut, bind_of_ok hinput, bind_of_error hcanvas]
    simp only [t]
    rw [hrun, hnone, hblits]
    simp
  obtain ⟨rfl, hstows₂⟩ := hlands₂
  obtain ⟨allocated, hallocated, hok⟩ := ok_of_bind hanswered
  rw [hjournal₁, hund₁.main] at hallocated
  obtain ⟨-, hblocking, -, hcore, hpriority⟩ := describeCanvas_ok hok
  let blit : Blit := ⟨surface, canvas, none⟩
  let answer := (host.runBlit blit s₂.pipeline.journal).1
  have hstows : s₂.Stows .placement _ := hstows₁.of_undisturbed hund₂ (by decide)
  have hplaced : placed = [⟨s₂.unit, ⟨blit, answer⟩⟩] := by
    have hlaid : layOut host view overlay s = (.ok blit, s₂) :=
      layOut_run hinput hcanvas hstows hstows₂
    simp only [placed, overlayPlacement, h, if_true, hlaid]
    rfl
  obtain ⟨v, hrun, -, hunit₃, -, hjournal₃, -⟩ :=
    placeOverlay_run host hinput hcanvas hstows hstows₂ hblocking
  have hunit : s₂.unit = s₁.unit := hunit₂
  simp only [t]
  rw [hrun, hplaced]
  refine ⟨?_, ?_⟩
  · rw [hjournal₃, ← hblits]
    rfl
  · rintro d hd
    rw [List.mem_singleton.1 hd]
    exact ⟨⟨hcore.trans (congrArg (·.core) hunit.symm), hblocking, hpriority⟩, hunit₃.symm, rfl, h,
      Prod.ext hdescribed (hunit₁.symm.trans hunit.symm), s₁, allocated, _, hallocated, hok⟩

/-- A placement that a call issues follows the description of its frames. -/
theorem overlayPlacement_of_placements {source : Frame} {overlay : Option Frame} {d : Dispatch}
    (h : d ∈ s.placements host (.process source overlay)) :
    ∃ u view frame, s.activeOverlay? overlay = some (view, frame) ∧
      s.DescribesFrames host source true u ∧ d ∈ u.overlayPlacement host view frame := by
  rcases hactive : s.activeOverlay? overlay with _ | ⟨view, frame⟩
  · simp [placements, hactive] at h
  obtain ⟨r, u, hframes, -, -, -, hdescribes⟩ := describeFrames_run host source true s
  simp only [placements, hactive, hframes] at h
  rcases r with e | ids
  · cases h
  exact ⟨u, view, frame, rfl, hdescribes ids rfl, h⟩

theorem laysOut_of_placements {source : Frame} {overlay : Option Frame} {d : Dispatch}
    (h : d ∈ s.placements host (.process source overlay)) :
    ∃ u view frame, s.activeOverlay? overlay = some (view, frame) ∧
      s.DescribesFrames host source true u ∧ d.entry.blit.pattern = none ∧
      u.LaysOut host view frame d.unit d.entry.blit.source d.entry.blit.destination := by
  obtain ⟨u, view, frame, hactive, hdescribes, hd⟩ := overlayPlacement_of_placements h
  have hneeded : u.needsCanvas view = true := by
    by_contra hnone
    simp [overlayPlacement, hnone] at hd
  obtain ⟨-, -, hpattern, hlaid⟩ := (placeOverlay_dispatches host view frame u hneeded).2 d hd
  exact ⟨u, view, frame, hactive, hdescribes, hpattern, hlaid⟩

/-- Taking in an overlay issues its placement, if there is one. -/
theorem submitOverlay_dispatches (host : Host) (view : View) (overlay : Frame)
    (hs : s.unit.Consistent) :
    let t := (submitOverlay host view overlay s).2
    let placed := s.overlayPlacement host view overlay
    t.pipeline.journal.blits = s.pipeline.journal.blits ++ placed.map (·.entry) ∧
      ∀ d ∈ placed, d.IsPlacement ∧ d.unit = t.unit ∧ d.unit.OnItsCores := by
  intro t placed
  by_cases h : s.needsCanvas view = true
  · obtain ⟨hblits, hplaced⟩ := placeOverlay_dispatches host view overlay s h
    simp only [t, submitOverlay_run, if_pos h]
    refine ⟨hblits, fun d hd => ?_⟩
    obtain ⟨hplacement, hunit, -, hlaid⟩ := hplaced d hd
    exact ⟨hplacement, hunit, onItsCores_of_describeInput hs hlaid.input⟩
  · obtain ⟨r, u, hinput, -, -, -, hjournal, -⟩ :=
      submitInput_lands .pattern view overlay false s
    have hnone : placed = [] := if_neg h
    simp [t, submitOverlay_run, if_neg h, hnone, hinput, hjournal]

theorem keeps_setCore (id : SlotId) :
    Keeps (fun s : Session => (s.unit, s.pipeline.journal)) (setCore id) :=
  fun s => keeps_changeSurface .destination id _ s

/-- Only placing an overlay issues blits while a frame is prepared. -/
theorem prepare_dispatches (host : Host) (source : Frame) (overlay : Option Frame)
    (hs : s.unit.Consistent) :
    let t := (prepare host source overlay s).2
    let placed := s.placements host (.process source overlay)
    t.pipeline.journal.blits = s.pipeline.journal.blits ++ placed.map (·.entry) ∧
      ∀ d ∈ placed, d.IsPlacement ∧ d.unit = t.unit ∧ d.unit.OnItsCores := by
  intro t placed
  obtain ⟨r, u, hframes, -, hunit, hblits, -⟩ :=
    describeFrames_run host source (s.activeOverlay? overlay).isSome s
  have hconsistent : u.unit.Consistent := by
    rw [hunit]
    exact checkInput_keeps (fun _ _ _ _ _ h => h.revalidate ..) hs s.main source
  simp only [t, prepare_eq_bind]
  rcases r with e | ids
  · have hnone : placed = [] := by
      rcases hactive : s.activeOverlay? overlay with _ | ⟨view, frame⟩
      · simp [placed, placements, hactive]
      · rw [hactive, Option.isSome_some] at hframes
        simp [placed, placements, hactive, hframes]
    rw [bind_of_error hframes, hnone, hblits]
    simp
  rw [bind_of_ok hframes]
  obtain ⟨hlastunit, hlastjournal⟩ := Prod.ext_iff.1
    (describeRest_keeps keeps_setCore host (s.activeOverlay? overlay) ids u)
  dsimp only at hlastunit hlastjournal
  rw [hlastunit, hlastjournal]
  rcases hactive : s.activeOverlay? overlay with _ | ⟨view, frame⟩
  · have hnone : placed = [] := by simp [placed, placements, hactive]
    rw [hnone, ← hblits]
    exact ⟨(List.append_nil _).symm, by simp⟩
  · rw [hactive, Option.isSome_some] at hframes
    have hplaced : placed = u.overlayPlacement host view frame := by
      simp [placed, placements, hactive, hframes]
    -- The overlay is taken in on the unit that the source leads to.
    rw [hplaced, ← hblits]
    exact submitOverlay_dispatches host view frame hconsistent

/-! ## Main blits -/

/-- What a call prepares leaves the session on the cores of its unit. -/
theorem Prepared.onItsCores {source : Frame} {overlay : Option Frame} {l : Load}
    (h : Prepared host s source overlay u l t) (hs : s.unit.Consistent) : t.unit.OnItsCores := by
  have hsource := onItsCores_of_describeInput hs h.input
  have hoverlaid := h.overlaid
  rcases hactive : s.activeOverlay? overlay with _ | ⟨view, frame⟩ <;> rw [hactive] at hoverlaid
  · rw [hoverlaid.2]
    exact hsource
  · obtain ⟨role, surface, hdescribed⟩ := hoverlaid.described
    exact onItsCores_of_describeInput (.inr hsource) hdescribed

/-- A main blit asks for the cores in force once everything is prepared. -/
theorem mains_dispatched (host : Host) (hs : s.unit.Consistent) (c : Call) :
    ∀ d ∈ s.mains host c, d.IsMain ∧ d.unit = (s.after host c).unit ∧ d.unit.OnItsCores := by
  intro d hd
  cases c with
  | process source overlay =>
    obtain ⟨o, ho, rfl⟩ := List.mem_map.1 hd
    obtain ⟨u, t, hprepare, -, hl, -⟩ := prepared_of_attempt? (Option.mem_toList.1 ho)
    obtain ⟨allocated, -, -, -, hfenced⟩ := hl.destination
    obtain ⟨surface, -, hsurface⟩ := hl.output
    have hcore : o.load.destination.surface.core = t.unit.core := by rw [hsurface]
    rw [unit_after_process, hprepare]
    exact ⟨⟨hcore, hfenced⟩, rfl, hl.onItsCores hs⟩
  | flush | close => simp [mains] at hd

/-! ## Calls and runs -/

/-- The blits that a call issues, in order. -/
def dispatches (host : Host) (s : Session) (c : Call) : List Dispatch :=
  s.placements host c ++ s.mains host c

/-- A call that neither places its overlay nor prepares a load fails and issues nothing. -/
theorem refused_of_not_prepared {source : Frame} {overlay : Option Frame}
    (hplacements : ∀ d, d ∉ s.placements host (.process source overlay))
    (hprepared : ∀ u l t, ¬Prepared host s source overlay u l t) :
    (∃ e, (process host source overlay s).1 = .error (.error e)) ∧
      s.dispatches host (.process source overlay) = [] := by
  have hnone := List.eq_nil_iff_forall_not_mem.2 hplacements
  obtain ⟨r, t, hprepare, -, ⟨e, rfl⟩ | ⟨u, l, rfl, hl⟩⟩ := prepare_cases host source overlay s
  · exact ⟨⟨e, fst_of_error (by rw [hprepare])⟩,
      by simp [dispatches, hnone, mains, attempt?, hprepare]⟩
  · exact absurd hl (hprepared u l t)

/-- The unit changes no more once a placement is issued. -/
theorem placements_dispatched (host : Host) (hs : s.unit.Consistent) (c : Call) :
    ∀ d ∈ s.placements host c,
      d.IsPlacement ∧ d.unit = (s.after host c).unit ∧ d.unit.OnItsCores := by
  intro d hd
  cases c with
  | process source overlay =>
    rw [unit_after_process]
    exact (prepare_dispatches host source overlay hs).2 d hd
  | flush | close => simp [placements] at hd

theorem core_of_dispatches (host : Host) (hs : s.unit.Consistent) (c : Call) :
    ∀ d ∈ s.dispatches host c, d.entry.blit.destination.core = (s.after host c).unit.core := by
  intro d hd
  rcases List.mem_append.1 hd with hd | hd
  · obtain ⟨hplacement, hunit, -⟩ := placements_dispatched host hs c d hd
    rw [← hunit, hplacement.core]
  · obtain ⟨hmain, hunit, -⟩ := mains_dispatched host hs c d hd
    rw [← hunit, hmain.core]

/-- A call issues these blits and no others. -/
theorem blits_after (h : s.pipeline.Carries ops) (hs : s.unit.Consistent) (host : Host) (c : Call) :
    (s.after host c).pipeline.journal.blits =
      s.pipeline.journal.blits ++ (s.dispatches host c).map (·.entry) := by
  cases c with
  | process source overlay =>
    obtain ⟨r, v, hprepare, hund, hcases⟩ := prepare_cases host source overlay s
    have hplaced := (prepare_dispatches host source overlay hs).1
    rw [hprepare] at hplaced
    rw [after_process, dispatches, List.map_append, ← List.append_assoc, ← hplaced]
    rcases hcases with ⟨e, rfl⟩ | ⟨u, l, rfl, hl⟩
    · have hrun : process host source overlay s = (.error (.error e), v) := bind_of_error hprepare
      have hnone : s.mains host (.process source overlay) = [] := by
        simp [mains, attempt?, hprepare]
      simp [hrun, hnone]
    · obtain ⟨allocated, -, -, -, hfenced⟩ := hl.destination
      obtain ⟨r, q, hrun, hblits, -, -⟩ :=
        process_ends hprepare hl.ready hfenced (hund.carries h)
      have hmain : (s.mains host (.process source overlay)).map (·.entry) =
          [Operation.entry ⟨l, (host.runBlit l.blit v.pipeline.journal).1⟩] := by
        simp [mains, attempt?, hprepare, hl.ready.load?_eq]
      rw [hrun, hmain]
      exact hblits
  | flush =>
    obtain ⟨q, r, n, given, hdrain, hsettles, -⟩ := Pipeline.drainAll_delivering host h
    simp [after, call_flush hdrain, hsettles.journal, dispatches, placements, mains]
  | close =>
    obtain ⟨q, hdrain, hsettles⟩ := Pipeline.drainAll_discarding host h
    simp [after_close hdrain, Pipeline.clear, hsettles.journal, dispatches, placements, mains]

/-- A run issues the blits of its calls. -/
theorem blits_run (h : s.pipeline.Carries ops) (hs : s.unit.Consistent) (host : Host)
    (calls : List Call) :
    (s.run host calls).pipeline.journal.blits = s.pipeline.journal.blits ++
      (collect (dispatches host) host s calls).map (·.entry) := by
  induction calls generalizing s ops with
  | nil => simp [collect]
  | cons c rest ih =>
    rw [run_cons, ih (call_accounts host h c).carries
      (unit_after_keeps (fun _ _ _ _ _ h => h.revalidate ..) hs host c), blits_after h hs, collect,
      List.map_append, List.append_assoc]

theorem Created.consistent_run (h : s.Created) (host : Host) (calls : List Call) :
    (s.run host calls).unit.Consistent :=
  unit_run_keeps (fun _ _ _ _ _ h => h.revalidate ..) (.inr h.onItsCores) host calls

/-- A call adds these blits to the journal: one that places the overlay at most, then one main blit
at most. Both ask for the cores in force when they are issued, which are those in force after the
call, and on the legacy unit these are legacy cores. -/
theorem blits_on_cores_in_force {inputs : List Pad} {output : Pad} {p : Parameters} {o : Options}
    (h : create host inputs output p o = .ok s) (calls : List Call) (c : Call) :
    let t := s.run host calls
    let u := t.after host c
    u.pipeline.journal.blits =
      t.pipeline.journal.blits ++ (t.placements host c ++ t.mains host c).map (·.entry) ∧
    (t.placements host c).length ≤ 1 ∧ (t.mains host c).length ≤ 1 ∧
    (∀ d ∈ t.placements host c, d.IsPlacement) ∧ (∀ d ∈ t.mains host c, d.IsMain) ∧
    ∀ d ∈ t.placements host c ++ t.mains host c, d.unit = u.unit ∧ d.unit.OnItsCores := by
  intro t u
  obtain ⟨hcreated, -⟩ := create_ok h
  have hcarries := (run_accounts host hcreated.carries calls).carries
  have hconsistent := hcreated.consistent_run host calls
  have hplacements := placements_dispatched host hconsistent c
  have hmains := mains_dispatched host hconsistent c
  refine ⟨blits_after hcarries hconsistent host c, length_placements .., length_mains ..,
    fun d hd => (hplacements d hd).1, fun d hd => (hmains d hd).1, fun d hd => ?_⟩
  rcases List.mem_append.1 hd with hd | hd
  · exact (hplacements d hd).2
  · exact (hmains d hd).2

/-- An overlay that has to be placed on a canvas and moves the session from the modern unit. -/
theorem blits_on_cores_in_force_sample :
    let s : Session := { Sample.session with
      overlay := some { pad := Sample.overlayPad, active := ⟨0, 0, 128, 128⟩, overlayX := 16 }
      afbcOutput := false }
    let c : Call := .process (Sample.frame 1) (some Sample.unalignedOverlay)
    let dispatched := s.placements Sample.host c ++ s.mains Sample.host c
    create Sample.host [Sample.mainPad, Sample.overlayPad] Sample.mainPad
        { alpha := 255, overlayX := 16 } { depth := 1 } = .ok s ∧
      s.unit = ⟨false, .modern⟩ ∧ (s.after Sample.host c).unit = ⟨true, .legacy⟩ ∧
      dispatched.map (·.entry.blit.destination.core) = [.legacy, .legacy] ∧
      ∀ d ∈ dispatched, d.unit = (s.after Sample.host c).unit ∧ d.unit.OnItsCores := by
  intro s c dispatched
  have hcreate : create Sample.host [Sample.mainPad, Sample.overlayPad] Sample.mainPad
      { alpha := 255, overlayX := 16 } { depth := 1 } = .ok s := ok_of_toOption (by decide +kernel)
  obtain ⟨-, -, -, -, -, hdispatched⟩ := blits_on_cores_in_force hcreate [] c
  exact ⟨hcreate, rfl, by decide +kernel, by decide +kernel, hdispatched⟩

end Session
end Blitter
