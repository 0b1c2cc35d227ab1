import Mathlib.Data.List.Chain
import Blitter.Proofs.Occupancy
import Blitter.Proofs.UnitInForce

/-!
# Degradation

A session is created with more than it may end with: modern cores and compressed output. What frames
can do is take one of these away, and nothing gives it back. `Degrades` compares a session with a
later one, and holds between any two moments of a run, also within a call and whether or not calls
fail.
-/
namespace Blitter

namespace UnitState

variable {a b c : UnitState}

/-- The session of the first unit has moved to the second one, if at all. -/
structure Degrades (a b : UnitState) : Prop where
  onLegacy : a.onLegacy = true → b.onLegacy = true
  core : b.core = a.core ∨ (a.core.isModernOnly = true ∧ b.core = .legacy)
  /-- Only a session on modern cores is moved. -/
  pinned : a.core.isModernOnly = false → b = a

namespace Degrades

theorem refl (a : UnitState) : a.Degrades a := ⟨id, .inl rfl, fun _ => rfl⟩

theorem trans (h : a.Degrades b) (h' : b.Degrades c) : a.Degrades c := by
  refine ⟨h'.onLegacy ∘ h.onLegacy, ?_, fun hpinned => ?_⟩
  · rcases h'.core with hsame | ⟨-, hlegacy⟩
    · rw [hsame]
      exact h.core
    · rcases h.core with hcore | ⟨hmodern, -⟩
      · exact h'.core.imp (·.trans hcore) fun ⟨hmodern, hlegacy⟩ => ⟨hcore ▸ hmodern, hlegacy⟩
      · exact .inr ⟨hmodern, hlegacy⟩
  · have hsame := h.pinned hpinned
    rw [← hsame] at hpinned ⊢
    exact h'.pinned hpinned

/-- A unit that has left its cores is not left again. -/
theorem eq_of_core_ne (h : a.Degrades b) (h' : b.Degrades c) (hne : b.core ≠ a.core) : c = b := by
  obtain ⟨-, hlegacy⟩ := h.core.resolve_left hne
  exact h'.pinned (by rw [hlegacy]; rfl)

/-- Strides can move a session from modern cores to the legacy unit. -/
theorem revalidate (unit : UnitState) (h : Hardware) (source destination : View)
    (strideX strideY : Int) (isAfbc : Bool) :
    unit.Degrades (unit.revalidate h source destination strideX strideY isAfbc).2 := by
  rcases revalidate_cases unit h source destination strideX strideY isAfbc with
    ⟨-, hr⟩ | ⟨hmodern, -, hr⟩ | ⟨hmodern, e, -, hr⟩ <;> rw [hr]
  · exact refl unit
  · refine ⟨fun hlegacy => by simp [hlegacy], ?_, fun hpinned => ?_⟩
    · dsimp only
      split
      · exact .inr ⟨hmodern, rfl⟩
      · exact .inl rfl
    · cases hmodern.symm.trans hpinned
  · refine ⟨fun hlegacy => by simp [hlegacy], .inl rfl, fun hpinned => ?_⟩
    cases hmodern.symm.trans hpinned

end Degrades
end UnitState

namespace Session

variable {host : Host} {s t u : Session} {α β : Type}

/-- `t` is what calls may have made of `s`. -/
structure Degrades (s t : Session) : Prop where
  settings : t.settings = s.settings
  /-- Of what is told about the output only the cores can have changed. -/
  output : t.outputView = { s.outputView with core := t.unit.core }
  depth : t.pipeline.depth = s.pipeline.depth
  unit : s.unit.Degrades t.unit
  afbcOutput : t.afbcOutput = true → s.afbcOutput = true

namespace Degrades

theorem of_settings (settings : t.settings = s.settings)
    (depth : t.pipeline.depth = s.pipeline.depth) (unit : s.unit.Degrades t.unit)
    (afbcOutput : t.afbcOutput = true → s.afbcOutput = true) : Degrades s t := by
  refine ⟨settings, ?_, depth, unit, afbcOutput⟩
  simp only [outputView, (settings_eq_iff.1 settings).2.2.2.1]

theorem refl (s : Session) : Degrades s s := of_settings rfl rfl (.refl _) id

theorem trans (h : Degrades s t) (h' : Degrades t u) : Degrades s u :=
  of_settings (h'.settings.trans h.settings) (h'.depth.trans h.depth) (h.unit.trans h'.unit)
    (h.afbcOutput ∘ h'.afbcOutput)

theorem of_undisturbed {touched : List Role} (h : Undisturbed touched s t)
    (unit : s.unit.Degrades t.unit) (afbcOutput : t.afbcOutput = true → s.afbcOutput = true) :
    Degrades s t :=
  of_settings h.settings (by rw [h.pipeline]) unit afbcOutput

end Degrades

/-! ## Steps -/

/-- Describing an output takes up compressed output only where the session has it. -/
theorem afbcOutput_of_describeOutput {allocated source : Frame}
    (h : (s.describeOutput allocated source).2 = true) : s.afbcOutput = true := by
  have hwanted (hafbc : (s.afbcOutput && !s.unit.isLegacy) = true) : s.afbcOutput = true :=
    (Bool.and_eq_true_iff.1 hafbc).1
  unfold describeOutput at h
  dsimp only at h
  split at h
  · exact hwanted h
  · split at h
    · exact hwanted h
    · split at h
      · next hafbc => exact hwanted hafbc
      · cases h

theorem afbcOutput_of_describeAnswer {answer : Except Error Frame} {source : Frame}
    (h : (s.describeAnswer answer source).2 = true) : s.afbcOutput = true := by
  cases answer with
  | error e => exact h
  | ok allocated => exact afbcOutput_of_describeOutput h

/-- The input that is checked may have moved the session. -/
theorem degrades_checkInput (s : Session) (view : View) (frame : Frame) :
    s.unit.Degrades (s.checkInput view frame).2 :=
  checkInput_keeps (fun _ _ _ _ _ h => h.trans (.revalidate ..)) (.refl _) view frame

/-- However the operation ends, it has only degraded the session. -/
def OneWay (m : SessionM α) : Prop := ∀ s, Degrades s (m s).2

namespace OneWay

variable {m : SessionM α} {f : α → SessionM β}

theorem pure (a : α) : OneWay (pure a : SessionM α) := fun s => .refl s

/-- From where the first step leaves the session, the steps that follow only degrade it. -/
theorem rest (hf : ∀ a, OneWay (f a)) (m : SessionM α) (s : Session) :
    Degrades (m s).2 ((m >>= f) s).2 := by
  rcases h : m s with ⟨e | a, t⟩
  · rw [bind_of_error h]
    exact .refl t
  · rw [bind_of_ok h]
    exact hf a t

theorem bind (hm : OneWay m) (hf : ∀ a, OneWay (f a)) : OneWay (m >>= f) :=
  fun s => (hm s).trans (rest hf m s)

theorem map {g : α → β} (hm : OneWay m) : OneWay (g <$> m) := by
  rw [map_eq_pure_bind]
  exact hm.bind fun _ => pure _

theorem get : OneWay (get : SessionM Session) := fun s => .refl s

theorem onPipeline {operation : PipelineM α} (h : Keeps Pipeline.extent operation) :
    OneWay (onPipeline operation) := fun s =>
  .of_settings rfl (Pipeline.depth_of_extent (h s.pipeline)) (.refl _) id

theorem submitInput (role : Role) (view : View) (frame : Frame) (blended : Bool) :
    OneWay (submitInput role view frame blended) := by
  intro s
  obtain ⟨r, t, hrun, hund, hunit, hafbc, -, -⟩ := submitInput_lands role view frame blended s
  rw [(describeInput_checked ..).1] at hunit
  rw [hrun]
  exact .of_undisturbed hund (hunit ▸ degrades_checkInput s view frame) (hafbc ▸ id)

theorem queryOutput (host : Host) (source : Frame) : OneWay (queryOutput host source) := by
  intro s
  obtain ⟨r, t, hrun, hund, hunit, hafbc, -⟩ := queryOutput_lands host source s
  rw [hrun]
  refine .of_undisturbed hund (hunit ▸ .refl _) fun hcompressed => ?_
  rw [hafbc] at hcompressed
  exact afbcOutput_of_describeAnswer hcompressed

/-- On either path the overlay is checked once. -/
theorem submitOverlay (host : Host) (view : View) (frame : Frame) :
    OneWay (submitOverlay host view frame) := by
  intro s
  obtain ⟨r, t, hrun, hund, hunit, hafbc, -⟩ := submitOverlay_yields host view frame s
  rw [(describeInput_checked ..).1] at hunit
  rw [hrun]
  exact .of_undisturbed hund (hunit ▸ degrades_checkInput s view frame) (hafbc ▸ id)

theorem setCore (id : SlotId) : OneWay (setCore id) :=
  get.bind fun _ => onPipeline (Pipeline.keeps_onSlot _ _ _)

theorem describeFrames (host : Host) (source : Frame) (blended : Bool) :
    OneWay (describeFrames host source blended) :=
  get.bind fun _ => (submitInput _ _ _ _).bind fun _ => (queryOutput _ _).map

theorem describeRest (host : Host) (active : Option (View × Frame)) (ids : SlotId × SlotId) :
    OneWay (describeRest host active ids) := by
  have hpointed (pattern : Option SlotId) : OneWay
      (Session.setCore ids.2 >>= fun _ => Pure.pure ⟨ids.1, ids.2, pattern⟩ : SessionM Job) :=
    (setCore ids.2).bind fun _ => pure _
  cases active with
  | none => exact (pure none).bind hpointed
  | some a => exact (submitOverlay host a.1 a.2).map.bind hpointed

/-- What follows the preparations of a frame is up to the pipeline. -/
theorem finish (host : Host) (job : Job) : OneWay (do
    Session.onPipeline (Pipeline.submit host job)
    let delivered ← Session.onPipeline (Pipeline.drainOverDepth host)
    return if delivered then FrameStatus.delivered else .notReady) :=
  (onPipeline (Pipeline.keeps_submit host job)).bind fun _ =>
    (onPipeline (Pipeline.keeps_drainOverDepth host)).map

end OneWay

/-! ## Calls and runs -/

/-- The session at the moments within a call when it may have been degraded: with source and output
described, and with everything prepared. -/
def within (host : Host) (s : Session) : Call → List Session
  | .process source overlay =>
    [(describeFrames host source (s.activeOverlay? overlay).isSome s).2,
      (prepare host source overlay s).2]
  | .flush | .close => []

/-- The session at all moments of a run after its start, within calls and between them. -/
def moments (host : Host) (s : Session) : List Call → List Session
  | [] => []
  | c :: rest => s.within host c ++ s.after host c :: moments host (s.after host c) rest

theorem degrades_flush (host : Host) (s : Session) : Degrades s (s.after host .flush) :=
  .of_settings (settings_after host s .flush)
    (Pipeline.depth_of_extent (extent_after_flush host s)) (unit_after_flush host s ▸ .refl _)
    (Keeps.flush Session.afbcOutput (fun _ _ => rfl) host s ▸ id)

theorem degrades_close (host : Host) (s : Session) : Degrades s (s.after host .close) :=
  .of_settings rfl (congrArg (·.1) (Pipeline.keeps_drainAll host false s.pipeline)) (.refl _) id

/-- From each moment of a call to the next it has only degraded the session. -/
theorem isChain_within (host : Host) (s : Session) (c : Call) :
    (s :: (s.within host c ++ [s.after host c])).IsChain Degrades := by
  cases c with
  | process source overlay =>
    -- Each part goes on from where the one before leaves the session, also when that has failed.
    have hframes := OneWay.describeFrames host source (s.activeOverlay? overlay).isSome s
    have hrest := OneWay.rest (OneWay.describeRest host (s.activeOverlay? overlay))
      (describeFrames host source (s.activeOverlay? overlay).isSome) s
    have hfinish := OneWay.rest (OneWay.finish host) (prepare host source overlay) s
    rw [← prepare_eq_bind] at hrest
    rw [after_process]
    exact .cons_cons hframes (.cons_cons hrest (.cons_cons hfinish (.singleton _)))
  | flush => exact .cons_cons (degrades_flush host s) (.singleton _)
  | close => exact .cons_cons (degrades_close host s) (.singleton _)

instance : Trans Degrades Degrades Degrades := ⟨Degrades.trans⟩

theorem degrades_after (host : Host) (s : Session) (c : Call) : Degrades s (s.after host c) :=
  List.rel_of_pairwise_cons (List.isChain_iff_pairwise.1 (isChain_within host s c))
    (List.mem_append_right _ (List.mem_singleton_self _))

theorem degrades_run (host : Host) (s : Session) (calls : List Call) :
    Degrades s (s.run host calls) := by
  induction calls generalizing s with
  | nil => exact .refl s
  | cons c rest ih => exact (degrades_after host s c).trans (ih _)

/-- So it goes on through a run. -/
theorem isChain_moments (host : Host) (s : Session) (calls : List Call) :
    (s :: s.moments host calls).IsChain Degrades := by
  induction calls generalizing s with
  | nil => exact .singleton s
  | cons c rest ih => exact List.isChain_cons_split.2 ⟨isChain_within host s c, ih _⟩

/-- The sessions between calls are among the moments of a run. -/
theorem run_mem_moments (host : Host) (s : Session) {earlier calls : List Call}
    (h : earlier <+: calls) : s.run host earlier ∈ s :: s.moments host calls := by
  obtain ⟨later, rfl⟩ := h
  induction earlier generalizing s with
  | nil => exact List.mem_cons_self
  | cons c rest ih =>
    refine List.mem_cons_of_mem _ (List.mem_append_right _ ?_)
    exact ih (s.after host c)

/-- Of sessions that degrade one after the other the first ones have the same cores, and those after
a change have the legacy core. -/
theorem cores_of_pairwise {later : List Session} (h : (s :: later).Pairwise Degrades) :
    ∃ before after, s :: later = before ++ after ∧ (∀ t ∈ before, t.unit.core = s.unit.core) ∧
      ∀ t ∈ after, s.unit.core.isModernOnly = true ∧ t.unit.core = .legacy := by
  induction later generalizing s with
  | nil => exact ⟨[s], [], rfl, by simp, by simp⟩
  | cons t later ih =>
    obtain ⟨hs, ht⟩ := List.pairwise_cons.1 h
    have hst : Degrades s t := hs t List.mem_cons_self
    by_cases hsame : t.unit.core = s.unit.core
    · obtain ⟨before, after, hsplit, hbefore, hafter⟩ := ih ht
      rw [hsame] at hbefore hafter
      exact ⟨s :: before, after, by rw [hsplit]; rfl, by simpa using hbefore, hafter⟩
    -- After a change the cores are legacy ones, which pin the unit for all that is to come.
    · obtain ⟨hmodern, hlegacy⟩ := hst.unit.core.resolve_left hsame
      refine ⟨[s], t :: later, rfl, by simp, fun u hu => ⟨hmodern, ?_⟩⟩
      rcases List.mem_cons.1 hu with rfl | hu
      · exact hlegacy
      · have htu : Degrades t u := (List.pairwise_cons.1 ht).1 u hu
        rw [hst.unit.eq_of_core_ne htu.unit hsame, hlegacy]

/-- A session is only ever degraded: at any two moments of a run the later one has the settings, the
output and the depth of the earlier one, does not go back from the legacy unit and does not take up
compressed output again. The cores change once at most, from modern ones to the legacy core; a
session on other cores keeps its unit. -/
theorem degrades_throughout (host : Host) (s : Session) (calls : List Call) :
    let moments := s :: s.moments host calls
    moments.Pairwise Degrades ∧ (∀ earlier, earlier <+: calls → s.run host earlier ∈ moments) ∧
      ∃ before after, moments = before ++ after ∧ (∀ t ∈ before, t.unit.core = s.unit.core) ∧
        ∀ t ∈ after, s.unit.core.isModernOnly = true ∧ t.unit.core = .legacy := by
  intro moments
  have hpairwise : moments.Pairwise Degrades :=
    List.isChain_iff_pairwise.1 (isChain_moments host s calls)
  exact ⟨hpairwise, fun earlier => run_mem_moments host s, cores_of_pairwise hpairwise⟩

/-- An overlay moves a session, and the next frame ends compressed output. -/
theorem degrades_throughout_sample :
    let s := Sample.session
    let aligned : Call := .process (Sample.frame 1) none
    let moving : Call := .process (Sample.frame 2) (some Sample.unalignedOverlay)
    let calls := [aligned, moving, aligned]
    let moments := s :: s.moments Sample.host calls
    let t := s.run Sample.host calls
    Started Sample.host s ∧ [aligned, moving] <+: calls ∧
      (s.unit = ⟨false, .modern⟩ ∧ s.afbcOutput = true) ∧
      (t.unit = ⟨true, .legacy⟩ ∧ t.afbcOutput = false) ∧
      moments.Pairwise Degrades ∧ s.run Sample.host [aligned, moving] ∈ moments ∧
      ∃ before after, moments = before ++ after ∧ (∀ u ∈ before, u.unit.core = .modern) ∧
        ∀ u ∈ after, u.unit.core = .legacy := by
  intro s aligned moving calls moments t
  have hearlier : [aligned, moving] <+: calls := ⟨[aligned], rfl⟩
  obtain ⟨hpairwise, hmem, before, after, hsplit, hbefore, hafter⟩ :=
    degrades_throughout Sample.host s calls
  exact ⟨Sample.started, hearlier, ⟨rfl, rfl⟩, ⟨by decide +kernel, by decide +kernel⟩, hpairwise,
    hmem _ hearlier, before, after, hsplit, hbefore, fun u hu => (hafter u hu).2⟩

end Session
end Blitter
