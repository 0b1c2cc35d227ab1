import Blitter.Proofs.Dispatch

/-!
# Composites without an overlay

A call of a composite that leaves the overlay out, because none is given or because it does not fit,
converts the main stream and nothing else. The second input is then never looked at: `Ignores` says
so of an operation, and a process call does the same on a session that has no second input.
-/
namespace Blitter

namespace Session

variable {host : Host} {s t u : Session} {source : Frame} {overlay : Option Frame} {α β : Type}

/-- The session with its first input only. -/
def alone (s : Session) (fits : Bool) : Session :=
  { s with overlay := none, overlayFits := fits }

/-- The operation is the same on a session with one input. -/
def Ignores (m : SessionM α) : Prop :=
  ∀ s fits, m (s.alone fits) = ((m s).1, (m s).2.alone fits)

/-- The overlay is left out if there is no frame of it or it does not fit. -/
theorem activeOverlay?_eq_none (h : overlay = none ∨ s.overlayFits = false) :
    s.activeOverlay? overlay = none := by
  unfold activeOverlay?
  rcases h with rfl | h
  · cases s.overlay <;> rfl
  · rw [h]
    split <;> rfl

namespace Ignores

variable {m : SessionM α} {f : α → SessionM β}

theorem pure (a : α) : Ignores (pure a : SessionM α) := fun _ _ => rfl

theorem bind (hm : Ignores m) (hf : ∀ a, Ignores (f a)) : Ignores (m >>= f) := by
  intro s fits
  have halone := hm s fits
  rcases h : m s with ⟨e | a, t⟩ <;> rw [h] at halone
  · rw [bind_of_error h, bind_of_error halone]
  · rw [bind_of_ok h, bind_of_ok halone]
    exact hf a t fits

theorem map {g : α → β} (hm : Ignores m) : Ignores (g <$> m) := by
  rw [map_eq_pure_bind]
  exact hm.bind fun _ => pure _

/-- Nothing that is read of the session is its second input. -/
theorem read {g : Session → SessionM α} (hsame : ∀ s fits, g (s.alone fits) = g s)
    (hg : ∀ s, Ignores (g s)) : Ignores (get >>= g) := by
  intro s fits
  change g (s.alone fits) (s.alone fits) = ((g s s).1, (g s s).2.alone fits)
  rw [hsame]
  exact hg s s fits

theorem modify {g : Session → Session} (h : ∀ s fits, g (s.alone fits) = (g s).alone fits) :
    Ignores (modify g : SessionM Unit) := by
  intro s fits
  change (Except.ok (), g (s.alone fits)) = _
  rw [h]
  rfl

theorem onPipeline (operation : PipelineM α) : Ignores (onPipeline operation) := fun _ _ => rfl

theorem settle (role : Role) (id : SlotId) (described : Except Error (Frame × Surface)) :
    Ignores (settle role id described) := by
  cases described with
  | error e => exact (onPipeline _).bind fun _ _ _ => rfl
  | ok a =>
    obtain ⟨frame, surface⟩ := a
    exact onPipeline (Pipeline.onSlot role id (·.attach? · frame surface))

theorem submitInput (role : Role) (view : View) (frame : Frame) (blended : Bool) :
    Ignores (submitInput role view frame blended) := by
  refine (onPipeline _).bind fun id => ?_
  intro s fits
  let described := s.describeInput role view frame blended
  exact ((settle role id (described.1.map (frame, ·))).bind fun _ => pure id)
    { s with unit := described.2 } fits

theorem queryOutput (host : Host) (source : Frame) : Ignores (queryOutput host source) := by
  refine (onPipeline _).bind fun id => read (fun _ _ => rfl) fun s => ?_
  refine (onPipeline _).bind fun answer => ?_
  exact (modify fun _ _ => rfl).bind fun _ => (settle _ _ _).bind fun _ => pure id

theorem setCore (id : SlotId) : Ignores (setCore id) :=
  read (fun _ _ => rfl) fun _ => onPipeline _

theorem describeFrames (host : Host) (source : Frame) (blended : Bool) :
    Ignores (describeFrames host source blended) :=
  read (fun _ _ => rfl) fun _ => (submitInput _ _ _ _).bind fun _ => (queryOutput _ _).map

theorem prepare (host : Host) (source : Frame) : Ignores (prepare host source none) := by
  have hplain : Session.prepare host source none =
      (Session.describeFrames host source false >>= describeRest host none) := by
    funext s
    rw [prepare_eq_bind, activeOverlay?_eq_none (.inl rfl)]
    rfl
  rw [hplain]
  exact (describeFrames _ _ _).bind fun ids => (setCore ids.2).bind fun _ => pure _

theorem process (host : Host) (source : Frame) : Ignores (process host source none) :=
  (prepare host source).bind fun _ => (onPipeline _).bind fun _ => (onPipeline _).map

end Ignores

/-- An overlay that is left out is as good as none. -/
theorem process_eq_of_inactive (h : s.activeOverlay? overlay = none) (host : Host)
    (source : Frame) : process host source overlay s = process host source none s := by
  have hprepare : prepare host source overlay s = prepare host source none s := by
    rw [prepare_eq_bind, prepare_eq_bind, h, activeOverlay?_eq_none (.inl rfl)]
  unfold process
  rcases hrun : prepare host source none s with ⟨e | job, t⟩ <;> rw [hrun] at hprepare
  · rw [bind_of_error hprepare, bind_of_error hrun]
  · rw [bind_of_ok hprepare, bind_of_ok hrun]

/-- A call that leaves the overlay out does the same with one input. -/
theorem process_alone (h : s.activeOverlay? overlay = none) (host : Host) (source : Frame)
    (fits : Bool) : process host source overlay (s.alone fits) =
      ((process host source overlay s).1, (process host source overlay s).2.alone fits) := by
  have halone : (s.alone fits).activeOverlay? overlay = none := by
    cases overlay <;> rfl
  rw [process_eq_of_inactive halone, process_eq_of_inactive h]
  exact Ignores.process host source s fits

/-! ## Blending -/

theorem blend_of_describeInput {view : View} {blended : Bool} {surface : Surface}
    {unit : UnitState} (h : s.describeInput .source view source blended = (.ok surface, unit)) :
    surface.blend = if blended then view.blend else 0 := by
  obtain ⟨buffer, rect, -, -, -, rfl⟩ := describeInput_ok h
  simp [linearSurface]

/-- A main blit has a pattern and blends it exactly if the call has an overlay to blend. -/
theorem blend_of_mains {d : Dispatch} (h : d ∈ s.mains host (.process source overlay)) :
    d.entry.blit.pattern.isSome = (s.activeOverlay? overlay).isSome ∧
      d.entry.blit.source.blend =
        if (s.activeOverlay? overlay).isSome then s.main.blend else 0 := by
  obtain ⟨o, ho, rfl⟩ := List.mem_map.1 h
  obtain ⟨u, t, -, -, hl, -⟩ := prepared_of_attempt? (Option.mem_toList.1 ho)
  refine ⟨?_, blend_of_describeInput hl.input⟩
  have hblends := hl.overlaid
  change (o.load.pattern.map (·.surface)).isSome = _
  rcases hactive : s.activeOverlay? overlay with _ | ⟨view, frame⟩ <;> rw [hactive] at hblends
  · rw [hblends.1]
    rfl
  · obtain ⟨-, c, hc, -⟩ := hblends
    rw [hc]
    rfl

theorem blendWord_ne_zero (premultiplied : Bool) (alpha : UInt8) :
    blendWord premultiplied alpha ≠ 0 := by
  unfold blendWord
  split
  · intro hzero
    have hopaque := (UInt32.or_eq_zero_iff.1 hzero).2
    cases hopaque
  · split <;> decide

/-- The source of a composite blends by a word that is not zero. -/
theorem blend_of_create {main overlay output : Pad} {p : Parameters} {o : Options}
    (h : create host [main, overlay] output p o = .ok s) :
    ∃ premultiplied, s.main.blend = blendWord premultiplied p.alpha := by
  obtain ⟨mainView, overlayView, -, -, hviews⟩ := views_of_create h
  obtain ⟨hmain, -⟩ := Prod.mk.inj hviews
  exact ⟨overlayView.format.hasAlpha, by rw [hmain]⟩

/-- A process call that is given no overlay, or whose overlay does not fit, issues one blit at most,
which has no pattern and does not blend. On a session without the second input it has the same
result and leaves the same session, journal and pools included. A main blit of the composite that
has a pattern, on the other hand, blends by the composite's word, which is not zero. -/
theorem composite_without_overlay {main overlay output : Pad} {p : Parameters} {o : Options}
    (h : create host [main, overlay] output p o = .ok s) (calls : List Call) :
    let t := s.run host calls
    (∀ source frame, frame = none ∨ t.overlayFits = false →
      let c : Call := .process source frame
      (t.after host c).pipeline.journal.blits =
        t.pipeline.journal.blits ++ (t.mains host c).map (·.entry) ∧
      (t.mains host c).length ≤ 1 ∧
      (∀ d ∈ t.mains host c, d.entry.blit.pattern = none ∧ d.entry.blit.source.blend = 0) ∧
      ∀ fits, process host source frame (t.alone fits) =
        ((process host source frame t).1, (process host source frame t).2.alone fits)) ∧
    ∀ c, ∀ d ∈ t.mains host c, ∀ pattern, d.entry.blit.pattern = some pattern →
      d.entry.blit.source.blend = t.main.blend ∧ t.main.blend ≠ 0 := by
  intro t
  have hcreated := (create_ok h).1
  have hcarries := (run_accounts host hcreated.carries calls).carries
  refine ⟨fun source frame hout => ?_, fun c d hd pattern hpattern => ?_⟩
  · intro c
    have hnone := activeOverlay?_eq_none hout
    have hplaced : t.placements host c = [] := by simp only [c, placements, hnone]
    have hblits := blits_after hcarries (hcreated.consistent_run host calls) host c
    rw [dispatches, hplaced, List.nil_append] at hblits
    refine ⟨hblits, length_mains host t c, fun d hd => ?_, process_alone hnone host source⟩
    obtain ⟨hpattern, hblend⟩ := blend_of_mains hd
    rw [hnone] at hpattern hblend
    exact ⟨by simpa using hpattern, hblend⟩
  · cases c with
    | process source frame =>
      obtain ⟨hsome, hblend⟩ := blend_of_mains hd
      obtain ⟨premultiplied, hword⟩ := blend_of_create h
      rw [hpattern] at hsome
      rw [← hsome] at hblend
      refine ⟨hblend, ?_⟩
      rw [main_run, hword]
      exact blendWord_ne_zero premultiplied p.alpha
    | flush | close => cases hd

/-- An overlay in the last two columns is left out, and one at the corner is blended. -/
theorem composite_without_overlay_sample :
    let c : Call := .process (Sample.frame 1) (some Sample.unalignedOverlay)
    let outside : Session := { Sample.session with
      overlay := some { pad := Sample.overlayPad, active := ⟨0, 0, 128, 128⟩, overlayX := 126 }
      overlayFits := false }
    let created (x : Int) (s : Session) : Prop :=
      create Sample.host [Sample.mainPad, Sample.overlayPad] Sample.mainPad
        { alpha := 255, overlayX := x } { depth := 1, afbc := true } = .ok s
    created 126 outside ∧ created 0 Sample.session ∧
      (outside.mains Sample.host c).map (·.entry.blit.source.blend) = [0] ∧
      (∀ d ∈ outside.mains Sample.host c, d.entry.blit.pattern = none) ∧
      (∀ fits, process Sample.host (Sample.frame 1) (some Sample.unalignedOverlay)
          (outside.alone fits) =
        ((process Sample.host (Sample.frame 1) (some Sample.unalignedOverlay) outside).1,
          (process Sample.host (Sample.frame 1) (some Sample.unalignedOverlay) outside).2.alone
            fits)) ∧
      (Sample.session.mains Sample.host c).map (·.entry.blit.source.blend) = [0x504] ∧
      ∀ d ∈ Sample.session.mains Sample.host c, ∀ pattern, d.entry.blit.pattern = some pattern →
        d.entry.blit.source.blend = Sample.session.main.blend := by
  intro c outside created
  have houtside : created 126 outside := ok_of_toOption (by decide +kernel)
  have hinside : created 0 Sample.session := ok_of_toOption (by decide +kernel)
  obtain ⟨-, -, hplain, halone⟩ := (composite_without_overlay houtside []).1 (Sample.frame 1)
    (some Sample.unalignedOverlay) (.inr rfl)
  have hblends := (composite_without_overlay hinside []).2 c
  exact ⟨houtside, hinside, by decide +kernel, fun d hd => (hplain d hd).1, halone,
    by decide +kernel, fun d hd pattern hpattern => (hblends d hd pattern hpattern).1⟩

end Session
end Blitter
