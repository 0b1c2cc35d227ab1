import Blitter.Proofs.Settings

/-!
# Sessions that differ in their slots

Which slot a frame is put into depends on what is in flight, and nothing that is asked of the host
depends on the slot. Two sessions are `Alike` if only their pipelines differ, and these not in the
blits and requests so far. `Matching` relates the outcomes of an operation from alike sessions: both
fail for the same reason, or both succeed with results that correspond. Matching outcomes compose,
and preparing a frame has them, whatever slots it takes.
-/
namespace Blitter

namespace Session

variable {s s' t t' u u' : Session} {role : Role}

structure Alike (s s' : Session) : Prop where
  settings : s.settings = s'.settings
  unit : s.unit = s'.unit
  afbcOutput : s.afbcOutput = s'.afbcOutput
  blits : s.pipeline.journal.blits = s'.pipeline.journal.blits
  requests : s.pipeline.journal.requests = s'.pipeline.journal.requests

/-- The session with an empty pipeline. Descriptions are the same for it. -/
def idle (s : Session) : Session := { s with pipeline := { depth := 0 } }

namespace Alike

theorem symm (h : Alike s s') : Alike s' s :=
  ⟨h.settings.symm, h.unit.symm, h.afbcOutput.symm, h.blits.symm, h.requests.symm⟩

theorem trans (h : Alike s t) (h' : Alike t u) : Alike s u :=
  ⟨h.settings.trans h'.settings, h.unit.trans h'.unit, h.afbcOutput.trans h'.afbcOutput,
    h.blits.trans h'.blits, h.requests.trans h'.requests⟩

/-- Undisturbed sessions stay alike if they end with the same unit and have asked the same. -/
theorem step {a b : List Role} (h : Alike s s') (ht : Undisturbed a s t)
    (ht' : Undisturbed b s' t') (unit : t.unit = t'.unit)
    (afbcOutput : t.afbcOutput = t'.afbcOutput)
    (blits : t.pipeline.journal.blits = t'.pipeline.journal.blits)
    (requests : t.pipeline.journal.requests = t'.pipeline.journal.requests) : Alike t t' :=
  ⟨ht.settings.trans (h.settings.trans ht'.settings.symm), unit, afbcOutput, blits, requests⟩

theorem idle_eq (h : Alike s s') : s.idle = s'.idle := by
  rcases s with ⟨⟩
  rcases s' with ⟨⟩
  obtain ⟨hsettings, hunit, hafbc, -, -⟩ := h
  cases hsettings
  cases hunit
  cases hafbc
  rfl

theorem main (h : Alike s s') : s.main = s'.main := congrArg Settings.main h.settings

theorem output (h : Alike s s') : s.output = s'.output := congrArg Settings.output h.settings

theorem activeOverlay? (h : Alike s s') (overlay : Option Frame) :
    s.activeOverlay? overlay = s'.activeOverlay? overlay := by
  change s.idle.activeOverlay? overlay = _
  rw [h.idle_eq]
  rfl

theorem needsCanvas (h : Alike s s') (view : View) : s.needsCanvas view = s'.needsCanvas view := by
  change s.idle.needsCanvas view = _
  rw [h.idle_eq]
  rfl

theorem describeInput (h : Alike s s') (role : Role) (view : View) (frame : Frame)
    (blended : Bool) :
    s.describeInput role view frame blended = s'.describeInput role view frame blended := by
  change s.idle.describeInput role view frame blended = _
  rw [h.idle_eq]
  rfl

theorem describeAnswer (h : Alike s s') (answer : Except Error Frame) (source : Frame) :
    s.describeAnswer answer source = s'.describeAnswer answer source := by
  change s.idle.describeAnswer answer source = _
  rw [h.idle_eq]
  rfl

theorem describeCanvas (h : Alike s s') (view : View) (allocated overlay : Frame) :
    s.describeCanvas view allocated overlay = s'.describeCanvas view allocated overlay := by
  change s.idle.describeCanvas view allocated overlay = _
  rw [h.idle_eq]
  rfl

end Alike

/-- The outcomes `x` and `x'` of one operation in `s` and `s'`. -/
structure Matching {α : Type} (touched : List Role) (Q : α → α → Session → Session → Prop)
    (s s' : Session) (x x' : Except Failure α × Session) : Prop where
  left : Undisturbed touched s x.2
  right : Undisturbed touched s' x'.2
  alike : Alike x.2 x'.2
  results : (∃ e, x.1 = .error e ∧ x'.1 = .error e) ∨
    ∃ a a', x.1 = .ok a ∧ x'.1 = .ok a' ∧ Q a a' x.2 x'.2

namespace Matching

variable {α β : Type} {a b : List Role} {Q : α → α → Session → Session → Prop}
  {x x' : Except Failure α × Session}

theorem mono (h : Matching a Q s s' x x') (hab : a ⊆ b) : Matching b Q s s' x x' :=
  { h with left := h.left.mono hab, right := h.right.mono hab }

theorem pure {r r' : α} (h : Alike s s') (hQ : Q r r' s s') :
    Matching [] Q s s' ((pure r : SessionM α) s) ((pure r' : SessionM α) s') :=
  ⟨.refl s, .refl s', h, .inr ⟨r, r', rfl, rfl, hQ⟩⟩

/-- Matching outcomes compose. -/
theorem bind {m m' : SessionM α} {f f' : α → SessionM β} {R : β → β → Session → Session → Prop}
    (h : Matching a Q s s' (m s) (m' s'))
    (hf : ∀ r r' t t', Undisturbed a s t → Undisturbed a s' t' → Alike t t' → Q r r' t t' →
      Matching b R t t' (f r t) (f' r' t')) :
    Matching (a ++ b) R s s' ((m >>= f) s) ((m' >>= f') s') := by
  rcases hm : m s with ⟨r, t⟩
  rcases hm' : m' s' with ⟨r', t'⟩
  rw [hm, hm'] at h
  obtain ⟨hleft, hright, halike, ⟨e, he, he'⟩ | ⟨v, v', hv, hv', hQ⟩⟩ := h
  · cases he
    cases he'
    rw [bind_of_error hm, bind_of_error hm']
    exact ⟨hleft.mono (by simp), hright.mono (by simp), halike, .inl ⟨e, rfl, rfl⟩⟩
  · cases hv
    cases hv'
    rw [bind_of_ok hm, bind_of_ok hm']
    obtain ⟨hleft', hright', halike', hresults⟩ := hf v v' t t' hleft hright halike hQ
    exact ⟨hleft.trans hleft', hright.trans hright', halike', hresults⟩

end Matching

/-- Slots that hold the same frame with the same surface. -/
def SamePicture (role : Role) (kind : Surface → Prop) (id id' : SlotId) (s s' : Session) : Prop :=
  ∃ frame surface, kind surface ∧ s.Stows role ⟨id, frame, surface⟩ ∧
    s'.Stows role ⟨id', frame, surface⟩

theorem SamePicture.of_undisturbed {kind : Surface → Prop} {id id' : SlotId} {a : List Role}
    (h : SamePicture role kind id id' s s') (ht : Undisturbed a s t) (ht' : Undisturbed a s' t')
    (hr : role ∉ a) : SamePicture role kind id id' t t' := by
  obtain ⟨frame, surface, hkind, hs, hs'⟩ := h
  exact ⟨frame, surface, hkind, hs.of_undisturbed ht hr, hs'.of_undisturbed ht' hr⟩

/-! ## Steps -/

theorem Lands.matching {a : List Role} {kind : Surface → Prop} {id id' : SlotId}
    {described : Except Error (Frame × Surface)} {r r' : Except Failure SlotId}
    (h : Lands role id described r t) (h' : Lands role id' described r' t')
    (hkind : ∀ frame surface, described = .ok (frame, surface) → kind surface)
    (left : Undisturbed a s t) (right : Undisturbed a s' t') (alike : Alike t t') :
    Matching a (SamePicture role kind) s s' (r, t) (r', t') := by
  refine ⟨left, right, alike, ?_⟩
  rcases described with e | ⟨frame, surface⟩
  · exact .inl ⟨.error e, h, h'⟩
  · exact .inr ⟨id, id', h.1, h'.1, frame, surface, hkind _ _ rfl, h.2, h'.2⟩

theorem submitInput_matching (h : Alike s s') (role : Role) (view : View) (frame : Frame)
    (blended : Bool) :
    Matching [role] (SamePicture role fun _ => True) s s' (submitInput role view frame blended s)
      (submitInput role view frame blended s') := by
  obtain ⟨r, t, hrun, hund, hunit, hafbc, hjournal, hlands⟩ :=
    submitInput_lands role view frame blended s
  obtain ⟨r', t', hrun', hund', hunit', hafbc', hjournal', hlands'⟩ :=
    submitInput_lands role view frame blended s'
  rw [← h.describeInput] at hunit' hlands'
  rw [hrun, hrun']
  refine hlands.matching hlands' (fun _ _ _ => trivial) hund hund' (h.step hund hund' ?_ ?_ ?_ ?_)
  · rw [hunit, hunit']
  · rw [hafbc, hafbc', h.afbcOutput]
  · rw [hjournal, hjournal', h.blits]
  · rw [hjournal, hjournal', h.requests]

theorem queryOutput_matching (host : Host) (h : Alike s s') (source : Frame) :
    Matching [.destination] (SamePicture .destination (·.completion = .fenced)) s s'
      (queryOutput host source s) (queryOutput host source s') := by
  obtain ⟨r, t, hrun, hund, hunit, hafbc, hjournal, hlands⟩ := queryOutput_lands host source s
  obtain ⟨r', t', hrun', hund', hunit', hafbc', hjournal', hlands'⟩ :=
    queryOutput_lands host source s'
  rw [← h.requests, ← h.output, ← h.describeAnswer] at hafbc' hlands'
  rw [hrun, hrun']
  refine hlands.matching hlands' ?_ hund hund' (h.step hund hund' ?_ ?_ ?_ ?_)
  · intro frame surface hdescribed
    obtain ⟨allocated, -, houtput⟩ := describeAnswer_ok (Prod.ext hdescribed rfl)
    exact (describeOutput_ok houtput).2.2.1
  · rw [hunit, hunit', h.unit]
  · rw [hafbc, hafbc']
  · rw [hjournal, hjournal']
    exact h.blits
  · rw [hjournal, hjournal', ← h.output]
    exact congrArg (· ++ _) h.requests

theorem queryCanvas_matching (host : Host) (h : Alike s s') (view : View) (overlay : Frame) :
    Matching [.pattern] (SamePicture .pattern (·.completion = .blocking)) s s'
      (queryCanvas host view overlay s) (queryCanvas host view overlay s') := by
  obtain ⟨r, t, hrun, hund, hunit, hafbc, hjournal, hlands⟩ :=
    queryCanvas_lands host view overlay s
  obtain ⟨r', t', hrun', hund', hunit', hafbc', hjournal', hlands'⟩ :=
    queryCanvas_lands host view overlay s'
  have hdescribe : (s'.describeCanvas view · overlay) = (s.describeCanvas view · overlay) :=
    funext fun allocated => (h.describeCanvas view allocated overlay).symm
  rw [← h.requests, ← h.main, hdescribe] at hlands'
  rw [hrun, hrun']
  refine hlands.matching hlands' ?_ hund hund' (h.step hund hund' ?_ ?_ ?_ ?_)
  · intro frame surface hdescribed
    obtain ⟨allocated, -, hcanvas⟩ := ok_of_bind hdescribed
    exact (describeCanvas_ok hcanvas).2.1
  · rw [hunit, hunit', h.unit]
  · rw [hafbc, hafbc', h.afbcOutput]
  · rw [hjournal, hjournal']
    exact h.blits
  · rw [hjournal, hjournal', ← h.main]
    exact congrArg (· ++ _) h.requests

/-- Placement blits of the same pictures. -/
theorem place_matching (host : Host) (h : Alike s s') {input input' canvas canvas' : SlotId}
    (hi : SamePicture .placement (fun _ => True) input input' s s')
    (hc : SamePicture .pattern (·.completion = .blocking) canvas canvas' s s') :
    let place (input canvas : SlotId) : SessionM Unit := onPipeline do
      Pipeline.blitTo host (← Pipeline.surface .placement input) .pattern canvas none
    Matching [.pattern]
      (fun _ _ t t' => SamePicture .pattern (fun _ => True) canvas canvas' t t') s s'
      (place input canvas s) (place input' canvas' s') := by
  intro place
  obtain ⟨inputFrame, inputSurface, -, hi, hi'⟩ := hi
  obtain ⟨frame, surface, hblocking, hc, hc'⟩ := hc
  obtain ⟨t, hrun, hund, hunit, hafbc, hjournal, hstows⟩ := place_run host hi hc hblocking
  obtain ⟨t', hrun', hund', hunit', hafbc', hjournal', hstows'⟩ := place_run host hi' hc' hblocking
  have hanswer : (host.runBlit ⟨inputSurface, surface, none⟩ s'.pipeline.journal).1 =
      (host.runBlit ⟨inputSurface, surface, none⟩ s.pipeline.journal).1 := by
    simp only [Host.runBlit, h.blits]
  rw [hanswer] at hrun' hstows'
  have halike : Alike t t' := by
    refine h.step hund hund' ?_ ?_ ?_ ?_
    · rw [hunit, hunit', h.unit]
    · rw [hafbc, hafbc', h.afbcOutput]
    · rw [hjournal, hjournal']
      simp only [Host.runBlit, h.blits]
    · rw [hjournal, hjournal']
      exact h.requests
  change Matching _ _ s s' (place input canvas s) (place input' canvas' s')
  rw [show place input canvas s = _ from hrun, show place input' canvas' s' = _ from hrun']
  refine ⟨hund, hund', halike, ?_⟩
  rcases Blit.check ⟨inputSurface, surface, none⟩
    (host.runBlit ⟨inputSurface, surface, none⟩ s.pipeline.journal).1 with e | ⟨⟩
  · exact .inl ⟨.error e, rfl, rfl⟩
  · exact .inr ⟨(), (), rfl, rfl, _, _, trivial, hstows, hstows'⟩

theorem changeSurface_matching (h : Alike s s') {kind : Surface → Prop} {id id' : SlotId}
    (hs : SamePicture role kind id id' s s') (kind' : Surface → Prop) (change : Surface → Surface)
    (hkind : ∀ surface, kind surface → kind' (change surface)) :
    Matching [role] (fun _ _ t t' => SamePicture role kind' id id' t t') s s'
      (changeSurface role id change s) (changeSurface role id' change s') := by
  obtain ⟨frame, surface, hsurface, hs, hs'⟩ := hs
  obtain ⟨q, hrun, hund, hstows⟩ := changeSurface_run hs change
  obtain ⟨q', hrun', hund', hstows'⟩ := changeSurface_run hs' change
  rw [hrun, hrun']
  exact ⟨hund, hund', ⟨h.settings, h.unit, h.afbcOutput, h.blits, h.requests⟩,
    .inr ⟨(), (), rfl, rfl, frame, change surface, hkind _ hsurface, hstows, hstows'⟩⟩

theorem setCore_matching (h : Alike s s') {id id' : SlotId}
    (hs : SamePicture .destination (·.completion = .fenced) id id' s s') :
    Matching [.destination]
      (fun _ _ t t' => SamePicture .destination (·.completion = .fenced) id id' t t') s s'
      (setCore id s) (setCore id' s') := by
  unfold setCore
  rw [bind_of_ok get_run, bind_of_ok get_run, ← h.unit]
  exact changeSurface_matching h hs _ (fun surface => { surface with core := s.unit.core })
    fun _ hfenced => hfenced

/-! ## Preparations -/

theorem placeOverlay_matching (host : Host) (h : Alike s s') (view : View) (overlay : Frame) :
    Matching [.placement, .pattern] (SamePicture .pattern fun _ => True) s s'
      (placeOverlay host view overlay s) (placeOverlay host view overlay s') := by
  refine ((submitInput_matching h .placement view overlay false).bind
    (b := [.pattern, .pattern, .pattern]) ?_).mono (by simp)
  intro input input' s₁ s₁' _ _ h₁ hinput
  refine (queryCanvas_matching host h₁ view overlay).bind (b := [.pattern, .pattern]) ?_
  intro canvas canvas' s₂ s₂' hund hund' h₂ hcanvas
  refine (place_matching host h₂ (hinput.of_undisturbed hund hund' (by decide)) hcanvas).bind
    (b := [.pattern]) ?_
  intro _ _ s₃ s₃' _ _ h₃ hplaced
  rw [bind_of_ok get_run, bind_of_ok get_run, ← h₃.main]
  refine (changeSurface_matching h₃ hplaced (fun _ => True) (·.showing s₃.main.active)
    fun _ _ => trivial).bind (b := []) ?_
  intro _ _ s₄ s₄' _ _ h₄ hshown
  exact .pure h₄ hshown

theorem submitOverlay_matching (host : Host) (h : Alike s s') (view : View) (overlay : Frame) :
    Matching [.placement, .pattern] (SamePicture .pattern fun _ => True) s s'
      (submitOverlay host view overlay s) (submitOverlay host view overlay s') := by
  unfold submitOverlay
  rw [bind_of_ok get_run, bind_of_ok get_run, ← h.needsCanvas]
  split
  · exact placeOverlay_matching host h view overlay
  · exact (submitInput_matching h .pattern view overlay false).mono (by simp)

/-- Patterns in slots that hold the same picture, or no patterns. -/
def SamePattern (id id' : Option SlotId) (s s' : Session) : Prop :=
  match id, id' with
  | none, none => True
  | some id, some id' => SamePicture .pattern (fun _ => True) id id' s s'
  | _, _ => False

theorem SamePattern.of_undisturbed {id id' : Option SlotId} {a : List Role}
    (h : SamePattern id id' s s') (ht : Undisturbed a s t) (ht' : Undisturbed a s' t')
    (ha : .pattern ∉ a) : SamePattern id id' t t' := by
  rcases id with _ | id <;> rcases id' with _ | id'
  · trivial
  · exact h.elim
  · exact h.elim
  · exact SamePicture.of_undisturbed h ht ht' ha

theorem submitActive_matching (host : Host) (h : Alike s s') (active : Option (View × Frame)) :
    let submit : SessionM (Option SlotId) :=
      active.mapM fun (view, overlay) => submitOverlay host view overlay
    Matching [.placement, .pattern] SamePattern s s' (submit s) (submit s') := by
  rcases active with _ | ⟨view, overlay⟩
  · exact (Matching.pure h trivial).mono (by simp)
  · refine ((submitOverlay_matching host h view overlay).bind (b := []) ?_).mono (by simp)
    intro id id' t t' _ _ ht hpicture
    exact .pure ht hpicture

/-- The jobs name loads that are ready, with the same blit and the same frame to write. -/
def SameLoad (job job' : Job) (s s' : Session) : Prop :=
  ∃ l l', job = l.job ∧ job' = l'.job ∧ s.pipeline.pools.Ready l ∧ s'.pipeline.pools.Ready l' ∧
    l.blit = l'.blit ∧ l.destination.frame = l'.destination.frame ∧
    l.destination.surface.completion = .fenced

/-- A load is ready if its cargoes are stowed. -/
theorem ready_of_stows {l : Load} (hsource : s.Stows .source l.source)
    (hdestination : s.Stows .destination l.destination)
    (hpattern : ∀ c ∈ l.pattern, s.Stows .pattern c) : s.pipeline.pools.Ready l := by
  intro role c hc
  cases role with
  | source =>
    cases hc
    exact hsource
  | destination =>
    cases hc
    exact hdestination
  | pattern => exact hpattern c hc
  | placement => cases hc

theorem sameLoad_of_pictures {source source' destination destination' : SlotId}
    {pattern pattern' : Option SlotId}
    (hsource : SamePicture .source (fun _ => True) source source' s s')
    (hdestination : SamePicture .destination (·.completion = .fenced) destination destination' s s')
    (hpattern : SamePattern pattern pattern' s s') :
    SameLoad ⟨source, destination, pattern⟩ ⟨source', destination', pattern'⟩ s s' := by
  obtain ⟨frame, surface, -, hs, hs'⟩ := hsource
  obtain ⟨written, target, hfenced, hd, hd'⟩ := hdestination
  rcases pattern with _ | id <;> rcases pattern' with _ | id'
  · exact ⟨⟨⟨source, frame, surface⟩, ⟨destination, written, target⟩, none⟩,
      ⟨⟨source', frame, surface⟩, ⟨destination', written, target⟩, none⟩, rfl, rfl,
      ready_of_stows hs hd (by simp), ready_of_stows hs' hd' (by simp), rfl, rfl, hfenced⟩
  · exact hpattern.elim
  · exact hpattern.elim
  · obtain ⟨blended, shown, -, hp, hp'⟩ := hpattern
    exact ⟨⟨⟨source, frame, surface⟩, ⟨destination, written, target⟩, some ⟨id, blended, shown⟩⟩,
      ⟨⟨source', frame, surface⟩, ⟨destination', written, target⟩, some ⟨id', blended, shown⟩⟩,
      rfl, rfl, ready_of_stows hs hd (by simpa using hp),
      ready_of_stows hs' hd' (by simpa using hp'), rfl, rfl, hfenced⟩

/-- Preparing a frame has matching outcomes. -/
theorem prepare_matching (host : Host) (h : Alike s s') (source : Frame) (overlay : Option Frame) :
    Matching touched SameLoad s s' (prepare host source overlay s)
      (prepare host source overlay s') := by
  unfold prepare
  rw [bind_of_ok get_run, bind_of_ok get_run, ← h.activeOverlay?, ← h.main]
  refine ((submitInput_matching h .source s.main source
    (s.activeOverlay? overlay).isSome).bind
    (b := [.destination, .placement, .pattern, .destination]) ?_).mono (by decide)
  intro input input' s₁ s₁' _ _ h₁ hinput
  refine (queryOutput_matching host h₁ source).bind (b := [.placement, .pattern, .destination]) ?_
  intro output output' s₂ s₂' hund₂ hund₂' h₂ houtput
  refine (submitActive_matching host h₂ (s.activeOverlay? overlay)).bind (b := [.destination]) ?_
  intro pattern pattern' s₃ s₃' hund₃ hund₃' h₃ hpattern
  refine (setCore_matching h₃ (houtput.of_undisturbed hund₃ hund₃' (by decide))).bind (b := []) ?_
  intro _ _ s₄ s₄' hund₄ hund₄' h₄ houtput
  -- The source and the pattern stay in their slots while other pools are worked on.
  have hinput := hinput.of_undisturbed ((hund₂.trans hund₃).trans hund₄)
    ((hund₂'.trans hund₃').trans hund₄') (by decide)
  exact .pure h₄ (sameLoad_of_pictures hinput houtput
    (hpattern.of_undisturbed hund₄ hund₄' (by decide)))

end Session
end Blitter
