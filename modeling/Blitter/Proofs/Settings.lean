import Blitter.Proofs.Accounts
import Blitter.Proofs.Start

/-!
# Settings

What a session was created with. No call changes it: calls move the session to another unit, give up
compressed output and work on the pipeline, and that is all.
-/
namespace Blitter

structure Settings where
  hardware : Hardware
  main : View
  overlay : Option View
  output : View
  overlayFits : Bool

namespace Keeps

variable {α γ : Type} {read : Session → γ}

theorem onPipeline (hread : ∀ s p, read { s with pipeline := p } = read s)
    (operation : PipelineM α) : Keeps read (Session.onPipeline operation) := fun _ => hread _ _

/-- Handing over what is in flight works on the pipeline. -/
theorem flush (read : Session → γ) (hread : ∀ s p, read { s with pipeline := p } = read s)
    (host : Host) :
    Keeps read (Session.call host .flush) :=
  ((onPipeline hread _).bind fun _ => onPipeline hread _).bind fun _ => pure _

/-- What follows the preparations of a frame works on the pipeline. -/
theorem process (read : Session → γ) (hread : ∀ s p, read { s with pipeline := p } = read s)
    (host : Host) (source : Frame) (overlay : Option Frame) (s : Session) :
    read (Session.process host source overlay s).2 =
      read (Session.prepare host source overlay s).2 :=
  first (fun _ => (onPipeline hread _).bind fun _ => (onPipeline hread _).bind fun _ => pure _) _ s

end Keeps

namespace Session

variable {host : Host} {s t : Session}

def settings (s : Session) : Settings where
  hardware := s.hardware
  main := s.main
  overlay := s.overlay
  output := s.output
  overlayFits := s.overlayFits

theorem settings_eq_iff : t.settings = s.settings ↔
    t.hardware = s.hardware ∧ t.main = s.main ∧ t.overlay = s.overlay ∧ t.output = s.output ∧
      t.overlayFits = s.overlayFits := by
  simp [settings]

theorem Undisturbed.settings {touched : List Role} (h : Undisturbed touched s t) :
    t.settings = s.settings := by
  rw [h.session]
  rfl

theorem settings_after (host : Host) (s : Session) (c : Call) :
    (s.after host c).settings = s.settings := by
  cases c with
  | process source overlay =>
    obtain ⟨r, t, hprepare, hund, -⟩ := prepare_cases host source overlay s
    rw [after_process, Keeps.process Session.settings fun _ _ => rfl, hprepare]
    exact hund.settings
  | flush => exact Keeps.flush Session.settings (fun _ _ => rfl) host s
  | close => rfl

@[simp] theorem hardware_after (host : Host) (s : Session) (c : Call) :
    (s.after host c).hardware = s.hardware :=
  congrArg Settings.hardware (settings_after host s c)

@[simp] theorem main_after (host : Host) (s : Session) (c : Call) :
    (s.after host c).main = s.main :=
  congrArg Settings.main (settings_after host s c)

@[simp] theorem overlay_after (host : Host) (s : Session) (c : Call) :
    (s.after host c).overlay = s.overlay :=
  congrArg Settings.overlay (settings_after host s c)

@[simp] theorem output_after (host : Host) (s : Session) (c : Call) :
    (s.after host c).output = s.output :=
  congrArg Settings.output (settings_after host s c)

/-- A run leaves the settings as they were created. -/
theorem settings_run (host : Host) (s : Session) (calls : List Call) :
    (s.run host calls).settings = s.settings := by
  induction calls generalizing s with
  | nil => rfl
  | cons c rest ih =>
    rw [run_cons, ih]
    exact settings_after host s c

@[simp] theorem hardware_run (host : Host) (s : Session) (calls : List Call) :
    (s.run host calls).hardware = s.hardware :=
  congrArg Settings.hardware (settings_run host s calls)

@[simp] theorem main_run (host : Host) (s : Session) (calls : List Call) :
    (s.run host calls).main = s.main :=
  congrArg Settings.main (settings_run host s calls)

@[simp] theorem overlay_run (host : Host) (s : Session) (calls : List Call) :
    (s.run host calls).overlay = s.overlay :=
  congrArg Settings.overlay (settings_run host s calls)

@[simp] theorem output_run (host : Host) (s : Session) (calls : List Call) :
    (s.run host calls).output = s.output :=
  congrArg Settings.output (settings_run host s calls)

/-! ## Formats that were admitted -/

/-- Without Pro hardware the main stream has no format that needs it. -/
theorem Created.mainFormat (h : s.Created) (hpro : s.hardware.pro = false) :
    s.main.format ∉ Limits.proOnly := by
  obtain ⟨r, inputs, hroute, -⟩ := h.routed
  intro hmem
  obtain ⟨⟨⟩, hformats, -⟩ := ok_of_bind hroute
  obtain ⟨⟨⟩, hside, -⟩ := ok_of_bind hformats
  unfold Route.checkSide at hside
  split at hside
  · cases hside
  · simp [hmem, hpro] at hside

theorem Created.overlayFormat (h : s.Created) :
    ∀ view ∈ s.overlay, view.format ∉ Limits.proOnly := by
  intro view hview
  have hrgb := h.overlay view hview
  cases hformat : view.format <;> rw [hformat] at hrgb <;> first | (revert hrgb; decide)

end Session
end Blitter
