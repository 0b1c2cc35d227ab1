import Blitter.CommandLine.Scan
import Blitter.Proofs.Outcome

/-!
# Scanning

However its words are written, a command line is a sequence of uses of options. So what every use of
an option keeps true of the options given is true of them at the end of the line. A use has its
number of words.
-/
namespace Blitter.CommandLine.Scan

variable {P : Given → Prop} {scan scan' : Scan} {g g' : Given} {s : Switch} {texts : List String}

/-- Each use of an option keeps this of the options given. -/
def Invariant (P : Given → Prop) : Prop :=
  ∀ g s texts g', P g → keep g s texts = .ok g' → P g'

theorem stop_ne_ok (usage : Usage) : scan.stop usage ≠ .ok scan' := by
  intro h
  obtain ⟨g, -, h⟩ := ok_of_bind h
  cases h

namespace Invariant

theorem settle (hP : Invariant P) (hscan : P scan.given) (h : scan.settle = .ok g) : P g := by
  unfold Scan.settle at h
  split at h
  · cases h
    exact hscan
  · exact hP _ _ _ _ hscan h

theorem await (hP : Invariant P) (hscan : P scan.given) (h : scan.await s = .ok scan') :
    P scan'.given := by
  obtain ⟨g, hg, h⟩ := ok_of_bind h
  cases h
  exact hP.settle hscan hg

theorem complete (hP : Invariant P) (hscan : P scan.given) (h : scan.complete s texts = .ok scan') :
    P scan'.given := by
  obtain ⟨g, hg, h⟩ := ok_of_bind h
  obtain ⟨g', hg', h⟩ := ok_of_bind h
  cases h
  exact hP _ _ _ _ (hP.settle hscan hg) hg'

/-- A word that goes to the open option is not kept yet. -/
theorem value {text : String} (hscan : P scan.given) (h : scan.value text = .ok scan') :
    P scan'.given := by
  unfold Scan.value at h
  split at h
  · split at h
    · cases h
      exact hscan
    · cases h
  · cases h

theorem long {name : String} {text : Option String} (hP : Invariant P) (hscan : P scan.given)
    (h : scan.long name text = .ok scan') : P scan'.given := by
  unfold Scan.long at h
  split at h
  · split at h
    · cases h
    · exact hP.complete hscan h
  · split at h
    · exact hP.complete hscan h
    · exact hP.await hscan h
  · cases h
  · split at h
    · exact absurd h (stop_ne_ok _)
    split at h
    · exact absurd h (stop_ne_ok _)
    · cases h

theorem letters {cs : List Char} (hP : Invariant P) (hscan : P scan.given)
    (h : scan.letters cs = .ok scan') : P scan'.given := by
  induction cs generalizing scan with
  | nil =>
    cases h
    exact hscan
  | cons c rest ih =>
    unfold Scan.letters at h
    split at h
    · split at h
      · obtain ⟨next, hnext, h⟩ := ok_of_bind h
        exact ih (hP.complete hscan hnext) h
      · split at h
        · exact hP.await hscan h
        · exact hP.complete hscan h
        · exact hP.complete hscan h
    · split at h
      · exact absurd h (stop_ne_ok _)
      split at h
      · exact absurd h (stop_ne_ok _)
      · cases h

/-- One word of the line. -/
theorem step {text : String} (hP : Invariant P) (hscan : P scan.given)
    (h : scan.step text = .ok scan') : P scan'.given := by
  unfold Scan.step at h
  split at h
  · cases h
    exact hscan
  · exact hP.long hscan h
  · split at h
    · exact value hscan h
    · exact hP.letters hscan h
  · exact value hscan h

/-- All words of the line. -/
theorem run {argv : List String} (hP : Invariant P) (hscan : P scan.given)
    (h : scan.run argv = .ok g) : P g := by
  induction argv generalizing scan with
  | nil => exact hP.settle hscan h
  | cons text rest ih =>
    unfold Scan.run at h
    split at h
    · split at h
      · exact hP.settle hscan h
      · cases h
    · obtain ⟨next, hnext, h⟩ := ok_of_bind h
      exact ih (hP.step hscan hnext) h

end Invariant

/-- Only words in the right number are kept, those of a list cut at their spaces. -/
theorem keep_ok (h : keep g s texts = .ok g') :
    texts.length = s.words ∧ ∃ values, g.assign s values = .ok g' ∧
      (s.isList = true → values = texts.flatMap pieces) := by
  unfold keep at h
  split at h
  · cases h
  split at h
  · cases h
  case isFalse hwords =>
    refine ⟨Decidable.not_not.1 hwords, ?_⟩
    split at h
    · exact ⟨_, h, fun _ => rfl⟩
    case isFalse hlist =>
      split at h
      · cases h
      · exact ⟨_, h, fun hlist' => absurd hlist' hlist⟩

end Blitter.CommandLine.Scan
