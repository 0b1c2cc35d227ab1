import Mathlib.Data.Nat.Bitwise
import Blitter.Vendor.Fence

/-!
# Waiting for a fence

A wait polls once more than it is interrupted, and then closes its fence, once and last of all. Its
result is that of the poll which was not interrupted.
-/
namespace Blitter.Fence

variable {poll last : Poll} {before rest : List Poll} {events : UInt16} {fence : Int}

/-! ## Answers -/

/-- All events that a poll reports have a meaning, and the fence failed or is not open. -/
structure Broken (events : UInt16) : Prop where
  known : events.toNat < 0x400
  bad : events.toNat.testBit 3 = true ∨ events.toNat.testBit 5 = true

theorem known_iff : events &&& Event.known = events ↔ events.toNat < 0x400 := by
  rw [← UInt16.toNat_inj, UInt16.toNat_and]
  change events.toNat &&& (2 ^ 10 - 1) = events.toNat ↔ events.toNat < 2 ^ 10
  rw [Nat.and_two_pow_sub_one_eq_mod]
  exact ⟨fun h => h ▸ Nat.mod_lt _ (by decide), Nat.mod_eq_of_lt⟩

theorem bad_iff : events &&& (Event.failed ||| Event.notOpen) ≠ 0 ↔
    events.toNat.testBit 3 = true ∨ events.toNat.testBit 5 = true := by
  rw [Ne, ← UInt16.toNat_inj, UInt16.toNat_and]
  change ¬events.toNat &&& (2 ^ 3 ||| 2 ^ 5) = 0 ↔ _
  rw [Nat.and_or_distrib_left, Nat.or_eq_zero_iff, Nat.and_two_pow, Nat.and_two_pow]
  cases events.toNat.testBit 3 <;> cases events.toNat.testBit 5 <;> simp

theorem Poll.verdict_of_broken (h : Broken events) :
    (ready events).verdict = .error Errno.ioError := by
  have hcheck := And.intro (known_iff.2 h.known) (bad_iff.2 h.bad)
  simp [verdict, hcheck.1, hcheck.2]

theorem Poll.verdict_of_not_broken (h : ¬Broken events) : (ready events).verdict = .ok () := by
  have hcheck : ¬(events &&& Event.known = events ∧
      events &&& (Event.failed ||| Event.notOpen) ≠ 0) :=
    fun hcheck => h ⟨known_iff.1 hcheck.1, bad_iff.1 hcheck.2⟩
  simp [verdict, hcheck]

theorem Poll.isInterruption_iff : poll.isInterruption = true ↔
    poll = .failed Errno.interrupted ∨ poll = .failed Errno.tryAgain := by
  cases poll <;> simp [isInterruption]

/-! ## Polls -/

theorem wait_of_interruption (h : poll.isInterruption = true) (rest : List Poll) :
    wait (poll :: rest) = (wait rest).map fun w => { w with actions := .poll :: w.actions } :=
  if_pos h

theorem wait_of_last (h : poll.isInterruption = false) (rest : List Poll) :
    wait (poll :: rest) = some ⟨[.poll, .close], rest, poll.verdict⟩ :=
  if_neg (by simp [h])

/-- Each interruption costs one poll. -/
theorem wait_append (h : ∀ p ∈ before, p.isInterruption = true) (rest : List Poll) :
    wait (before ++ rest) = (wait rest).map fun w =>
      { w with actions := List.replicate before.length .poll ++ w.actions } := by
  induction before with
  | nil => simp
  | cons p before ih =>
    rw [List.cons_append, wait_of_interruption (h p List.mem_cons_self),
      ih fun q hq => h q (List.mem_cons_of_mem p hq), Option.map_map]
    rfl

/-- Interruptions alone end no wait. -/
theorem wait_of_interruptions (h : ∀ p ∈ before, p.isInterruption = true) : wait before = none := by
  have hwait := wait_append h []
  rwa [List.append_nil] at hwait

theorem wait_append_last (h : ∀ p ∈ before, p.isInterruption = true)
    (hlast : last.isInterruption = false) (rest : List Poll) :
    wait (before ++ last :: rest) =
      some ⟨List.replicate (before.length + 1) .poll ++ [.close], rest, last.verdict⟩ := by
  rw [wait_append h, wait_of_last hlast, Option.map_some, List.replicate_succ', List.append_assoc,
    List.singleton_append]

/-- Interrupted polls are made again and decide nothing. The first other answer ends the wait, which
has then polled once more than it was interrupted, and has closed the fence once, after all polls.
That answer alone is the result: the poll's own error, an I/O error of a broken fence, or success. A
negative descriptor is refused without a poll. -/
theorem wait_ignores_interruptions (fence : Int) (rest : List Poll)
    (hbefore : ∀ p ∈ before, p = .failed Errno.interrupted ∨ p = .failed Errno.tryAgain)
    (hlast : last ≠ .failed Errno.interrupted ∧ last ≠ .failed Errno.tryAgain) :
    (∃ w, wait (before ++ last :: rest) = some w ∧
      (0 ≤ fence → sync fence (before ++ last :: rest) = some w) ∧
      w.actions = List.replicate (before.length + 1) .poll ++ [.close] ∧ w.unasked = rest ∧
      (∀ errno, last = .failed errno → w.result = .error errno) ∧
      (∀ events, last = .ready events → Broken events → w.result = .error Errno.ioError) ∧
      ∀ events, last = .ready events → ¬Broken events → w.result = .ok ()) ∧
    wait before = none ∧
    (fence < 0 → ∀ polls, sync fence polls = some ⟨[], polls, .error Errno.badDescriptor⟩) := by
  have hinterrupted : ∀ p ∈ before, p.isInterruption = true :=
    fun p hp => Poll.isInterruption_iff.2 (hbefore p hp)
  have hends : last.isInterruption = false := by
    rw [← Bool.not_eq_true, Poll.isInterruption_iff]
    exact fun h => h.elim hlast.1 hlast.2
  refine ⟨⟨_, wait_append_last hinterrupted hends rest, fun hfence => ?_, rfl, rfl, ?_, ?_, ?_⟩,
    wait_of_interruptions hinterrupted, fun hfence polls => if_pos hfence⟩
  · rw [sync, if_neg (by omega), wait_append_last hinterrupted hends]
  · rintro errno rfl
    rfl
  · rintro events rfl hbroken
    exact Poll.verdict_of_broken hbroken
  · rintro events rfl hwhole
    exact Poll.verdict_of_not_broken hwhole

/-- Two interruptions, then a fence that failed although it can be read. -/
theorem wait_ignores_interruptions_sample :
    let before : List Poll := [.failed Errno.interrupted, .failed Errno.tryAgain]
    let events := Event.readable ||| Event.failed
    (∀ p ∈ before, p = .failed Errno.interrupted ∨ p = .failed Errno.tryAgain) ∧ Broken events ∧
      (∃ w, sync 3 (before ++ [.ready events]) = some w ∧
        w.actions = [.poll, .poll, .poll, .close] ∧ w.result = .error Errno.ioError) ∧
      wait before = none ∧ sync (-1) [] = some ⟨[], [], .error Errno.badDescriptor⟩ := by
  intro before events
  have hbefore : ∀ p ∈ before, p = .failed Errno.interrupted ∨ p = .failed Errno.tryAgain := by
    decide
  have hlast : Poll.ready events ≠ .failed Errno.interrupted ∧
      Poll.ready events ≠ .failed Errno.tryAgain := by decide
  have hbroken : Broken events := ⟨by decide, .inl (by decide)⟩
  obtain ⟨⟨w, -, hsync, hactions, -, -, hresult, -⟩, hnone, -⟩ :=
    wait_ignores_interruptions 3 [] hbefore hlast
  obtain ⟨-, -, hrefused⟩ := wait_ignores_interruptions (-1) [] hbefore hlast
  exact ⟨hbefore, hbroken, ⟨w, hsync (by decide), hactions, hresult events rfl hbroken⟩, hnone,
    hrefused (by decide) []⟩

end Blitter.Fence
