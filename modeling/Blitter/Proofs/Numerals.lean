import Mathlib.Data.List.Induction
import Mathlib.Tactic.IntervalCases
import Blitter.Unit.CoreMask

/-!
# Numerals

A numeral is a digit, or a numeral and one more digit behind it. Numerals of a radix up to sixteen
are read by their value and by nothing else, and the digits that are printed for a number are one of
its numerals. So a core mask is read back from its texts, and a number that no mask has is refused,
however long its numeral is.
-/
namespace Blitter

namespace Numeral

variable {radix n m d : Nat} {c : Char} {cs : List Char}

/-- A character for a digit, letters in either case. -/
def IsDigit (radix : Nat) (c : Char) (d : Nat) : Prop :=
  d < radix ∧ (c = d.digitChar ∨ c = d.digitChar.toUpper)

/-- The digits that spell a number. -/
inductive Spells (radix : Nat) : List Char → Nat → Prop where
  | digit {c : Char} {d : Nat} (hd : IsDigit radix c d) : Spells radix [c] d
  | snoc {cs : List Char} {n : Nat} {c : Char} {d : Nat} (hcs : Spells radix cs n)
      (hd : IsDigit radix c d) : Spells radix (cs ++ [c]) (n * radix + d)

/-- Digits after an optional plus sign. -/
def SpellsUnsigned (radix : Nat) (cs : List Char) (n : Nat) : Prop :=
  Spells radix cs n ∨ ∃ digits, cs = '+' :: digits ∧ Spells radix digits n

theorem isDigit_digitChar (h : d < radix) : IsDigit radix d.digitChar d := ⟨h, .inl rfl⟩

theorem digit?_digitChar (hradix : radix ≤ 16) (h : d < radix) :
    digit? radix d.digitChar = some d ∧ digit? radix d.digitChar.toUpper = some d := by
  have hd : d < 16 := by omega
  unfold digit?
  interval_cases d <;> exact ⟨if_pos (decide_eq_true h), if_pos (decide_eq_true h)⟩

theorem isDigit_of_digit? (hradix : radix ≤ 16) (h : digit? radix c = some d) :
    IsDigit radix c d := by
  obtain ⟨hvalue, hlt⟩ := Option.filter_eq_some_iff.1 h
  have hlt : d < radix := of_decide_eq_true hlt
  refine ⟨hlt, ?_⟩
  rw [← Char.ofNat_toNat c]
  -- The three ranges are finite, so each is gone through character by character.
  split_ifs at hvalue with hdecimal hlower hupper
  · obtain rfl := Option.some.inj hvalue
    have hchar : ∀ k ≤ 57, 48 ≤ k → Char.ofNat k = (k - 48).digitChar := by decide
    exact .inl (hchar _ hdecimal.2 hdecimal.1)
  · obtain rfl := Option.some.inj hvalue
    have hchar : ∀ k ≤ 102, 97 ≤ k → Char.ofNat k = (k - 97 + 10).digitChar := by decide
    have hle : c.toNat - 97 + 10 < radix := hlt
    exact .inl (hchar _ (by omega) hlower.1)
  · obtain rfl := Option.some.inj hvalue
    have hchar : ∀ k ≤ 70, 65 ≤ k → Char.ofNat k = (k - 65 + 10).digitChar.toUpper := by decide
    have hle : c.toNat - 65 + 10 < radix := hlt
    exact .inr (hchar _ (by omega) hupper.1)

theorem digit?_eq_some_iff (hradix : radix ≤ 16) : digit? radix c = some d ↔ IsDigit radix c d := by
  constructor
  · exact isDigit_of_digit? hradix
  · rintro ⟨h, rfl | rfl⟩
    · exact (digit?_digitChar hradix h).1
    · exact (digit?_digitChar hradix h).2

theorem digits?_concat (radix : Nat) (cs : List Char) (c : Char) (high : Nat) :
    digits? radix (cs ++ [c]) high =
      (digits? radix cs high).bind fun n => (digit? radix c).map (n * radix + ·) := by
  induction cs generalizing high with
  | nil => cases h : digit? radix c <;> simp [digits?, h]
  | cons b cs ih => cases h : digit? radix b <;> simp [digits?, h, ih]

theorem magnitude?_concat (h : cs ≠ []) :
    magnitude? radix (cs ++ [c]) =
      (magnitude? radix cs).bind fun n => (digit? radix c).map (n * radix + ·) := by
  simp [magnitude?, h, digits?_concat]

theorem magnitude?_singleton (radix : Nat) (c : Char) : magnitude? radix [c] = digit? radix c := by
  cases h : digit? radix c <;> simp [magnitude?, digits?, h]

/-- Exactly the numerals are read. -/
theorem magnitude?_eq_some_iff (hradix : radix ≤ 16) :
    magnitude? radix cs = some n ↔ Spells radix cs n := by
  constructor
  · intro h
    induction cs using List.reverseRecOn generalizing n with
    | nil => cases h
    | append_singleton cs c ih =>
      by_cases hcs : cs = []
      · subst hcs
        rw [List.nil_append, magnitude?_singleton, digit?_eq_some_iff hradix] at h
        exact .digit h
      · rw [magnitude?_concat hcs] at h
        obtain ⟨m, hm, h⟩ := Option.bind_eq_some_iff.1 h
        obtain ⟨d, hd, rfl⟩ := Option.map_eq_some_iff.1 h
        exact .snoc (ih hm) ((digit?_eq_some_iff hradix).1 hd)
  · intro h
    induction h with
    | digit hd => rw [magnitude?_singleton, (digit?_eq_some_iff hradix).2 hd]
    | snoc hcs hd ih =>
      rw [magnitude?_concat (by rintro rfl; cases ih), ih, Option.bind_some,
        (digit?_eq_some_iff hradix).2 hd, Option.map_some]

/-- The digits of a number are one digit, or those of its quotient and that of its rest. -/
theorem toDigits_induction {P : List Char → Nat → Prop} (hradix : 1 < radix)
    (digit : ∀ d < radix, P [d.digitChar] d)
    (snoc : ∀ cs n, P cs n → ∀ d < radix, P (cs ++ [d.digitChar]) (n * radix + d)) (n : Nat) :
    P (Nat.toDigits radix n) n := by
  induction n using Nat.strongRecOn with
  | ind n ih =>
    by_cases h : n < radix
    · rw [Nat.toDigits_of_lt_base h]
      exact digit n h
    · rw [Nat.toDigits_of_base_le hradix (by omega)]
      have hsnoc := snoc _ _ (ih (n / radix) (Nat.div_lt_self (by omega) hradix)) (n % radix)
        (Nat.mod_lt n (by omega))
      rwa [Nat.div_add_mod'] at hsnoc

theorem spells_toDigits (hradix : 1 < radix) (n : Nat) : Spells radix (Nat.toDigits radix n) n :=
  toDigits_induction hradix (fun _ hd => .digit (isDigit_digitChar hd))
    (fun _ _ hcs _ hd => hcs.snoc (isDigit_digitChar hd)) n

theorem mem_toDigits (hradix : 1 < radix) (n : Nat) :
    ∀ c ∈ Nat.toDigits radix n, ∃ d < radix, c = d.digitChar := by
  refine toDigits_induction (P := fun cs _ => ∀ c ∈ cs, ∃ d < radix, c = d.digitChar) hradix
    (fun d hd c hc => ⟨d, hd, List.mem_singleton.1 hc⟩) (fun cs _ ih d hd c hc => ?_) n
  rcases List.mem_append.1 hc with hc | hc
  · exact ih c hc
  · exact ⟨d, hd, List.mem_singleton.1 hc⟩

theorem not_spells_plus (hradix : radix ≤ 16) : ¬Spells radix ('+' :: cs) n := by
  rw [← magnitude?_eq_some_iff hradix]
  exact nofun

theorem unsigned?_eq_some_iff (hradix : radix ≤ 16) (bound : Nat) :
    unsigned? radix bound cs = some n ↔ SpellsUnsigned radix cs n ∧ n < bound := by
  unfold unsigned?
  rw [Option.filter_eq_some_iff, decide_eq_true_iff]
  refine and_congr_left fun _ => ?_
  split
  case h_1 digits =>
    rw [magnitude?_eq_some_iff hradix]
    constructor
    · exact fun h => .inr ⟨digits, rfl, h⟩
    · rintro (h | ⟨_, ⟨⟩, h⟩)
      · exact absurd h (not_spells_plus hradix)
      · exact h
  case h_2 hsign =>
    rw [magnitude?_eq_some_iff hradix]
    constructor
    · exact .inl
    · rintro (h | ⟨digits, rfl, -⟩)
      · exact h
      · exact absurd rfl (hsign digits)

/-- A text spells one number. -/
theorem SpellsUnsigned.unique (hradix : radix ≤ 16) (hn : SpellsUnsigned radix cs n)
    (hm : SpellsUnsigned radix cs m) : n = m := by
  have hn' := (unsigned?_eq_some_iff hradix (n + m + 1)).2 ⟨hn, by omega⟩
  have hm' := (unsigned?_eq_some_iff hradix (n + m + 1)).2 ⟨hm, by omega⟩
  exact Option.some.inj (hn'.symm.trans hm')

end Numeral

namespace CoreMask

open Numeral

/-- A text of a number: its hexadecimal digits after `0x`, or its decimal digits. -/
def Denotes (text : String) (n : Nat) : Prop :=
  (∃ digits, text.toList = '0' :: 'x' :: digits ∧ SpellsUnsigned 16 digits n) ∨
    SpellsUnsigned 10 text.toList n

variable {text : String} {n : Nat} {m : CoreMask}

theorem denotes_text (m : CoreMask) : Denotes m.text m.bits.toNat := by
  refine .inl ⟨Nat.toDigits 16 m.bits.toNat, ?_, .inl (spells_toDigits (by decide) _)⟩
  simp [text, hexText]

theorem denotes_decimal (m : CoreMask) : Denotes (toString m.bits) m.bits.toNat := by
  have hdigits : toString m.bits = String.ofList (Nat.toDigits 10 m.bits.toNat) :=
    Nat.toString_eq_ofList_toDigits
  refine .inr (.inl ?_)
  rw [hdigits, String.toList_ofList]
  exact spells_toDigits (by decide) _

theorem not_spellsUnsigned_x (digits : List Char) : ¬SpellsUnsigned 10 ('0' :: 'x' :: digits) n := by
  rintro (h | ⟨_, ⟨⟩, -⟩)
  rw [← magnitude?_eq_some_iff (by decide)] at h
  cases h

theorem denotes_iff_of_hex {digits : List Char} (h : text.toList = '0' :: 'x' :: digits) :
    Denotes text n ↔ SpellsUnsigned 16 digits n := by
  constructor
  · rintro (⟨digits', hdigits, hn⟩ | hn)
    · obtain rfl : digits = digits' := by simpa using h.symm.trans hdigits
      exact hn
    · exact absurd (h ▸ hn) (not_spellsUnsigned_x digits)
  · exact fun hn => .inl ⟨digits, h, hn⟩

theorem denotes_iff_of_decimal (h : ¬∃ digits, text.toList = '0' :: 'x' :: digits) :
    Denotes text n ↔ SpellsUnsigned 10 text.toList n :=
  ⟨fun hn => hn.resolve_left fun ⟨digits, hdigits, _⟩ => h ⟨digits, hdigits⟩, .inr⟩

theorem Denotes.unique (hn : Denotes text n) {k : Nat} (hk : Denotes text k) : n = k := by
  by_cases h : ∃ digits, text.toList = '0' :: 'x' :: digits
  · obtain ⟨digits, h⟩ := h
    exact ((denotes_iff_of_hex h).1 hn).unique (by decide) ((denotes_iff_of_hex h).1 hk)
  · exact ((denotes_iff_of_decimal h).1 hn).unique (by decide) ((denotes_iff_of_decimal h).1 hk)

/-- Reading a text gives its number if there is a mask with that number. -/
theorem parse_eq (text : String) :
    ∃ value : Option Nat, (∀ n, value = some n ↔ Denotes text n ∧ n < 0x100000000) ∧
      parse text = value.elim (.error ⟨text⟩) fun n => .ok ⟨n.toUInt32⟩ := by
  by_cases h : ∃ digits, text.toList = '0' :: 'x' :: digits
  · obtain ⟨digits, h⟩ := h
    refine ⟨unsigned? 16 0x100000000 digits, fun n => ?_, ?_⟩
    · rw [unsigned?_eq_some_iff (by decide), denotes_iff_of_hex h]
    · simp only [parse, h]
      cases unsigned? 16 0x100000000 digits <;> rfl
  · refine ⟨unsigned? 10 0x100000000 text.toList, fun n => ?_, ?_⟩
    · rw [unsigned?_eq_some_iff (by decide), denotes_iff_of_decimal h]
    · unfold parse
      split
      case h_1 digits htext => exact absurd ⟨digits, htext⟩ h
      case h_2 => cases unsigned? 10 0x100000000 text.toList <;> rfl

/-- Exactly the texts of a mask's number are read as that mask. -/
theorem parse_eq_ok_iff : parse text = .ok m ↔ Denotes text m.bits.toNat := by
  obtain ⟨value, hvalue, hparse⟩ := parse_eq text
  rw [hparse]
  cases value with
  | none =>
    refine ⟨nofun, fun h => ?_⟩
    cases (hvalue _).2 ⟨h, m.bits.toNat_lt⟩
  | some n =>
    obtain ⟨hn, hlt⟩ := (hvalue n).1 rfl
    have hbits : n.toUInt32.toNat = n := Nat.mod_eq_of_lt hlt
    constructor
    · rintro ⟨⟩
      rwa [hbits]
    · intro h
      rw [hn.unique h]
      simp

/-- A number that no mask has is refused. -/
theorem parse_of_large (h : Denotes text n) (hlarge : 0x100000000 ≤ n) :
    parse text = .error ⟨text⟩ := by
  obtain ⟨value, hvalue, hparse⟩ := parse_eq text
  cases value with
  | none => exact hparse
  | some k =>
    obtain ⟨hk, hlt⟩ := (hvalue k).1 rfl
    have heq := h.unique hk
    omega

/-- The digits of a mask's text have no letters of upper case. -/
theorem text_digits (m : CoreMask) :
    ∃ digits, m.text.toList = '0' :: 'x' :: digits ∧ Spells 16 digits m.bits.toNat ∧
      ∀ c ∈ digits, c ∈ "0123456789abcdef".toList := by
  refine ⟨Nat.toDigits 16 m.bits.toNat, by simp [text, hexText], spells_toDigits (by decide) _, ?_⟩
  intro c hc
  obtain ⟨d, hd, rfl⟩ := mem_toDigits (by decide) _ c hc
  have hlower : ∀ d < 16, d.digitChar ∈ "0123456789abcdef".toList := by decide
  exact hlower d hd

/-- Both texts of a mask, hexadecimal and decimal, are read as the mask. A text is read as a mask
exactly if it is a text of the mask's number, and a text of a number past all masks is refused. -/
theorem mask_read_back (m : CoreMask) (text : String) (n : Nat) :
    (∃ digits, m.text.toList = '0' :: 'x' :: digits ∧ Spells 16 digits m.bits.toNat ∧
      ∀ c ∈ digits, c ∈ "0123456789abcdef".toList) ∧
    parse m.text = .ok m ∧ parse (toString m.bits) = .ok m ∧
    (parse text = .ok m ↔ Denotes text m.bits.toNat) ∧
    (Denotes text n → 0x100000000 ≤ n → parse text = .error ⟨text⟩) :=
  ⟨text_digits m, parse_eq_ok_iff.2 (denotes_text m), parse_eq_ok_iff.2 (denotes_decimal m),
    parse_eq_ok_iff, parse_of_large⟩

/-- A mask of two cores, and a numeral of which 32 bits would be one. -/
theorem mask_read_back_sample :
    let m : CoreMask := ⟨0xc⟩
    let large := "0x10000000C"
    parse m.text = .ok m ∧ Denotes large 0x10000000c ∧ 0x100000000 ≤ 0x10000000c ∧
      parse large = .error ⟨large⟩ := by
  intro m large
  have hlarge : Denotes large 0x10000000c :=
    .inl ⟨"10000000C".toList, by decide +kernel,
      .inl ((magnitude?_eq_some_iff (by decide)).1 (by decide +kernel))⟩
  obtain ⟨-, hback, -, -, hrefused⟩ := mask_read_back m large 0x10000000c
  exact ⟨hback, hlarge, by decide, hrefused hlarge (by decide)⟩

end CoreMask
end Blitter
