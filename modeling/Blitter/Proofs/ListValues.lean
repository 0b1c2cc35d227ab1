import Blitter.CommandLine.Plan
import Blitter.Proofs.Scanning

/-!
# Values of list options

On the command line a list option has a fixed number of words, and each word holds at least one
value. In the environment its text may hold any number of values. So an accepted line has the values
that its settings look at, unless a list option is left to the environment and has too few spaces
there; exactly then the settings that need it cannot be made.
-/
namespace Blitter.CommandLine

/-! ## Counting values -/

theorem length_splitOn (cs : List Char) : (cs.splitOn ' ').length = cs.count ' ' + 1 := by
  induction cs with
  | nil => rfl
  | cons c cs ih =>
    rw [List.splitOn_cons_eq_if_modifyHead, List.count_cons]
    split
    · rw [List.length_cons, ih]
    · rw [List.length_modifyHead, ih, Nat.add_zero]

/-- A space divides two texts. -/
theorem length_pieces (word : String) : (pieces word).length = word.toList.count ' ' + 1 := by
  rw [pieces, List.length_map, length_splitOn]

theorem length_le_flatMap_pieces (words : List String) :
    words.length ≤ (words.flatMap pieces).length := by
  induction words with
  | nil => exact Nat.le_refl 0
  | cons word words ih =>
    rw [List.flatMap_cons, List.length_append, List.length_cons, length_pieces]
    omega

theorem length_of_readAll {α : Type} {read : Reader α} {s : Switch} {texts : List String}
    {values : List α} (h : readAll read s texts = .ok values) : values.length = texts.length := by
  induction texts generalizing values with
  | nil =>
    cases h
    rfl
  | cons text texts ih =>
    rw [readAll, List.mapM_cons] at h
    obtain ⟨value, -, h⟩ := ok_of_bind h
    obtain ⟨rest, hrest, h⟩ := ok_of_bind h
    cases h
    exact congrArg (· + 1) (ih hrest)

namespace Given

variable {g g' : Given} {s : Switch} {texts : List String}

/-- The number of values that a list option has, if it is given. -/
def count? (g : Given) : Switch → Option Nat
  | .size => g.size.map List.length
  | .outSize => g.outSize.map List.length
  | .crop => g.crop.map List.length
  | .overlaySize => g.overlaySize.map List.length
  | .overlayPos => g.overlayPos.map List.length
  | _ => none

theorem isSome_count? (g : Given) (h : s.isList = true) : (g.count? s).isSome = g.has s := by
  cases s with
  | size | outSize | crop | overlaySize | overlayPos => exact Option.isSome_map
  | _ => cases h

theorem length_extend {α : Type} (before : Option (List α)) (values : List α) :
    (extend before values).map List.length =
      some ((before.map List.length).getD 0 + values.length) := by
  cases before <;> simp [extend]

/-- Keeping the values of one option leaves the others as they are. -/
theorem count?_assign_of_ne (h : g.assign s texts = .ok g') {t : Switch} (hne : t ≠ s) :
    g'.count? t = g.count? t := by
  cases s
  -- One field is written, and the count of every other option reads another field.
  all_goals
    obtain ⟨values, -, h⟩ := ok_of_bind h
    cases h
    cases t <;> first | rfl | exact absurd rfl hne

/-- The values of a list option go behind those that it has. -/
theorem count?_assign (h : g.assign s texts = .ok g') (hlist : s.isList = true) :
    g'.count? s = some ((g.count? s).getD 0 + texts.length) := by
  cases s with
  | size | outSize | crop | overlaySize | overlayPos =>
    obtain ⟨values, hvalues, h⟩ := ok_of_bind h
    cases h
    rw [← length_of_readAll hvalues]
    exact length_extend _ values
  | _ => cases hlist

theorem isList_of_count? {n : Nat} (h : g.count? s = some n) : s.isList = true := by
  cases s with
  | size | outSize | crop | overlaySize | overlayPos => rfl
  | _ => cases h

/-- No list option has fewer values than it has words on the command line. -/
def Filled (g : Given) : Prop := ∀ s n, g.count? s = some n → s.words ≤ n

theorem filled_empty : Filled {} := by
  intro s n hn
  cases s <;> cases hn

theorem assign_filled (hg : g.Filled) (h : g.assign s texts = .ok g')
    (henough : s.isList = true → s.words ≤ texts.length) : g'.Filled := by
  intro t n hn
  by_cases heq : t = s
  · subst heq
    have hlist := isList_of_count? hn
    have hle := henough hlist
    rw [count?_assign h hlist] at hn
    cases hn
    omega
  · exact hg t n (count?_assign_of_ne h heq ▸ hn)

end Given

/-! ## The command line -/

namespace Scan

theorem invariant_filled : Invariant Given.Filled := by
  intro g s texts g' hg h
  obtain ⟨hwords, values, hassign, hvalues⟩ := keep_ok h
  refine Given.assign_filled hg hassign fun hlist => ?_
  rw [hvalues hlist, ← hwords]
  exact length_le_flatMap_pieces texts

end Scan

/-! ## The environment -/

/-- The text of an option in the environment. -/
def Environment.text? (env : Environment) (s : Switch) : Option String :=
  s.environment?.bind fun name => List.lookup name env

/-- The number of values that a list option has there. -/
def Environment.count? (env : Environment) (s : Switch) : Option Nat :=
  (env.text? s).map fun text => text.toList.count ' ' + 1

namespace Given

variable {g g' : Given} {s : Switch} {env : Environment}

/-- An option that the line does not give has the values of the environment. -/
theorem count?_fromEnvironment (h : g.fromEnvironment env s = .ok g') (hlist : s.isList = true) :
    g'.count? s = (g.count? s).or (env.count? s) := by
  unfold fromEnvironment at h
  split at h
  case isTrue hhas =>
    cases h
    rw [← isSome_count? g hlist] at hhas
    rw [Option.or_of_isSome hhas]
  case isFalse hhas =>
    rw [← isSome_count? g hlist, Bool.not_eq_true, Option.isSome_eq_false_iff,
      Option.isNone_iff_eq_none] at hhas
    split at h
    case h_1 hnone =>
      cases h
      rw [hhas, Environment.count?, Environment.text?, hnone]
      rfl
    case h_2 text htext =>
      rw [count?_assign h hlist, hhas, Environment.count?, Environment.text?, htext, length_pieces]
      simp

theorem count?_fromEnvironment_of_ne (h : g.fromEnvironment env s = .ok g') {t : Switch}
    (hne : t ≠ s) : g'.count? t = g.count? t := by
  unfold fromEnvironment at h
  split at h
  · cases h
    rfl
  · split at h
    · cases h
      rfl
    · exact count?_assign_of_ne h hne

/-- All options that are looked up in the environment, each once. -/
theorem count?_foldlM {switches : List Switch} (hnodup : switches.Nodup)
    (h : switches.foldlM (fromEnvironment env) g = .ok g') {t : Switch} (hlist : t.isList = true) :
    g'.count? t = if t ∈ switches then (g.count? t).or (env.count? t) else g.count? t := by
  induction switches generalizing g with
  | nil =>
    cases h
    rfl
  | cons s rest ih =>
    rw [List.foldlM_cons] at h
    obtain ⟨next, hnext, h⟩ := ok_of_bind h
    obtain ⟨habsent, hrest⟩ := List.nodup_cons.1 hnodup
    rw [ih hrest h]
    by_cases heq : t = s
    · subst heq
      rw [if_neg habsent, if_pos List.mem_cons_self, count?_fromEnvironment hnext hlist]
    · rw [count?_fromEnvironment_of_ne hnext heq]
      simp [heq]

end Given

namespace Arguments

variable {g : Given} {a : Arguments} {argv : List String} {env : Environment} {s : Switch} {n : Nat}

/-- The number of values of a list option, given or not. -/
def count? (a : Arguments) : Switch → Option Nat
  | .size => some a.size.length
  | .outSize => a.outSize.map List.length
  | .crop => a.crop.map List.length
  | .overlaySize => some a.overlaySize.length
  | .overlayPos => some a.overlayPos.length
  | _ => none

/-- Defaults have as many values as there are words on the command line. -/
theorem count?_arguments (h : g.arguments = .ok a) (s : Switch) :
    a.count? s = g.count? s ∨ g.count? s = none ∧ a.count? s = some s.words := by
  unfold Given.arguments at h
  split at h
  case h_2 => cases h
  split at h
  case h_2 => cases h
  cases h
  cases s with
  | size => cases hsize : g.size <;> simp [count?, Given.count?, hsize, Switch.words]
  | overlaySize => cases hsize : g.overlaySize <;> simp [count?, Given.count?, hsize, Switch.words]
  | overlayPos => cases hpos : g.overlayPos <;> simp [count?, Given.count?, hpos, Switch.words]
  | _ => exact .inl rfl

/-- The values of a list option come from the line, else from the environment, else they are the
default ones. -/
theorem count?_parse (h : parse argv env = .ok a) (hlist : s.isList = true) :
    ∃ line, ({} : Scan).run argv = .ok line ∧
      (a.count? s = (line.count? s).or (env.count? s) ∨
        line.count? s = none ∧ env.count? s = none ∧ a.count? s = some s.words) := by
  obtain ⟨line, hline, h⟩ := ok_of_bind h
  obtain ⟨completed, hcompleted, h⟩ := ok_of_bind h
  have hcount : completed.count? s = (line.count? s).or (env.count? s) := by
    rw [Given.count?_foldlM (by decide) hcompleted hlist, if_pos (Switch.mem_all s)]
  refine ⟨line, hline, ?_⟩
  rcases count?_arguments h s with heq | ⟨hnone, hdefault⟩
  · exact .inl (heq.trans hcount)
  · obtain ⟨hgiven, henv⟩ := Option.or_eq_none_iff.1 (hcount.symm.trans hnone)
    exact .inr ⟨hgiven, henv, hdefault⟩

/-- The line leaves a list option to the environment, which has too few values for it. -/
structure ShortInEnvironment (argv : List String) (env : Environment) (s : Switch) : Prop where
  isList : s.isList = true
  absent : ∃ line, ({} : Scan).run argv = .ok line ∧ line.has s = false
  short : ∃ n, env.count? s = some n ∧ n < s.words

theorem shortInEnvironment_iff {line : Given} (hline : ({} : Scan).run argv = .ok line)
    (hlist : s.isList = true) : ShortInEnvironment argv env s ↔
      line.count? s = none ∧ ∃ n, env.count? s = some n ∧ n < s.words := by
  have hhas : line.has s = false ↔ line.count? s = none := by
    rw [← Given.isSome_count? line hlist, Option.isSome_eq_false_iff, Option.isNone_iff_eq_none]
  constructor
  · rintro ⟨-, ⟨line', hline', habsent⟩, hshort⟩
    cases hline.symm.trans hline'
    exact ⟨hhas.1 habsent, hshort⟩
  · rintro ⟨hnone, hshort⟩
    exact ⟨hlist, ⟨line, hline, hhas.2 hnone⟩, hshort⟩

/-- A list option of an accepted line has at least the values of one use, unless the environment
has fewer. -/
theorem words_le_iff (h : parse argv env = .ok a) (hlist : s.isList = true) :
    (∀ n, a.count? s = some n → s.words ≤ n) ↔ ¬ShortInEnvironment argv env s := by
  obtain ⟨line, hline, hcount⟩ := count?_parse h hlist
  have hfilled : line.Filled := Scan.invariant_filled.run Given.filled_empty hline
  rw [shortInEnvironment_iff hline hlist]
  rcases hcount with hvalues | ⟨-, henv, hdefault⟩
  · rw [hvalues]
    cases hgiven : line.count? s with
    | some k => simpa using hfilled s k hgiven
    | none => cases env.count? s <;> simp
  · simp [henv, hdefault]

/-! ## Settings -/

/-- Each list has the values that are looked at. -/
structure Complete (a : Arguments) : Prop where
  size : 2 ≤ a.size.length
  overlaySize : 2 ≤ a.overlaySize.length
  overlayPos : 2 ≤ a.overlayPos.length
  outSize : ∀ values, a.outSize = some values → 2 ≤ values.length
  crop : ∀ values, a.crop = some values → 4 ≤ values.length

theorem isSome_firstTwo? {α : Type} (values : List α) :
    (firstTwo? values).isSome = true ↔ 2 ≤ values.length := by
  rcases values with _ | ⟨x, _ | ⟨y, rest⟩⟩ <;> simp [firstTwo?]

theorem isSome_region? (values : List Int) :
    (region? values).isSome = true ↔ 4 ≤ values.length := by
  rcases values with _ | ⟨x, _ | ⟨y, _ | ⟨width, _ | ⟨height, rest⟩⟩⟩⟩ <;> simp [region?]

theorem isSome_mapM {α β : Type} {f : α → Option β} {p : α → Prop}
    (h : ∀ x, (f x).isSome = true ↔ p x) (value : Option α) :
    (value.mapM f).isSome = true ↔ ∀ x, value = some x → p x := by
  cases value with
  | none => exact iff_of_true rfl nofun
  | some x =>
    have hmap : ((some x).mapM f).isSome = (f x).isSome := by
      change ((f x).map some).isSome = _
      exact Option.isSome_map
    rw [hmap, h]
    exact ⟨fun hx y hy => by cases hy; exact hx, fun hx => hx x rfl⟩

theorem isSome_transformSettings? (a : Arguments) :
    a.transformSettings?.isSome = true ↔
      (∀ values, a.outSize = some values → 2 ≤ values.length) ∧
        ∀ values, a.crop = some values → 4 ≤ values.length := by
  rw [← isSome_mapM isSome_firstTwo?, ← isSome_mapM isSome_region?, transformSettings?]
  cases a.outSize.mapM firstTwo? with
  | none => simp
  | some size => cases a.crop.mapM region? <;> simp

theorem isSome_compositeSettings? (a : Arguments) :
    a.compositeSettings?.isSome = true ↔ 2 ≤ a.overlayPos.length := by
  rw [← isSome_firstTwo?, compositeSettings?]
  cases firstTwo? a.overlayPos <;> rfl

theorem isSome_padOf? (format : PixelFormat) (size : List Nat) :
    (padOf? format size).isSome = true ↔ 2 ≤ size.length := by
  rw [padOf?, Option.isSome_map, isSome_firstTwo?]

theorem isSome_plan? (a : Arguments) :
    a.plan?.isSome = true ↔ 2 ≤ a.size.length ∧
      match a.overlay with
      | none => a.transformSettings?.isSome = true
      | some _ => 2 ≤ a.overlaySize.length ∧ a.compositeSettings?.isSome = true := by
  rw [← isSome_padOf? a.format, ← isSome_padOf? a.overlayFormat, plan?]
  cases padOf? a.format a.size with
  | none => simp
  | some main =>
    cases a.overlay with
    | none => cases a.transformSettings? <;> simp
    | some path =>
      cases padOf? a.overlayFormat a.overlaySize with
      | none => simp
      | some overlay => cases a.compositeSettings? <;> simp

theorem forall_length_iff {α : Type} (value : Option (List α)) (k : Nat) :
    (∀ n, value.map List.length = some n → k ≤ n) ↔
      ∀ values, value = some values → k ≤ values.length := by
  cases value <;> simp

/-- Settings can be made of an accepted line exactly if no list option that they need is left to the
environment with too few values there; a plan needs the settings and pads of its filter. -/
theorem settings_complete_iff (h : parse argv env = .ok a) :
    let short := ShortInEnvironment argv env
    (a.Complete ↔ ∀ s, ¬short s) ∧
      (a.transformSettings?.isSome = true ↔ ¬short .outSize ∧ ¬short .crop) ∧
      (a.compositeSettings?.isSome = true ↔ ¬short .overlayPos) ∧
      (a.plan?.isSome = true ↔ ¬short .size ∧
        match a.overlay with
        | none => ¬short .outSize ∧ ¬short .crop
        | some _ => ¬short .overlaySize ∧ ¬short .overlayPos) := by
  intro short
  have always (s : Switch) {k : Nat} (hcount : a.count? s = some k) (hlist : s.isList = true) :
      s.words ≤ k ↔ ¬short s := by
    rw [← words_le_iff h hlist, hcount]
    exact ⟨fun hle n hn => (by cases hn; exact hle), fun hall => hall k rfl⟩
  have hsize : 2 ≤ a.size.length ↔ ¬short .size := always .size rfl rfl
  have hoverlaySize : 2 ≤ a.overlaySize.length ↔ ¬short .overlaySize := always .overlaySize rfl rfl
  have hoverlayPos : 2 ≤ a.overlayPos.length ↔ ¬short .overlayPos := always .overlayPos rfl rfl
  have houtSize : (∀ values, a.outSize = some values → 2 ≤ values.length) ↔ ¬short .outSize :=
    (forall_length_iff _ _).symm.trans (words_le_iff (s := .outSize) h rfl)
  have hcrop : (∀ values, a.crop = some values → 4 ≤ values.length) ↔ ¬short .crop :=
    (forall_length_iff _ _).symm.trans (words_le_iff (s := .crop) h rfl)
  have htransform := isSome_transformSettings? a
  have hcomposite := isSome_compositeSettings? a
  rw [houtSize, hcrop] at htransform
  rw [hoverlayPos] at hcomposite
  refine ⟨⟨fun hcomplete s hshort => ?_, fun hall => ?_⟩, htransform, hcomposite, ?_⟩
  · cases s with
    | size => exact hsize.1 hcomplete.size hshort
    | overlaySize => exact hoverlaySize.1 hcomplete.overlaySize hshort
    | overlayPos => exact hoverlayPos.1 hcomplete.overlayPos hshort
    | outSize => exact houtSize.1 hcomplete.outSize hshort
    | crop => exact hcrop.1 hcomplete.crop hshort
    | _ => cases hshort.isList
  · exact ⟨hsize.2 (hall _), hoverlaySize.2 (hall _), hoverlayPos.2 (hall _), houtSize.2 (hall _),
      hcrop.2 (hall _)⟩
  · rw [isSome_plan?, hsize]
    cases a.overlay with
    | none => rw [htransform]
    | some path => rw [hoverlaySize, hcomposite]

end Arguments

namespace Sample

/-- Names the files and no list option. -/
def line : List String := ["--input", "in.raw", "--output", "out.raw"]

end Sample

namespace Arguments

/-- A crop of four values in the environment serves a transform, a size of one value no plan. -/
theorem settings_complete_iff_sample :
    let env : Environment := [("CROP", "8 8 64 32"), ("SIZE", "640")]
    let short := ShortInEnvironment Sample.line env
    ∃ a, (parse Sample.line env = .ok a ∧ a.size = [640]) ∧ ¬short .outSize ∧ ¬short .crop ∧
      short .size ∧ a.transformSettings?.isSome = true ∧ ¬a.Complete ∧ ¬a.plan?.isSome = true := by
  intro env short
  obtain ⟨a, ha, hvalues⟩ : ∃ a, parse Sample.line env = .ok a ∧ a.size = [640] :=
    exists_ok_of_toOption (by decide +kernel)
  have houtSize : ¬short .outSize := by
    rintro ⟨-, -, n, hn, -⟩
    cases hn
  have hcrop : ¬short .crop := by
    rintro ⟨-, -, n, hn, hlt⟩
    have hfour : env.count? .crop = some 4 := by decide +kernel
    cases hfour.symm.trans hn
    exact absurd hlt (by decide)
  have hsize : short .size :=
    ⟨rfl, exists_ok_of_toOption (by decide +kernel), 1, by decide +kernel, by decide⟩
  obtain ⟨hcomplete, htransform, -, hplan⟩ := settings_complete_iff ha
  exact ⟨a, ⟨ha, hvalues⟩, houtSize, hcrop, hsize, htransform.2 ⟨houtSize, hcrop⟩,
    fun h => hcomplete.1 h .size hsize, fun h => (hplan.1 h).1 hsize⟩

/-- A line is accepted with a crop of two values, of which no settings can be made. -/
theorem crop_of_two_values_accepted :
    ∃ a, parse Sample.line [("CROP", "1 2")] = .ok a ∧ a.crop = some [1, 2] ∧
      a.transformSettings? = none ∧ a.plan? = none := by
  obtain ⟨a, ha, hvalues⟩ : ∃ a, parse Sample.line [("CROP", "1 2")] = .ok a ∧
      (a.crop, a.transformSettings?, a.plan?) = (some [1, 2], none, none) :=
    exists_ok_of_toOption (by decide +kernel)
  simp only [Prod.mk.injEq] at hvalues
  exact ⟨a, ha, hvalues⟩

end Arguments
end Blitter.CommandLine
