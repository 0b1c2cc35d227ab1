import Blitter.CommandLine.Given

/-!
# Scanning a command line

Words are options by their long name or letter, or values of the option before them. An option that
awaits words is settled when the next option starts or the line ends; a value attached with `=` or
behind a letter is settled at once. No word stands alone.
-/
namespace Blitter.CommandLine

/-- Divides a number from its exponent. -/
def isExponentMark (c : Char) : Bool := c = 'e' || c = 'E'

/-- What stands behind a dash in a negative number: digits with at most one point and then at most
one exponent mark, neither of them first, the mark not last. -/
def isNumber : List Char → Bool
  | [] => true
  | c :: rest => c.isDigit && digits rest
where
  digits : List Char → Bool
    | [] => true
    | c :: rest =>
      if c = '.' then fraction rest
      else if isExponentMark c then exponent rest
      else c.isDigit && digits rest
  fraction : List Char → Bool
    | [] => true
    | c :: rest => if isExponentMark c then exponent rest else c.isDigit && fraction rest
  exponent (cs : List Char) : Bool := !cs.isEmpty && cs.all Char.isDigit

/-- What a word is by its looks. -/
inductive Word where
  /-- Ends the options. -/
  | divider
  | long (name : String) (value : Option String)
  | letters (letters : List Char)
  | plain (text : String)
  deriving DecidableEq

/-- Splits a long option at its first equals sign. -/
def splitLong (cs : List Char) : Word :=
  let name := String.ofList (cs.takeWhile (· ≠ '='))
  match cs.dropWhile (· ≠ '=') with
  | [] => .long name none
  | _ :: value => .long name (some (String.ofList value))

def Word.ofText (text : String) : Word :=
  match text.toList with
  | ['-', '-'] => .divider
  | '-' :: '-' :: cs => splitLong cs
  | '-' :: c :: cs => .letters (c :: cs)
  | _ => .plain text

/-- An option that awaits words, with those it has. -/
structure Pending where
  option : Switch
  texts : List String
  deriving DecidableEq

/-- The option can take another word. -/
def Pending.isOpen (p : Pending) : Bool := p.texts.length < p.option.words

structure Scan where
  given : Given := {}
  pending : Option Pending := none
  deriving DecidableEq

namespace Scan

/-- Keeps the values of an option from the words behind it. Their number is looked at first, then
whether the option was there before, then the values. -/
def keep (g : Given) (s : Switch) (texts : List String) : Except Usage Given :=
  if texts.isEmpty && 0 < s.words then .error (.badChoice s "")
  else if texts.length ≠ s.words then .error (.wrongCount s texts.length)
  else if s.isList then g.assign s (texts.flatMap pieces)
  else if g.has s then .error (.repeated s)
  else g.assign s (if s.words = 0 then ["true"] else texts)

/-- Settles the option that awaits words, if there is one. -/
def settle (scan : Scan) : Except Usage Given :=
  match scan.pending with
  | none => .ok scan.given
  | some p => keep scan.given p.option p.texts

/-- Settles what is pending and lets another option await its words. -/
def await (scan : Scan) (s : Switch) : Except Usage Scan := do
  return ⟨← scan.settle, some ⟨s, []⟩⟩

/-- Settles what is pending and keeps an option that has all its words. -/
def complete (scan : Scan) (s : Switch) (texts : List String) : Except Usage Scan := do
  return ⟨← keep (← scan.settle) s texts, none⟩

/-- Settles what is pending and stops. -/
def stop (scan : Scan) (usage : Usage) : Except Usage Scan := do
  let _ ← scan.settle
  throw usage

/-- A plain word is a value of the open option. -/
def value (scan : Scan) (text : String) : Except Usage Scan :=
  match scan.pending with
  | some p =>
    if p.isOpen then .ok { scan with pending := some { p with texts := p.texts ++ [text] } }
    else .error (.unknownArgument text)
  | none => .error (.unknownArgument text)

def long (scan : Scan) (name : String) (value : Option String) : Except Usage Scan :=
  match Switch.ofLong? name, value with
  | some s, some text =>
    if s.words = 0 then .error (.needless name) else scan.complete s [text]
  | some s, none => if s.words = 0 then scan.complete s [] else scan.await s
  | none, some _ =>
    .error (if name = "help" || name = "version" then .needless name else .unknownArgument name)
  | none, none =>
    if name = "help" then scan.stop .help
    else if name = "version" then scan.stop .version
    else .error (.unknownArgument name)

/-- A bundle of letters, of which the first that takes a word takes the rest as its word. -/
def letters (scan : Scan) : List Char → Except Usage Scan
  | [] => .ok scan
  | c :: rest =>
    match Switch.ofLetter? c with
    | some s =>
      if s.words = 0 then do (← scan.complete s []).letters rest
      else
        match rest with
        | [] => scan.await s
        | '=' :: text => scan.complete s [String.ofList text]
        | text => scan.complete s [String.ofList text]
    | none =>
      if c = 'h' then scan.stop .help
      else if c = 'V' then scan.stop .version
      else .error (.unknownArgument (String.ofList [c]))

/-- The open option takes this bundle of letters for a negative number. -/
def readsAsNumber (scan : Scan) (letters : List Char) : Bool :=
  scan.pending.any fun p => p.isOpen && p.option.takesNegatives && isNumber letters

/-- One word that is not the divider. -/
def step (scan : Scan) (text : String) : Except Usage Scan :=
  match Word.ofText text with
  | .divider => .ok scan
  | .long name value => scan.long name value
  | .letters cs => if scan.readsAsNumber cs then scan.value text else scan.letters cs
  | .plain text => scan.value text

/-- All words. Behind the divider every word stands alone. -/
def run (scan : Scan) : List String → Except Usage Given
  | [] => scan.settle
  | text :: rest =>
    if Word.ofText text = .divider then
      match rest with
      | [] => scan.settle
      | word :: _ => .error (.unknownArgument word)
    else do (← scan.step text).run rest

end Scan
end Blitter.CommandLine
