/-!
# Lossy UTF-8

Decoding bytes that are meant to be UTF-8. A byte that no character can have there ends the
character begun before it; what was begun, however long, becomes one replacement character, and so
does a byte that can begin nothing.
-/
namespace Blitter.Utf8

/-- The character that stands for undecodable bytes. -/
def replacement : Char := Char.ofNat 0xFFFD

/-- A character of which bytes are still to come. -/
structure Begun where
  /-- Bytes to come. -/
  owed : Nat
  /-- Least and greatest next byte. -/
  low : Nat
  high : Nat
  /-- The bits so far. -/
  bits : Nat
  deriving DecidableEq

/-- What a byte between characters begins. The second byte is narrowed where longer forms would
repeat shorter ones, and to leave out surrogates and everything past the last character. -/
inductive Start where
  | whole (c : Char)
  | begun (b : Begun)
  | invalid
  deriving DecidableEq

def Start.ofByte (b : Nat) : Start :=
  if b ≤ 0x7F then .whole (Char.ofNat b)
  else if 0xC2 ≤ b ∧ b ≤ 0xDF then .begun ⟨1, 0x80, 0xBF, b % 0x20⟩
  else if b = 0xE0 then .begun ⟨2, 0xA0, 0xBF, 0⟩
  else if b = 0xED then .begun ⟨2, 0x80, 0x9F, 0xD⟩
  else if 0xE1 ≤ b ∧ b ≤ 0xEF then .begun ⟨2, 0x80, 0xBF, b % 0x10⟩
  else if b = 0xF0 then .begun ⟨3, 0x90, 0xBF, 0⟩
  else if 0xF1 ≤ b ∧ b ≤ 0xF3 then .begun ⟨3, 0x80, 0xBF, b % 8⟩
  else if b = 0xF4 then .begun ⟨3, 0x80, 0x8F, 4⟩
  else .invalid

/-- One byte between characters. -/
def start (b : Nat) : List Char × Option Begun :=
  match Start.ofByte b with
  | .whole c => ([c], none)
  | .begun state => ([], some state)
  | .invalid => ([replacement], none)

/-- One byte: the characters it completes and the character it leaves begun. -/
def step (state : Option Begun) (b : Nat) : List Char × Option Begun :=
  match state with
  | none => start b
  | some s =>
    if s.low ≤ b ∧ b ≤ s.high then
      let bits := s.bits * 0x40 + b % 0x40
      if s.owed ≤ 1 then ([Char.ofNat bits], none)
      else ([], some ⟨s.owed - 1, 0x80, 0xBF, bits⟩)
    else
      let (out, state) := start b
      (replacement :: out, state)

def decodeFrom : Option Begun → List UInt8 → List Char
  | none, [] => []
  | some _, [] => [replacement]
  | state, b :: rest =>
    let (out, state) := step state b.toNat
    out ++ decodeFrom state rest

def decode (bytes : List UInt8) : String := String.ofList (decodeFrom none bytes)

end Blitter.Utf8
