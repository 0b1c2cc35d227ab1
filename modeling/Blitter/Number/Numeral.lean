/-!
# Numerals

Reading integers as option values write them: digits of a radix after an optional sign. A numeral
is read by its value, so leading zeros are free and nothing wraps.
-/
namespace Blitter.Numeral

/-- The value of a digit, letters of either case counting from ten. -/
def digit? (radix : Nat) (c : Char) : Option Nat :=
  let value :=
    if '0' ≤ c ∧ c ≤ '9' then some (c.toNat - '0'.toNat)
    else if 'a' ≤ c ∧ c ≤ 'z' then some (c.toNat - 'a'.toNat + 10)
    else if 'A' ≤ c ∧ c ≤ 'Z' then some (c.toNat - 'A'.toNat + 10)
    else none
  value.filter (· < radix)

/-- The value of a sequence of digits after `high`. -/
def digits? (radix : Nat) : List Char → Nat → Option Nat
  | [], high => some high
  | c :: rest, high => do
    let d ← digit? radix c
    digits? radix rest (high * radix + d)

/-- At least one digit and nothing else. -/
def magnitude? (radix : Nat) (cs : List Char) : Option Nat :=
  if cs.isEmpty then none else digits? radix cs 0

/-- A numeral below `bound`, with an optional plus sign. -/
def unsigned? (radix bound : Nat) (cs : List Char) : Option Nat :=
  let value :=
    match cs with
    | '+' :: rest => magnitude? radix rest
    | cs => magnitude? radix cs
  value.filter (· < bound)

/-- A decimal numeral with an optional sign. -/
def integer? (cs : List Char) : Option Int :=
  match cs with
  | '+' :: rest => (magnitude? 10 rest).map Int.ofNat
  | '-' :: rest => (magnitude? 10 rest).map fun n => -Int.ofNat n
  | cs => (magnitude? 10 cs).map Int.ofNat

/-- A decimal numeral from `low` to `high`. -/
def ranged? (low high : Int) (text : String) : Option Int :=
  (integer? text.toList).filter fun v => low ≤ v ∧ v ≤ high

end Blitter.Numeral
