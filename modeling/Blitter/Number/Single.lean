/-!
# Single-precision quotients

The blitter's scale and stride arithmetic is carried out in single precision. Every operand is an
integer below `2 ^ 64` or a number of eighths, so neither the least nor the greatest exponent of
the format is ever met: a value is rounded to 24 significant bits and its exponent is left free.

`round` is that rounding, ties to even, on exact rationals. `Single` adds the values which a
quotient by zero can take.
-/
namespace Blitter

/-- The integer nearest to `q`; of two equally near ones the even one. -/
def roundEven (q : Rat) : Int :=
  let below := q.floor
  let rest := q - below
  if rest < 1 / 2 then below
  else if 1 / 2 < rest then below + 1
  else if below % 2 = 0 then below else below + 1

/-- The power of two that opens the binade of `q`: the greatest `2 ^ e` not above `|q|`,
for `q ≠ 0`. -/
def binade (q : Rat) : Int :=
  let guess : Int := (q.num.natAbs.log2 : Int) - (q.den.log2 : Int)
  if (2 : Rat) ^ guess ≤ q.abs then guess else guess - 1

/-- The distance of neighbouring single-precision values in the binade of `q`. -/
def spacing (q : Rat) : Rat := (2 : Rat) ^ (binade q - 23)

namespace Single

/-- The single-precision value nearest to `q`. -/
def round (q : Rat) : Rat :=
  if q = 0 then 0 else roundEven (q / spacing q) * spacing q

end Single

/-- The value of a single-precision quotient of integers. -/
inductive Single where
  | undefined
  | infinite (negative : Bool)
  | negativeZero
  | finite (value : Rat)
  deriving DecidableEq

namespace Single

/-- The quotient of two integers, each rounded first. -/
def quotient (a b : Int) : Single :=
  if b = 0 then
    if a = 0 then .undefined else .infinite (decide (a < 0))
  else if a = 0 then
    if b < 0 then .negativeZero else .finite 0
  else .finite (round (round a / round b))

/-- Strictly below `bound`; an undefined quotient is below nothing. -/
def below (s : Single) (bound : Rat) : Bool :=
  match s with
  | .undefined => false
  | .infinite negative => negative
  | .negativeZero => decide (0 < bound)
  | .finite value => decide (value < bound)

/-- Strictly above `bound`; an undefined quotient is above nothing. -/
def above (s : Single) (bound : Rat) : Bool :=
  match s with
  | .undefined => false
  | .infinite negative => !negative
  | .negativeZero => decide (bound < 0)
  | .finite value => decide (bound < value)

/-- In the closed range from `low` to `high`. An undefined quotient is in no range, although it is
neither below nor above one. -/
def within (s : Single) (low high : Rat) : Bool :=
  match s with
  | .undefined => false
  | s => !s.below low && !s.above high

end Single

/-- The whole part of a positive rational, held at the greatest 32-bit integer. -/
def wholePart (q : Rat) : Int := min q.floor 0x7fffffff

/-! ## Decimal text -/

namespace Decimal

/-- `digits` in front of and behind a point, the last `places` of them behind it. -/
def pointed (digits places : Nat) : String :=
  let scale := Nat.pow 10 places
  let whole := toString (digits / scale)
  if places = 0 then whole
  else
    let fraction := toString (digits % scale)
    whole ++ "." ++ "".pushn '0' (places - fraction.length) ++ fraction

/-- All digits of a rational whose denominator is a power of two. -/
def exact (q : Rat) : String :=
  let places := q.den.log2
  (if q < 0 then "-" else "") ++ pointed (q.num.natAbs * Nat.pow 5 places) places

/-- The nearest decimal with `places` digits behind the point, ties to even. The sign stays when
every digit is zero. -/
def fixed (places : Nat) (q : Rat) : String :=
  (if q < 0 then "-" else "") ++ pointed (roundEven (q.abs * 10 ^ places)).toNat places

end Decimal

/-- A quotient with four decimals. -/
def Single.text : Single → String
  | .undefined => "NaN"
  | .infinite negative => if negative then "-inf" else "inf"
  | .negativeZero => "-0.0000"
  | .finite value => Decimal.fixed 4 value

end Blitter
