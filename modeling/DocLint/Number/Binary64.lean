import DocLint.Number.Power
/-!
# Double-precision numbers

A `Binary64` is a 64-bit pattern, so that equality is decidable and no
arithmetic is hidden. `view` says which number a pattern stands for, as
`mantissa * 2 ^ exponent`; `ofRatio` goes the other way and rounds an exact
ratio to the nearest pattern, a tie to the even mantissa.
-/

namespace DocLint

/-- A double-precision number, by its bits. -/
structure Binary64 where
  bits : UInt64
  deriving DecidableEq, Repr

namespace Binary64

/-- What a pattern stands for. -/
inductive View
  /-- Not a number. -/
  | nan
  /-- An infinity. -/
  | infinite (negative : Bool)
  /-- The number `± mantissa * 2 ^ exponent`. -/
  | finite (negative : Bool) (mantissa : Nat) (exponent : Int)
  deriving DecidableEq, Repr

/-- The number that a pattern stands for. -/
def view (x : Binary64) : View :=
  let bits := x.bits.toNat
  let negative := bits / twoTo 63 == 1
  let biased := bits / twoTo 52 % twoTo 11
  let fraction := bits % twoTo 52
  if biased == 2047 then
    if fraction == 0 then .infinite negative else .nan
  else if biased == 0 then .finite negative fraction (-1074)
  else .finite negative (twoTo 52 + fraction) (Int.ofNat biased - 1075)

/-- The pattern with the given sign and the given remaining bits. -/
def ofParts (negative : Bool) (rest : Nat) : Binary64 :=
  ⟨UInt64.ofNat ((if negative then twoTo 63 else 0) + rest)⟩

/-- The infinity of a sign. -/
def infinity (negative : Bool) : Binary64 := ofParts negative (2047 * twoTo 52)

/-- A pattern that is not a number. -/
def notANumber : Binary64 := ofParts false (2047 * twoTo 52 + twoTo 51)

/-- The zero of a sign. -/
def zero (negative : Bool) : Binary64 := ofParts negative 0

/-- `num / den` in units of `2 ^ exponent`: the whole part, and what is left of
the numerator over the denominator used. -/
def unitsOf (num den : Nat) (exponent : Int) : Nat × Nat × Nat :=
  if 0 ≤ exponent then
    let scaled := den * twoTo exponent.toNat
    (num / scaled, num % scaled, scaled)
  else
    let scaled := num * twoTo (-exponent).toNat
    (scaled / den, scaled % den, den)

/-- The pattern nearest to `num / den`, a tie going to the even mantissa; ratios
beyond the largest number go to infinity. -/
def ofRatio (negative : Bool) (num den : Nat) : Binary64 :=
  if num == 0 || den == 0 then zero negative
  else
    let scale : Int := Int.ofNat num.log2 - Int.ofNat den.log2
    let low := max (scale - 53) (-1074)
    let exponent := if twoTo 53 ≤ (unitsOf num den low).1 then low + 1 else low
    let (whole, left, unit) := unitsOf num den exponent
    let up := unit < 2 * left || (unit == 2 * left && whole % 2 == 1)
    let mantissa := if up then whole + 1 else whole
    let (mantissa, exponent) :=
      if mantissa == twoTo 53 then (twoTo 52, exponent + 1) else (mantissa, exponent)
    if mantissa < twoTo 52 then ofParts negative mantissa
    else if 971 < exponent then infinity negative
    else ofParts negative ((exponent + 1075).toNat * twoTo 52 + (mantissa - twoTo 52))

/-- The pattern nearest to `digits * 10 ^ exponent`. Exponents far outside the
range of the format are answered at once, without building the power. -/
def ofDecimal (negative : Bool) (digits : Nat) (exponent : Int) : Binary64 :=
  let size : Int := exponent + Int.ofNat digits.log2 * 3 / 10
  if digits == 0 then zero negative
  else if 400 < size then infinity negative
  else if size < -800 then zero negative
  else if 0 ≤ exponent then ofRatio negative (digits * tenTo exponent.toNat) 1
  else ofRatio negative digits (tenTo (-exponent).toNat)

/-- The whole part of a number, toward zero; `none` for infinities and patterns
that are not numbers. -/
def truncate? (x : Binary64) : Option Int :=
  match x.view with
  | .finite negative mantissa exponent =>
    let size : Int :=
      if 0 ≤ exponent then mantissa * twoTo exponent.toNat
      else mantissa / twoTo (-exponent).toNat
    some (if negative then -size else size)
  | _ => none

end Binary64

end DocLint
