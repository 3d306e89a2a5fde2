import DocLint.Number.Binary64
/-!
# Shortest decimal text

`shortest` finds the decimal with the fewest digits that reads back as the same
double-precision number, and of those with equally few digits the nearest one;
an exact tie goes to the even last digit. All arithmetic is on whole numbers:
the reals that round to `m * 2 ^ e` form an interval whose ends are whole
multiples of `2 ^ (e - 2)`, and on each decimal grid only the two neighbours of
the number have to be tried.

`render` lays the digits out: positional while the decimal point stands at most
four places left or sixteen places right of the first digit, and in
exponential form, with at least two exponent digits, beyond.
-/

namespace DocLint.Shortest

/-- `digits * 10 ^ exponent`. -/
structure Decimal where
  digits : Nat
  exponent : Int
  deriving DecidableEq, Repr

/-- Number of decimal digits of `n`; one for zero. -/
def digitCount (n : Nat) : Nat := (Nat.toDigits 10 n).length

/-- The reals that round to a number, on a common denominator. -/
structure Interval where
  low : Nat
  value : Nat
  high : Nat
  den : Nat
  /-- Do the ends round to the number as well? -/
  closed : Bool

/-- The interval around `mantissa * 2 ^ exponent`. Below a power of two the
neighbours are closer, so the lower half gap is halved there. -/
def intervalOf (mantissa : Nat) (exponent : Int) : Interval :=
  let unit := exponent - 2
  let up := if 0 ≤ unit then twoTo unit.toNat else 1
  let den := if 0 ≤ unit then 1 else twoTo (-unit).toNat
  let below := if mantissa == twoTo 52 && -1074 < exponent then 1 else 2
  { low := (4 * mantissa - below) * up
    value := 4 * mantissa * up
    high := (4 * mantissa + 2) * up
    den := den
    closed := mantissa % 2 == 0 }

/-- Does `digits * 10 ^ exponent` lie in the interval? -/
def Interval.has (i : Interval) (d : Decimal) : Bool :=
  let left := if 0 ≤ d.exponent then d.digits * tenTo d.exponent.toNat * i.den
    else d.digits * i.den
  let scale := if 0 ≤ d.exponent then 1 else tenTo (-d.exponent).toNat
  if i.closed then i.low * scale ≤ left && left ≤ i.high * scale
  else i.low * scale < left && left < i.high * scale

/-- The exponent of the first decimal digit of `num / den`. -/
def leadingExponent (num den : Nat) : Int :=
  Int.ofNat (digitCount (num * tenTo 400 / den)) - 401

/-- The better of the two neighbours of the value on the grid of step
`10 ^ exponent`, if one of them rounds to the value. -/
def onGrid? (i : Interval) (exponent : Int) : Option Decimal :=
  let num := if 0 ≤ exponent then i.value else i.value * tenTo (-exponent).toNat
  let den := if 0 ≤ exponent then i.den * tenTo exponent.toNat else i.den
  let below := num / den
  let left := num % den
  let lower : Decimal := ⟨below, exponent⟩
  let upper : Decimal := ⟨below + 1, exponent⟩
  match i.has lower, i.has upper with
  | true, true =>
    let up := den < 2 * left || (den == 2 * left && below % 2 == 1)
    some (if up then upper else lower)
  | true, false => some lower
  | false, true => some upper
  | false, false => none

/-- The first grid with a hit, from `count` digits on. -/
def search (i : Interval) (leading : Int) : Nat → Nat → Decimal
  | 0, _ => ⟨i.value / i.den, 0⟩
  | fuel + 1, count =>
    match onGrid? i (leading + 1 - Int.ofNat count) with
    | some d => d
    | none => search i leading fuel (count + 1)

/-- The shortest decimal that rounds to `mantissa * 2 ^ exponent`; seventeen
digits always suffice. -/
def shortest (mantissa : Nat) (exponent : Int) : Decimal :=
  let i := intervalOf mantissa exponent
  search i (leadingExponent i.value i.den) 17 1

/-- Digits without the zeros at their end. -/
def trimZeros (cs : List Char) : List Char :=
  (cs.reverse.dropWhile (· == '0')).reverse

/-- The exponent mark: a sign and at least two digits. -/
def exponentText (e : Int) : String :=
  let digits := toString e.natAbs
  (if e < 0 then "e-" else "e+") ++ (if digits.length < 2 then "0" ++ digits else digits)

/-- The layout of a positive decimal. -/
def layout (d : Decimal) : String :=
  let all := Nat.toDigits 10 d.digits
  let point : Int := Int.ofNat all.length + d.exponent
  let digits := trimZeros all
  if point ≤ -4 || 16 < point then
    let mantissa := match digits with
      | [] => "0"
      | [c] => String.ofList [c]
      | c :: rest => String.ofList (c :: '.' :: rest)
    mantissa ++ exponentText (point - 1)
  else if point ≤ 0 then
    "0." ++ String.ofList (List.replicate (-point).toNat '0' ++ digits)
  else
    let whole := digits.take point.toNat
    let padded := whole ++ List.replicate (point.toNat - whole.length) '0'
    let rest := digits.drop point.toNat
    String.ofList padded ++ "." ++ (if rest.isEmpty then "0" else String.ofList rest)

/-- Words for the values that have no digits. -/
structure Words where
  nan : String
  infinity : String

/-- The text of a number. -/
def render (words : Words) (x : Binary64) : String :=
  match x.view with
  | .nan => words.nan
  | .infinite negative => (if negative then "-" else "") ++ words.infinity
  | .finite negative mantissa exponent =>
    let sign := if negative then "-" else ""
    if mantissa == 0 then sign ++ "0.0" else sign ++ layout (shortest mantissa exponent)

end DocLint.Shortest
