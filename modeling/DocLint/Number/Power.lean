/-!
# Powers

The two powers that numbers are written in: of two in their bits, of ten in their
digits.
-/

namespace DocLint

/-- A power of two. -/
abbrev twoTo (exponent : Nat) : Nat := Nat.pow 2 exponent

/-- A power of ten. -/
abbrev tenTo (exponent : Nat) : Nat := Nat.pow 10 exponent

end DocLint
