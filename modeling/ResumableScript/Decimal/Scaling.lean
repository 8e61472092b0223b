/-! A double from a decimal significand of 64 bits and a power of ten, by rounding the significand
and then one product or quotient. Significands below 2^53 and powers up to 10^22 are exact, so that
the result is the nearest double; beyond them it may be a neighbour of it. -/
namespace ResumableScript.Decimal

/-- The digits taken up so far, as a number, and the power of ten that scales it. -/
structure Significand where
  value : Nat := 0
  exponent : Int := 0
  deriving DecidableEq, Repr

namespace Significand

def limit : Nat := 18446744073709551615

/-- Takes up the digits before a point. From the first that does not fit, all count as zeros. -/
def takeWhole (s : Significand) : List Nat → Significand
  | [] => s
  | digit :: rest =>
    if s.exponent = 0 ∧ 10 * s.value + digit ≤ limit then
      takeWhole { s with value := 10 * s.value + digit } rest
    else takeWhole { s with exponent := s.exponent + 1 } rest

def takeFraction (s : Significand) : List Nat → Significand
  | [] => s
  | digit :: rest =>
    if 10 * s.value + digit ≤ limit then
      takeFraction ⟨10 * s.value + digit, s.exponent - 1⟩ rest
    else s

/-- The double nearest to a power of ten, up to 10^308. -/
def powerOfTen (n : Nat) : Float := Float.ofScientific 1 false n

/-- The significand scaled by its power of ten and a further one; too large a result is infinite,
and too small a one is zero. -/
def scaled (s : Significand) (further : Int) : Float :=
  let value := Float.ofNat s.value
  let exponent := s.exponent + further
  if s.value = 0 then value
  else if 308 < exponent then Float.ofScientific 1 false 400
  else if 0 ≤ exponent then value * powerOfTen exponent.toNat
  else if -308 ≤ exponent then value / powerOfTen exponent.natAbs
  else if -616 ≤ exponent then value / powerOfTen 308 / powerOfTen (exponent.natAbs - 308)
  else Float.ofScientific 0 false 0

end Significand

end ResumableScript.Decimal
