/-! The fewest decimal digits that read back as a given double, in exact arithmetic. A finite
double is `mantissa * 2 ^ exponent`; the reals that round to it form an interval whose ends belong
to it exactly when the mantissa is even. Of the grids of multiples of powers of ten, the coarsest
with a point in the interval gives the digits. -/
namespace ResumableScript.Decimal

/-- The magnitude `mantissa * 2 ^ exponent` of a finite double. -/
structure Magnitude where
  mantissa : Nat
  exponent : Int
  /-- The next smaller double is half as far away as the next larger one. -/
  narrowBelow : Bool
  deriving Repr, DecidableEq

def Magnitude.ofBits (bits : UInt64) : Magnitude :=
  let fraction : Nat := bits.toNat % 0x10000000000000
  let biased : Nat := bits.toNat / 0x10000000000000 % 0x800
  if biased = 0 then ⟨fraction, -1074, false⟩
  else ⟨0x10000000000000 + fraction, (biased : Int) - 1075, fraction == 0 && 1 < biased⟩

structure Digits where
  value : Nat
  scale : Int
  deriving Repr, DecidableEq

/-- A magnitude and a grid of multiples of a power of ten, brought to one unit: a quarter of the
magnitude's last place is `place` units and one step of the grid is `step` units. -/
structure Grid where
  place : Nat
  step : Nat

def Grid.of (m : Magnitude) (scale : Int) : Grid where
  place := Nat.pow 2 (m.exponent - 2).toNat * Nat.pow 10 (-scale).toNat
  step := Nat.pow 2 (2 - m.exponent).toNat * Nat.pow 10 scale.toNat

def Grid.roundsTo (g : Grid) (m : Magnitude) (digits : Nat) : Bool :=
  let low := (4 * m.mantissa - if m.narrowBelow then 1 else 2) * g.place
  let high := (4 * m.mantissa + 2) * g.place
  let point := digits * g.step
  if m.mantissa % 2 = 0 then low ≤ point && point ≤ high else low < point && point < high

/-- The grid's point that rounds to the magnitude and is nearest to it, the even one of two that
are equally near. -/
def Grid.nearest? (g : Grid) (m : Magnitude) : Option Nat :=
  let target := 4 * m.mantissa * g.place
  let below := target / g.step
  let above := below + 1
  match g.roundsTo m below, g.roundsTo m above with
  | false, false => none
  | true, false => some below
  | false, true => some above
  | true, true =>
    let shortfall := target - below * g.step
    let excess := above * g.step - target
    if shortfall < excess then some below
    else if excess < shortfall then some above
    else some (if below % 2 = 0 then below else above)

/-- The first grid with a hit, each ten times finer than the one before. -/
def search (m : Magnitude) : Nat → Int → Digits
  | 0, scale => ⟨0, scale⟩
  | fuel + 1, scale =>
    match (Grid.of m scale).nearest? m with
    | some digits => ⟨digits, scale⟩
    | none => search m fuel (scale - 1)

/-- A power of ten above the magnitude, by less than a factor of ten thousand. -/
def Magnitude.ceiling (m : Magnitude) : Int :=
  Int.fdiv ((m.mantissa.log2 + 1 + m.exponent) * 30103) 100000 + 2

/-- Seventeen digits always suffice, so the search ends within the given count of grids. -/
def Magnitude.shortest (m : Magnitude) : Digits :=
  if m.mantissa = 0 then ⟨0, 0⟩ else search m 24 m.ceiling

end ResumableScript.Decimal
