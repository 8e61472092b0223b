import ResumableScript.Decimal.Shortest

/-! How finite doubles are written and decimals read. A written float always shows that it is one,
by a point or an exponent. -/
namespace ResumableScript.Decimal

structure Layout where
  lowest : Int
  highest : Int

/-- Positional from 0.00001 up to sixteen digits before the point, scientific outside. -/
def floatLayout : Layout := ⟨-5, 15⟩

/-- `d.ddde±x`, where a positive exponent carries its sign. -/
def scientific (digits : List Char) (exponent : Int) : List Char :=
  let fraction := match digits.tail with
    | [] => []
    | rest => '.' :: rest
  let sign := if exponent < 0 then '-' else '+'
  digits.take 1 ++ fraction ++ 'e' :: sign :: (Nat.toDigits 10 exponent.natAbs)

def positional (digits : List Char) (scale : Int) : List Char :=
  if 0 ≤ scale then digits ++ List.replicate scale.toNat '0' ++ ['.', '0']
  else
    let places := scale.natAbs
    if places < digits.length then
      digits.take (digits.length - places) ++ '.' :: digits.drop (digits.length - places)
    else '0' :: '.' :: List.replicate (places - digits.length) '0' ++ digits

def Layout.write (form : Layout) (d : Digits) : List Char :=
  let digits := Nat.toDigits 10 d.value
  let exponent := (digits.length : Int) - 1 + d.scale
  if form.lowest ≤ exponent ∧ exponent ≤ form.highest then positional digits d.scale
  else scientific digits exponent

/-- The text of a finite double: the fewest digits that read back, with the sign of zero kept. -/
def floatText (x : Float) : String :=
  let bits := x.toBits
  let text := floatLayout.write (Magnitude.ofBits bits).shortest
  String.ofList (if bits.toNat / 0x8000000000000000 = 1 then '-' :: text else text)

/-- The double nearest to `± mantissa * 10 ^ exponent`; too large a magnitude is infinite. -/
def toFloat (negative : Bool) (mantissa : Nat) (exponent : Int) : Float :=
  let digits : Int := (Nat.toDigits 10 mantissa).length
  let magnitude :=
    if mantissa = 0 ∨ digits + exponent < -400 then Float.ofScientific 0 false 0
    else if 400 < digits + exponent then Float.ofScientific 1 false 400
    else if exponent < 0 then Float.ofScientific mantissa true exponent.natAbs
    else Float.ofScientific mantissa false exponent.natAbs
  if negative then -magnitude else magnitude

def digitValue (c : Char) : Nat := c.toNat - 48

def readDigits (digits : List Char) : Nat :=
  digits.foldl (fun n c => 10 * n + digitValue c) 0

def readFixed (negative : Bool) (whole fraction : List Char) : Float :=
  toFloat negative (readDigits (whole ++ fraction)) (-(fraction.length : Int))

end ResumableScript.Decimal
