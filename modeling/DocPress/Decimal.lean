import DocPress.Binary

/-!
# Shortest decimals

A binary floating-point number is written with the fewest decimal digits that
read back as the same number; among those the nearest decimal is taken.

A finite number is a mantissa times a power of two, and the numbers that read
back as it form an interval around it, whose ends belong to it exactly if the
mantissa is even.  For one digit, two digits and so on, only the two neighbours
of the number on the grid of decimals with that many digits can lie nearest.
-/

namespace DocPress

/-- A positive decimal: `0.d₁d₂…` times a power of ten, with no zero at the end
of its digits. -/
structure Decimal where
  digits : List Char
  point : Int
deriving DecidableEq, Repr

namespace Decimal

/-! ## Integers and their digits -/

/-- A positive integer times a power of ten, zeros at its end dropped. -/
def ofScaled (n : Nat) (exponent : Int) : Decimal :=
  let all := Nat.toDigits 10 n
  ⟨(all.reverse.dropWhile (· == '0')).reverse, exponent + all.length⟩

/-- The position of the first digit of a positive fraction: the least `e` with
the fraction below ten to the `e`. -/
def magnitude (num den : Nat) : Int :=
  if den ≤ num then (Nat.toDigits 10 (num / den)).length
  else 1 - ((Nat.toDigits 10 ((den - 1) / num)).length : Int)

/-! ## The interval of a number -/

/-- A binary number in quarters of its last place, with the ends of the interval
that reads back as it. -/
structure Neighbourhood where
  low : Nat
  value : Nat
  high : Nat
  closed : Bool
  exponent : Int

/-- The neighbourhood of `mantissa * 2 ^ exponent`; just above a power of two
the lower neighbour is nearer. -/
def Neighbourhood.of (mantissa : Nat) (exponent : Int) (atPower : Bool) : Neighbourhood :=
  let value := 4 * mantissa
  ⟨if atPower then value - 1 else value - 2, value, value + 2, mantissa % 2 == 0, exponent - 2⟩

/-- A power of ten. -/
def tenTo (n : Nat) : Nat :=
  Nat.pow 10 n

/-- The decimal `n * 10 ^ e` measured in the unit of a binary exponent, as a
fraction. -/
def onScale (n : Nat) (e : Int) (exponent : Int) : Nat × Nat :=
  (n * tenTo e.toNat * Binary.twoTo (-exponent).toNat,
    tenTo (-e).toNat * Binary.twoTo exponent.toNat)

/-- Whether a decimal reads back as the number of a neighbourhood. -/
def Neighbourhood.holds (around : Neighbourhood) (n : Nat) (e : Int) : Bool :=
  let (num, den) := onScale n e around.exponent
  if around.closed then around.low * den ≤ num && num ≤ around.high * den
  else around.low * den < num && num < around.high * den

/-- The distance of a decimal from the number of a neighbourhood, on a common scale. -/
def Neighbourhood.distance (around : Neighbourhood) (n : Nat) (e : Int) : Nat :=
  let (num, den) := onScale n e around.exponent
  (num - around.value * den) + (around.value * den - num)

/-- The nearest decimal with a given count of digits that reads back, if there
is one; of two as near, the one with an even last digit. -/
def Neighbourhood.nearest? (around : Neighbourhood) (top : Int) (count : Nat) : Option Decimal :=
  let e := top - count
  let (num, den) := onScale 1 e around.exponent
  let below := around.value * den / num
  let above := below + 1
  match around.holds below e && below != 0, around.holds above e with
  | true, true =>
    let db := around.distance below e
    let da := around.distance above e
    some (ofScaled (if db < da || (db == da && below % 2 == 0) then below else above) e)
  | true, false => some (ofScaled below e)
  | false, true => some (ofScaled above e)
  | false, false => none

/-- The shortest decimal that reads back as `mantissa * 2 ^ exponent`, the
mantissa being positive and at most fifty-three bits wide. -/
def shortest (mantissa : Nat) (exponent : Int) (atPower : Bool) : Decimal :=
  let around := Neighbourhood.of mantissa exponent atPower
  let num := mantissa * Binary.twoTo exponent.toNat
  let den := Binary.twoTo (-exponent).toNat
  let top := magnitude num den
  match (List.range 17).findSome? fun i => around.nearest? top (i + 1) with
  | some decimal => decimal
  | none => ofScaled mantissa 0

/-! ## Layout -/

/-- A decimal with a point: positional from ten-thousandths up to sixteen places
before the point, otherwise with an exponent of at least two digits. -/
def layout (decimal : Decimal) : List Char :=
  let count := decimal.digits.length
  if -4 < decimal.point && decimal.point ≤ 16 then
    if decimal.point ≤ 0 then
      '0' :: '.' :: List.replicate (-decimal.point).toNat '0' ++ decimal.digits
    else
      let whole := decimal.point.toNat
      if count ≤ whole then
        decimal.digits ++ List.replicate (whole - count) '0' ++ ['.', '0']
      else decimal.digits.take whole ++ '.' :: decimal.digits.drop whole
  else
    let mark := match decimal.digits with
      | [] => []
      | [d] => [d]
      | d :: rest => d :: '.' :: rest
    let e := decimal.point - 1
    let digits := Nat.toDigits 10 e.natAbs
    mark ++ 'e' :: (if e < 0 then '-' else '+') ::
      (if digits.length < 2 then '0' :: digits else digits)

/-- The text of a sign. -/
def sign (negative : Bool) : List Char :=
  if negative then ['-'] else []

/-- The text of a binary number. -/
def ofBinary : Binary → List Char
  | .nan => "nan".toList
  | .infinite negative => sign negative ++ "inf".toList
  | .finite negative mantissa exponent atPower =>
    sign negative ++
      if mantissa = 0 then "0.0".toList else layout (shortest mantissa exponent atPower)

/-- The text of a floating-point number. -/
def ofFloat (x : Float) : List Char :=
  ofBinary (Binary.ofFloat x)

end Decimal

end DocPress
