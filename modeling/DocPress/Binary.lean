/-!
# Binary floating point

A number of double precision is a sign, a field of eleven bits and a fraction of
fifty-two.  The field tells what the fraction means: a finite number is a
mantissa times a power of two.

Main results:

- `negative?_ofBits`: the sign is the top bit.
-/

namespace DocPress

/-- What a floating-point number is. -/
inductive Binary where
  | nan
  | infinite (negative : Bool)
  /-- A mantissa times a power of two; `atPower` tells that the numbers below are
  closer to each other than those above. -/
  | finite (negative : Bool) (mantissa : Nat) (exponent : Int) (atPower : Bool)
deriving DecidableEq, Repr

namespace Binary

/-- A power of two. -/
def twoTo (n : Nat) : Nat :=
  Nat.pow 2 n

/-- The number with a sign, a field and a fraction. -/
def ofFields (negative : Bool) (field fraction : Nat) : Binary :=
  if field = 2047 then if fraction = 0 then infinite negative else nan
  else if field = 0 then finite negative fraction (-1074) false
  else
    finite negative (twoTo 52 + fraction) (Int.ofNat field - 1075) (fraction == 0 && 1 < field)

/-- The number with some bits. -/
def ofBits (bits : Nat) : Binary :=
  ofFields (twoTo 63 ≤ bits) (bits / twoTo 52 % 2048) (bits % twoTo 52)

/-- What a floating-point number is. -/
def ofFloat (x : Float) : Binary :=
  ofBits x.toBits.toNat

/-- The sign of a number that has one. -/
def negative? : Binary → Option Bool
  | nan => none
  | infinite negative => some negative
  | finite negative _ _ _ => some negative

/-- The sign is the top bit. -/
theorem negative?_ofBits {bits : Nat} (h : ofBits bits ≠ nan) :
    (ofBits bits).negative? = some (decide (twoTo 63 ≤ bits)) := by
  unfold ofBits ofFields at *
  split at h <;> split at h <;> simp_all [negative?]

/-- The integer that a number equals, if it equals one. -/
def integral? : Binary → Option Int
  | finite negative mantissa exponent _ =>
    let signed (n : Nat) : Int := if negative then -(n : Int) else n
    if 0 ≤ exponent then some (signed (mantissa * twoTo exponent.toNat))
    else
      let scale := twoTo (-exponent).toNat
      if mantissa % scale = 0 then some (signed (mantissa / scale)) else none
  | _ => none

end Binary

end DocPress
