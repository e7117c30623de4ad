import DocPress.Binary
import DocPress.Text.Blank
import DocPress.Text.CharClass
import DocPress.Text.LowerCase
import DocPress.Yaml.Fault
import DocPress.Yaml.Tag

/-!
# Numbers in scalars

Integers are read in the bases two, eight, ten and sixteen, or in places of
sixty; fractions in base ten or in places of sixty.  A scalar whose tag promises
a number but whose text is none is a fault.
-/

namespace DocPress.Yaml

/-! ## Integers -/

/-- The value of a digit in bases up to sixteen; decimal digits of any script count. -/
def digitOf? (c : Char) : Option Nat :=
  (Text.digitValue? c).or (hexValue? c)

/-- The number that some digits denote in a base. -/
def ofDigits (base : Nat) : List Char → Option Nat
  | [] => none
  | digits =>
    digits.foldl
      (fun n c => do
        let n ← n
        let d ← digitOf? c
        if d < base then some (n * base + d) else none)
      (some 0)

/-- A number's text without a mark of its base in front. -/
def withoutBaseMark (base : Nat) : List Char → List Char
  | '0' :: c :: rest =>
    let mark :=
      if base == 2 then "bB" else if base == 8 then "oO" else if base == 16 then "xX" else ""
    if mark.toList.contains c then rest else '0' :: c :: rest
  | text => text

/-- How many digits of a base a text starts with. -/
def leadingDigits (base : Nat) (text : List Char) : Nat :=
  (text.takeWhile fun c => (digitOf? c).any (· < base)).length

/-- The integer that a text denotes in a base: blanks around it, one sign and one
mark of the base are allowed; a decimal number starts with at most 4300 digits, which
is seen before anything else is. -/
def integerIn (base : Nat) (text : List Char) : Reading Int :=
  let trimmed := Text.strip text
  let digits := withoutBaseMark base (Tag.unsigned trimmed)
  if base == 10 && 4300 < leadingDigits base digits then
    .error (.scalar (.tooManyDigits (leadingDigits base digits)))
  else
    match ofDigits base digits with
    | none => .error (.scalar (.integer base (String.ofList text)))
    | some n => .ok (if trimmed.head? == some '-' then -(n : Int) else n)

/-- Places of sixty, the highest first, put together. -/
def inSixties (places : List Int) : Int :=
  places.foldl (fun n place => n * 60 + place) 0

/-- A text without the low lines that group digits. -/
def ungrouped (text : List Char) : List Char :=
  text.filter (· != '_')

/-- The integer of a scalar. -/
def integer (text : List Char) : Reading Int := do
  let text := ungrouped text
  let signed (n : Int) : Int := if text.head? == some '-' then -n else n
  if text = [] then throw (.scalar .emptyNumber)
  match Tag.unsigned text with
  | [] => throw (.scalar .emptyNumber)
  | ['0'] => return 0
  | '0' :: 'b' :: digits => return signed (← integerIn 2 digits)
  | '0' :: 'x' :: digits => return signed (← integerIn 16 digits)
  | '0' :: digits => return signed (← integerIn 8 ('0' :: digits))
  | body =>
    if body.contains ':' then
      return signed (inSixties (← (Text.splitAt ':' body).mapM (integerIn 10)))
    else return signed (← integerIn 10 body)

/-! ## Fractions -/

/-- A decimal as mantissa and exponent of ten. -/
structure Scientific where
  mantissa : Nat
  exponent : Int

/-- The digits of a text as ASCII, or nothing if there are others. -/
def digitRun (text : List Char) : List Nat × List Char :=
  let digits := text.takeWhile fun c => (Text.digitValue? c).isSome
  (digits.filterMap Text.digitValue?, text.dropWhile fun c => (Text.digitValue? c).isSome)

/-- The number of some decimal digits. -/
def decimalValue (digits : List Nat) : Nat :=
  digits.foldl (fun n d => n * 10 + d) 0

/-- An exponent at the end of a decimal. -/
def exponentOf? : List Char → Option Int
  | [] => some 0
  | e :: rest =>
    if e = 'e' || e = 'E' then
      match digitRun (Tag.unsigned rest) with
      | (digits@(_ :: _), []) =>
        let n := decimalValue digits
        some (if rest.head? == some '-' then -(n : Int) else n)
      | _ => none
    else none

/-- A decimal without a sign. -/
def scientific? (text : List Char) : Option Scientific :=
  let (whole, rest) := digitRun text
  let (fraction, rest) := match rest with
    | '.' :: rest => digitRun rest
    | _ => ([], rest)
  if whole = [] && fraction = [] then none
  else
    (exponentOf? rest).map fun e =>
      ⟨decimalValue (whole ++ fraction), e - fraction.length⟩

/-- The floating-point number nearest to a decimal. -/
def Scientific.toFloat (s : Scientific) : Float :=
  if s.mantissa = 0 then 0.0
  else if 400 < s.exponent then 1.0 / 0.0
  else if s.exponent + (Nat.toDigits 10 s.mantissa).length < -400 then 0.0
  else Float.ofScientific s.mantissa (s.exponent < 0) s.exponent.natAbs

/-- The floating-point number that a text denotes, with words for infinity and
for no number. -/
def floatOf (text : List Char) : Reading Float :=
  let trimmed := Text.strip text
  let body := Tag.unsigned trimmed
  let signed (x : Float) : Float := if trimmed.head? == some '-' then -x else x
  let word := Text.lowerAscii body
  if word = "inf".toList || word = "infinity".toList then .ok (signed (1.0 / 0.0))
  else if word = "nan".toList then .ok (0.0 / 0.0)
  else
    match scientific? body with
    | some s => .ok (signed s.toFloat)
    | none => .error (.scalar (.float (String.ofList text)))

/-- Numbers from this bound on are too large for a floating-point number. -/
def floatBound : Nat := Binary.twoTo 1024

/-- Places of sixty, the lowest first, added up with growing weights; a weight may be
too large. -/
def sixtiesFrom (weight : Nat) (sum : Float) : List Float → Reading Float
  | [] => .ok sum
  | place :: places =>
    if weight < floatBound then
      sixtiesFrom (weight * 60) (sum + place * Float.ofNat weight) places
    else .error (.scalar .floatOverflow)

/-- The floating-point number of a scalar. -/
def fraction (text : List Char) : Reading Float := do
  let text := Text.lower (ungrouped text)
  if text = [] then throw (.scalar .emptyNumber)
  let sign : Float := if text.head? == some '-' then -1.0 else 1.0
  let body := Tag.unsigned text
  if body = ".inf".toList then return sign * (1.0 / 0.0)
  else if body = ".nan".toList then return 0.0 / 0.0
  else if body.contains ':' then
    let places ← (Text.splitAt ':' body).mapM floatOf
    return sign * (← sixtiesFrom 1 0.0 places.reverse)
  else return sign * (← floatOf body)

end DocPress.Yaml
