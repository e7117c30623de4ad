import DocPress.Value
import DocPress.Yaml.Number

/-!
# Values of scalars

What a scalar denotes under its tag.
-/

namespace DocPress.Yaml

/-! ## Truth -/

/-- The truth value of a scalar, by its word in lower case. -/
def truth (text : List Char) : Reading Bool :=
  let word := String.ofList (Text.lower text)
  if word ∈ ["yes", "true", "on"] then .ok true
  else if word ∈ ["no", "false", "off"] then .ok false
  else .error (.scalar (.truth word))

/-! ## Moments -/

/-- The number of a few ASCII digits. -/
def smallNumber (digits : List Char) : Nat :=
  digits.foldl (fun n c => n * 10 + (c.toNat - 48)) 0

/-- Six digits of a fraction of a second. -/
def microseconds (fraction : List Char) : Nat :=
  let digits := fraction.take 6
  smallNumber (digits ++ List.replicate (6 - digits.length) '0')

/-- The distance from universal time in minutes that a zone says. -/
def zoneOffset : Option (Option (Bool × List Char × List Char)) → Option Int
  | none => none
  | some none => some 0
  | some (some (negative, hours, minutes)) =>
    let distance : Int := smallNumber hours * 60 + smallNumber minutes
    some (if negative then -distance else distance)

/-- The value of a moment's parts. -/
def momentValue (parts : Tag.MomentParts) : Except CalendarFault Value :=
  let year := smallNumber parts.year
  let month := smallNumber parts.month
  let day := smallNumber parts.day
  match parts.time with
  | none => Value.date <$> Date.check year month day
  | some (hour, minute, second) =>
    Value.dateTime <$> DateTime.check year month day (smallNumber hour) (smallNumber minute)
      (smallNumber second) (microseconds parts.fraction) (zoneOffset parts.zone)

/-- The date or moment of a scalar; a line feed at its end does not count. -/
def moment (text : List Char) : Reading Value :=
  match Tag.momentParts? (Text.withoutFinalFeed text) with
  | none => .error (.scalar .notAMoment)
  | some parts => (momentValue parts).mapError fun fault => .scalar (.calendar fault)

/-! ## Bytes -/

/-- The value of a character of the base-64 alphabet. -/
def sextet? (c : Char) : Option Nat :=
  let n := c.toNat
  if 65 ≤ n && n ≤ 90 then some (n - 65)
  else if 97 ≤ n && n ≤ 122 then some (n - 71)
  else if 48 ≤ n && n ≤ 57 then some (n + 4)
  else if c == '+' then some 62
  else if c == '/' then some 63
  else none

/-- The bytes of a text in base 64, given the place in the group of four, the bits
left over, and the padding met; other characters are passed over. -/
def base64From (place left pads : Nat) : List Char → Option (List UInt8)
  | [] => if place = 0 then some [] else none
  | c :: rest =>
    if c = '=' then
      if 2 ≤ place then
        if 4 ≤ place + pads + 1 then some [] else base64From place left (pads + 1) rest
      else base64From place left pads rest
    else
      match sextet? c with
      | none => base64From place left pads rest
      | some bits =>
        if place = 0 then base64From 1 bits 0 rest
        else if place = 1 then
          (base64From 2 (bits % 16) 0 rest).map (UInt8.ofNat (left * 4 + bits / 16) :: ·)
        else if place = 2 then
          (base64From 3 (bits % 4) 0 rest).map (UInt8.ofNat (left * 16 + bits / 4) :: ·)
        else (base64From 0 0 0 rest).map (UInt8.ofNat (left * 64 + bits) :: ·)

/-- The bytes of a scalar. -/
def binary (text : List Char) : Reading (List UInt8) :=
  if text.all fun c => c.toNat < 128 then
    match base64From 0 0 0 text with
    | some bytes => .ok bytes
    | none => .error .malformed
  else .error .malformed

/-! ## All tags -/

/-- The value of a scalar under a tag; a scalar cannot be a collection, and
unknown tags denote nothing. -/
def scalarValue (tag : Tag) (text : List Char) : Reading Value :=
  match tag with
  | .null => .ok .none
  | .bool => Value.bool <$> truth text
  | .int => Value.int <$> integer text
  | .float => Value.float <$> fraction text
  | .binary => Value.bytes <$> binary text
  | .timestamp => moment text
  | .str => .ok (.text (String.ofList text))
  | _ => .error .malformed

end DocPress.Yaml
