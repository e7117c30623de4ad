import DocPress.Text.Utf8

/-!
# UTF-16 and UTF-7

Two bytes make a unit of sixteen bits; units are stored as they are, or spelled by
digits of base 64 between characters of ASCII.
-/

namespace DocPress.Text

/-! ## UTF-16

Two bytes make a unit, in one of two orders; two surrogates make a character
beyond the first plane.  Text of unknown order starts with a mark that tells it. -/

/-- The order of the bytes of a unit. -/
inductive ByteOrder where
  | little
  | big
deriving DecidableEq, Repr

/-- The name of the encoding with an order. -/
def ByteOrder.codec : ByteOrder → String
  | little => "utf-16-le"
  | big => "utf-16-be"

/-- The unit that two bytes make. -/
def ByteOrder.unit (order : ByteOrder) (a b : UInt8) : Nat :=
  match order with
  | little => b.toNat * 256 + a.toNat
  | big => a.toNat * 256 + b.toNat

/-- Whether a unit is the first of two surrogates. -/
def isHighSurrogate (unit : Nat) : Bool :=
  0xD800 ≤ unit && unit < 0xDC00

/-- Whether a unit is the second of two surrogates. -/
def isLowSurrogate (unit : Nat) : Bool :=
  0xDC00 ≤ unit && unit < 0xE000

/-- The character of two surrogates. -/
def joinSurrogates (high low : Nat) : Char :=
  Char.ofNat (0x10000 + (high - 0xD800) * 1024 + (low - 0xDC00))

/-- Read bytes as units of an order, given how many bytes precede them. -/
def decodeUnits (order : ByteOrder) (position : Nat) :
    List UInt8 → Except DecodeFault (List Char)
  | [] => .ok []
  | [a] => .error ⟨order.codec, position, 1, a, .truncated⟩
  | a :: b :: rest =>
    let unit := order.unit a b
    if isHighSurrogate unit then
      match rest with
      | c :: d :: rest =>
        let second := order.unit c d
        if isLowSurrogate second then
          (decodeUnits order (position + 4) rest).map (joinSurrogates unit second :: ·)
        else .error ⟨order.codec, position, 2, a, .unpairedSurrogate⟩
      | rest => .error ⟨order.codec, position, 2 + rest.length, a, .unexpectedEnd⟩
    else if isLowSurrogate unit then .error ⟨order.codec, position, 2, a, .loneSurrogate⟩
    else (decodeUnits order (position + 2) rest).map (Char.ofNat unit :: ·)

/-- Read bytes of unknown order: a text, or nothing if the mark of the order is
missing. -/
def decodeMarked (bytes : List UInt8) : Except DecodeFault (Option (List Char)) :=
  match bytes with
  | 0xFF :: 0xFE :: rest => (decodeUnits .little 2 rest).map some
  | 0xFE :: 0xFF :: rest => (decodeUnits .big 2 rest).map some
  | _ => (decodeUnits .little 0 bytes).map fun text => if text = [] then some [] else none

/-! ## UTF-7

ASCII stands for itself.  A plus sign starts a section in which digits of base 64
spell units of sixteen bits; the section ends before the first character that is
no such digit, and a minus sign there belongs to it.  A plus sign with a minus
sign behind it stands for itself. -/

/-! ## Sections -/

/-- The value of a digit of base 64. -/
def digit64? (b : UInt8) : Option Nat :=
  let c := Char.ofNat b.toNat
  if 'A' ≤ c && c ≤ 'Z' then some (b.toNat - 65)
  else if 'a' ≤ c && c ≤ 'z' then some (b.toNat - 71)
  else if '0' ≤ c && c ≤ '9' then some (b.toNat + 4)
  else if c = '+' then some 62
  else if c = '/' then some 63
  else none

/-- A section: where it starts, its first byte, the bits that make no unit yet,
their number, and a first surrogate that waits for the second. -/
structure Section64 where
  start : Nat
  buffer : Nat := 0
  bits : Nat := 0
  surrogate : Option Nat := none

namespace Section64

/-- The fault of a section that ends at a place. -/
def fault (s : Section64) (stop : Nat) (reason : DecodeReason) : DecodeFault :=
  ⟨"utf7", s.start, stop - s.start, 43, reason⟩

/-- Take a unit; a first surrogate without its second is replaced. -/
def takeUnit (s : Section64) (unit : Nat) : List Char × Section64 :=
  let alone := s.surrogate.toList.map fun _ => Char.ofNat 0xFFFD
  match s.surrogate with
  | some high =>
    if isLowSurrogate unit then ([joinSurrogates high unit], { s with surrogate := none })
    else if isHighSurrogate unit then (alone, { s with surrogate := some unit })
    else (alone ++ [Char.ofNat unit], { s with surrogate := none })
  | none =>
    if isHighSurrogate unit then ([], { s with surrogate := some unit })
    else if isLowSurrogate unit then ([Char.ofNat 0xFFFD], s)
    else ([Char.ofNat unit], s)

/-- Take a digit: the characters that it completes, and the section after it. -/
def takeDigit (s : Section64) (digit : Nat) : List Char × Section64 :=
  let buffer := s.buffer * 64 + digit
  let bits := s.bits + 6
  if bits < 16 then ([], { s with buffer, bits })
  else
    let scale := 1 <<< (bits - 16)
    { s with buffer := buffer % scale, bits := bits - 16 }.takeUnit (buffer / scale)

/-- Why a section may not end here. -/
def leftOver? (s : Section64) : Option DecodeReason :=
  if 6 ≤ s.bits then some .partialCharacter
  else if 0 < s.bits && s.buffer ≠ 0 then some .paddingBits
  else none

/-- Whether a section may end with the bytes. -/
def isComplete (s : Section64) : Bool :=
  s.surrogate.isNone && s.leftOver?.isNone

end Section64

/-! ## Reading -/

/-- Read bytes in or outside of a section, given how many bytes precede them. -/
def decode7From (inside : Option Section64) (position : Nat) :
    List UInt8 → Except DecodeFault (List Char)
  | [] =>
    match inside with
    | none => .ok []
    | some s => if s.isComplete then .ok [] else .error (s.fault position .unterminated)
  | a :: rest =>
    let plain : Except DecodeFault (List Char) :=
      if a.toNat < 128 then
        (decode7From none (position + 1) rest).map (Char.ofNat a.toNat :: ·)
      else .error ⟨"utf7", position, 1, a, .specialCharacter⟩
    match inside with
    | some s =>
      match digit64? a with
      | some digit =>
        let (found, s) := s.takeDigit digit
        (decode7From (some s) (position + 1) rest).map (found ++ ·)
      | none =>
        match s.leftOver? with
        | some reason => .error (s.fault (position + 1) reason)
        | none => if a = 45 then decode7From none (position + 1) rest else plain
    | none =>
      if a = 43 then
        match rest with
        | 45 :: rest => (decode7From none (position + 2) rest).map ('+' :: ·)
        | b :: rest =>
          if (digit64? b).isNone then .error ⟨"utf7", position, 2, a, .illFormed⟩
          else decode7From (some { start := position }) (position + 1) (b :: rest)
        | [] => .ok []
      else plain

/-- Read bytes as a text. -/
def decode7 (bytes : List UInt8) : Except DecodeFault (List Char) :=
  decode7From none 0 bytes

end DocPress.Text
