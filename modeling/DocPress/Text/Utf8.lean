import DocPress.Text.Quoted

/-!
# UTF-8

A text is stored as bytes, one to four to a character.  Reading accepts exactly
the shortest forms of Unicode scalar values; anything else is refused with the
place and the reason of the first fault.
-/

namespace DocPress.Text

/-! ## Faults of encoded texts

Bytes that are not the written form of a text are refused with the place and the
reason of the first fault. -/

/-- Why bytes are not the written form of a text. -/
inductive DecodeReason where
  | invalidStart
  | invalidContinuation
  | unexpectedEnd
  | notAscii
  | undefinedByte
  | truncated
  | loneSurrogate
  | unpairedSurrogate
  | partialCharacter
  | paddingBits
  | illFormed
  | specialCharacter
  | unterminated
deriving DecidableEq, Repr

/-- The wording of a reason. -/
def DecodeReason.message : DecodeReason → String
  | .invalidStart => "invalid start byte"
  | .invalidContinuation => "invalid continuation byte"
  | .unexpectedEnd => "unexpected end of data"
  | .notAscii => "ordinal not in range(128)"
  | .undefinedByte => "character maps to <undefined>"
  | .truncated => "truncated data"
  | .loneSurrogate => "illegal encoding"
  | .unpairedSurrogate => "illegal UTF-16 surrogate"
  | .partialCharacter => "partial character in shift sequence"
  | .paddingBits => "non-zero padding bits in shift sequence"
  | .illFormed => "ill-formed sequence"
  | .specialCharacter => "unexpected special character"
  | .unterminated => "unterminated shift sequence"

/-- The first fault in some bytes: where the faulty sequence starts, how many of
its bytes were read, its first byte, and the reason. -/
structure DecodeFault where
  codec : String
  start : Nat
  taken : Nat
  byte : UInt8
  reason : DecodeReason
deriving DecidableEq, Repr

/-- A fault of one byte names it, a longer one gives its places. -/
def DecodeFault.message (fault : DecodeFault) : String :=
  let place :=
    if fault.taken ≤ 1 then
      "byte 0x" ++ String.ofList (hex 2 fault.byte.toNat) ++ " in position " ++
        toString fault.start
    else
      "bytes in position " ++ toString fault.start ++ "-" ++
        toString (fault.start + fault.taken - 1)
  Text.quotedString fault.codec ++ " codec can't decode " ++ place ++ ": " ++
    fault.reason.message

/-! ## Writing -/

/-- The bytes of a text. -/
def encode (text : List Char) : List UInt8 :=
  text.flatMap String.utf8EncodeChar

@[simp] theorem encode_cons (c : Char) (rest : List Char) :
    encode (c :: rest) = String.utf8EncodeChar c ++ encode rest := rfl

@[simp] theorem encode_append (a b : List Char) : encode (a ++ b) = encode a ++ encode b := by
  simp [encode]

/-! ## Reading -/

/-- Whether a byte lies in a closed interval. -/
def byteIn (low high : Nat) (b : UInt8) : Bool :=
  low ≤ b.toNat && b.toNat ≤ high

/-- The second bytes that may follow a first byte of a three-byte form: no
overlong forms, no surrogates. -/
def secondOfThree (first second : UInt8) : Bool :=
  byteIn (if first = 0xE0 then 0xA0 else 0x80) (if first = 0xED then 0x9F else 0xBF) second

/-- The second bytes that may follow a first byte of a four-byte form: no
overlong forms, nothing above the last code point. -/
def secondOfFour (first second : UInt8) : Bool :=
  byteIn (if first = 0xF0 then 0x90 else 0x80) (if first = 0xF4 then 0x8F else 0xBF) second

/-- The six low bits of a continuation byte. -/
def lowBits (b : UInt8) : Nat :=
  b.toNat % 64

/-- Read bytes as a text, given how many bytes precede them. -/
def decodeFrom (position : Nat) : List UInt8 → Except DecodeFault (List Char)
  | [] => .ok []
  | a :: rest =>
    let fault (taken : Nat) (reason : DecodeReason) : Except DecodeFault (List Char) :=
      .error ⟨"utf-8", position, taken, a, reason⟩
    if a.toNat < 0x80 then
      (decodeFrom (position + 1) rest).map (Char.ofNat a.toNat :: ·)
    else if byteIn 0xC2 0xDF a then
      match rest with
      | [] => fault 1 .unexpectedEnd
      | b :: rest =>
        if byteIn 0x80 0xBF b then
          (decodeFrom (position + 2) rest).map
            (Char.ofNat (a.toNat % 32 * 64 + lowBits b) :: ·)
        else fault 1 .invalidContinuation
    else if byteIn 0xE0 0xEF a then
      match rest with
      | [] => fault 1 .unexpectedEnd
      | b :: rest =>
        if secondOfThree a b then
          match rest with
          | [] => fault 2 .unexpectedEnd
          | c :: rest =>
            if byteIn 0x80 0xBF c then
              (decodeFrom (position + 3) rest).map
                (Char.ofNat ((a.toNat % 16 * 64 + lowBits b) * 64 + lowBits c) :: ·)
            else fault 2 .invalidContinuation
        else fault 1 .invalidContinuation
    else if byteIn 0xF0 0xF4 a then
      match rest with
      | [] => fault 1 .unexpectedEnd
      | b :: rest =>
        if secondOfFour a b then
          match rest with
          | [] => fault 2 .unexpectedEnd
          | c :: rest =>
            if byteIn 0x80 0xBF c then
              match rest with
              | [] => fault 3 .unexpectedEnd
              | d :: rest =>
                if byteIn 0x80 0xBF d then
                  (decodeFrom (position + 4) rest).map
                    (Char.ofNat (((a.toNat % 8 * 64 + lowBits b) * 64 + lowBits c) * 64 +
                      lowBits d) :: ·)
                else fault 3 .invalidContinuation
            else fault 2 .invalidContinuation
        else fault 1 .invalidContinuation
    else fault 1 .invalidStart

/-- Read bytes as a text. -/
def decode (bytes : List UInt8) : Except DecodeFault (List Char) :=
  decodeFrom 0 bytes

end DocPress.Text
