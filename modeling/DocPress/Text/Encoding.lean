import DocPress.Text.CharClass
import DocPress.Text.LowerCase
import DocPress.Text.Utf16
import DocPress.Text.Utf8

/-!
# Encodings

A text is written in one of a few encodings, which go by many names.

Main results:

- `decodeLatin1_length`: every byte is a character.
- `decode_utf8`: reading UTF-8 is the reading of its module.
-/

namespace DocPress.Text

/-! ## Encodings of one byte

Every byte is a character of its own: in ASCII the lower half only, in Latin-1
the code point with its number, and in Windows-1252 a character of a table where
Latin-1 has control characters. -/

/-- Read bytes as ASCII, given how many bytes precede them. -/
def decodeAsciiFrom (position : Nat) : List UInt8 → Except DecodeFault (List Char)
  | [] => .ok []
  | a :: rest =>
    if a.toNat < 0x80 then
      (decodeAsciiFrom (position + 1) rest).map (Char.ofNat a.toNat :: ·)
    else .error ⟨"ascii", position, 1, a, .notAscii⟩

/-- Read bytes as the first 256 code points; this never fails. -/
def decodeLatin1 (bytes : List UInt8) : List Char :=
  bytes.map fun b => Char.ofNat b.toNat

/-- Every byte is a character. -/
@[simp] theorem decodeLatin1_length (bytes : List UInt8) :
    (decodeLatin1 bytes).length = bytes.length := by
  simp [decodeLatin1]

/-- The characters of the bytes from 128 on, a zero where there is none. -/
def windowsForms : List Nat :=
  [0x20AC, 0, 0x201A, 0x192, 0x201E, 0x2026, 0x2020, 0x2021, 0x2C6, 0x2030, 0x160, 0x2039, 0x152,
    0, 0x17D, 0, 0, 0x2018, 0x2019, 0x201C, 0x201D, 0x2022, 0x2013, 0x2014, 0x2DC, 0x2122, 0x161,
    0x203A, 0x153, 0, 0x17E, 0x178]

/-- The code point of a byte in Windows-1252, zero where there is none. -/
def windowsPoint (b : UInt8) : Nat :=
  if b.toNat < 128 then b.toNat else (windowsForms[b.toNat - 128]?).getD b.toNat

/-- Read bytes as Windows-1252, given how many bytes precede them. -/
def decodeWindowsFrom (position : Nat) : List UInt8 → Except DecodeFault (List Char)
  | [] => .ok []
  | a :: rest =>
    if windowsPoint a = 0 && a ≠ 0 then .error ⟨"charmap", position, 1, a, .undefinedByte⟩
    else (decodeWindowsFrom (position + 1) rest).map (Char.ofNat (windowsPoint a) :: ·)

/-- An encoding of texts. -/
inductive Encoding where
  | utf8
  | utf8Signed
  | utf7
  | utf16
  | utf16Of (order : ByteOrder)
  | ascii
  | latin1
  | windows1252
deriving DecidableEq, Repr

/-- Why bytes cannot be read in an encoding. -/
inductive EncodingFault where
  | bytes (fault : DecodeFault)
  | noByteOrder
deriving DecidableEq, Repr

namespace Encoding

/-! ## Names -/

/-- A name as it is compared: runs of letters, digits and dots joined by low lines;
`pending` tells that something else was passed since the last of them, and
`started` that there was one. -/
def joinWords (pending started : Bool) : List Char → List Char
  | [] => []
  | c :: rest =>
    if c = '.' || (c ≠ '_' && isWordChar c) then
      let here := if c.toNat < 128 then [c] else []
      (if pending && started then ['_'] else []) ++ here ++
        joinWords false (started || c.toNat < 128) rest
    else joinWords true started rest

/-- A name as it is compared, in lower case. -/
def plainName (name : List Char) : List Char :=
  joinWords false false (Text.lowerAscii name)

/-- The names of the encodings. -/
def names : List (String × Encoding) :=
  [("utf_8", .utf8), ("utf8", .utf8), ("u8", .utf8), ("utf", .utf8), ("cp65001", .utf8),
    ("utf8_ucs2", .utf8), ("utf8_ucs4", .utf8), ("utf_8_sig", .utf8Signed), ("utf_7", .utf7),
    ("utf7", .utf7), ("u7", .utf7), ("unicode_1_1_utf_7", .utf7), ("utf_16", .utf16),
    ("utf16", .utf16), ("u16", .utf16), ("utf_16_le", .utf16Of .little),
    ("utf_16le", .utf16Of .little), ("unicodelittleunmarked", .utf16Of .little),
    ("utf_16_be", .utf16Of .big), ("utf_16be", .utf16Of .big),
    ("unicodebigunmarked", .utf16Of .big), ("ascii", .ascii), ("us_ascii", .ascii),
    ("646", .ascii), ("ansi_x3.4_1968", .ascii), ("ansi_x3_4_1968", .ascii),
    ("ansi_x3.4_1986", .ascii), ("cp367", .ascii), ("csascii", .ascii), ("ibm367", .ascii),
    ("iso646_us", .ascii), ("iso_646.irv_1991", .ascii), ("iso_ir_6", .ascii), ("us", .ascii),
    ("latin_1", .latin1), ("latin1", .latin1), ("latin", .latin1), ("l1", .latin1),
    ("iso_8859_1", .latin1), ("iso8859_1", .latin1), ("iso8859", .latin1), ("8859", .latin1),
    ("cp819", .latin1), ("csisolatin1", .latin1), ("ibm819", .latin1),
    ("iso_8859_1_1987", .latin1), ("iso_ir_100", .latin1), ("cp1252", .windows1252),
    ("windows_1252", .windows1252), ("1252", .windows1252)]

/-- The encoding with a name. -/
def ofName? (name : String) : Option Encoding :=
  let plain := String.ofList (plainName name.toList)
  (names.find? fun entry => entry.1 == plain).map Prod.snd

/-! ## Reading -/

/-- Read bytes in an encoding.  A mark at the start of signed UTF-8 is dropped, also
if it is not complete. -/
def decode (encoding : Encoding) (bytes : List UInt8) : Except EncodingFault (List Char) :=
  match encoding with
  | .utf8 => (Text.decode bytes).mapError .bytes
  | .utf8Signed =>
    match bytes with
    | 0xEF :: 0xBB :: 0xBF :: rest => (Text.decode rest).mapError .bytes
    | [0xEF] | [0xEF, 0xBB] => .ok []
    | _ => (Text.decode bytes).mapError .bytes
  | .utf7 => (decode7 bytes).mapError .bytes
  | .utf16 =>
    match decodeMarked bytes with
    | .ok (some text) => .ok text
    | .ok none => .error .noByteOrder
    | .error fault => .error (.bytes fault)
  | .utf16Of order => (decodeUnits order 0 bytes).mapError .bytes
  | .ascii => (decodeAsciiFrom 0 bytes).mapError .bytes
  | .latin1 => .ok (decodeLatin1 bytes)
  | .windows1252 => (decodeWindowsFrom 0 bytes).mapError .bytes

/-- Reading UTF-8 is the reading of its module. -/
theorem decode_utf8 (bytes : List UInt8) :
    decode .utf8 bytes = (Text.decode bytes).mapError .bytes := rfl

end Encoding

end DocPress.Text
