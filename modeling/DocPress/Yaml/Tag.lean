import DocPress.Text.Search
import DocPress.Yaml.Cursor

/-!
# Tags and the forms of plain scalars

A tag says what a node denotes.  A plain scalar without a tag gets one by its
form: the words for nothing, truth and falsehood, the notations of integers,
fractions and moments.
-/

namespace DocPress.Yaml

/-- What a node denotes. -/
inductive Tag where
  | null
  | bool
  | int
  | float
  | binary
  | timestamp
  | omap
  | pairs
  | set
  | str
  | seq
  | map
  | merge
  | value
  | other (name : List Char)
deriving DecidableEq, Repr

namespace Tag

/-- What all tags of the common vocabulary start with. -/
def vocabulary : List Char :=
  "tag:yaml.org,2002:".toList

/-- The tags of the common vocabulary by name. -/
def named : List (List Char × Tag) :=
  [("null".toList, .null), ("bool".toList, .bool), ("int".toList, .int),
    ("float".toList, .float), ("binary".toList, .binary), ("timestamp".toList, .timestamp),
    ("omap".toList, .omap), ("pairs".toList, .pairs), ("set".toList, .set), ("str".toList, .str),
    ("seq".toList, .seq), ("map".toList, .map), ("merge".toList, .merge),
    ("value".toList, .value)]

/-- The tag that a full name denotes. -/
def ofName (name : List Char) : Tag :=
  match Text.dropPrefix? vocabulary name with
  | some short => ((named.find? fun entry => entry.1 == short).map Prod.snd).getD (.other name)
  | none => .other name

/-! ## Moments -/

/-- The notation of a moment, part by part. -/
structure MomentParts where
  year : List Char
  month : List Char
  day : List Char
  time : Option (List Char × List Char × List Char)
  fraction : List Char
  zone : Option (Option (Bool × List Char × List Char))
deriving Repr

/-- One or two digits and what follows them. -/
def oneOrTwo : List Char → Option (List Char × List Char)
  | a :: b :: rest =>
    if isDigit a then (if isDigit b then some ([a, b], rest) else some ([a], b :: rest)) else none
  | [a] => if isDigit a then some ([a], []) else none
  | [] => none

/-- Two digits and what follows them. -/
def twoDigits : List Char → Option (List Char × List Char)
  | a :: b :: rest => if isDigit a && isDigit b then some ([a, b], rest) else none
  | _ => none

/-- Four digits and what follows them. -/
def fourDigits : List Char → Option (List Char × List Char)
  | a :: b :: c :: d :: rest =>
    if isDigit a && isDigit b && isDigit c && isDigit d then some ([a, b, c, d], rest) else none
  | _ => none

/-- What follows a given character. -/
def after (c : Char) : List Char → Option (List Char)
  | d :: rest => if c = d then some rest else none
  | [] => none

/-- The zone at the end of a moment: none, universal time, or a signed offset. -/
def zonePart (text : List Char) : Option (Option (Option (Bool × List Char × List Char))) :=
  if text = [] then some none
  else
    match text.dropWhile isSpaceOrTab with
    | ['Z'] => some (some none)
    | sign :: rest =>
      if sign = '+' || sign = '-' then do
        let (hours, rest) ← oneOrTwo rest
        match rest with
        | [] => some (some (some (sign = '-', hours, [])))
        | _ => do
          let rest ← after ':' rest
          let (minutes, rest) ← twoDigits rest
          if rest = [] then some (some (some (sign = '-', hours, minutes))) else none
      else none
    | [] => none

/-- The time of day behind a date. -/
def timePart (year month day text : List Char) : Option MomentParts := do
  let text ← match text with
    | c :: rest =>
      if c = 'T' || c = 't' then some rest
      else if isSpaceOrTab c then some (rest.dropWhile isSpaceOrTab)
      else none
    | [] => none
  let (hour, text) ← oneOrTwo text
  let (minute, text) ← twoDigits (← after ':' text)
  let (second, text) ← twoDigits (← after ':' text)
  let (fraction, text) := match text with
    | '.' :: rest => (rest.takeWhile isDigit, rest.dropWhile isDigit)
    | _ => ([], text)
  let zone ← zonePart text
  return ⟨year, month, day, some (hour, minute, second), fraction, zone⟩

/-- The parts of a text that has the notation of a date or a moment. -/
def momentParts? (text : List Char) : Option MomentParts := do
  let (year, text) ← fourDigits text
  let (month, text) ← oneOrTwo (← after '-' text)
  let (day, text) ← oneOrTwo (← after '-' text)
  if text = [] then return ⟨year, month, day, none, [], none⟩
  else timePart year month day text

/-- Whether a plain scalar is a moment: a date alone needs two digits for month
and day. -/
def isMoment (text : List Char) : Bool :=
  match momentParts? text with
  | some parts => parts.time.isSome || (parts.month.length == 2 && parts.day.length == 2)
  | none => false

/-! ## Numbers -/

/-- A text without the sign in front of it. -/
def unsigned : List Char → List Char
  | c :: rest => if c = '+' || c = '-' then rest else c :: rest
  | [] => []

/-- A decimal digit or the low line that groups digits. -/
def isGrouped (c : Char) : Bool :=
  isDigit c || c == '_'

/-- A non-empty text of characters of a class. -/
def allOf (p : Char → Bool) (text : List Char) : Bool :=
  text != [] && text.all p

/-- A digit followed by grouped digits. -/
def isDigits : List Char → Bool
  | c :: rest => isDigit c && rest.all isGrouped
  | [] => false

/-- A digit other than zero followed by grouped digits. -/
def isCount : List Char → Bool
  | c :: rest => isDigit c && c != '0' && rest.all isGrouped
  | [] => false

/-- A place of a number written in sixties. -/
def isSixtieth : List Char → Bool
  | [a] => isDigit a
  | [a, b] => '0' ≤ a && a ≤ '5' && isDigit b
  | _ => false

/-- Whether a plain scalar is an integer: binary, octal, decimal, hexadecimal or
in sixties. -/
def isInteger (text : List Char) : Bool :=
  let body := unsigned text
  match body with
  | '0' :: 'b' :: digits => allOf (fun c => c == '0' || c == '1' || c == '_') digits
  | '0' :: 'x' :: digits => allOf (fun c => (hexValue? c).isSome || c == '_') digits
  | ['0'] => true
  | '0' :: digits => digits.all fun c => ('0' ≤ c && c ≤ '7') || c == '_'
  | _ =>
    match Text.splitAt ':' body with
    | [digits] => isCount digits
    | first :: places => isCount first && places.all isSixtieth
    | [] => false

/-- An exponent with its sign, or nothing. -/
def isExponent : List Char → Bool
  | [] => true
  | e :: sign :: digits =>
    (e == 'e' || e == 'E') && (sign == '+' || sign == '-') && allOf isDigit digits
  | _ => false

/-- Whether a plain scalar is a fraction, in tens or in sixties, or one of the
words for infinity and for no number. -/
def isFraction (text : List Char) : Bool :=
  let body := unsigned text
  let signless := body.length == text.length
  if body = ".inf".toList || body = ".Inf".toList || body = ".INF".toList then true
  else if text = ".nan".toList || text = ".NaN".toList || text = ".NAN".toList then true
  else
    match Text.cutAt? ['.'] body with
    | none => false
    | some ([], rest) => signless && isDigits (rest.takeWhile isGrouped) &&
        isExponent (rest.dropWhile isGrouped)
    | some (whole, rest) =>
      (isDigits whole && isExponent (rest.dropWhile isGrouped)) ||
        (match Text.splitAt ':' whole with
          | first :: place :: places =>
            isDigits first && (place :: places).all isSixtieth && rest.all isGrouped
          | _ => false)

/-! ## Plain scalars -/

/-- The words for truth and falsehood. -/
def truthWords : List String :=
  ["yes", "Yes", "YES", "no", "No", "NO", "true", "True", "TRUE", "false", "False", "FALSE",
    "on", "On", "ON", "off", "Off", "OFF"]

/-- The words for nothing. -/
def nullWords : List String :=
  ["", "~", "null", "Null", "NULL"]

/-- The indicators that start other nodes; the vocabulary has a tag for them, which
denotes nothing. -/
def indicatorWords : List String :=
  ["!", "&", "*"]

/-- The tag of a plain scalar. -/
def ofPlain (text : List Char) : Tag :=
  let word := String.ofList text
  if word ∈ truthWords then .bool
  else if isFraction text then .float
  else if isInteger text then .int
  else if word = "<<" then .merge
  else if word ∈ nullWords then .null
  else if isMoment text then .timestamp
  else if word = "=" then .value
  else if word ∈ indicatorWords then .other (vocabulary ++ "yaml".toList)
  else .str

/-- The tag of a scalar that is marked as untagged: that of a plain scalar, where a line
feed at the end does not count. -/
def ofMarked (text : List Char) : Tag :=
  if text = ['\n'] then .str else ofPlain (Text.withoutFinalFeed text)

end Tag

end DocPress.Yaml
