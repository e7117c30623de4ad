import DocPress.Text.Quoted
import DocPress.Value

/-!
# The text of a value

Values inside messages are written as literals: texts between quotes, lists in
brackets, mappings in braces.

Main results:

- `display_text`: a text on its own is shown without quotes.
-/

namespace DocPress.Value

/-! ## Scalars -/

/-- A day as a literal. -/
def dateLiteral (date : Date) : String :=
  "datetime.date(" ++ toString date.year ++ ", " ++ toString date.month ++ ", " ++
    toString date.day ++ ")"

/-- A moment as a literal; seconds and microseconds that are zero are left out. -/
def momentLiteral (moment : DateTime) : String :=
  let seconds :=
    if moment.microsecond != 0 then [moment.second, moment.microsecond]
    else if moment.second != 0 then [moment.second]
    else []
  let numbers := [moment.date.year, moment.date.month, moment.date.day, moment.hour,
    moment.minute] ++ seconds
  let zone := match moment.offset with
    | Option.none => []
    | some 0 => ["tzinfo=datetime.timezone.utc"]
    | some minutes => ["tzinfo=datetime.timezone(" ++ spanText minutes ++ ")"]
  "datetime.datetime(" ++ ", ".intercalate (numbers.map toString ++ zone) ++ ")"

/-- A callable by its kind and name. -/
def callableLiteral (callable : Callable) : String :=
  if callable.typeName == "function" then "<function " ++ callable.name ++ ">"
  else "<" ++ callable.typeName ++ " object>"

/-! ## Literals -/

mutual

/-- A value as a literal. -/
def literal : Value → String
  | .none => "None"
  | .bool b => if b then "True" else "False"
  | .int n => toString n
  | .float x => String.ofList (Decimal.ofFloat x)
  | .text s => Text.quotedString s
  | .bytes b => String.ofList (Text.quotedBytes b)
  | .list items => "[" ++ ", ".intercalate (literals items) ++ "]"
  | .tuple [item] => "(" ++ literal item ++ ",)"
  | .tuple items => "(" ++ ", ".intercalate (literals items) ++ ")"
  | .set [] => "set()"
  | .set items => "\x7b" ++ ", ".intercalate (literals items) ++ "\x7d"
  | .map entries => "\x7b" ++ ", ".intercalate (entryLiterals entries) ++ "\x7d"
  | .date d => dateLiteral d
  | .dateTime moment => momentLiteral moment
  | .callable c => callableLiteral c
  | .object name => "<" ++ name ++ " object>"
  | .cycle => "\x7b...\x7d"

/-- Some values as literals. -/
def literals : List Value → List String
  | [] => []
  | item :: items => literal item :: literals items

/-- The entries of a mapping as literals. -/
def entryLiterals : List (Value × Value) → List String
  | [] => []
  | (key, value) :: entries => (literal key ++ ": " ++ literal value) :: entryLiterals entries

end

/-- A value as it is shown on its own: a text as it is, a date by its numbers,
anything else as a literal. -/
def display : Value → String
  | .text s => s
  | .date d => d.text
  | .dateTime moment => moment.text
  | value => value.literal

@[simp] theorem display_text (s : String) : display (.text s) = s := rfl

end DocPress.Value
