import DocPress.Calendar
import DocPress.ErrorKind
import DocPress.Text.Quoted

/-!
# Faults

A text is refused because it is malformed, which leaves open what it was meant
to be, or because one of its scalars denotes no value.
-/

namespace DocPress.Yaml

/-! ## Scalars that denote no value

A scalar may have the form or the tag of a number, a truth value or a date and
yet denote none.  Such a fault is no fault of the document's form. -/

/-- Why a scalar denotes no value. -/
inductive ScalarFault where
  | calendar (fault : CalendarFault)
  | integer (base : Nat) (text : String)
  | float (text : String)
  | truth (text : String)
  | emptyNumber
  | notAMoment
  | tooManyDigits (count : Nat)
  | characterRange
  | characterOverflow
  | floatOverflow
  | momentOfCollection
deriving DecidableEq, Repr

/-- The kind of error that a fault makes. -/
def ScalarFault.kind : ScalarFault → ErrorKind
  | .truth _ => .key
  | .emptyNumber => .index
  | .notAMoment => .attribute
  | .momentOfCollection => .type
  | .characterOverflow => .overflow
  | .floatOverflow => .overflow
  | _ => .value

/-- What a fault says; a text that is no number stands between quotes, of which
an integer's is cut after two hundred characters. -/
def ScalarFault.message : ScalarFault → String
  | .calendar fault => fault.message
  | .integer base text =>
    "invalid literal for int() with base " ++ toString base ++ ": " ++
      String.ofList ((Text.quoted text.toList).take 200)
  | .float text => "could not convert string to float: " ++ Text.quotedString text
  | .truth text => text
  | .emptyNumber => "string index out of range"
  | .notAMoment => "'NoneType' object has no attribute 'groupdict'"
  | .tooManyDigits count =>
    "Exceeds the limit (4300 digits) for integer string conversion: value has " ++
      toString count ++ " digits; use sys.set_int_max_str_digits() to increase the limit"
  | .characterRange => "chr() arg not in range(0x110000)"
  | .characterOverflow => "Python int too large to convert to C int"
  | .floatOverflow => "int too large to convert to float"
  | .momentOfCollection => "expected string or bytes-like object, got 'list'"

/-! ## Reading faults -/

/-- Why a text could not be read. -/
inductive ReadFault where
  | malformed
  | scalar (fault : ScalarFault)
deriving DecidableEq, Repr

/-- The outcome of a reading step. -/
abbrev Reading (α : Type) := Except ReadFault α

end DocPress.Yaml
