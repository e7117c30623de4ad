import DocPress.Calendar
import DocPress.Decimal

/-!
# Values

Options, document fields and metadata arrive as values of unknown shape.  This
module has the type of values, their truth, their type names, their elements,
and the equality under which they serve as keys.

Main results:

- `Value.sameKey_text_iff`: as keys, texts are equal exactly if they are the same.
-/

namespace DocPress

/-! ## The type -/

/-- Something that can be called: a function, or an object of another type. -/
structure Callable where
  name : String
  typeName : String
deriving DecidableEq, Repr

/-- A value of unknown shape.  Mappings keep the order of their entries; `cycle`
stands for a container met again inside itself. -/
inductive Value where
  | none
  | bool (b : Bool)
  | int (n : Int)
  | float (x : Float)
  | text (s : String)
  | bytes (b : List UInt8)
  | list (items : List Value)
  | tuple (items : List Value)
  | set (items : List Value)
  | map (entries : List (Value × Value))
  | date (date : Date)
  | dateTime (moment : DateTime)
  | callable (callable : Callable)
  | object (typeName : String)
  | cycle
deriving Inhabited

/-- The entries of a mapping, in order. -/
abbrev Mapping := List (Value × Value)

namespace Value

/-- The name of a value's type, as messages give it. -/
def typeName : Value → String
  | .none => "NoneType"
  | .bool _ => "bool"
  | .int _ => "int"
  | .float _ => "float"
  | .text _ => "str"
  | .bytes _ => "bytes"
  | .list _ => "list"
  | .tuple _ => "tuple"
  | .set _ => "set"
  | .map _ => "dict"
  | .date _ => "date"
  | .dateTime _ => "datetime"
  | .callable c => c.typeName
  | .object name => name
  | .cycle => "dict"

/-- Whether a value counts as true: nothing, zero and what is empty do not. -/
def isTruthy : Value → Bool
  | .none => false
  | .bool b => b
  | .int n => n != 0
  | .float x => x != 0
  | .text s => s != ""
  | .bytes b => !b.isEmpty
  | .list items => !items.isEmpty
  | .tuple items => !items.isEmpty
  | .set items => !items.isEmpty
  | .map entries => !entries.isEmpty
  | _ => true

/-- Whether a value is there at all. -/
def isNone : Value → Bool
  | .none => true
  | _ => false

/-- A text value's string. -/
def text? : Value → Option String
  | .text s => some s
  | _ => Option.none

/-- The elements of a value that has some: characters, bytes, items or keys. -/
def items? : Value → Option (List Value)
  | .text s => some (s.toList.map fun c => .text (String.singleton c))
  | .bytes b => some (b.map fun byte => .int byte.toNat)
  | .list items => some items
  | .tuple items => some items
  | .set items => some items
  | .map entries => some (entries.map Prod.fst)
  | _ => Option.none

/-- The number of elements of a value that has some. -/
def size? (value : Value) : Option Nat :=
  value.items?.map List.length

/-! ## Equality as keys -/

/-- The integer that a floating-point number equals, if it equals one. -/
def integral? (x : Float) : Option Int :=
  (Binary.ofFloat x).integral?

/-- Two floating-point numbers are the same key if they have the same bits or
compare equal. -/
def sameFloat (x y : Float) : Bool :=
  x.toBits == y.toBits || x == y

mutual

/-- Equality of keys: numbers by their value across types, moments by their
instant, everything else by type and content. -/
def sameKey : Value → Value → Bool
  | .none, .none => true
  | .text a, .text b => a == b
  | .bytes a, .bytes b => a == b
  | .tuple a, .tuple b => sameKeys a b
  | .list a, .list b => sameKeys a b
  | .date a, .date b => a == b
  | .dateTime a, .dateTime b => a.same b
  | .callable a, .callable b => a == b
  | .float a, .float b => sameFloat a b
  | .bool a, .bool b => a == b
  | .int a, .int b => a == b
  | .bool a, .int b => (if a then 1 else 0) == b
  | .int a, .bool b => a == (if b then 1 else 0)
  | .bool a, .float b => integral? b == some (if a then 1 else 0)
  | .float a, .bool b => integral? a == some (if b then 1 else 0)
  | .int a, .float b => integral? b == some a
  | .float a, .int b => integral? a == some b
  | _, _ => false

/-- Item by item equality of keys. -/
def sameKeys : List Value → List Value → Bool
  | [], [] => true
  | a :: as, b :: bs => sameKey a b && sameKeys as bs
  | _, _ => false

end

/-- As keys, texts are equal exactly if they are the same. -/
@[simp] theorem sameKey_text_iff (a b : String) :
    sameKey (.text a) (.text b) = true ↔ a = b := by
  simp [sameKey]

/-- Only a text equals a text as a key. -/
theorem sameKey_text_right_iff {key : Value} {b : String} :
    sameKey key (.text b) = true ↔ key = .text b := by
  cases key <;> simp [sameKey]

mutual

/-- The type of the part of a value that keeps it from being a key, if any:
containers that can change are no keys. -/
def unhashable? : Value → Option String
  | .list _ => some "list"
  | .set _ => some "set"
  | .map _ => some "dict"
  | .cycle => some "dict"
  | .tuple items => firstUnhashable? items
  | _ => Option.none

/-- The first obstacle among some items. -/
def firstUnhashable? : List Value → Option String
  | [] => Option.none
  | item :: items => (unhashable? item).or (firstUnhashable? items)

end

end Value

end DocPress
