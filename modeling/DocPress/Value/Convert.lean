import DocPress.Value.Mapping

/-!
# Conversions between containers

A list can be made of anything with elements, and a mapping of a mapping or of
pairs; what does not fit is refused with the place and the reason.

Main results:

- `toMapping_map`: a mapping converts to itself.
-/

namespace DocPress

/-! ## Refusals -/

/-- Why a value cannot be used as asked. -/
inductive ValueFault where
  | notIterable (typeName : String)
  | pairNotSequence (index : Nat)
  | pairSize (index size : Nat)
  | unhashable (typeName : String)
  | noSize (typeName : String)
  | noTextOperation (typeName : String)
  | bytesForText
  | pathType (typeName : String)
  | pathBytes
  | pathNul
  | unknownFormat (name : String)
deriving DecidableEq, Repr

/-- The wording of a refusal. -/
def ValueFault.message : ValueFault → String
  | .notIterable typeName => "'" ++ typeName ++ "' object is not iterable"
  | .pairNotSequence index =>
    "cannot convert dictionary update sequence element #" ++ toString index ++ " to a sequence"
  | .pairSize index size =>
    "dictionary update sequence element #" ++ toString index ++ " has length " ++
      toString size ++ "; 2 is required"
  | .unhashable typeName => "unhashable type: '" ++ typeName ++ "'"
  | .noSize typeName => "object of type '" ++ typeName ++ "' has no len()"
  | .noTextOperation typeName => "'" ++ typeName ++ "' object has no attribute 'lstrip'"
  | .bytesForText => "a bytes-like object is required, not 'str'"
  | .pathType typeName => "expected str, bytes or os.PathLike object, not " ++ typeName
  | .pathBytes =>
    "argument should be a str object or an os.PathLike object returning str, " ++
      "not <class 'bytes'>"
  | .pathNul => "embedded null byte"
  | .unknownFormat name => "'" ++ name ++ "' is not a valid DocumentFormat"

namespace Value

/-! ## Lists -/

/-- The elements of a value. -/
def toList (value : Value) : Except ValueFault (List Value) :=
  match value.items? with
  | some items => .ok items
  | Option.none => .error (.notIterable value.typeName)

/-! ## Mappings -/

/-- Add the pairs among some values to a mapping, counting from an index. -/
def addPairs (index : Nat) (m : Mapping) : List Value → Except ValueFault Mapping
  | [] => .ok m
  | pair :: pairs =>
    match pair.items? with
    | Option.none => .error (.pairNotSequence index)
    | some [key, value] =>
      match key.unhashable? with
      | some typeName => .error (.unhashable typeName)
      | Option.none => addPairs (index + 1) (m.insert key value) pairs
    | some items => .error (.pairSize index items.length)

/-- The mapping that a value stands for. -/
def toMapping : Value → Except ValueFault Mapping
  | .map entries => .ok entries
  | value => value.toList >>= addPairs 0 []

@[simp] theorem toMapping_map (entries : Mapping) : toMapping (.map entries) = .ok entries := rfl

end Value

end DocPress
