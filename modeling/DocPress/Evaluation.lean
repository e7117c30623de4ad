import DocPress.Failure

/-!
# Options of evaluating

Options of evaluating come in one mapping and are parted into the fields that
running needs and the options of compiling.  What running needs depends on
whether the code is compiled for development.

Main results:

- `missingField?_eq_none_iff`: nothing is missing exactly if the fields of the mode are there.
-/

namespace DocPress

/-- The names of the fields that running needs, in order. -/
def runtimeFieldNames : List String :=
  ["fragment", "jsx", "jsx_dev", "jsxs", "use_mdx_components"]

/-- The mark that tells compiled code to read components from a provider. -/
def providerMark : String :=
  "#"

/-- What running compiled code needs. -/
structure RunOptions where
  fragment : Value
  jsx : Value
  jsxDev : Value
  jsxs : Value
  useComponents : Value

namespace RunOptions

/-- The run-time fields of a mapping; absent ones are nothing. -/
def ofMapping (m : Mapping) : RunOptions where
  fragment := m.getText "fragment"
  jsx := m.getText "jsx"
  jsxDev := m.getText "jsx_dev"
  jsxs := m.getText "jsxs"
  useComponents := m.getText "use_mdx_components"

/-- The run-time fields with their names, in order. -/
def toMapping (run : RunOptions) : Mapping :=
  [(.text "fragment", run.fragment), (.text "jsx", run.jsx), (.text "jsx_dev", run.jsxDev),
    (.text "jsxs", run.jsxs), (.text "use_mdx_components", run.useComponents)]

/-- The first field that running needs and that is not there. -/
def missingField? (run : RunOptions) (development : Bool) : Option String :=
  if run.fragment.isNone then some "fragment"
  else if development then
    if run.jsxDev.isNone then some "jsx_dev" else none
  else if run.jsx.isNone then some "jsx"
  else if run.jsxs.isNone then some "jsxs"
  else none

/-- Nothing is missing exactly if the fields of the mode are there. -/
theorem missingField?_eq_none_iff {run : RunOptions} {development : Bool} :
    run.missingField? development = none ↔
      run.fragment.isNone = false ∧
        if development then run.jsxDev.isNone = false
        else run.jsx.isNone = false ∧ run.jsxs.isNone = false := by
  cases development <;> cases hf : run.fragment.isNone <;> cases hd : run.jsxDev.isNone <;>
    cases hj : run.jsx.isNone <;> cases hs : run.jsxs.isNone <;>
    simp [missingField?, hf, hd, hj, hs]

end RunOptions

/-- The two halves of options of evaluating. -/
structure Evaluation where
  compiletime : Mapping
  runtime : RunOptions

namespace Evaluation

/-- What is left of a mapping without the run-time fields and the mode. -/
def withoutRuntime (m : Mapping) : Mapping :=
  (runtimeFieldNames ++ ["development"]).foldl (fun m name => m.erase (.text name)) m

/-- The options of compiling: what is left, with the fields that evaluating
decides written over it. -/
def compileHalf (rest : Mapping) (development : Bool) (run : RunOptions) : Mapping :=
  let provider : Value := if run.useComponents.isNone then .none else .text providerMark
  ((rest.insert (.text "development") (.bool development)).insert
    (.text "output_format") (.text "function-body")).insert
    (.text "provider_import_source") provider

/-- Part a mapping of options of evaluating. -/
def ofMapping (m : Mapping) : Except Failure Evaluation :=
  let run := RunOptions.ofMapping m
  let development := (m.getText "development").isTruthy
  match run.missingField? development with
  | some field => .error (.configuration (.runtimeField field))
  | none => .ok ⟨compileHalf (withoutRuntime m) development run, run⟩

/-- Part whatever a caller gives; what does not count as true is an empty mapping. -/
def ofValue (value : Value) : Except Failure Evaluation := do
  let m ← (if value.isTruthy then value else .map []).toMapping.mapError Failure.value
  ofMapping m

end Evaluation

end DocPress
