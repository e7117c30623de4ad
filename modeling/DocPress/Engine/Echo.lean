import DocPress.Engine
import DocPress.Text.Search

/-!
# An engine that shows its history

Instead of converting, this engine gives the body back with the number of times
it was put back to its start.  One extension keeps it from being built, and one
word in a body keeps it from converting.

Main results:

- `engine_resets`: the engine can always be put back to its start.
-/

namespace DocPress

/-- The state: what the engine was built with, and how often it was reset. -/
structure Echo where
  setup : EngineSetup
  resets : Nat

namespace Echo

/-- Whether a body holds the word that fails. -/
def fails (body : String) : Bool :=
  Text.occursIn "!!fail".toList body.toList

/-- What a body is converted to after some resets. -/
def output (resets : Nat) (body : String) : String :=
  "<stub n=" ++ toString resets ++ ">" ++ body ++ "</stub>"

/-- The engine. -/
def engine : Engine Echo where
  build setup :=
    if setup.extensions.contains "broken" then .error ⟨.value, "stub cannot load 'broken'"⟩
    else .ok ⟨setup, 0⟩
  reset echo := (.ok (), { echo with resets := echo.resets + 1 })
  convert body echo :=
    if fails body then (.error ⟨.runtime, "stub cannot convert\nsecond line"⟩, echo)
    else (.ok (output echo.resets body), echo)

/-- The engine can always be put back to its start. -/
theorem engine_resets : engine.Resets :=
  fun _ => rfl

end Echo

end DocPress
