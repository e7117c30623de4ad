import DocPress.Document

/-!
# Plugins

A plugin is called with the output so far and the document.  It may change the
document, and it answers with a new output, with nothing, or with something that
has to be awaited.
-/

namespace DocPress

/-- What a plugin answers.  Something awaited may change the document when it is
awaited, and gives an output or nothing, or fails.  Who cannot wait for it closes it,
which may change the document too, gives nothing, and may fail as well. -/
inductive Reply where
  | nothing
  | html (html : String)
  | awaitable (await : Document → Except Failure (Option String) × Document)
      (close : Document → Except Failure Unit × Document)

/-- A plugin: what it is, whether it is declared to be awaited, and what calling
it does. -/
structure Plugin where
  callable : Callable
  isCoroutine : Bool
  call : String → Document → Except Failure Reply × Document

/-- A plugin that does nothing. -/
def Plugin.idle (callable : Callable) : Plugin where
  callable := callable
  isCoroutine := false
  call _ document := (.ok .nothing, document)

/-- How messages call a plugin: a function by its name, an object by its type. -/
def Plugin.label (plugin : Plugin) : String :=
  if plugin.callable.typeName = "function" then plugin.callable.name
  else plugin.callable.typeName

end DocPress
