import DocPress.Plugin
import DocPress.Value.Printer

/-!
# Sample plugins

A plugin for each thing that plugins can do: change the output, keep it, change
the document, fail, and have themselves awaited in every way.
-/

namespace DocPress.Plugin

/-! ## Building blocks -/

/-- A plugin that answers at once and leaves the document alone. -/
def pure (callable : Callable) (reply : String → Document → Except Failure Reply) : Plugin where
  callable := callable
  isCoroutine := false
  call html document := (reply html document, document)

/-- A plugin that changes the document and answers nothing. -/
def changing (callable : Callable) (change : String → Document → Document) : Plugin where
  callable := callable
  isCoroutine := false
  call html document := (.ok .nothing, change html document)

/-- A plugin whose answer has to be awaited; closing the answer does nothing. -/
def awaited (callable : Callable) (isCoroutine : Bool) (result : String → Option String) :
    Plugin where
  callable := callable
  isCoroutine := isCoroutine
  call html document :=
    (.ok (.awaitable (fun document => (.ok (result html), document))
      fun document => (.ok (), document)), document)

/-- ASCII letters in capitals. -/
def capitals (html : String) : String :=
  String.ofList (html.toList.map fun c =>
    if 'a' ≤ c && c ≤ 'z' then Char.ofNat (c.toNat - 32) else c)

/-- The output with the text of the document behind it. -/
def withText (html : String) (document : Document) : Except Failure Reply :=
  match document.text with
  | .ok value => .ok (.html (html ++ "|" ++ value.display))
  | .error fault => .error (.decoding fault)

/-- The document under another name and with other data. -/
def retagged (document : Document) : Document :=
  { document with
    data := (document.data.insert (.text "format") (.text "plugin")).insert (.text "extra")
      (.text "kept")
    path := some (Path.ofString "renamed.txt") }

/-! ## The samples -/

/-- The sample with a name; other names do nothing. -/
def sample (callable : Callable) : Plugin :=
  match callable.name with
  | "upper" => pure callable fun html _ => .ok (.html (capitals html))
  | "wrap" => pure callable fun html _ => .ok (.html ("<article>" ++ html ++ "</article>"))
  | "observe" => changing callable fun html document =>
      { document with data := document.data.insert (.text "observed") (.text html) }
  | "note" => changing callable fun html document =>
      document.note ("plugin note: " ++ toString html.toList.length)
  | "peek" => pure callable withText
  | "blank" => pure callable fun _ _ => .ok (.html "")
  | "retag" => changing callable fun _ document => retagged document
  | "explode" => pure callable fun _ _ => .error (.raised ⟨.lookup, "plugin failed"⟩)
  | "async_wrap" => awaited callable true fun html => some ("<section>" ++ html ++ "</section>")
  | "async_none" => awaited callable true fun _ => none
  | "AsyncCallable" => awaited callable false fun html => some ("<aside>" ++ html ++ "</aside>")
  | "later" => awaited callable false fun html => some ("<later>" ++ html ++ "</later>")
  | "SyncCallable" => pure callable fun html _ => .ok (.html ("[" ++ html ++ "]"))
  | _ => idle callable

end DocPress.Plugin
