import DocPress.DocumentFormat
import DocPress.ErrorKind
import DocPress.Failure
import DocPress.Value.Printer

/-!
# Diagnostics

Compiling reports what it does: events that say which processor was built and
which document goes where, and records for a log.  Events have a name and a
mapping of details, and some names have a message for people.

Main results:

- `eventMessage_payload_isSome`: every event of the library has a message.
-/

namespace DocPress

/-! ## Records of a log -/

/-- How grave a record is. -/
inductive Level where
  | debug
  | info
  | warning
  | error
deriving DecidableEq, Repr

/-- The name of a level. -/
def Level.name : Level → String
  | .debug => "DEBUG"
  | .info => "INFO"
  | .warning => "WARNING"
  | .error => "ERROR"

/-- A record: where it was written, how grave it is, its message, and the kind of
the error that goes with it. -/
structure LogRecord where
  channel : String
  level : Level
  message : String
  error : Option ErrorKind := none
deriving DecidableEq, Repr

/-- The channel of diagnostics. -/
def diagnosticsChannel : String := "mdxsmith.core.diagnostics"

/-- The channel of dispatching. -/
def dispatchChannel : String := "mdxsmith.core.dispatch"

/-- The channel of processing. -/
def processorChannel : String := "mdxsmith.core.processor"

/-! ## Events -/

/-- What dispatching reports. -/
inductive Event where
  | processorCreated (format : DocumentFormat) (extensions : List String)
  | documentDispatched (format : DocumentFormat) (path : Option String) (reused : Bool)
deriving DecidableEq, Repr

namespace Event

/-- The name of an event. -/
def name : Event → String
  | .processorCreated _ _ => "processor_created"
  | .documentDispatched _ _ _ => "document_dispatched"

/-- The format that an event is about. -/
def format : Event → DocumentFormat
  | .processorCreated format _ => format
  | .documentDispatched format _ _ => format

/-- The details of an event. -/
def payload : Event → Mapping
  | .processorCreated format extensions =>
    [(.text "format", .text format.name),
      (.text "markdown_extensions", .list (extensions.map .text))]
  | .documentDispatched format path reused =>
    [(.text "format", .text format.name),
      (.text "path", (path.map Value.text).getD .none),
      (.text "reused", .bool reused)]

end Event

/-! ## Messages -/

/-- A detail as text, or a word in its place if it does not count as true. -/
def detailOr (details : Mapping) (key word : String) : String :=
  let value := details.getText key
  if value.isTruthy then value.display else word

/-- How many extensions the details list, as a note in brackets. -/
def extensionNote (details : Mapping) : Except ValueFault String :=
  let extensions := details.getText "markdown_extensions"
  if extensions.isTruthy then
    match extensions.size? with
    | some n => .ok (" (" ++ toString n ++ " markdown extensions)")
    | none => .error (.noSize extensions.typeName)
  else .ok ""

/-- The message of an event by its name and details, if it has one. -/
def eventMessage (name : String) (details : Mapping) : Except ValueFault (Option String) :=
  if name = "processor_created" then
    (extensionNote details).map fun note =>
      some ("Built " ++ detailOr details "format" "<unknown>" ++ " processor" ++ note)
  else if name = "document_dispatched" then
    .ok (some ("Compiling " ++ detailOr details "path" "<memory>" ++ " as " ++
      detailOr details "format" "<unknown>" ++
      if (details.getText "reused").isTruthy then " (cached)" else ""))
  else .ok none

/-- Every event of the library has a message. -/
theorem eventMessage_payload_isSome (event : Event) :
    ∃ message, eventMessage event.name event.payload = .ok (some message) := by
  cases event with
  | processorCreated format extensions =>
    cases extensions <;>
      simp [eventMessage, Event.name, Event.payload, extensionNote, Mapping.getText,
        Mapping.get?, Value.isTruthy, Value.size?, Value.items?, Except.map]
  | documentDispatched format path reused =>
    simp [eventMessage, Event.name]

/-! ## Emitting into a log -/

/-- The record of an event: its message for people, or else its name and details. -/
def eventRecord (channel name : String) (payload : Value) : Except ValueFault LogRecord := do
  let details ← payload.toMapping
  match ← eventMessage name details with
  | some message => return ⟨channel, .info, message, none⟩
  | none =>
    return ⟨channel, .debug,
      "diagnostic event " ++ name ++ ": " ++ (Value.map details).literal, none⟩

/-- What an emitter is handed, in the order of the run: events, and records that
go to the log whatever the emitter. -/
inductive Notice where
  | event (event : Event)
  | record (record : LogRecord)
deriving DecidableEq, Repr

namespace Notice

/-- The events among some notices. -/
def events (notices : List Notice) : List Event :=
  notices.filterMap fun
    | .event e => some e
    | .record _ => none

/-- The log of some notices when events go to the log too. -/
def log (notices : List Notice) : List LogRecord :=
  notices.filterMap fun
    | .event e => (eventRecord diagnosticsChannel e.name (.map e.payload)).toOption
    | .record r => some r

@[simp] theorem events_nil : events [] = [] := rfl

@[simp] theorem events_event_cons (event : Event) (notices : List Notice) :
    events (.event event :: notices) = event :: events notices := rfl

@[simp] theorem events_record_cons (record : LogRecord) (notices : List Notice) :
    events (.record record :: notices) = events notices := rfl

/-- Records for a log are no events. -/
@[simp] theorem events_map_record (records : List LogRecord) :
    events (records.map .record) = [] := by
  induction records with
  | nil => rfl
  | cons record records ih => rw [List.map_cons, events_record_cons, ih]

@[simp] theorem events_append (a b : List Notice) : events (a ++ b) = events a ++ events b := by
  simp [events]

end Notice

end DocPress
