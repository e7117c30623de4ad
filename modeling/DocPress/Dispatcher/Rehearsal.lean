import DocPress.Dispatcher

/-!
# Workshops for rehearsals

A workshop that counts its attempts, keeps the options of each, and refuses the
first few.  What it builds is a processor, or a stand-in that writes the format
in front of the document's text, or one that always fails.
-/

namespace DocPress

/-- What a rehearsal builds. -/
inductive StandIn where
  | genuine
  | labelling
  | failing
deriving DecidableEq, Repr

/-- A processor or a stand-in for one. -/
inductive Worker (σ : Type) where
  | genuine (processor : Processor σ)
  | labelling (format : String)
  | failing

/-- The attempts so far: their number, and the options of each, latest first. -/
structure Attempts where
  count : Nat := 0
  received : List Options := []

namespace Worker

variable {σ : Type}

/-- Write the format in front of the document's text. -/
def labelled (format : String) (document : Document) : Except Failure Document :=
  match document.text with
  | .ok value => .ok { document with value := .text (format ++ ":" ++ value.display) }
  | .error fault => .error (.decoding fault)

/-- Run a worker. -/
def process (E : Engine σ) (mode : Mode) (document : Document) :
    Worker σ → Processed (Worker σ)
  | .genuine processor =>
    let processed := processor.process E mode document
    ⟨processed.outcome, processed.document, .genuine processed.processor, processed.log⟩
  | .labelling format =>
    match labelled format document with
    | .ok document => ⟨.ok (), document, .labelling format, []⟩
    | .error failure => ⟨.error failure, document, .labelling format, []⟩
  | .failing => ⟨.error (.raised ⟨.processing, "transform failed"⟩), document, .failing, []⟩

end Worker

namespace Attempts

variable {σ : Type}

/-- Count an attempt. -/
def add (attempts : Attempts) (options : Options) : Attempts :=
  ⟨attempts.count + 1, options :: attempts.received⟩

/-- Build what a rehearsal asks for. -/
def worker (E : Engine σ) (plugins : Callable → Plugin) (standIn : StandIn) (options : Options) :
    Except Failure (Worker σ) :=
  match standIn with
  | .genuine => (Processor.create E plugins options).map .genuine
  | .labelling =>
    .ok (.labelling ((options.format.map FormatChoice.name).getD "None"))
  | .failing => .ok .failing

/-- Build at an attempt, the first ones failing. -/
def build (E : Engine σ) (plugins : Callable → Plugin) (standIn : StandIn) (failures : Nat)
    (options : Options) (attempts : Attempts) : Except Failure (Worker σ) × Attempts :=
  let attempts := attempts.add options
  if attempts.count ≤ failures then
    (.error (.raised ⟨.construction, "build " ++ toString attempts.count ++ " fails"⟩), attempts)
  else (worker E plugins standIn options, attempts)

end Attempts

/-- The workshop of a rehearsal. -/
def Workshop.rehearsal {σ : Type} (E : Engine σ) (plugins : Callable → Plugin)
    (standIn : StandIn) (failures : Nat) : Workshop Attempts (Worker σ) where
  build := Attempts.build E plugins standIn failures
  process mode document worker := worker.process E mode document

end DocPress
