import DocPress.Dispatcher

/-!
# Threads at one dispatcher

Calls on one dispatcher may run in several threads.  A thread looks for the
processor of its format without the lock; if there is none it takes the lock,
looks again, and builds one if there is still none.  A schedule names the threads
in the order in which they take their steps, so that every interleaving is a
schedule.

Main results:

- `advance_of_done`: a thread that is done changes nothing.
- `advance_of_locked`: a thread that waits for a lock held by another changes nothing.
-/

namespace DocPress.Dispatcher

variable {φ P : Type}

/-! ## Threads -/

/-- A processor that a thread obtained, and whether it built it. -/
structure Obtained (P : Type) where
  processor : P
  built : Bool

/-- What a thread does next. -/
inductive Step (P : Type) where
  /-- Look for the processor without the lock. -/
  | look
  /-- Take the lock, once it is free. -/
  | lock
  /-- Look for the processor with the lock. -/
  | lookAgain
  /-- Build a processor with the lock. -/
  | build
  /-- Put the processor into its slot with the lock. -/
  | store (processor : P)
  /-- Give the lock back. -/
  | unlock (outcome : Except Failure (Obtained P))
  /-- Report the processor that was built. -/
  | report (processor : P)
  /-- Report where the document goes. -/
  | dispatch (obtained : Obtained P)
  /-- Nothing. -/
  | done (outcome : Except Failure (Obtained P))

/-- A thread: the format that its document turned out to have, the options for
building, the path of the document, and its next step. -/
structure Thread (P : Type) where
  format : DocumentFormat
  options : Options
  path : Option Path
  step : Step P := .look

/-- A shared dispatcher with the state of building, the thread that holds the
lock, the threads, and what was reported so far. -/
structure Scene (φ P : Type) where
  dispatcher : Dispatcher P
  state : φ
  holder : Option Nat := none
  threads : List (Thread P)
  notices : List Notice := []

namespace Scene

/-! ## Steps -/

/-- Set the next step of a thread. -/
def proceed (scene : Scene φ P) (place : Nat) (step : Step P) : Scene φ P :=
  { scene with threads := scene.threads.modify place fun thread => { thread with step } }

/-- The step behind the lock. -/
def afterLock : Except Failure (Obtained P) → Step P
  | .error failure => .done (.error failure)
  | .ok ⟨processor, true⟩ => .report processor
  | .ok ⟨processor, false⟩ => .dispatch ⟨processor, false⟩

/-- What a thread reports when its document goes to a processor. -/
def dispatched (thread : Thread P) (obtained : Obtained P) : Notice :=
  .event (.documentDispatched thread.format (thread.path.map Path.toString) !obtained.built)

/-- Take a step of a thread at a place. -/
def take (W : Workshop φ P) (scene : Scene φ P) (place : Nat) (thread : Thread P) : Scene φ P :=
  match thread.step with
  | .look =>
    match scene.dispatcher.slot thread.format with
    | some processor => scene.proceed place (.dispatch ⟨processor, false⟩)
    | none => scene.proceed place .lock
  | .lock =>
    if scene.holder.isNone then
      { scene with holder := some place }.proceed place .lookAgain
    else scene
  | .lookAgain =>
    match scene.dispatcher.slot thread.format with
    | some processor => scene.proceed place (.unlock (.ok ⟨processor, false⟩))
    | none => scene.proceed place .build
  | .build =>
    match W.build thread.options scene.state with
    | (.error failure, state) =>
      { scene with state }.proceed place (.unlock (.error failure))
    | (.ok processor, state) => { scene with state }.proceed place (.store processor)
  | .store processor =>
    { scene with dispatcher := scene.dispatcher.fill thread.format processor }.proceed place
      (.unlock (.ok ⟨processor, true⟩))
  | .unlock outcome => { scene with holder := none }.proceed place (afterLock outcome)
  | .report processor =>
    { scene with
      notices := scene.notices ++ buildNotices thread.format thread.options }.proceed place
      (.dispatch ⟨processor, true⟩)
  | .dispatch obtained =>
    { scene with notices := scene.notices ++ [dispatched thread obtained] }.proceed place
      (.done (.ok obtained))
  | .done _ => scene

/-- Let the thread at a place take its next step. -/
def advance (W : Workshop φ P) (scene : Scene φ P) (place : Nat) : Scene φ P :=
  match scene.threads[place]? with
  | some thread => scene.take W place thread
  | none => scene

/-- Let threads take steps as a schedule says. -/
def run (W : Workshop φ P) (scene : Scene φ P) (schedule : List Nat) : Scene φ P :=
  schedule.foldl (advance W) scene

/-- A thread that is done changes nothing. -/
theorem advance_of_done (W : Workshop φ P) {scene : Scene φ P} {place : Nat} {thread : Thread P}
    {outcome : Except Failure (Obtained P)} (ht : scene.threads[place]? = some thread)
    (hd : thread.step = .done outcome) : scene.advance W place = scene := by
  simp [advance, take, ht, hd]

/-- A thread that waits for a lock held by another changes nothing. -/
theorem advance_of_locked (W : Workshop φ P) {scene : Scene φ P} {place : Nat}
    {thread : Thread P} (ht : scene.threads[place]? = some thread)
    (hl : thread.step = .lock) (hh : scene.holder.isSome) : scene.advance W place = scene := by
  cases h : scene.holder with
  | none => simp [h] at hh
  | some holder => simp [advance, take, ht, hl, h]

/-! ## Turns -/

/-- The number of steps from the first look to the end. -/
def stepCount : Nat := 9

/-- The schedule in which threads take turns until all are done: in every round
the thread that holds the lock, or else each that can go on, takes a step. -/
def turns (count : Nat) : List Nat :=
  (List.range (stepCount * count)).flatMap fun _ => List.range count

end Scene

/-! ## Races -/

/-- A call in a race: its document, the format and the options for building. -/
structure Racer where
  document : Document
  format : DocumentFormat
  options : Options

/-- The call that a document asks for. -/
def racer (dispatcher : Dispatcher P) (input : Document.Input) : Except Failure Racer := do
  let resolved ← Document.resolve input (.existing dispatcher.options)
  match resolved.options.pinnedFormat? with
  | some format => return ⟨resolved.document, format, resolved.options⟩
  | none => throw (.unresolvedFormat none)

/-- What a race leaves behind: how each call ended, the dispatcher, the state of
building, and what was reported. -/
structure Race (φ P : Type) where
  outcomes : List (Except Failure Document)
  dispatcher : Dispatcher P
  state : φ
  notices : List Notice

/-- Process the document of a call whose thread is done. -/
def Race.finish (W : Workshop φ P) (race : Race φ P) (racer : Racer)
    (outcome : Except Failure (Obtained P)) : Race φ P :=
  match outcome with
  | .error failure => { race with outcomes := race.outcomes ++ [.error failure] }
  | .ok obtained =>
    let processor := (race.dispatcher.slot racer.format).getD obtained.processor
    let processed := W.process .synchronous racer.document processor
    { race with
      outcomes := race.outcomes ++ [processed.outcome.map fun _ => processed.document]
      dispatcher := race.dispatcher.fill racer.format processed.processor
      notices := race.notices ++ processed.log.map .record }

/-- Run calls at the same time: their threads take turns until each has its
processor, and then the documents are processed. -/
def race (W : Workshop φ P) (inputs : List Document.Input) (dispatcher : Dispatcher P)
    (state : φ) : Race φ P :=
  let calls := inputs.map dispatcher.racer
  let racers := calls.filterMap Except.toOption
  let threads := racers.map fun r => (⟨r.format, r.options, r.document.path, .look⟩ : Thread P)
  let scene : Scene φ P := { dispatcher, state, threads }
  let scene := scene.run W (Scene.turns threads.length)
  let refused := calls.filterMap fun
    | .error failure => some (.error failure)
    | .ok _ => none
  let start : Race φ P := ⟨refused, scene.dispatcher, scene.state, scene.notices⟩
  (racers.zip scene.threads).foldl (fun race (racer, thread) =>
    match thread.step with
    | .done outcome => race.finish W racer outcome
    | _ => race) start

end DocPress.Dispatcher
