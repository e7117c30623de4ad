import DocPress.Proofs.Dispatcher.Lock
import DocPress.Proofs.Dispatcher.View

/-!
# Building on record

A workshop on record keeps a ledger of its attempts at building, with the options
that each received, and stamps every processor with the number of the attempt that
gave it.  Processing keeps the stamp, so that two processors with one stamp are one
processor in two states.

Main results:

- `History.erase_run` and `Scene.erase_run`: forgetting ledger and stamps gives the
  runs and the schedules of the workshop itself.
-/

namespace DocPress

variable {φ P : Type}

/-! ## Attempts -/

/-- An attempt at building a processor: the options that it received, and whether
it gave one. -/
structure Attempt where
  options : Options
  succeeded : Bool
deriving DecidableEq, Repr

/-- Whether an attempt gave a processor of a format. -/
def Attempt.serves (format : DocumentFormat) (attempt : Attempt) : Bool :=
  attempt.succeeded && attempt.options.pinnedFormat? == some format

/-- The state of building with the attempts so far, first one first. -/
structure Ledger (φ : Type) where
  state : φ
  attempts : List Attempt := []

/-- A processor with the number of the attempt that gave it. -/
structure Stamped (P : Type) where
  serial : Nat
  processor : P

namespace Ledger

/-- The numbers of the attempts that gave a processor of a format. -/
def successes (ledger : Ledger φ) (format : DocumentFormat) : List Nat :=
  (ledger.attempts.zipIdx.filter fun entry => entry.1.serves format).map Prod.snd

/-- Write down an attempt. -/
def enter (ledger : Ledger φ) (state : φ) (attempt : Attempt) : Ledger φ :=
  ⟨state, ledger.attempts ++ [attempt]⟩

/-- An attempt counts for the formats that it serves. -/
theorem successes_enter (ledger : Ledger φ) (state : φ) (attempt : Attempt)
    (format : DocumentFormat) :
    (ledger.enter state attempt).successes format =
      ledger.successes format ++
        if attempt.serves format then [ledger.attempts.length] else [] := by
  simp only [successes, enter, List.zipIdx_append, List.filter_append, List.map_append]
  congr 1
  by_cases h : attempt.serves format <;> simp [h]

end Ledger

/-- An attempt with the format pinned serves that format alone. -/
theorem Attempt.serves_withFormat (options : Options) (succeeded : Bool)
    (format other : DocumentFormat) :
    Attempt.serves other ⟨options.withFormat format, succeeded⟩ =
      (succeeded && decide (format = other)) := by
  by_cases h : format = other <;> simp [serves, h]

/-! ## The workshop on record -/

/-- Build and process as a workshop does, keeping the ledger and the stamps. -/
def Workshop.onRecord (W : Workshop φ P) : Workshop (Ledger φ) (Stamped P) where
  build options ledger :=
    let (result, state) := W.build options ledger.state
    (result.map (⟨ledger.attempts.length, ·⟩), ledger.enter state ⟨options, result.isOk⟩)
  process mode document stamped :=
    let processed := W.process mode document stamped.processor
    ⟨processed.outcome, processed.document, ⟨stamped.serial, processed.processor⟩, processed.log⟩

namespace Workshop

/-- A failed attempt is written down as such. -/
theorem build_onRecord_of_error {W : Workshop φ P} {options : Options} {ledger : Ledger φ}
    {failure : Failure} {state : φ}
    (h : W.build options ledger.state = (.error failure, state)) :
    W.onRecord.build options ledger = (.error failure, ledger.enter state ⟨options, false⟩) := by
  simp [onRecord, h, Except.map, Except.isOk, Except.toBool]

/-- A successful attempt is written down, and its number is the stamp. -/
theorem build_onRecord_of_ok {W : Workshop φ P} {options : Options} {ledger : Ledger φ}
    {processor : P} {state : φ}
    (h : W.build options ledger.state = (.ok processor, state)) :
    W.onRecord.build options ledger =
      (.ok ⟨ledger.attempts.length, processor⟩, ledger.enter state ⟨options, true⟩) := by
  simp [onRecord, h, Except.map, Except.isOk, Except.toBool]

/-- Processing keeps the stamp. -/
@[simp] theorem serial_process_onRecord (W : Workshop φ P) (mode : Mode) (document : Document)
    (stamped : Stamped P) :
    (W.onRecord.process mode document stamped).processor.serial = stamped.serial := rfl

/-- An attempt that fails on record failed in the workshop. -/
theorem build_eq_error_of_onRecord {W : Workshop φ P} {options : Options} {ledger after : Ledger φ}
    {failure : Failure} (h : W.onRecord.build options ledger = (.error failure, after)) :
    ∃ state, W.build options ledger.state = (.error failure, state) ∧
      after = ledger.enter state ⟨options, false⟩ := by
  rcases hb : W.build options ledger.state with ⟨other | processor, state⟩
  · rw [build_onRecord_of_error hb] at h
    cases h
    exact ⟨state, rfl, rfl⟩
  · rw [build_onRecord_of_ok hb] at h
    cases h

/-- An attempt that succeeds on record succeeded in the workshop. -/
theorem build_eq_ok_of_onRecord {W : Workshop φ P} {options : Options} {ledger after : Ledger φ}
    {stamped : Stamped P} (h : W.onRecord.build options ledger = (.ok stamped, after)) :
    ∃ state, W.build options ledger.state = (.ok stamped.processor, state) ∧
      stamped.serial = ledger.attempts.length ∧ after = ledger.enter state ⟨options, true⟩ := by
  rcases hb : W.build options ledger.state with ⟨failure | processor, state⟩
  · rw [build_onRecord_of_error hb] at h
    cases h
  · rw [build_onRecord_of_ok hb] at h
    cases h
    exact ⟨state, rfl, rfl, rfl⟩

end Workshop

/-! ## Forgetting the record -/

namespace Dispatcher

/-- A dispatcher without the stamps. -/
def erase (dispatcher : Dispatcher (Stamped P)) : Dispatcher P :=
  ⟨dispatcher.options, dispatcher.md.map Stamped.processor,
    dispatcher.mdx.map Stamped.processor⟩

@[simp] theorem slot_erase (dispatcher : Dispatcher (Stamped P)) (format : DocumentFormat) :
    dispatcher.erase.slot format = (dispatcher.slot format).map Stamped.processor := by
  cases format <;> rfl

@[simp] theorem erase_fill (dispatcher : Dispatcher (Stamped P)) (format : DocumentFormat)
    (stamped : Stamped P) :
    (dispatcher.fill format stamped).erase = dispatcher.erase.fill format stamped.processor := by
  cases format <;> rfl

/-- A call without ledger and stamps. -/
def Call.erase (call : Call (Ledger φ) (Stamped P)) : Call φ P :=
  ⟨call.outcome, call.document, call.dispatcher.erase, call.state.state, call.notices⟩

end Dispatcher

/-- Without ledger and stamps, a workshop on record does what it does. -/
theorem Workshop.shows_onRecord (W : Workshop φ P) :
    W.onRecord.Shows W Stamped.processor Ledger.state where
  build_eq options ledger := by
    rcases hb : W.build options ledger.state with ⟨failure | processor, state⟩
    · rw [build_onRecord_of_error hb]
      rfl
    · rw [build_onRecord_of_ok hb]
      rfl
  process_eq mode document stamped := rfl

namespace History

/-- A history without ledger and stamps. -/
def erase (history : History (Ledger φ) (Stamped P)) : History φ P :=
  ⟨history.dispatcher.erase, history.state.state,
    history.calls.map fun entry => (entry.1, entry.2.erase)⟩

/-- On record a run does what it does without. -/
theorem erase_run (W : Workshop φ P) (history : History (Ledger φ) (Stamped P))
    (requests : List Request) :
    (history.run W.onRecord requests).erase = history.erase.run W requests :=
  map_run W.shows_onRecord history requests

end History

/-! ## Forgetting the record of threads -/

namespace Dispatcher

/-- A processor that a thread obtained, without the stamp. -/
def Obtained.erase (obtained : Obtained (Stamped P)) : Obtained P :=
  ⟨obtained.processor.processor, obtained.built⟩

/-- A step without the stamps. -/
def Step.erase : Step (Stamped P) → Step P
  | .look => .look
  | .lock => .lock
  | .lookAgain => .lookAgain
  | .build => .build
  | .store stamped => .store stamped.processor
  | .unlock outcome => .unlock (outcome.map Obtained.erase)
  | .report stamped => .report stamped.processor
  | .dispatch obtained => .dispatch obtained.erase
  | .done outcome => .done (outcome.map Obtained.erase)

/-- A thread without the stamps. -/
def Thread.erase (thread : Thread (Stamped P)) : Thread P :=
  ⟨thread.format, thread.options, thread.path, thread.step.erase⟩

namespace Scene

/-- A scene without ledger and stamps. -/
def erase (scene : Scene (Ledger φ) (Stamped P)) : Scene φ P :=
  ⟨scene.dispatcher.erase, scene.state.state, scene.holder, scene.threads.map Thread.erase,
    scene.notices⟩

@[simp] theorem erase_afterLock (outcome : Except Failure (Obtained (Stamped P))) :
    (afterLock outcome).erase = afterLock (outcome.map Obtained.erase) := by
  obtain failure | ⟨processor, _ | _⟩ := outcome <;> rfl

theorem erase_proceed (scene : Scene (Ledger φ) (Stamped P)) (place : Nat)
    (step : Step (Stamped P)) :
    (scene.proceed place step).erase = scene.erase.proceed place step.erase := by
  simp only [proceed, erase, Scene.mk.injEq, true_and, and_true]
  refine List.ext_getElem? fun other => ?_
  simp only [List.getElem?_map, List.getElem?_modify]
  by_cases h : place = other
  · cases scene.threads[other]? <;> simp [h, Thread.erase]
  · simp [h]

/-- A move on record is a move. -/
theorem move_erase {W : Workshop φ P} {scene changed : Scene (Ledger φ) (Stamped P)}
    {place : Nat} {thread : Thread (Stamped P)} {step : Step (Stamped P)}
    (h : Move W.onRecord scene place thread step changed) :
    Move W scene.erase place thread.erase step.erase changed.erase := by
  have herase := fun {found : Step (Stamped P)} (hstep : thread.step = found) =>
    (congrArg Step.erase hstep : thread.erase.step = found.erase)
  cases h with
  | find hstep hslot => exact .find (herase hstep) (by simp [erase, Thread.erase, hslot])
  | miss hstep hslot => exact .miss (herase hstep) (by simp [erase, Thread.erase, hslot])
  | enter hstep hholder => exact .enter (herase hstep) hholder
  | wait hstep hholder => exact .wait (herase hstep) hholder
  | findAgain hstep hslot =>
    exact .findAgain (herase hstep) (by simp [erase, Thread.erase, hslot])
  | missAgain hstep hslot =>
    exact .missAgain (herase hstep) (by simp [erase, Thread.erase, hslot])
  | fail hstep hbuild =>
    obtain ⟨state, hbuilt, rfl⟩ := Workshop.build_eq_error_of_onRecord hbuild
    exact .fail (herase hstep) hbuilt
  | build hstep hbuild =>
    obtain ⟨state, hbuilt, -, rfl⟩ := Workshop.build_eq_ok_of_onRecord hbuild
    exact .build (herase hstep) hbuilt
  | @store processor hstep =>
    have hfill : erase { scene with
          dispatcher := scene.dispatcher.fill thread.format processor } =
        { scene.erase with
          dispatcher := scene.erase.dispatcher.fill thread.format processor.processor } := by
      simp only [erase, erase_fill]
    rw [hfill]
    exact .store (herase hstep)
  | leave hstep =>
    rw [erase_afterLock]
    exact .leave (herase hstep)
  | report hstep => exact .report (herase hstep)
  | dispatch hstep => exact .dispatch (herase hstep)
  | rest hstep => exact .rest (herase hstep)

/-- On record a step does what it does without. -/
theorem erase_advance (W : Workshop φ P) (scene : Scene (Ledger φ) (Stamped P)) (place : Nat) :
    (scene.advance W.onRecord place).erase = scene.erase.advance W place := by
  cases ht : scene.threads[place]? with
  | none => simp [advance, erase, ht]
  | some thread =>
    obtain ⟨step, changed, hmove, hadvance⟩ := exists_move W.onRecord ht
    have herased : scene.erase.threads[place]? = some thread.erase := by simp [erase, ht]
    rw [hadvance, erase_proceed, (move_erase hmove).advance_eq herased]

/-- On record a schedule does what it does without. -/
theorem erase_run (W : Workshop φ P) (scene : Scene (Ledger φ) (Stamped P))
    (schedule : List Nat) :
    (scene.run W.onRecord schedule).erase = scene.erase.run W schedule := by
  induction schedule generalizing scene with
  | nil => rfl
  | cons place schedule ih =>
    rw [run, List.foldl_cons, ← run, ih, erase_advance]
    rfl

end Scene

end Dispatcher

end DocPress
