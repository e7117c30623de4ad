import DocPress.Proofs.Dispatcher.Ledger

/-!
# Interleaved calls

Calls on a new dispatcher, one thread for each document, under any schedule.  A
chronicle writes down what every step of every thread adds to the attempts at
building and to the events, so that each attempt and each event has the thread that
is its author.

Main results:

- `faithful_advance`: a thread is the author of an attempt or of an event exactly if
  it has come so far.
- `interleaving_law`: whatever the schedule, one thread at most builds a processor
  for a format, it alone reports so, and every thread gets that processor.
-/

namespace DocPress

variable {φ P : Type}

/-- Whether an event says that the processor of a format was created. -/
def Event.creates (format : DocumentFormat) : Event → Bool
  | .processorCreated found _ => found == format
  | .documentDispatched _ _ _ => false

/-- Whether an event says that a document went to a processor of a format that was
not there before. -/
def Event.opens (format : DocumentFormat) : Event → Bool
  | .processorCreated _ _ => false
  | .documentDispatched found _ reused => found == format && !reused

namespace Dispatcher

/-! ## Milestones -/

/-- What only a thread comes to that builds a processor. -/
inductive Milestone where
  /-- Its attempt succeeded. -/
  | built
  /-- It has reported the new processor. -/
  | reported
  /-- It has reported its document as the first one. -/
  | opened
deriving DecidableEq, Repr

/-- Whether a thread has come to a milestone. -/
def Step.reached : Milestone → Step P → Bool
  | .built, step => step.built
  | .reported, .dispatch obtained => obtained.built
  | _, .done (.ok obtained) => obtained.built
  | _, _ => false

/-- A thread that is done has come to every milestone if it has come to one. -/
theorem Step.reached_done (outcome : Except Failure (Obtained P)) (milestone : Milestone) :
    (Step.done outcome).reached milestone = (Step.done outcome).built := by
  obtain failure | ⟨processor, built⟩ := outcome <;> cases milestone <;> rfl

/-- Every milestone comes after the attempt that succeeded. -/
theorem Step.built_of_reached {step : Step P} {milestone : Milestone}
    (h : step.reached milestone) : step.built := by
  cases step with
  | dispatch obtained =>
    cases milestone with
    | built | reported => exact h
    | opened => cases h
  | done outcome => rwa [← reached_done outcome milestone]
  | _ =>
    cases milestone with
    | built => exact h
    | reported | opened => cases h

@[simp] theorem Scene.reached_afterLock (outcome : Except Failure (Obtained P))
    (milestone : Milestone) :
    (afterLock outcome).reached milestone = (Step.unlock outcome).reached milestone := by
  obtain failure | ⟨processor, _ | _⟩ := outcome <;> cases milestone <;> rfl

/-- What a thread has contributed to a milestone of a format. -/
def Thread.share (format : DocumentFormat) (milestone : Milestone) (thread : Thread P) : Nat :=
  if thread.format = format ∧ thread.step.reached milestone then 1 else 0

namespace Scene

/-- What the thread at a place has contributed to a milestone of a format. -/
def share (scene : Scene φ P) (format : DocumentFormat) (milestone : Milestone) (place : Nat) :
    Nat :=
  match scene.threads[place]? with
  | some thread => thread.share format milestone
  | none => 0

theorem share_of_thread {scene : Scene φ P} {place : Nat} {thread : Thread P}
    (ht : scene.threads[place]? = some thread) (format : DocumentFormat)
    (milestone : Milestone) :
    scene.share format milestone place = thread.share format milestone := by
  rw [share, ht]

/-- Going on to the next step changes the share of the thread that does. -/
theorem share_proceed {scene : Scene φ P} {place : Nat} {thread : Thread P}
    (ht : scene.threads[place]? = some thread) (step : Step P) (format : DocumentFormat)
    (milestone : Milestone) (other : Nat) :
    (scene.proceed place step).share format milestone other =
      if place = other then ({ thread with step } : Thread P).share format milestone
      else scene.share format milestone other := by
  by_cases h : place = other
  · subst h
    simp [share, proceed, ht]
  · simp [share, proceed, h]

end Scene

/-! ## Chronicles -/

/-- What a step of a thread added: attempts at building, and events. -/
structure Deed where
  place : Nat
  attempts : List Attempt
  events : List Event

/-- How often a step came to a milestone of a format. -/
def Deed.count (format : DocumentFormat) (deed : Deed) : Milestone → Nat
  | .built => deed.attempts.countP (Attempt.serves format)
  | .reported => deed.events.countP (Event.creates format)
  | .opened => deed.events.countP (Event.opens format)

/-- A scene on record with the deeds that led to it, first one first. -/
structure Chronicle (φ P : Type) where
  scene : Scene (Ledger φ) (Stamped P)
  deeds : List Deed := []

namespace Chronicle

/-- What a step made of a scene. -/
def deed (before after : Scene (Ledger φ) (Stamped P)) (place : Nat) : Deed :=
  ⟨place, after.state.attempts.drop before.state.attempts.length,
    Notice.events (after.notices.drop before.notices.length)⟩

/-- Let the thread at a place take its next step, and write it down. -/
def advance (W : Workshop φ P) (chronicle : Chronicle φ P) (place : Nat) : Chronicle φ P :=
  let after := chronicle.scene.advance W.onRecord place
  ⟨after, chronicle.deeds ++ [deed chronicle.scene after place]⟩

/-- Let threads take steps as a schedule says. -/
def run (W : Workshop φ P) (chronicle : Chronicle φ P) (schedule : List Nat) :
    Chronicle φ P :=
  schedule.foldl (advance W) chronicle

/-- The threads that came to a milestone of a format, as often as they did. -/
def authors (chronicle : Chronicle φ P) (format : DocumentFormat) (milestone : Milestone) :
    List Nat :=
  chronicle.deeds.flatMap fun deed => List.replicate (deed.count format milestone) deed.place

@[simp] theorem run_nil (W : Workshop φ P) (chronicle : Chronicle φ P) :
    chronicle.run W [] = chronicle := rfl

@[simp] theorem run_cons (W : Workshop φ P) (chronicle : Chronicle φ P) (place : Nat)
    (schedule : List Nat) :
    chronicle.run W (place :: schedule) = (chronicle.advance W place).run W schedule := rfl

@[simp] theorem run_append (W : Workshop φ P) (chronicle : Chronicle φ P)
    (earlier later : List Nat) :
    chronicle.run W (earlier ++ later) = (chronicle.run W earlier).run W later := by
  simp [run]

/-- What one step keeps, a schedule keeps. -/
theorem run_induction {W : Workshop φ P} (Holds : Chronicle φ P → Prop)
    (step : ∀ chronicle place, Holds chronicle → Holds (chronicle.advance W place))
    {chronicle : Chronicle φ P} (start : Holds chronicle) (schedule : List Nat) :
    Holds (chronicle.run W schedule) := by
  induction schedule generalizing chronicle with
  | nil => exact start
  | cons place schedule ih => exact ih (step chronicle place start)

/-- A chronicle tells the scene that the schedule leads to. -/
theorem scene_run (W : Workshop φ P) (chronicle : Chronicle φ P) (schedule : List Nat) :
    (chronicle.run W schedule).scene = chronicle.scene.run W.onRecord schedule := by
  induction schedule generalizing chronicle with
  | nil => rfl
  | cons place schedule ih =>
    rw [run_cons, ih]
    rfl

/-! ## Deeds and milestones -/

section Moves

variable {W : Workshop φ P} {scene changed : Scene (Ledger φ) (Stamped P)} {place : Nat}
  {thread : Thread (Stamped P)} {step : Step (Stamped P)}

/-- A move that adds no attempt and no notice, and after which the thread has come
as far as before. -/
theorem count_quiet (h : ∀ milestone, step.reached milestone = thread.step.reached milestone)
    (format : DocumentFormat) (milestone : Milestone) :
    (⟨place, [], []⟩ : Deed).count format milestone + thread.share format milestone =
      ({ thread with step } : Thread (Stamped P)).share format milestone := by
  have hzero : (⟨place, [], []⟩ : Deed).count format milestone = 0 := by
    cases milestone <;> rfl
  rw [hzero, Nat.zero_add, Thread.share, Thread.share, h]

/-- What a move adds, and that it comes to the milestones that the thread comes to. -/
theorem count_of_move {options : Options}
    (ho : thread.options = options.withFormat thread.format)
    (hm : Scene.Move W.onRecord scene place thread step changed) :
    ∃ attempts notices, changed.state.attempts = scene.state.attempts ++ attempts ∧
      changed.notices = scene.notices ++ notices ∧ ∀ format milestone,
        (⟨place, attempts, Notice.events notices⟩ : Deed).count format milestone +
            thread.share format milestone =
          ({ thread with step } : Thread (Stamped P)).share format milestone := by
  cases hm with
  | find hstep | miss hstep | enter hstep | findAgain hstep | missAgain hstep | store hstep =>
    refine ⟨[], [], (List.append_nil _).symm, (List.append_nil _).symm, count_quiet ?_⟩
    intro milestone
    rw [hstep]
    cases milestone <;> rfl
  | leave hstep =>
    refine ⟨[], [], (List.append_nil _).symm, (List.append_nil _).symm, count_quiet ?_⟩
    intro milestone
    rw [hstep, Scene.reached_afterLock]
  | wait hstep | rest hstep =>
    refine ⟨[], [], (List.append_nil _).symm, (List.append_nil _).symm, count_quiet ?_⟩
    intro milestone
    rw [hstep]
  | fail hstep hbuild =>
    obtain ⟨state, -, rfl⟩ := Workshop.build_eq_error_of_onRecord hbuild
    refine ⟨[⟨thread.options, false⟩], [], rfl, (List.append_nil _).symm, ?_⟩
    intro format milestone
    cases milestone <;> simp [Deed.count, Thread.share, hstep, Step.reached, Step.built,
      Attempt.serves]
  | build hstep hbuild =>
    obtain ⟨state, -, -, rfl⟩ := Workshop.build_eq_ok_of_onRecord hbuild
    refine ⟨[⟨thread.options, true⟩], [], rfl, (List.append_nil _).symm, ?_⟩
    intro format milestone
    cases milestone <;> simp [Deed.count, Thread.share, hstep, Step.reached, Step.built,
      ho, Attempt.serves_withFormat, List.countP_cons]
  | report hstep =>
    refine ⟨[], _, (List.append_nil _).symm, rfl, ?_⟩
    intro format milestone
    cases milestone <;> simp [Deed.count, Thread.share, hstep, Step.reached, Step.built,
      Event.creates, Event.opens, List.countP_cons]
  | @dispatch obtained hstep =>
    refine ⟨[], _, (List.append_nil _).symm, rfl, ?_⟩
    intro format milestone
    obtain ⟨processor, _ | _⟩ := obtained <;>
      cases milestone <;> simp [Deed.count, Thread.share, hstep, Step.reached, Step.built,
        Scene.dispatched, Event.creates, Event.opens, List.countP_cons]

end Moves

/-! ## Faithful chronicles -/

/-- What holds of a chronicle all the time. -/
structure Faithful (options : Options) (chronicle : Chronicle φ P) : Prop where
  /-- The lock is in order. -/
  orderly : chronicle.scene.Orderly
  /-- Every thread builds with the base options, its format pinned. -/
  options_eq : ∀ (place : Nat) (thread : Thread (Stamped P)),
    chronicle.scene.threads[place]? = some thread →
      thread.options = options.withFormat thread.format
  /-- The deeds tell all attempts. -/
  attempts_eq : chronicle.deeds.flatMap Deed.attempts = chronicle.scene.state.attempts
  /-- The deeds tell all events. -/
  events_eq : chronicle.deeds.flatMap Deed.events = Notice.events chronicle.scene.notices
  /-- The authors of a milestone are the threads that have come to it, once each. -/
  count_authors : ∀ format milestone place,
    (chronicle.authors format milestone).count place = chronicle.scene.share format milestone place

/-- One more deed makes its thread an author as often as it came to the milestone. -/
theorem count_authors_concat (chronicle : Chronicle φ P)
    (after : Scene (Ledger φ) (Stamped P)) (deed : Deed) (format : DocumentFormat)
    (milestone : Milestone) (place : Nat) :
    (authors ⟨after, chronicle.deeds ++ [deed]⟩ format milestone).count place =
      (chronicle.authors format milestone).count place +
        if deed.place = place then deed.count format milestone else 0 := by
  simp [authors, List.count_replicate]

/-- A step that adds attempts and notices is written down with them. -/
theorem deed_eq {before after : Scene (Ledger φ) (Stamped P)} {attempts : List Attempt}
    {notices : List Notice} (ha : after.state.attempts = before.state.attempts ++ attempts)
    (hn : after.notices = before.notices ++ notices) (place : Nat) :
    deed before after place = ⟨place, attempts, Notice.events notices⟩ := by
  rw [deed, ha, hn, List.drop_left, List.drop_left]

/-- A thread's move, written down with what it added, keeps a chronicle faithful. -/
theorem faithful_of_move {W : Workshop φ P} {options : Options} {chronicle : Chronicle φ P}
    (h : Faithful options chronicle) {changed : Scene (Ledger φ) (Stamped P)} {place : Nat}
    {thread : Thread (Stamped P)} {step : Step (Stamped P)}
    (ht : chronicle.scene.threads[place]? = some thread)
    (hm : Scene.Move W.onRecord chronicle.scene place thread step changed) :
    Faithful options ⟨changed.proceed place step,
      chronicle.deeds ++ [deed chronicle.scene (changed.proceed place step) place]⟩ := by
  have hthreads := Scene.threads_of_move hm
  have hplace : changed.threads[place]? = some thread := by rwa [hthreads]
  obtain ⟨attempts, notices, hattempts, hnotices, hcount⟩ :=
    count_of_move (h.options_eq place thread ht) hm
  have hdeed : deed chronicle.scene (changed.proceed place step) place =
      ⟨place, attempts, Notice.events notices⟩ := deed_eq hattempts hnotices place
  rw [hdeed]
  constructor
  case orderly => exact Scene.orderly_of_move h.orderly ht hm
  case options_eq =>
    intro other after ha
    rcases Scene.thread_of_proceed hplace ha with ⟨rfl, rfl⟩ | ⟨-, hother⟩
    · exact h.options_eq other thread ht
    · rw [hthreads] at hother
      exact h.options_eq other after hother
  case attempts_eq =>
    rw [List.flatMap_append, h.attempts_eq]
    change _ = changed.state.attempts
    rw [hattempts]
    simp
  case events_eq =>
    rw [List.flatMap_append, h.events_eq]
    change _ = Notice.events changed.notices
    rw [hnotices]
    simp
  case count_authors =>
    intro format milestone other
    rw [count_authors_concat, h.count_authors, Scene.share_proceed hplace]
    by_cases he : place = other
    · subst he
      rw [if_pos rfl, if_pos rfl, Scene.share_of_thread ht, Nat.add_comm]
      exact hcount format milestone
    · rw [if_neg he, if_neg he, Nat.add_zero, Scene.share, Scene.share, hthreads]

/-- Every step keeps a chronicle faithful. -/
theorem faithful_advance (W : Workshop φ P) {options : Options} {chronicle : Chronicle φ P}
    (h : Faithful options chronicle) (place : Nat) :
    Faithful options (chronicle.advance W place) := by
  cases ht : chronicle.scene.threads[place]? with
  | some thread =>
    obtain ⟨step, changed, hmove, hadvance⟩ := Scene.exists_move W.onRecord ht
    rw [advance, hadvance]
    exact faithful_of_move h ht hmove
  | none =>
    -- There is no such thread, and the deed is empty.
    have hsame : chronicle.scene.advance W.onRecord place = chronicle.scene := by
      rw [Scene.advance, ht]
    have hdeed : deed chronicle.scene chronicle.scene place = ⟨place, [], []⟩ :=
      deed_eq (List.append_nil _).symm (List.append_nil _).symm place
    rw [advance, hsame, hdeed]
    refine ⟨h.orderly, h.options_eq, ?_, ?_, ?_⟩
    · rw [List.flatMap_append, h.attempts_eq]
      simp
    · rw [List.flatMap_append, h.events_eq]
      simp
    · intro format milestone other
      rw [count_authors_concat, h.count_authors]
      cases milestone <;> simp [Deed.count]

end Chronicle

/-! ## Opening -/

/-- The thread of a call: about to look for the processor of its format. -/
def Racer.thread (racer : Racer) : Thread P :=
  ⟨racer.format, racer.options, racer.document.path, .look⟩

/-- A new dispatcher, and a thread for each document that can be resolved. -/
def Scene.opening (options : Options) (state : φ) (inputs : List Document.Input) :
    Scene φ P where
  dispatcher := { options }
  state := state
  threads := ((inputs.map (racer ({ options } : Dispatcher P))).filterMap Except.toOption).map
    Racer.thread

theorem Scene.erase_opening (options : Options) (ledger : Ledger φ)
    (inputs : List Document.Input) :
    (opening options ledger inputs : Scene (Ledger φ) (Stamped P)).erase =
      opening options ledger.state inputs := by
  simp only [erase, opening, List.map_map]
  rfl

/-- A call goes to a thread with the base options, the format of the document pinned. -/
theorem options_of_racer {dispatcher : Dispatcher P} {input : Document.Input} {call : Racer}
    (h : racer dispatcher input = .ok call) :
    call.options = dispatcher.options.withFormat call.format := by
  cases hr : Document.resolve input (.existing dispatcher.options) with
  | error failure => simp [racer, hr, bind, Except.bind] at h
  | ok resolved =>
    obtain ⟨document, pinned⟩ := resolved
    obtain ⟨format, -, rfl⟩ := Document.options_of_resolve hr
    simp only [racer, hr, bind, Except.bind, Options.pinnedFormat?_withFormat, pure,
      Except.pure, Except.ok.injEq] at h
    rw [← h]

/-- The threads of a new scene have not done anything yet. -/
theorem Scene.thread_of_opening {options : Options} {state : φ} {inputs : List Document.Input}
    {thread : Thread P} (h : thread ∈ (opening options state inputs : Scene φ P).threads) :
    thread.step = .look ∧ thread.options = options.withFormat thread.format := by
  obtain ⟨call, hcall, rfl⟩ := List.mem_map.1 h
  obtain ⟨result, hresult, hok⟩ := List.mem_filterMap.1 hcall
  obtain ⟨input, -, rfl⟩ := List.mem_map.1 hresult
  cases hr : racer ({ options } : Dispatcher P) input with
  | error failure =>
    rw [hr] at hok
    cases hok
  | ok found =>
    rw [hr] at hok
    obtain rfl := Option.some.inj hok
    exact ⟨rfl, options_of_racer hr⟩

/-- The lock is in order at the start. -/
theorem Scene.orderly_opening (options : Options) (state : φ) (inputs : List Document.Input) :
    (opening options state inputs : Scene φ P).Orderly := by
  have hlook : ∀ (place : Nat) (thread : Thread P),
      (opening options state inputs : Scene φ P).threads[place]? = some thread →
        thread.step = .look :=
    fun place thread ht => (thread_of_opening (List.mem_of_getElem? ht)).1
  constructor
  case holder_eq =>
    intro place thread ht hin
    rw [hlook place thread ht] at hin
    cases hin
  case slot_vacant =>
    intro place thread ht hv
    rw [hlook place thread ht] at hv
    cases hv
  case slot_held =>
    intro place thread processor ht hp
    rw [hlook place thread ht] at hp
    cases hp
  case builder =>
    intro format processor hslot
    cases format <;> cases hslot
  case builder_unique =>
    intro place other thread rival ht hr hf hb hrb
    rw [hlook place thread ht] at hb
    cases hb

namespace Chronicle

/-- The chronicle of a new dispatcher. -/
def opening (options : Options) (state : φ) (inputs : List Document.Input) :
    Chronicle φ P where
  scene := .opening options ⟨state, []⟩ inputs

theorem faithful_opening (options : Options) (state : φ) (inputs : List Document.Input) :
    Faithful options (opening options state inputs : Chronicle φ P) where
  orderly := Scene.orderly_opening options _ inputs
  options_eq place thread ht := (Scene.thread_of_opening (List.mem_of_getElem? ht)).2
  attempts_eq := rfl
  events_eq := rfl
  count_authors format milestone place := by
    cases ht : (opening options state inputs : Chronicle φ P).scene.threads[place]? with
    | none =>
      rw [Scene.share, ht]
      rfl
    | some thread =>
      have hlook := (Scene.thread_of_opening (List.mem_of_getElem? ht)).1
      rw [Scene.share_of_thread ht, Thread.share, hlook]
      cases milestone <;> simp [authors, opening, Step.reached, Step.built]

/-- Every schedule keeps the chronicle of a new dispatcher faithful. -/
theorem faithful_run (W : Workshop φ P) (options : Options) (state : φ)
    (inputs : List Document.Input) (schedule : List Nat) :
    Faithful options ((opening options state inputs).run W schedule) :=
  run_induction (Faithful options) (fun _ place h => faithful_advance W h place)
    (faithful_opening options state inputs) schedule

/-! ## The author of a milestone -/

section Authors

variable {options : Options} {chronicle : Chronicle φ P} {format : DocumentFormat}
  {milestone : Milestone} {place : Nat}

/-- The authors of a milestone are the threads that have come to it. -/
theorem mem_authors_iff (h : Faithful options chronicle) :
    place ∈ chronicle.authors format milestone ↔
      ∃ thread, chronicle.scene.threads[place]? = some thread ∧ thread.format = format ∧
        thread.step.reached milestone := by
  rw [← List.count_pos_iff, h.count_authors]
  cases ht : chronicle.scene.threads[place]? with
  | none => simp [Scene.share, ht]
  | some thread =>
    rw [Scene.share_of_thread ht, Thread.share]
    by_cases hr : thread.format = format ∧ thread.step.reached milestone
    · simp [hr]
    · simp [hr]

/-- A milestone of a format has one author at most, and comes once. -/
theorem authors_eq_of_mem (h : Faithful options chronicle)
    (hp : place ∈ chronicle.authors format milestone) :
    chronicle.authors format milestone = [place] := by
  obtain ⟨thread, ht, hf, hr⟩ := (mem_authors_iff h).1 hp
  have hsame : ∀ other ∈ chronicle.authors format milestone, other = place := by
    intro other hother
    obtain ⟨rival, hrival, hrf, hrr⟩ := (mem_authors_iff h).1 hother
    exact h.orderly.builder_unique other place rival thread hrival ht (hrf.trans hf.symm)
      (Step.built_of_reached hrr) (Step.built_of_reached hr)
  have hcount : (chronicle.authors format milestone).count place = 1 := by
    rw [h.count_authors, Scene.share_of_thread ht, Thread.share, if_pos ⟨hf, hr⟩]
  have hlength : (chronicle.authors format milestone).length = 1 := by
    rw [← hcount, eq_comm, List.count_eq_length]
    exact fun other hother => (hsame other hother).symm
  rw [List.eq_replicate_of_mem hsame, hlength]
  rfl

theorem length_authors_le_one (h : Faithful options chronicle) (format : DocumentFormat)
    (milestone : Milestone) : (chronicle.authors format milestone).length ≤ 1 := by
  by_cases hnil : chronicle.authors format milestone = []
  · rw [hnil]
    exact Nat.zero_le 1
  · obtain ⟨place, hp⟩ := List.exists_mem_of_ne_nil _ hnil
    rw [authors_eq_of_mem h hp]
    exact Nat.le_refl 1

/-- Only the thread that built a processor comes to the other milestones. -/
theorem authors_eq (h : Faithful options chronicle) (format : DocumentFormat)
    (milestone : Milestone) :
    chronicle.authors format milestone = [] ∨
      chronicle.authors format milestone = chronicle.authors format .built := by
  by_cases hnil : chronicle.authors format milestone = []
  · exact .inl hnil
  · right
    obtain ⟨place, hp⟩ := List.exists_mem_of_ne_nil _ hnil
    obtain ⟨thread, ht, hf, hr⟩ := (mem_authors_iff h).1 hp
    have hbuilt : place ∈ chronicle.authors format .built :=
      (mem_authors_iff h).2 ⟨thread, ht, hf, Step.built_of_reached hr⟩
    rw [authors_eq_of_mem h hp, authors_eq_of_mem h hbuilt]

/-- When all threads are done, a filled slot has one author for every milestone. -/
theorem authors_of_finished (h : Faithful options chronicle)
    (hdone : ∀ thread ∈ chronicle.scene.threads, ∃ outcome, thread.step = .done outcome)
    {processor : Stamped P}
    (hs : chronicle.scene.dispatcher.slot format = some processor) :
    ∃ place, ∀ milestone, chronicle.authors format milestone = [place] := by
  obtain ⟨place, thread, ht, hf, hb⟩ := h.orderly.builder format processor hs
  obtain ⟨outcome, ho⟩ := hdone thread (List.mem_of_getElem? ht)
  refine ⟨place, fun milestone => authors_eq_of_mem h ((mem_authors_iff h).2 ?_)⟩
  refine ⟨thread, ht, hf, ?_⟩
  rw [ho, Step.reached_done, ← ho]
  exact hb

end Authors

/-- A slot once filled is not filled again. -/
theorem slot_run (W : Workshop φ P) {options : Options} {chronicle : Chronicle φ P}
    (h : Faithful options chronicle) {format : DocumentFormat} {processor : Stamped P}
    (hs : chronicle.scene.dispatcher.slot format = some processor) (schedule : List Nat) :
    (chronicle.run W schedule).scene.dispatcher.slot format = some processor := by
  refine (run_induction (fun later => Faithful options later ∧
    later.scene.dispatcher.slot format = some processor) ?_ ⟨h, hs⟩ schedule).2
  rintro later place ⟨hfaithful, hslot⟩
  refine ⟨faithful_advance W hfaithful place, ?_⟩
  cases ht : later.scene.threads[place]? with
  | none =>
    rw [advance, Scene.advance, ht]
    exact hslot
  | some thread =>
    obtain ⟨step, changed, hmove, hadvance⟩ := Scene.exists_move W.onRecord ht
    rw [advance, hadvance]
    exact Scene.slot_of_move hfaithful.orderly ht hmove hslot

/-! ## The law -/

/-- What holds at every point of every schedule, given as the function from the
schedule so far to its chronicle. -/
structure InterleavingLaw (told : List Nat → Chronicle φ P) : Prop where
  /-- The deeds tell all attempts at building. -/
  attempts_eq : ∀ schedule,
    (told schedule).deeds.flatMap Deed.attempts = (told schedule).scene.state.attempts
  /-- The deeds tell all events. -/
  events_eq : ∀ schedule,
    (told schedule).deeds.flatMap Deed.events = Notice.events (told schedule).scene.notices
  /-- At most one attempt for a format succeeds. -/
  single_success : ∀ schedule format, ((told schedule).authors format .built).length ≤ 1
  /-- A thread that is about to fill a slot finds it empty. -/
  slot_vacant : ∀ schedule thread processor, thread ∈ (told schedule).scene.threads →
    thread.step = .store processor →
      (told schedule).scene.dispatcher.slot thread.format = none
  /-- A slot once filled holds the same processor whatever comes later. -/
  slot_kept : ∀ earlier later format processor,
    (told earlier).scene.dispatcher.slot format = some processor →
      (told (earlier ++ later)).scene.dispatcher.slot format = some processor
  /-- Threads of the same format obtain the same processor, also at different times. -/
  same_processor : ∀ earlier later, ∀ thread ∈ (told earlier).scene.threads,
    ∀ rival ∈ (told (earlier ++ later)).scene.threads, thread.format = rival.format →
      ∀ processor other, thread.step.held? = some processor → rival.step.held? = some other →
        processor = other
  /-- The creation of a processor and the first document that it gets are reported
  once at most, and by the thread that built it. -/
  single_report : ∀ schedule format milestone, (told schedule).authors format milestone = [] ∨
    (told schedule).authors format milestone = (told schedule).authors format .built
  /-- When all threads are done, a filled slot has one success, one report of the
  creation, and one of the first document, all from one thread. -/
  finished : ∀ schedule format processor,
    (∀ thread ∈ (told schedule).scene.threads, ∃ outcome, thread.step = .done outcome) →
      (told schedule).scene.dispatcher.slot format = some processor →
      ∃ place, ∀ milestone, (told schedule).authors format milestone = [place]

/-- Forgetting ledger and stamps, a chronicle is a schedule of the workshop itself;
and the law holds of it, whatever the options, the workshop, the state that it starts
in, the documents and the schedule. -/
theorem interleaving_law (W : Workshop φ P) (options : Options) (state : φ)
    (inputs : List Document.Input) :
    (∀ schedule, ((opening options state inputs).run W schedule).scene.erase =
      (Scene.opening options state inputs).run W schedule) ∧
    InterleavingLaw fun schedule => (opening options state inputs).run W schedule := by
  have hfaithful := faithful_run W options state inputs
  refine ⟨fun schedule => ?_, ?_⟩
  · rw [scene_run, Scene.erase_run, opening, Scene.erase_opening]
  constructor
  case attempts_eq => exact fun schedule => (hfaithful schedule).attempts_eq
  case events_eq => exact fun schedule => (hfaithful schedule).events_eq
  case single_success =>
    intro schedule format
    exact length_authors_le_one (hfaithful schedule) format .built
  case slot_vacant =>
    intro schedule thread processor hmem hstore
    obtain ⟨place, ht⟩ := List.mem_iff_getElem?.1 hmem
    exact (hfaithful schedule).orderly.slot_vacant place thread ht (by rw [hstore]; rfl)
  case slot_kept =>
    intro earlier later format processor hs
    rw [run_append]
    exact slot_run W (hfaithful earlier) hs later
  case same_processor =>
    intro earlier later thread hmem rival hrival hf processor other hp ho
    obtain ⟨place, ht⟩ := List.mem_iff_getElem?.1 hmem
    obtain ⟨second, hr⟩ := List.mem_iff_getElem?.1 hrival
    have hearlier := (hfaithful earlier).orderly.slot_held place thread processor ht hp
    have hlater := (hfaithful (earlier ++ later)).orderly.slot_held second rival other hr ho
    rw [run_append, ← hf, slot_run W (hfaithful earlier) hearlier later] at hlater
    exact Option.some.inj hlater
  case single_report =>
    intro schedule format milestone
    exact authors_eq (hfaithful schedule) format milestone
  case finished =>
    intro schedule format processor hdone hs
    exact authors_of_finished (hfaithful schedule) hdone hs

/-- Two threads that both find the slot empty: the one that gets the lock builds. -/
example :
    let W : Workshop Unit Unit :=
      ⟨fun _ state => (.ok (), state), fun _ document _ => ⟨.ok (), document, (), []⟩⟩
    let told := (opening { format := some (.pinned .md) } ()
      [.value (.text "One"), .value (.text "Two")]).run W (Scene.turns 2)
    (told.authors .md .built, told.authors .md .reported, told.authors .md .opened) =
      ([0], [0], [0]) := by
  rfl

end Chronicle

end Dispatcher

end DocPress
