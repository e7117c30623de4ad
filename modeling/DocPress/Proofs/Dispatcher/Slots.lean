import DocPress.Dispatcher.Rehearsal
import DocPress.Engine.Echo
import DocPress.Proofs.Dispatcher.Ledger

/-!
# The law of slots

What a run of a dispatcher does to its two slots, whatever the documents, the
attempts at building and the processors do.  One invariant for each format ties
together the slot, the attempts that succeeded, and the events: the slot holds the
processor of the only success, and the events are the story of the documents that
were served.

Main results:

- `standing_serve`: every request keeps the invariant of every format.
- `run_law`: the law of whole runs.
-/

namespace DocPress.History

variable {φ P : Type}

/-! ## The story of a format -/

/-- The events about a format when documents from some places were served: the
processor is created for the first document, and only that document's dispatch
does not reuse it. -/
def story (options : Options) (format : DocumentFormat) : List (Option String) → List Event
  | [] => []
  | place :: places =>
    .processorCreated format options.markdownExtensions ::
      .documentDispatched format place false ::
        places.map fun place => .documentDispatched format place true

/-- One more document is one more dispatch to a reused processor. -/
theorem story_concat (options : Options) (format : DocumentFormat)
    {places : List (Option String)} (h : places ≠ []) (place : Option String) :
    story options format (places ++ [place]) =
      story options format places ++ [.documentDispatched format place true] := by
  cases places with
  | nil => exact absurd rfl h
  | cons first rest => simp [story]

/-! ## The invariant of a format -/

/-- How a format stands: its slot holds the processor of its only successful
attempt, and its events are the story of the documents served. -/
structure Standing (options : Options) (history : History (Ledger φ) (Stamped P))
    (format : DocumentFormat) : Prop where
  options_eq : history.dispatcher.options = options
  successes_eq : history.state.successes format =
    ((history.dispatcher.slot format).map Stamped.serial).toList
  events_eq : history.eventsAbout format =
    story options format (history.served options format)
  served_iff : history.served options format = [] ↔ history.dispatcher.slot format = none

theorem standing_opened (options : Options) (state : φ) (format : DocumentFormat) :
    Standing options (opened options ⟨state, []⟩ : History (Ledger φ) (Stamped P)) format where
  options_eq := rfl
  successes_eq := by
    rw [slot_opened]
    rfl
  events_eq := rfl
  served_iff := by simp

/-- Only a request of a format can lead to a success for it. -/
theorem successes_serve_of_ne (W : Workshop φ P) (history : History (Ledger φ) (Stamped P))
    (request : Request) {format : DocumentFormat}
    (h : request.format? history.dispatcher.options ≠ some format) :
    (history.serve W.onRecord request).state.successes format =
      history.state.successes format := by
  have hcase := callCase_answer W.onRecord history request
  rw [state_serve]
  generalize history.answer W.onRecord request = call at hcase ⊢
  cases hcase with
  | unresolved hr => rfl
  | unbuilt hr hs hb =>
    obtain ⟨state, -, rfl⟩ := Workshop.build_eq_error_of_onRecord hb
    simp [Ledger.successes_enter, Attempt.serves]
  | built hr hs hb =>
    obtain ⟨state, -, -, rfl⟩ := Workshop.build_eq_ok_of_onRecord hb
    rw [Request.format?_of_ok hr] at h
    have hne : ¬ _ = format := fun he => h (congrArg some he)
    simp [Dispatcher.Call.ofProcessed, Ledger.successes_enter, Attempt.serves_withFormat, hne]
  | reused hr hs => rfl

/-- What leaves everything about a format as it is keeps its invariant. -/
theorem Standing.of_same {options : Options} {history after : History (Ledger φ) (Stamped P)}
    {format : DocumentFormat} (h : Standing options history format)
    (hoptions : after.dispatcher.options = history.dispatcher.options)
    (hslot : after.dispatcher.slot format = history.dispatcher.slot format)
    (hsuccesses : after.state.successes format = history.state.successes format)
    (hevents : after.eventsAbout format = history.eventsAbout format)
    (hserved : after.served options format = history.served options format) :
    Standing options after format where
  options_eq := hoptions.trans h.options_eq
  successes_eq := by rw [hsuccesses, hslot, h.successes_eq]
  events_eq := by rw [hevents, hserved, h.events_eq]
  served_iff := by rw [hserved, hslot, h.served_iff]

/-- A request of a format keeps the invariant of that format. -/
theorem standing_serve_self (W : Workshop φ P) {options : Options}
    {history : History (Ledger φ) (Stamped P)} {format : DocumentFormat}
    (h : Standing options history format) {request : Request}
    (hf : request.format? options = some format) :
    Standing options (history.serve W.onRecord request) format := by
  obtain rfl := h.options_eq
  have hoptions := options_serve W.onRecord history request
  have hplaces := served_serve W.onRecord history request history.dispatcher.options format
  have habout := eventsAbout_serve W.onRecord history request format
  have hcase := callCase_answer W.onRecord history request
  rw [dispatcher_serve] at hoptions hplaces
  generalize hcall : history.answer W.onRecord request = call at hcase habout hoptions hplaces
  cases hcase with
  | unresolved hr =>
    rw [Request.format?_of_error hr] at hf
    cases hf
  | unbuilt hr hs hb =>
    obtain ⟨state, -, rfl⟩ := Workshop.build_eq_error_of_onRecord hb
    obtain rfl := Request.format_eq_of_ok hf hr
    refine h.of_same ?_ ?_ ?_ ?_ ?_
    · rw [dispatcher_serve, hcall]
    · rw [dispatcher_serve, hcall]
    · rw [state_serve, hcall]
      simp [Ledger.successes_enter, Attempt.serves]
    · simpa using habout
    · simpa [hs] using hplaces
  | built hr hs hb =>
    obtain ⟨state, -, hserial, rfl⟩ := Workshop.build_eq_ok_of_onRecord hb
    obtain rfl := Request.format_eq_of_ok hf hr
    have hnone : history.served history.dispatcher.options format = [] := h.served_iff.2 hs
    have hfirst : (history.serve W.onRecord request).served history.dispatcher.options format =
        [request.place? history.dispatcher.options] := by
      simpa [hf, hnone, Dispatcher.Call.ofProcessed] using hplaces
    refine ⟨by rw [dispatcher_serve, hcall, hoptions], ?_, ?_, ?_⟩
    · rw [state_serve, dispatcher_serve, hcall]
      simp [Dispatcher.Call.ofProcessed, Ledger.successes_enter, Attempt.serves_withFormat,
        h.successes_eq, hs, hserial]
    · rw [habout, hfirst, h.events_eq, hnone, Request.place?_of_ok hr]
      simp [story, Dispatcher.dispatchedEvent, Event.format, Options.withFormat]
    · rw [hfirst, dispatcher_serve, hcall]
      simp [Dispatcher.Call.ofProcessed]
  | reused hr hs =>
    obtain rfl := Request.format_eq_of_ok hf hr
    have hsome : history.served history.dispatcher.options format ≠ [] := by
      rw [ne_eq, h.served_iff, hs]
      simp
    have hnext : (history.serve W.onRecord request).served history.dispatcher.options format =
        history.served history.dispatcher.options format ++
          [request.place? history.dispatcher.options] := by
      simpa [hf, Dispatcher.Call.ofProcessed] using hplaces
    refine ⟨by rw [dispatcher_serve, hcall, hoptions], ?_, ?_, ?_⟩
    · rw [state_serve, dispatcher_serve, hcall]
      simp [Dispatcher.Call.ofProcessed, h.successes_eq, hs]
    · rw [habout, hnext, story_concat _ _ hsome, h.events_eq, Request.place?_of_ok hr]
      simp [Dispatcher.dispatchedEvent, Event.format]
    · rw [hnext, dispatcher_serve, hcall]
      simp [Dispatcher.Call.ofProcessed]

/-- Every request keeps the invariant of every format. -/
theorem standing_serve (W : Workshop φ P) {options : Options}
    {history : History (Ledger φ) (Stamped P)} {format : DocumentFormat}
    (h : Standing options history format) (request : Request) :
    Standing options (history.serve W.onRecord request) format := by
  by_cases hf : request.format? options = some format
  · exact standing_serve_self W h hf
  · obtain rfl := h.options_eq
    exact h.of_same (options_serve W.onRecord history request)
      (slot_serve_of_ne W.onRecord history request hf) (successes_serve_of_ne W history request hf)
      (eventsAbout_serve_of_ne W.onRecord history request hf)
      (served_serve_of_ne W.onRecord history request hf)

/-! ## Attempts and stamps along a run -/

/-- A request makes one attempt if its format has no processor, and none otherwise.
An attempt that fails changes no slot and emits no event. -/
theorem attempts_serve (W : Workshop φ P) (history : History (Ledger φ) (Stamped P))
    (request : Request) :
    (∃ format succeeded, request.format? history.dispatcher.options = some format ∧
      history.dispatcher.slot format = none ∧
      (history.serve W.onRecord request).state.attempts = history.state.attempts ++
        [⟨history.dispatcher.options.withFormat format, succeeded⟩] ∧
      (succeeded = false →
        (history.serve W.onRecord request).dispatcher = history.dispatcher ∧
          (history.serve W.onRecord request).events = history.events)) ∨
    (history.serve W.onRecord request).state.attempts = history.state.attempts ∧
      ∀ format, request.format? history.dispatcher.options = some format →
        history.dispatcher.slot format ≠ none := by
  have hcase := callCase_answer W.onRecord history request
  have hevents := events_serve W.onRecord history request
  rw [state_serve, dispatcher_serve, hevents]
  generalize history.answer W.onRecord request = call at hcase ⊢
  cases hcase with
  | unresolved hr =>
    right
    simp [Request.format?_of_error hr]
  | unbuilt hr hs hb =>
    obtain ⟨state, -, rfl⟩ := Workshop.build_eq_error_of_onRecord hb
    left
    exact ⟨_, false, Request.format?_of_ok hr, hs, rfl, fun _ => ⟨rfl, by simp⟩⟩
  | built hr hs hb =>
    obtain ⟨state, -, -, rfl⟩ := Workshop.build_eq_ok_of_onRecord hb
    left
    exact ⟨_, true, Request.format?_of_ok hr, hs, rfl, fun h => absurd h (by simp)⟩
  | reused hr hs =>
    right
    refine ⟨rfl, fun format hf => ?_⟩
    obtain rfl := Request.format_eq_of_ok hf hr
    rw [hs]
    simp

/-- A processor stays in its slot. -/
theorem serial_serve (W : Workshop φ P) {history : History (Ledger φ) (Stamped P)}
    {format : DocumentFormat} {serial : Nat}
    (h : (history.dispatcher.slot format).map Stamped.serial = some serial)
    (request : Request) :
    ((history.serve W.onRecord request).dispatcher.slot format).map Stamped.serial =
      some serial := by
  by_cases hf : request.format? history.dispatcher.options = some format
  · have hcase := callCase_answer W.onRecord history request
    rw [dispatcher_serve]
    generalize history.answer W.onRecord request = call at hcase ⊢
    cases hcase with
    | unresolved hr => exact h
    | unbuilt hr hs hb => exact h
    | built hr hs hb =>
      obtain rfl := Request.format_eq_of_ok hf hr
      rw [hs] at h
      cases h
    | reused hr hs =>
      obtain rfl := Request.format_eq_of_ok hf hr
      rw [hs] at h
      simpa [Dispatcher.Call.ofProcessed] using h
  · rw [slot_serve_of_ne W.onRecord history request hf]
    exact h

/-- Requests of other formats leave a slot alone, however many there are. -/
theorem slot_run_of_ne (W : Workshop φ P) {history : History φ P} {format : DocumentFormat}
    {requests : List Request}
    (h : ∀ request ∈ requests, request.format? history.dispatcher.options ≠ some format) :
    (history.run W requests).dispatcher.slot format = history.dispatcher.slot format := by
  induction requests generalizing history with
  | nil => rfl
  | cons request requests ih =>
    have hoptions := options_serve W history request
    rw [run_cons, ih fun later hlater => by
      rw [hoptions]
      exact h later (List.mem_cons_of_mem request hlater)]
    exact slot_serve_of_ne W history request (h request List.mem_cons_self)

/-! ## The law -/

/-- What holds at every point of a run on record, given as the function from the
requests served so far to the history that they leave. -/
structure RunLaw (options : Options)
    (recorded : List Request → History (Ledger φ) (Stamped P)) : Prop where
  /-- A slot holds the processor of the only success of its format, and there is no
  success as long as the slot is empty. -/
  single_success : ∀ requests format,
    (recorded requests).state.successes format =
      (((recorded requests).dispatcher.slot format).map Stamped.serial).toList
  /-- A slot once filled holds the same processor whatever comes later. -/
  slot_kept : ∀ earlier later format serial,
    ((recorded earlier).dispatcher.slot format).map Stamped.serial = some serial →
      ((recorded (earlier ++ later)).dispatcher.slot format).map Stamped.serial = some serial
  /-- A request makes at most one attempt, and that receives the base options with
  nothing but the format replaced by that of the document. -/
  attempt_options : ∀ requests request, ∃ new : List Attempt,
    (recorded (requests ++ [request])).state.attempts =
      (recorded requests).state.attempts ++ new ∧ new.length ≤ 1 ∧
      ∀ attempt ∈ new, ∃ format, request.format? options = some format ∧
        attempt.options = options.withFormat format
  /-- A document that cannot be resolved leads to no attempt and no event, and
  changes no slot. -/
  unresolved : ∀ requests request failure,
    Document.resolve request.input (.existing options) = .error failure →
      (recorded (requests ++ [request])).state.attempts = (recorded requests).state.attempts ∧
      (recorded (requests ++ [request])).events = (recorded requests).events ∧
      (recorded (requests ++ [request])).dispatcher = (recorded requests).dispatcher
  /-- A failed attempt leads to no event and changes no slot. -/
  failed : ∀ requests request attempt,
    (recorded (requests ++ [request])).state.attempts =
        (recorded requests).state.attempts ++ [attempt] →
      attempt.succeeded = false →
      (recorded (requests ++ [request])).events = (recorded requests).events ∧
      (recorded (requests ++ [request])).dispatcher = (recorded requests).dispatcher
  /-- After a failed attempt the next request of that format attempts again. -/
  retried : ∀ requests request attempt format others retry,
    (recorded (requests ++ [request])).state.attempts =
        (recorded requests).state.attempts ++ [attempt] →
      attempt.succeeded = false →
      request.format? options = some format →
      (∀ other ∈ others, other.format? options ≠ some format) →
      retry.format? options = some format →
      ∃ again : Attempt, again.options = options.withFormat format ∧
        (recorded (requests ++ [request] ++ others ++ [retry])).state.attempts =
          (recorded (requests ++ [request] ++ others)).state.attempts ++ [again]
  /-- A request changes no slot but that of its own format. -/
  slot_frame : ∀ requests request format, request.format? options ≠ some format →
    (recorded (requests ++ [request])).dispatcher.slot format =
      (recorded requests).dispatcher.slot format
  /-- The events about a format are the story of the documents that were served. -/
  events_eq_story : ∀ requests format,
    (recorded requests).eventsAbout format =
      story options format ((recorded requests).served options format)
  /-- Documents of a format were served exactly if its slot is filled. -/
  served_iff : ∀ requests format,
    (recorded requests).served options format = [] ↔
      (recorded requests).dispatcher.slot format = none

/-- A run on record of a dispatcher that was just created. -/
def recorded (W : Workshop φ P) (options : Options) (state : φ) (requests : List Request) :
    History (Ledger φ) (Stamped P) :=
  (opened options ⟨state, []⟩).run W.onRecord requests

theorem recorded_concat (W : Workshop φ P) (options : Options) (state : φ)
    (requests : List Request) (request : Request) :
    recorded W options state (requests ++ [request]) =
      (recorded W options state requests).serve W.onRecord request := by
  simp [recorded]

theorem options_recorded (W : Workshop φ P) (options : Options) (state : φ)
    (requests : List Request) :
    (recorded W options state requests).dispatcher.options = options := by
  rw [recorded, options_run]
  rfl

theorem standing_recorded (W : Workshop φ P) (options : Options) (state : φ)
    (requests : List Request) (format : DocumentFormat) :
    Standing options (recorded W options state requests) format :=
  run_induction (fun history => Standing options history format)
    (fun _ request h => standing_serve W h request) (standing_opened options state format)
    requests

/-- A failed attempt changes no slot and emits no event. -/
theorem serve_of_failed_attempt (W : Workshop φ P) {history : History (Ledger φ) (Stamped P)}
    {request : Request} {attempt : Attempt}
    (h : (history.serve W.onRecord request).state.attempts = history.state.attempts ++ [attempt])
    (hfailed : attempt.succeeded = false) :
    (history.serve W.onRecord request).events = history.events ∧
      (history.serve W.onRecord request).dispatcher = history.dispatcher := by
  rcases attempts_serve W history request with
    ⟨format, succeeded, -, -, hattempts, hquiet⟩ | ⟨hattempts, -⟩
  · rw [hattempts] at h
    have hattempt : _ = attempt := List.head_eq_of_cons_eq (List.append_cancel_left h)
    rw [← hattempt] at hfailed
    exact (hquiet hfailed).symm
  · rw [hattempts] at h
    exact absurd h.symm (by simp)

/-- A failed attempt leaves the slot of the document's format empty. -/
theorem slot_of_failed_attempt (W : Workshop φ P) {history : History (Ledger φ) (Stamped P)}
    {request : Request} {attempt : Attempt} {format : DocumentFormat}
    (h : (history.serve W.onRecord request).state.attempts = history.state.attempts ++ [attempt])
    (hfailed : attempt.succeeded = false)
    (hf : request.format? history.dispatcher.options = some format) :
    (history.serve W.onRecord request).dispatcher.slot format = none := by
  rw [(serve_of_failed_attempt W h hfailed).2]
  rcases attempts_serve W history request with ⟨found, -, hfound, hs, -, -⟩ | ⟨hattempts, -⟩
  · obtain rfl := Option.some.inj (hf.symm.trans hfound)
    exact hs
  · rw [hattempts] at h
    exact absurd h.symm (by simp)

/-- An attempt is made whenever the slot is empty. -/
theorem attempt_of_empty (W : Workshop φ P) {history : History (Ledger φ) (Stamped P)}
    {request : Request} {format : DocumentFormat}
    (hf : request.format? history.dispatcher.options = some format)
    (hs : history.dispatcher.slot format = none) :
    ∃ again : Attempt, again.options = history.dispatcher.options.withFormat format ∧
      (history.serve W.onRecord request).state.attempts = history.state.attempts ++ [again] := by
  rcases attempts_serve W history request with
    ⟨found, succeeded, hfound, -, hattempts, -⟩ | ⟨-, hfilled⟩
  · obtain rfl := Option.some.inj (hf.symm.trans hfound)
    exact ⟨_, rfl, hattempts⟩
  · exact absurd hs (hfilled format hf)

/-- Forgetting ledger and stamps, a run on record is a run; and the law holds of it,
whatever the options, the workshop and the state that it starts in. -/
theorem run_law (W : Workshop φ P) (options : Options) (state : φ) :
    (∀ requests, (recorded W options state requests).erase =
      (opened options state).run W requests) ∧
    RunLaw options (recorded W options state) := by
  refine ⟨fun requests => erase_run W _ requests, ?_⟩
  have hoptions := options_recorded W options state
  have hstanding := standing_recorded W options state
  constructor
  case single_success =>
    intro requests format
    exact (hstanding requests format).successes_eq
  case slot_kept =>
    intro earlier later format serial h
    rw [recorded, run_append]
    exact run_induction
      (fun history => (history.dispatcher.slot format).map Stamped.serial = some serial)
      (fun _ request hkept => serial_serve W hkept request) h later
  case attempt_options =>
    intro requests request
    rw [recorded_concat]
    rcases attempts_serve W (recorded W options state requests) request with
      ⟨format, succeeded, hf, -, hattempts, -⟩ | ⟨hattempts, -⟩
    · rw [hoptions] at hf hattempts
      refine ⟨_, hattempts, by simp, fun attempt hmem => ?_⟩
      rw [List.mem_singleton.1 hmem]
      exact ⟨format, hf, rfl⟩
    · exact ⟨[], by simpa using hattempts, by simp, by simp⟩
  case unresolved =>
    intro requests request failure h
    rw [← hoptions requests] at h
    rw [recorded_concat, events_serve, state_serve, dispatcher_serve,
      answer, Dispatcher.call_of_unresolved W.onRecord request.mode _ h]
    simp
  case failed =>
    intro requests request attempt h hfailed
    rw [recorded_concat] at h ⊢
    exact serve_of_failed_attempt W h hfailed
  case retried =>
    intro requests request attempt format others retry h hfailed hf hothers hretry
    rw [recorded_concat] at h
    have hempty := slot_of_failed_attempt W h hfailed (by rwa [hoptions])
    have hstill : (recorded W options state (requests ++ [request] ++ others)).dispatcher.slot
        format = none := by
      rw [recorded, run_append, ← recorded, slot_run_of_ne W.onRecord (by rwa [hoptions]),
        recorded_concat]
      exact hempty
    obtain ⟨again, hagain, hattempts⟩ := attempt_of_empty W (by rwa [hoptions]) hstill
    rw [hoptions] at hagain
    exact ⟨again, hagain, by rw [recorded_concat, hattempts]⟩
  case slot_frame =>
    intro requests request format hf
    rw [recorded_concat]
    exact slot_serve_of_ne W.onRecord _ request (by rwa [hoptions])
  case events_eq_story =>
    intro requests format
    exact (hstanding requests format).events_eq
  case served_iff =>
    intro requests format
    exact (hstanding requests format).served_iff

/-- A rehearsal in which the first attempt to build something fails. -/
def flawedRehearsal : Workshop Attempts (Worker Echo) :=
  .rehearsal Echo.engine Plugin.idle .labelling 1

/-- Markdown documents with an MDX document between them. -/
def mixedFiles : List Request :=
  [.ofFile "one.md" (.text "# One"), .ofFile "two.mdx" (.text "# Two"),
    .ofFile "three.md" (.text "# Three"), .ofFile "four.md" (.text "# Four")]

/-- The attempt for the first document fails, the one for the MDX document succeeds, and the
next Markdown document leads to another attempt, from which the last one profits. -/
theorem run_law_rehearsal :
    (recorded flawedRehearsal {} {} mixedFiles).state.attempts.map Attempt.succeeded =
        [false, true, true] ∧
      (recorded flawedRehearsal {} {} mixedFiles).eventsAbout .md =
        [.processorCreated .md [], .documentDispatched .md (some "three.md") false,
          .documentDispatched .md (some "four.md") true] := by
  refine ⟨rfl, ?_⟩
  rw [(run_law flawedRehearsal {} {}).2.events_eq_story mixedFiles .md]
  rfl

end DocPress.History
