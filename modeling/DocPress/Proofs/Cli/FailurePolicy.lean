import DocPress.Proofs.Cli.Compiling

/-!
# What becomes of failures

A command either compiles a file or meets an obstacle: the file cannot be read, its
document cannot be compiled, or the target cannot be written.  Without full failures an
obstacle should be a message and the status one, with them it should leave the command as
it is.  The first is missed by failures that contents bring about and that are no failures
of compiling, the second by targets that cannot be written.

Main results:

- `ends_compileAt`: how a command ends, by the obstacle that it meets.
- `exists_isStray_iff`: which contents lead to failures that are none of compiling.
- `failsUniformly_iff`: when failures are treated as they should be.
-/

namespace DocPress.Cli

variable {σ : Type}

/-! ## Obstacles -/

/-- What keeps a file from being compiled. -/
inductive Obstacle where
  | reading (failure : Failure)
  | compiling (failure : Failure)
  | writing (fault : DiskFault)
deriving DecidableEq, Repr

namespace Obstacle

/-- The failure that an obstacle is. -/
def failure : Obstacle → Failure
  | .reading f => f
  | .compiling f => f
  | .writing fault => .disk fault

/-- Whether an obstacle before writing is no failure of compiling. -/
def IsStray : Obstacle → Prop
  | .reading f => f.isCompileFailure = false
  | .compiling f => f.isCompileFailure = false
  | .writing _ => False

end Obstacle

section Stages

variable {m : Type → Type} [Monad m]

/-- What keeps a text from being written to a target, if there is one. -/
def writingObstacle? (disk : Disk m) (target : Option String) (text : String) :
    m (Option Obstacle) := do
  match target with
  | none => return none
  | some target =>
    match ← disk.writeText (Path.ofString target) text with
    | .error fault => return some (.writing fault)
    | .ok () => return none

/-- The first obstacle on the way of a file: reading it, compiling its document alone, and
writing the target. -/
def obstacle? (E : Engine σ) (plugins : Callable → Plugin) (disk : Disk m)
    (request : CompileRequest) (path : Path) : m (Option Obstacle) := do
  match ← Document.ofFile disk path "utf-8" with
  | .error f => return some (.reading f)
  | .ok document =>
    match request.compileAlone E plugins document with
    | .error f => return some (.compiling f)
    | .ok compiled => writingObstacle? disk request.output (outputText compiled)

end Stages

/-! ## Ends -/

/-- How a command ends that met an obstacle or none. -/
inductive Ends (state : State) : Option Obstacle → Result → Prop where
  | compiled {streams : Streams} : Ends state none ⟨.exit 0, streams⟩
  | unread {f : Failure} : Ends state (some (.reading f)) (fail state {} f)
  | uncompiled {f : Failure} {streams : Streams} :
      Ends state (some (.compiling f)) (fail state streams f)
  | unwritten {fault : DiskFault} {streams : Streams} :
      Ends state (some (.writing fault))
        ⟨.exit 1, streams.addError (failure state (.disk fault))⟩

section Ending

variable {τ : Type} {disk : Disk (StateM τ)} {before after : τ} (state : State)

/-- Delivering ends by the obstacle in writing. -/
theorem ends_deliver (disk : Disk (StateM τ)) (target : Option String) (document : Document)
    (streams : Streams) (before : τ) :
    Ends state ((writingObstacle? disk target (outputText document)).run before).1
      ((deliver disk state target document streams).run before).1 := by
  cases target with
  | none => exact .compiled
  | some target =>
    rcases hw : (disk.writeText (Path.ofString target) (outputText document)).run before
      with ⟨fault | written, after⟩
    · rw [writingObstacle?, deliver, StateT.run_bind, StateT.run_bind, hw]
      exact .unwritten
    · rw [writingObstacle?, deliver, StateT.run_bind, StateT.run_bind, hw]
      exact .compiled

variable (E : Engine σ) (plugins : Callable → Plugin) (request : CompileRequest) {path : Path}

/-- A file that cannot be read is an obstacle. -/
theorem run_obstacle?_of_unread {f : Failure}
    (h : (Document.ofFile disk path "utf-8").run before = (.error f, after)) :
    (obstacle? E plugins disk request path).run before = (some (.reading f), after) := by
  rw [obstacle?, StateT.run_bind, h]
  rfl

/-- From a file that was read on, compiling and then writing can be obstacles. -/
theorem run_obstacle?_of_read {document : Document}
    (h : (Document.ofFile disk path "utf-8").run before = (.ok document, after)) :
    (obstacle? E plugins disk request path).run before =
      match request.compileAlone E plugins document with
      | .error f => (some (.compiling f), after)
      | .ok compiled =>
        (writingObstacle? disk request.output (outputText compiled)).run after := by
  rw [obstacle?, StateT.run_bind, h]
  change StateT.run (match request.compileAlone E plugins document with
    | .error f => _
    | .ok compiled => _) after = _
  cases request.compileAlone E plugins document <;> rfl

/-- How a command ends, by the obstacle that it meets. -/
theorem ends_compileAt (disk : Disk (StateM τ)) (path : Path) (before : τ) :
    Ends state ((obstacle? E plugins disk request path).run before).1
      ((compileAt E plugins disk state request path).run before).1 := by
  rcases hfile : (Document.ofFile disk path "utf-8").run before with ⟨f | document, after⟩
  · rw [run_compileAt_of_unread E plugins request state hfile,
      run_obstacle?_of_unread E plugins request hfile]
    exact .unread
  · rw [run_compileAt_of_read E plugins request state hfile,
      run_obstacle?_of_read E plugins request hfile]
    cases request.compileAlone E plugins document with
    | error f => exact .uncompiled
    | ok compiled => exact ends_deliver state disk request.output compiled _ after

end Ending

/-! ## Stray failures -/

/-- Contents that lead to a failure that is none of compiling: bytes that are not UTF-8, or
front matter with a scalar that denotes no value, in a document that gets that far. -/
def IsStrayContent (E : Engine σ) (plugins : Callable → Plugin) (request : CompileRequest)
    (path : Path) (bytes : List UInt8) : Prop :=
  (∃ fault, Text.decode bytes = .error fault) ∨
    ∃ text format processor fault, Text.decode bytes = .ok text ∧
      (fileDocument path text).detectFormat request.base = .ok format ∧
      Processor.create E plugins (request.base.withFormat format) = .ok processor ∧
      FrontMatter.split (Text.unifyEndings text) = .error fault

/-- A scalar that denotes no value is no failure of compiling. -/
theorem not_isCompileFailure_scalar (fault : Yaml.ScalarFault) :
    (Failure.scalar fault).isCompileFailure = false := by
  cases fault <;> rfl

/-- A document without a format is a failure of compiling. -/
theorem isCompileFailure_of_detectFormat {document : Document} {options : Options} {f : Failure}
    (h : document.detectFormat options = .error f) : f.isCompileFailure = true := by
  rcases document.detectFormat_cases options with ⟨format, hok⟩ | ⟨fault, herror⟩
  · rw [hok] at h
    cases h
  · rw [herror] at h
    cases h
    rfl

/-- A processor that cannot be built is a failure of compiling. -/
theorem isCompileFailure_of_create {E : Engine σ} {plugins : Callable → Plugin}
    {options : Options} {f : Failure} (h : Processor.create E plugins options = .error f) :
    f.isCompileFailure = true := by
  cases hf : options.pinnedFormat? with
  | none =>
    rw [Processor.create_of_unpinned E plugins hf] at h
    cases h
    rfl
  | some format =>
    rw [Processor.create_eq_error_iff hf, Renderer.create_eq_error_iff] at h
    obtain ⟨reason, -, rfl⟩ := h
    rfl

section Stray

variable {E : Engine σ} {plugins : Callable → Plugin} {request : CompileRequest} {path : Path}

/-- Compiling the document of a file leads to a failure that is none of compiling exactly by
a scalar that denotes no value. -/
theorem exists_stray_compileAlone_iff {text : List Char} :
    (∃ f, request.compileAlone E plugins (fileDocument path text) = .error f ∧
      f.isCompileFailure = false) ↔
    ∃ format processor fault,
      (fileDocument path text).detectFormat request.base = .ok format ∧
      Processor.create E plugins (request.base.withFormat format) = .ok processor ∧
      FrontMatter.split (Text.unifyEndings text) = .error fault := by
  have hvalue : (fileDocument path text).value =
      .text (String.ofList (Text.unifyEndings text)) := rfl
  rw [compileAlone_eq hvalue, String.toList_ofList]
  constructor
  · rintro ⟨f, h, hf⟩
    cases hd : (fileDocument path text).detectFormat request.base with
    | error g =>
      simp only [hd, Except.error.injEq] at h
      rw [← h, isCompileFailure_of_detectFormat hd] at hf
      cases hf
    | ok format =>
      cases hc : Processor.create E plugins (request.base.withFormat format) with
      | error g =>
        simp only [hd, hc, Except.error.injEq] at h
        rw [← h, isCompileFailure_of_create hc] at hf
        cases hf
      | ok processor =>
        cases hs : FrontMatter.split (Text.unifyEndings text) with
        | error fault => exact ⟨format, processor, fault, rfl, hc, rfl⟩
        | ok split =>
          simp only [hd, hc, hs] at h
          rcases hb : (E.convertAnew (String.ofList split.body)
            processor.renderer.engine).1 with reason | html
          · simp only [hb, Except.error.injEq] at h
            rw [← h] at hf
            cases hf
          · simp [hb] at h
  · rintro ⟨format, processor, fault, hd, hc, hs⟩
    refine ⟨.scalar fault, ?_, not_isCompileFailure_scalar fault⟩
    simp only [hd, hc, hs]

variable {τ : Type} {disk : Disk (StateM τ)} {before : τ}

/-- An obstacle in writing is not stray. -/
theorem not_isStray_of_writing {target : Option String} {text : String} {obstacle : Obstacle}
    (h : ((writingObstacle? disk target text).run before).1 = some obstacle) :
    ¬ obstacle.IsStray := by
  cases target with
  | none => cases h
  | some target =>
    rcases hw : (disk.writeText (Path.ofString target) text).run before
      with ⟨fault | written, after⟩
    · rw [writingObstacle?, StateT.run_bind, hw] at h
      obtain rfl : .writing fault = obstacle := Option.some.inj h
      exact id
    · rw [writingObstacle?, StateT.run_bind, hw] at h
      cases h

/-- Which contents lead to failures that are none of compiling. -/
theorem exists_isStray_iff (E : Engine σ) (plugins : Callable → Plugin) (disk : Disk (StateM τ))
    (request : CompileRequest) {path : Path} (before : τ) (hpath : '\x00' ∉ path.text) :
    (∃ obstacle, ((obstacle? E plugins disk request path).run before).1 = some obstacle ∧
      obstacle.IsStray) ↔
    ∃ bytes, ((disk.read path).run before).1 = .ok bytes ∧
      IsStrayContent E plugins request path bytes := by
  have hfile := run_ofFile disk hpath before
  cases hread : ((disk.read path).run before).1 with
  | error fault =>
    rw [hread, Document.ofAnswer_error] at hfile
    rw [run_obstacle?_of_unread E plugins request hfile]
    constructor
    · rintro ⟨obstacle, h, hstray⟩
      obtain rfl := Option.some.inj h
      cases hstray
    · rintro ⟨bytes, h, -⟩
      cases h
  | ok bytes =>
    rw [hread, ofAnswer_ok] at hfile
    cases hdecode : Text.decode bytes with
    | error fault =>
      rw [hdecode] at hfile
      rw [run_obstacle?_of_unread E plugins request hfile]
      exact ⟨fun _ => ⟨bytes, rfl, .inl ⟨fault, hdecode⟩⟩,
        fun _ => ⟨.reading (.decoding fault), rfl, rfl⟩⟩
    | ok text =>
      rw [hdecode] at hfile
      rw [run_obstacle?_of_read E plugins request hfile]
      have hcontent : (∃ found, (.ok bytes : Except DiskFault (List UInt8)) = .ok found ∧
            IsStrayContent E plugins request path found) ↔
          ∃ f, request.compileAlone E plugins (fileDocument path text) = .error f ∧
            f.isCompileFailure = false := by
        rw [exists_stray_compileAlone_iff]
        constructor
        · rintro ⟨found, hfound, hstray⟩
          obtain rfl := Except.ok.inj hfound
          rcases hstray with ⟨fault, h⟩ | ⟨other, format, processor, fault, h, hrest⟩
          · rw [hdecode] at h
            cases h
          · rw [hdecode] at h
            obtain rfl := Except.ok.inj h
            exact ⟨format, processor, fault, hrest⟩
        · rintro ⟨format, processor, fault, hrest⟩
          exact ⟨bytes, rfl, .inr ⟨text, format, processor, fault, hdecode, hrest⟩⟩
      rw [hcontent]
      cases hc : request.compileAlone E plugins (fileDocument path text) with
      | error f =>
        constructor
        · rintro ⟨obstacle, h, hstray⟩
          obtain rfl := Option.some.inj h
          exact ⟨f, rfl, hstray⟩
        · rintro ⟨g, h, hstray⟩
          obtain rfl := Except.error.inj h
          exact ⟨.compiling f, rfl, hstray⟩
      | ok compiled =>
        constructor
        · rintro ⟨obstacle, h, hstray⟩
          exact absurd hstray (not_isStray_of_writing h)
        · rintro ⟨g, h, -⟩
          cases h

end Stray

/-! ## The policy -/

/-- How failures should be treated: without full failures an obstacle is a message and the
status one, with them it leaves the command as it is. -/
structure FailsUniformly (state : State) (obstacle : Option Obstacle) (result : Result) :
    Prop where
  succeeds : obstacle = none → result.ending = .exit 0
  reported : ∀ o, obstacle = some o → state.tracebacks = false →
    result.ending = .exit 1 ∧ ∃ before, Reports state o.failure before result.streams.error
  propagated : ∀ o, obstacle = some o → state.tracebacks = true →
    result.ending = .escaped o.failure

section Policy

variable {state : State}

/-- A failure before writing is treated as it should be exactly if, without full failures,
it is one of compiling. -/
theorem policy_fail_iff (obstacle : Obstacle) (streams : Streams) :
    FailsUniformly state (some obstacle) (fail state streams obstacle.failure) ↔
      (state.tracebacks = false → obstacle.failure.isCompileFailure = true) := by
  constructor
  · intro h hquiet
    have hend := (h.reported obstacle rfl hquiet).1
    cases hf : obstacle.failure.isCompileFailure with
    | true => rfl
    | false => simp [fail, hf] at hend
  · intro h
    constructor
    case succeeds =>
      intro hnone
      cases hnone
    case reported =>
      intro o ho hquiet
      obtain rfl := Option.some.inj ho
      simp only [fail, h hquiet, hquiet, Bool.not_false, Bool.and_self, if_true, true_and]
      exact ⟨streams.error, reports_failure state _ _⟩
    case propagated =>
      intro o ho hfull
      obtain rfl := Option.some.inj ho
      simp [fail, hfull]

/-- A target that cannot be written is treated as it should be exactly without full
failures. -/
theorem policy_writing_iff (fault : DiskFault) (streams : Streams) :
    FailsUniformly state (some (.writing fault))
        ⟨.exit 1, streams.addError (failure state (.disk fault))⟩ ↔ state.tracebacks = false := by
  constructor
  · intro h
    cases hfull : state.tracebacks with
    | false => rfl
    | true => cases h.propagated _ rfl hfull
  · intro hquiet
    constructor
    case succeeds =>
      intro hnone
      cases hnone
    case reported =>
      intro o ho _
      obtain rfl := Option.some.inj ho
      exact ⟨rfl, streams.error, reports_failure state _ _⟩
    case propagated =>
      intro o ho hfull
      rw [hquiet] at hfull
      cases hfull

/-- A command treats failures as it should exactly if it meets no stray obstacle without
full failures, and none in writing with them. -/
theorem Ends.policy_iff {obstacle : Option Obstacle} {result : Result}
    (h : Ends state obstacle result) :
    FailsUniformly state obstacle result ↔
      (state.tracebacks = false → ∀ o, obstacle = some o → ¬ o.IsStray) ∧
      (state.tracebacks = true → ∀ fault, obstacle ≠ some (.writing fault)) := by
  cases h with
  | compiled =>
    have huniform {streams : Streams} : FailsUniformly state none ⟨.exit 0, streams⟩ :=
      ⟨fun _ => rfl, by simp, by simp⟩
    simp [huniform]
  | @unread f =>
    refine (policy_fail_iff (.reading f) {}).trans ?_
    simp [Obstacle.IsStray, Obstacle.failure]
  | @uncompiled f streams =>
    refine (policy_fail_iff (.compiling f) streams).trans ?_
    simp [Obstacle.IsStray, Obstacle.failure]
  | @unwritten fault streams =>
    rw [policy_writing_iff]
    simp [Obstacle.IsStray]

end Policy

/-- Failures are treated as they should be exactly if, without full failures, the contents
of the file lead to no failure that is none of compiling, and, with them, the target can be
written. -/
theorem failsUniformly_iff {τ : Type} (E : Engine σ) (plugins : Callable → Plugin)
    (disk : Disk (StateM τ)) (state : State) (request : CompileRequest) {path : Path}
    (before : τ) (hpath : '\x00' ∉ path.text) :
    FailsUniformly state ((obstacle? E plugins disk request path).run before).1
        ((compileAt E plugins disk state request path).run before).1 ↔
      (state.tracebacks = false → ∀ bytes, ((disk.read path).run before).1 = .ok bytes →
        ¬ IsStrayContent E plugins request path bytes) ∧
      (state.tracebacks = true → ∀ fault,
        ((obstacle? E plugins disk request path).run before).1 ≠ some (.writing fault)) := by
  have hcontent := not_congr (exists_isStray_iff E plugins disk request before hpath)
  simp only [not_exists, not_and] at hcontent
  rw [(ends_compileAt state E plugins request disk path before).policy_iff, hcontent]

/-! ## Four runs -/

/-- A file at the root. -/
def noteTree (bytes : List UInt8) : Tree where
  nodes := [(["a.md".toList], .file bytes)]

def notePath : Path := ⟨1, ["a.md".toList]⟩

/-- Compiling the file, to a target if there is one. -/
def noteRequest (target : Option String) : CompileRequest :=
  ⟨"a.md", target, none, [], false⟩

/-- How compiling the file treats the obstacle that it meets. -/
def NoteFailsUniformly (state : State) (target : Option String) (bytes : List UInt8) : Prop :=
  FailsUniformly state
    ((obstacle? Markdown.engine Plugin.idle Tree.disk (noteRequest target) notePath).run
      (noteTree bytes)).1
    ((compileAt Markdown.engine Plugin.idle Tree.disk state (noteRequest target) notePath).run
      (noteTree bytes)).1

/-- With full failures, bytes that are no text leave the command as a failure. -/
theorem failsUniformly_iff_undecodable :
    '\x00' ∉ notePath.text ∧ NoteFailsUniformly ⟨0, true⟩ none [0xFF] := by
  have hpath : '\x00' ∉ notePath.text := by decide +kernel
  have hobstacle : ((obstacle? Markdown.engine Plugin.idle Tree.disk (noteRequest none)
      notePath).run (noteTree [0xFF])).1 =
        some (.reading (.decoding ⟨"utf-8", 0, 1, 0xFF, .invalidStart⟩)) := by
    decide +kernel
  refine ⟨hpath, (failsUniformly_iff Markdown.engine Plugin.idle Tree.disk ⟨0, true⟩
    (noteRequest none) (noteTree [0xFF]) hpath).2 ⟨?_, ?_⟩⟩
  · intro hquiet
    cases hquiet
  · intro _ fault
    rw [hobstacle]
    simp

/-- With full failures, a target below a file is a message all the same; without them, bytes
that are no text and a date that is none leave the command as failures. -/
theorem not_failsUniformly_note :
    ¬ NoteFailsUniformly ⟨0, true⟩ (some "a.md/o.html") (Text.encode "# Intro\n".toList) ∧
    ¬ NoteFailsUniformly {} none [0xFF] ∧
    ¬ NoteFailsUniformly {} none (Text.encode "---\nday: 2001-02-30\n---\n".toList) := by
  refine ⟨fun h => ?_, fun h => ?_, fun h => ?_⟩
  · have hend := h.propagated (.writing ⟨.exists, "a.md"⟩) (by decide +kernel) rfl
    revert hend
    decide +kernel
  · have hend := (h.reported (.reading (.decoding ⟨"utf-8", 0, 1, 0xFF, .invalidStart⟩))
      (by decide +kernel) rfl).1
    revert hend
    decide +kernel
  · have hend := (h.reported (.compiling (.scalar (.calendar .day)))
      (by decide +kernel) rfl).1
    revert hend
    decide +kernel

end DocPress.Cli
