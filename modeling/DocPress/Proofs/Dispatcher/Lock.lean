import DocPress.Dispatcher.Threads

/-!
# Threads under the lock

What a single step of a thread can do at a shared dispatcher, said once, and what
every step of every thread keeps: whoever is between taking the lock and giving it
back is its holder, a processor is only built and stored into an empty slot, and a
processor that a thread holds is the one in the slot.

Main results:

- `exists_move`: every step of a thread is one of the moves.
- `orderly_advance` and `orderly_run`: every step, hence every schedule, keeps the
  discipline of the lock.
-/

namespace DocPress.Dispatcher

variable {φ P : Type}

/-! ## Where a thread is -/

namespace Step

/-- Whether a thread is between taking the lock and giving it back. -/
def inside : Step P → Bool
  | .lookAgain | .build | .store _ | .unlock _ => true
  | _ => false

/-- Whether a thread counts on its slot being empty. -/
def vacant : Step P → Bool
  | .build | .store _ => true
  | _ => false

/-- The processor that a thread found or stored. -/
def held? : Step P → Option P
  | .unlock (.ok obtained) | .dispatch obtained | .done (.ok obtained) => some obtained.processor
  | .report processor => some processor
  | _ => none

/-- Whether a thread has built a processor. -/
def built : Step P → Bool
  | .store _ | .report _ => true
  | .unlock (.ok obtained) | .dispatch obtained | .done (.ok obtained) => obtained.built
  | _ => false

/-- A thread that counts on an empty slot has the lock. -/
theorem inside_of_vacant {step : Step P} (h : step.vacant) : step.inside := by
  cases step <;> first | rfl | cases h

/-- A thread that has built a processor is about to store it, or holds it. -/
theorem store_or_held_of_built {step : Step P} (h : step.built) :
    (∃ processor, step = .store processor) ∨ ∃ processor, step.held? = some processor := by
  cases step with
  | store processor => exact .inl ⟨processor, rfl⟩
  | report processor => exact .inr ⟨processor, rfl⟩
  | dispatch obtained => exact .inr ⟨obtained.processor, rfl⟩
  | unlock outcome =>
    cases outcome with
    | error failure => cases h
    | ok obtained => exact .inr ⟨obtained.processor, rfl⟩
  | done outcome =>
    cases outcome with
    | error failure => cases h
    | ok obtained => exact .inr ⟨obtained.processor, rfl⟩
  | _ => cases h

end Step

namespace Scene

@[simp] theorem inside_afterLock (outcome : Except Failure (Obtained P)) :
    (afterLock outcome).inside = false := by
  obtain failure | ⟨processor, _ | _⟩ := outcome <;> rfl

@[simp] theorem vacant_afterLock (outcome : Except Failure (Obtained P)) :
    (afterLock outcome).vacant = false := by
  obtain failure | ⟨processor, _ | _⟩ := outcome <;> rfl

@[simp] theorem held?_afterLock (outcome : Except Failure (Obtained P)) :
    (afterLock outcome).held? = (Step.unlock outcome).held? := by
  obtain failure | ⟨processor, _ | _⟩ := outcome <;> rfl

@[simp] theorem built_afterLock (outcome : Except Failure (Obtained P)) :
    (afterLock outcome).built = (Step.unlock outcome).built := by
  obtain failure | ⟨processor, _ | _⟩ := outcome <;> rfl

/-! ## Moves -/

/-- What a thread at a place can do: its next step, and what its move makes of the
scene before the thread goes on to that step. -/
inductive Move (W : Workshop φ P) (scene : Scene φ P) (place : Nat) (thread : Thread P) :
    Step P → Scene φ P → Prop where
  | find {processor : P} (step_eq : thread.step = .look)
      (slot_eq : scene.dispatcher.slot thread.format = some processor) :
      Move W scene place thread (.dispatch ⟨processor, false⟩) scene
  | miss (step_eq : thread.step = .look)
      (slot_eq : scene.dispatcher.slot thread.format = none) :
      Move W scene place thread .lock scene
  | enter (step_eq : thread.step = .lock) (holder_eq : scene.holder = none) :
      Move W scene place thread .lookAgain { scene with holder := some place }
  | wait (step_eq : thread.step = .lock) (holder_ne : scene.holder ≠ none) :
      Move W scene place thread .lock scene
  | findAgain {processor : P} (step_eq : thread.step = .lookAgain)
      (slot_eq : scene.dispatcher.slot thread.format = some processor) :
      Move W scene place thread (.unlock (.ok ⟨processor, false⟩)) scene
  | missAgain (step_eq : thread.step = .lookAgain)
      (slot_eq : scene.dispatcher.slot thread.format = none) :
      Move W scene place thread .build scene
  | fail {failure : Failure} {state : φ} (step_eq : thread.step = .build)
      (build_eq : W.build thread.options scene.state = (.error failure, state)) :
      Move W scene place thread (.unlock (.error failure)) { scene with state }
  | build {processor : P} {state : φ} (step_eq : thread.step = .build)
      (build_eq : W.build thread.options scene.state = (.ok processor, state)) :
      Move W scene place thread (.store processor) { scene with state }
  | store {processor : P} (step_eq : thread.step = .store processor) :
      Move W scene place thread (.unlock (.ok ⟨processor, true⟩))
        { scene with dispatcher := scene.dispatcher.fill thread.format processor }
  | leave {outcome : Except Failure (Obtained P)} (step_eq : thread.step = .unlock outcome) :
      Move W scene place thread (afterLock outcome) { scene with holder := none }
  | report {processor : P} (step_eq : thread.step = .report processor) :
      Move W scene place thread (.dispatch ⟨processor, true⟩)
        { scene with notices := scene.notices ++ buildNotices thread.format thread.options }
  | dispatch {obtained : Obtained P} (step_eq : thread.step = .dispatch obtained) :
      Move W scene place thread (.done (.ok obtained))
        { scene with notices := scene.notices ++ [dispatched thread obtained] }
  | rest {outcome : Except Failure (Obtained P)} (step_eq : thread.step = .done outcome) :
      Move W scene place thread (.done outcome) scene

/-- A thread that goes on to the step where it is changes nothing. -/
theorem proceed_same {scene : Scene φ P} {place : Nat} {thread : Thread P}
    (ht : scene.threads[place]? = some thread) : scene.proceed place thread.step = scene := by
  have hsame : scene.threads.modify place (fun other => { other with step := thread.step }) =
      scene.threads := by
    refine List.ext_getElem? fun other => ?_
    rw [List.getElem?_modify]
    by_cases h : place = other
    · subst h
      simp [ht]
    · simp [h]
  rw [proceed, hsame]

/-- A move of a thread is its step. -/
theorem Move.advance_eq {W : Workshop φ P} {scene changed : Scene φ P} {place : Nat}
    {thread : Thread P} {step : Step P} (h : Move W scene place thread step changed)
    (ht : scene.threads[place]? = some thread) :
    scene.advance W place = changed.proceed place step := by
  cases h with
  | wait hstep hholder =>
    rw [← hstep, proceed_same ht]
    exact advance_of_locked W ht hstep (Option.isSome_iff_ne_none.2 hholder)
  | rest hstep =>
    rw [← hstep, proceed_same ht]
    exact advance_of_done W ht hstep
  | find hstep hslot => simp [advance, ht, take, hstep, hslot]
  | miss hstep hslot => simp [advance, ht, take, hstep, hslot]
  | enter hstep hholder => simp [advance, ht, take, hstep, hholder]
  | findAgain hstep hslot => simp [advance, ht, take, hstep, hslot]
  | missAgain hstep hslot => simp [advance, ht, take, hstep, hslot]
  | fail hstep hbuild => simp [advance, ht, take, hstep, hbuild]
  | build hstep hbuild => simp [advance, ht, take, hstep, hbuild]
  | store hstep => simp [advance, ht, take, hstep]
  | leave hstep => simp [advance, ht, take, hstep]
  | report hstep => simp [advance, ht, take, hstep]
  | dispatch hstep => simp [advance, ht, take, hstep]

/-- Every step of a thread is one of the moves. -/
theorem exists_move (W : Workshop φ P) {scene : Scene φ P} {place : Nat} {thread : Thread P}
    (ht : scene.threads[place]? = some thread) :
    ∃ step changed, Move W scene place thread step changed ∧
      scene.advance W place = changed.proceed place step := by
  suffices h : ∃ step changed, Move W scene place thread step changed by
    obtain ⟨step, changed, hmove⟩ := h
    exact ⟨step, changed, hmove, hmove.advance_eq ht⟩
  cases hstep : thread.step with
  | look =>
    cases hslot : scene.dispatcher.slot thread.format with
    | none => exact ⟨_, _, .miss hstep hslot⟩
    | some processor => exact ⟨_, _, .find hstep hslot⟩
  | lock =>
    by_cases hholder : scene.holder = none
    · exact ⟨_, _, .enter hstep hholder⟩
    · exact ⟨_, _, .wait hstep hholder⟩
  | lookAgain =>
    cases hslot : scene.dispatcher.slot thread.format with
    | none => exact ⟨_, _, .missAgain hstep hslot⟩
    | some processor => exact ⟨_, _, .findAgain hstep hslot⟩
  | build =>
    rcases hbuild : W.build thread.options scene.state with ⟨failure | processor, state⟩
    · exact ⟨_, _, .fail hstep hbuild⟩
    · exact ⟨_, _, .build hstep hbuild⟩
  | store processor => exact ⟨_, _, .store hstep⟩
  | unlock outcome => exact ⟨_, _, .leave hstep⟩
  | report processor => exact ⟨_, _, .report hstep⟩
  | dispatch obtained => exact ⟨_, _, .dispatch hstep⟩
  | done outcome => exact ⟨_, _, .rest hstep⟩

/-! ## What a move leaves alone -/

section Moves

variable {W : Workshop φ P} {scene changed : Scene φ P} {place : Nat} {thread : Thread P}
  {step : Step P}

/-- A move does not touch the threads. -/
theorem threads_of_move (h : Move W scene place thread step changed) :
    changed.threads = scene.threads := by
  cases h <;> rfl

/-- A move leaves the lock alone, or takes it when it is free, or gives it back. -/
theorem holder_of_move (h : Move W scene place thread step changed) :
    (changed.holder = scene.holder ∧ step.inside = thread.step.inside) ∨
    (scene.holder = none ∧ changed.holder = some place) ∨
    (thread.step.inside ∧ step.inside = false ∧ changed.holder = none) := by
  cases h with
  | enter hstep hholder => exact .inr (.inl ⟨hholder, rfl⟩)
  | leave hstep => exact .inr (.inr ⟨by rw [hstep]; rfl, inside_afterLock _, rfl⟩)
  | find hstep | miss hstep | wait hstep | findAgain hstep | missAgain hstep | fail hstep
  | build hstep | store hstep | report hstep | dispatch hstep | rest hstep =>
    exact .inl ⟨rfl, (congrArg Step.inside hstep).symm⟩

/-- A move leaves the slots alone, or stores what the thread has built. -/
theorem dispatcher_of_move (h : Move W scene place thread step changed) :
    changed.dispatcher = scene.dispatcher ∨
    ∃ processor, thread.step = .store processor ∧ step = .unlock (.ok ⟨processor, true⟩) ∧
      changed.dispatcher = scene.dispatcher.fill thread.format processor := by
  cases h with
  | store hstep => exact .inr ⟨_, hstep, rfl, rfl⟩
  | _ => exact .inl rfl

/-- A thread comes to count on an empty slot only by finding it empty. -/
theorem vacant_of_move (h : Move W scene place thread step changed) (hv : step.vacant) :
    thread.step.vacant ∨ scene.dispatcher.slot thread.format = none := by
  cases h with
  | missAgain hstep hslot => exact .inr hslot
  | build hstep =>
    left
    rw [hstep]
    rfl
  | leave hstep =>
    rw [vacant_afterLock] at hv
    cases hv
  | _ => cases hv

/-- A thread comes to hold a processor by finding or by storing it. -/
theorem held_of_move (h : Move W scene place thread step changed) {processor : P}
    (hp : step.held? = some processor) :
    thread.step.held? = some processor ∨
      changed.dispatcher.slot thread.format = some processor := by
  cases h with
  | find hstep hslot | findAgain hstep hslot =>
    cases hp
    exact .inr hslot
  | store hstep =>
    cases hp
    exact .inr (slot_fill_self _ _ _)
  | leave hstep =>
    rw [held?_afterLock] at hp
    rw [hstep]
    exact .inl hp
  | report hstep | dispatch hstep | rest hstep =>
    rw [hstep]
    exact .inl hp
  | _ => cases hp

/-- A thread comes to have built a processor only by building it. -/
theorem built_of_move (h : Move W scene place thread step changed) :
    step.built = thread.step.built ∨ thread.step = .build ∧ step.built := by
  cases h with
  | build hstep => exact .inr ⟨hstep, rfl⟩
  | leave hstep =>
    left
    rw [built_afterLock, hstep]
  | find hstep | miss hstep | enter hstep | wait hstep | findAgain hstep | missAgain hstep
  | fail hstep | store hstep | report hstep | dispatch hstep | rest hstep =>
    exact .inl (congrArg Step.built hstep).symm

end Moves

/-! ## The discipline of the lock -/

/-- The thread at a place, after a thread has gone on to its next step. -/
theorem thread_of_proceed {scene : Scene φ P} {place other : Nat} {step : Step P}
    {thread after : Thread P} (ht : scene.threads[place]? = some thread)
    (ha : (scene.proceed place step).threads[other]? = some after) :
    (other = place ∧ after = { thread with step }) ∨
    (other ≠ place ∧ scene.threads[other]? = some after) := by
  rw [proceed, List.getElem?_modify] at ha
  by_cases h : place = other
  · subst h
    rw [ht] at ha
    left
    simpa [eq_comm] using ha
  · right
    exact ⟨Ne.symm h, by simpa [h] using ha⟩

/-- What holds of a scene all the time. -/
structure Orderly (scene : Scene φ P) : Prop where
  /-- Whoever is inside holds the lock. -/
  holder_eq : ∀ (place : Nat) (thread : Thread P), scene.threads[place]? = some thread →
    thread.step.inside → scene.holder = some place
  /-- Whoever builds or stores a processor does so for an empty slot. -/
  slot_vacant : ∀ (place : Nat) (thread : Thread P), scene.threads[place]? = some thread →
    thread.step.vacant → scene.dispatcher.slot thread.format = none
  /-- The processor that a thread holds is the one in the slot. -/
  slot_held : ∀ (place : Nat) (thread : Thread P) processor, scene.threads[place]? = some thread →
    thread.step.held? = some processor →
      scene.dispatcher.slot thread.format = some processor
  /-- The processor in a slot was built by one of the threads. -/
  builder : ∀ format processor, scene.dispatcher.slot format = some processor →
    ∃ (place : Nat) (thread : Thread P), scene.threads[place]? = some thread ∧
      thread.format = format ∧ thread.step.built
  /-- No two threads have built a processor of the same format. -/
  builder_unique : ∀ (place other : Nat) (thread rival : Thread P),
    scene.threads[place]? = some thread → scene.threads[other]? = some rival →
    thread.format = rival.format → thread.step.built → rival.step.built → place = other

namespace Orderly

variable {scene : Scene φ P} {place other : Nat} {thread rival : Thread P}

/-- There is room for one inside. -/
theorem inside_unique (h : Orderly scene) (ht : scene.threads[place]? = some thread)
    (hr : scene.threads[other]? = some rival) (hin : thread.step.inside)
    (hrin : rival.step.inside) : place = other :=
  Option.some.inj ((h.holder_eq place thread ht hin).symm.trans (h.holder_eq other rival hr hrin))

/-- While a thread counts on an empty slot, no other thread has built a processor
for it. -/
theorem eq_of_vacant_of_built (h : Orderly scene) (ht : scene.threads[place]? = some thread)
    (hr : scene.threads[other]? = some rival) (hf : thread.format = rival.format)
    (hv : thread.step.vacant) (hb : rival.step.built) : place = other := by
  obtain ⟨processor, hstore⟩ | ⟨processor, hheld⟩ := Step.store_or_held_of_built hb
  · exact h.inside_unique ht hr (Step.inside_of_vacant hv) (by rw [hstore]; rfl)
  · have hempty := h.slot_vacant place thread ht hv
    rw [hf, h.slot_held other rival processor hr hheld] at hempty
    cases hempty

end Orderly

section Steps

variable {W : Workshop φ P} {scene changed : Scene φ P} {place : Nat} {thread : Thread P}
  {step : Step P}

/-- A move keeps the slot of a format for every thread that is not the one that
stores into it. -/
theorem slot_of_move (h : Orderly scene) (ht : scene.threads[place]? = some thread)
    (hm : Move W scene place thread step changed) {format : DocumentFormat} {processor : P}
    (hs : scene.dispatcher.slot format = some processor) :
    changed.dispatcher.slot format = some processor := by
  rcases dispatcher_of_move hm with hsame | ⟨new, hstore, -, hfill⟩
  · rw [hsame, hs]
  · have hempty := h.slot_vacant place thread ht (by rw [hstore]; rfl)
    have hne : format ≠ thread.format := by
      rintro rfl
      rw [hs] at hempty
      cases hempty
    rw [hfill, slot_fill_of_ne _ _ hne, hs]

/-- What a thread has built it has built for good. -/
theorem built_after_move (hm : Move W scene place thread step changed)
    (hb : thread.step.built) : step.built := by
  rcases built_of_move hm with hsame | ⟨-, hbuilt⟩
  · rwa [hsame]
  · exact hbuilt

/-- A thread that was at a place is there after a step, at its next step if it is
the one that took the step. -/
theorem exists_thread_after (ht : scene.threads[place]? = some thread)
    (hm : Move W scene place thread step changed) {other : Nat} {rival : Thread P}
    (hr : scene.threads[other]? = some rival) :
    ∃ after : Thread P, (changed.proceed place step).threads[other]? = some after ∧
      after.format = rival.format ∧ (rival.step.built → after.step.built) := by
  rw [proceed, List.getElem?_modify, threads_of_move hm, hr]
  by_cases h : place = other
  · subst h
    obtain rfl := Option.some.inj (ht.symm.trans hr)
    exact ⟨{ thread with step }, by simp, rfl, built_after_move hm⟩
  · exact ⟨rival, by simp [h], rfl, id⟩

/-- A thread that has just built a processor is the only one for its format. -/
theorem eq_of_built_of_move (h : Orderly scene) (ht : scene.threads[place]? = some thread)
    (hm : Move W scene place thread step changed) {other : Nat} {rival : Thread P}
    (hr : scene.threads[other]? = some rival) (hf : thread.format = rival.format)
    (hb : step.built) (hrb : rival.step.built) : place = other := by
  rcases built_of_move hm with hsame | ⟨hbuild, -⟩
  · exact h.builder_unique place other thread rival ht hr hf (by rwa [← hsame]) hrb
  · exact h.eq_of_vacant_of_built ht hr hf (by rw [hbuild]; rfl) hrb

/-- A move and the next step of the thread keep the discipline of the lock. -/
theorem orderly_of_move (h : Orderly scene) (ht : scene.threads[place]? = some thread)
    (hm : Move W scene place thread step changed) : Orderly (changed.proceed place step) := by
  have hplace : changed.threads[place]? = some thread := by rwa [threads_of_move hm]
  have hframe := threads_of_move hm
  constructor
  case holder_eq =>
    intro other after ha hin
    rcases thread_of_proceed hplace ha with ⟨rfl, rfl⟩ | ⟨hne, hother⟩
    · rcases holder_of_move hm with ⟨hholder, hsame⟩ | ⟨-, hholder⟩ | ⟨-, hout, -⟩
      · exact hholder.trans (h.holder_eq other thread ht (by rwa [← hsame]))
      · exact hholder
      · rw [hout] at hin
        cases hin
    · rw [hframe] at hother
      have hheld := h.holder_eq other after hother hin
      rcases holder_of_move hm with ⟨hholder, -⟩ | ⟨hfree, -⟩ | ⟨hinside, -, -⟩
      · exact hholder.trans hheld
      · rw [hheld] at hfree
        cases hfree
      · exact absurd (h.inside_unique hother ht hin hinside) hne
  case slot_vacant =>
    intro other after ha hv
    rcases thread_of_proceed hplace ha with ⟨rfl, rfl⟩ | ⟨hne, hother⟩
    · have hempty : scene.dispatcher.slot thread.format = none :=
        (vacant_of_move hm hv).elim (h.slot_vacant other thread ht) id
      rcases dispatcher_of_move hm with hsame | ⟨processor, -, rfl, -⟩
      · exact (congrArg (slot · thread.format) hsame).trans hempty
      · cases hv
    · rw [hframe] at hother
      have hempty := h.slot_vacant other after hother hv
      rcases dispatcher_of_move hm with hsame | ⟨processor, hstore, -, -⟩
      · exact (congrArg (slot · after.format) hsame).trans hempty
      -- Both threads would be inside.
      · exact absurd (h.inside_unique hother ht (Step.inside_of_vacant hv) (by rw [hstore]; rfl))
          hne
  case slot_held =>
    intro other after processor ha hp
    rcases thread_of_proceed hplace ha with ⟨rfl, rfl⟩ | ⟨hne, hother⟩
    · rcases held_of_move hm hp with hheld | hslot
      · exact slot_of_move h ht hm (h.slot_held other thread processor ht hheld)
      · exact hslot
    · rw [hframe] at hother
      exact slot_of_move h ht hm (h.slot_held other after processor hother hp)
  case builder =>
    intro format processor hslot
    have hbuilder : ∃ (other : Nat) (rival : Thread P), scene.threads[other]? = some rival ∧
        rival.format = format ∧ rival.step.built := by
      rcases dispatcher_of_move hm with hsame | ⟨new, hstore, -, hfill⟩
      · exact h.builder format processor (by rw [← hsame]; exact hslot)
      · by_cases hf : format = thread.format
        · exact ⟨place, thread, ht, hf.symm, by rw [hstore]; rfl⟩
        · refine h.builder format processor ?_
          rw [← slot_fill_of_ne scene.dispatcher new hf, ← hfill]
          exact hslot
    obtain ⟨other, rival, hr, rfl, hb⟩ := hbuilder
    obtain ⟨after, ha, hformat, hbuilt⟩ := exists_thread_after ht hm hr
    exact ⟨other, after, ha, hformat, hbuilt hb⟩
  case builder_unique =>
    intro first second after rival ha hr hf hb hrb
    rcases thread_of_proceed hplace ha with ⟨rfl, rfl⟩ | ⟨-, hfirst⟩ <;>
      rcases thread_of_proceed hplace hr with ⟨rfl, rfl⟩ | ⟨-, hsecond⟩
    · rfl
    · rw [hframe] at hsecond
      exact eq_of_built_of_move h ht hm hsecond hf hb hrb
    · rw [hframe] at hfirst
      exact (eq_of_built_of_move h ht hm hfirst hf.symm hrb hb).symm
    · rw [hframe] at hfirst hsecond
      exact h.builder_unique first second after rival hfirst hsecond hf hb hrb

end Steps

/-- Every step keeps the discipline of the lock. -/
theorem orderly_advance (W : Workshop φ P) {scene : Scene φ P} (h : Orderly scene)
    (place : Nat) : Orderly (scene.advance W place) := by
  cases ht : scene.threads[place]? with
  | none =>
    rw [advance, ht]
    exact h
  | some thread =>
    obtain ⟨step, changed, hmove, hadvance⟩ := exists_move W ht
    rw [hadvance]
    exact orderly_of_move h ht hmove

/-- Every schedule keeps the discipline of the lock. -/
theorem orderly_run (W : Workshop φ P) {scene : Scene φ P} (h : Orderly scene)
    (schedule : List Nat) : Orderly (scene.run W schedule) := by
  induction schedule generalizing scene with
  | nil => exact h
  | cons place schedule ih => exact ih (orderly_advance W h place)

end Scene

end DocPress.Dispatcher
