import DocPress.Proofs.Dispatcher.Run

/-!
# Views of a workshop

A workshop may keep more than another about its processors and about the state of
building, and do the same apart from that.  Then dispatchers do the same with either, and
a run of one, seen without what it keeps in addition, is the run of the other.

Main results:

- `Dispatcher.map_call`: a call is seen as the call of the dispatcher that is seen.
- `History.map_run`: a run is seen as a run.
-/

namespace DocPress

variable {φ ψ P Q : Type}

/-- Seen through views of processors and of the state of building, one workshop builds and
processes as another does. -/
structure Workshop.Shows (V : Workshop φ P) (W : Workshop ψ Q) (view : P → Q)
    (seen : φ → ψ) : Prop where
  build_eq : ∀ options state, W.build options (seen state) =
    ((V.build options state).1.map view, seen (V.build options state).2)
  process_eq : ∀ mode document processor,
    W.process mode document (view processor) = (V.process mode document processor).map view

namespace Dispatcher

variable {view : P → Q} {seen : φ → ψ}

/-- A dispatcher seen through a view of its processors. -/
def map (view : P → Q) (dispatcher : Dispatcher P) : Dispatcher Q :=
  ⟨dispatcher.options, dispatcher.md.map view, dispatcher.mdx.map view⟩

@[simp] theorem slot_map (dispatcher : Dispatcher P) (format : DocumentFormat) :
    (dispatcher.map view).slot format = (dispatcher.slot format).map view := by
  cases format <;> rfl

@[simp] theorem map_fill (dispatcher : Dispatcher P) (format : DocumentFormat) (processor : P) :
    (dispatcher.fill format processor).map view =
      (dispatcher.map view).fill format (view processor) := by
  cases format <;> rfl

/-- A call seen through views. -/
def Call.map (view : P → Q) (seen : φ → ψ) (call : Call φ P) : Call ψ Q :=
  ⟨call.outcome, call.document, call.dispatcher.map view, seen call.state, call.notices⟩

/-- A call that ran a processor is seen as one that ran the processor that is seen. -/
theorem map_ofProcessed (format : DocumentFormat) (dispatcher : Dispatcher P) (state : φ)
    (notices : List Notice) (processed : Processed P) :
    (Call.ofProcessed format dispatcher state notices processed).map view seen =
      .ofProcessed format (dispatcher.map view) (seen state) notices (processed.map view) := by
  simp [Call.map, Call.ofProcessed, Processed.map]

/-- A call is seen as the call of the dispatcher that is seen. -/
theorem map_call {V : Workshop φ P} {W : Workshop ψ Q} (h : V.Shows W view seen) (mode : Mode)
    (input : Document.Input) (dispatcher : Dispatcher P) (state : φ) :
    (call V mode input dispatcher state).map view seen =
      call W mode input (dispatcher.map view) (seen state) := by
  have hcase := callCase_call V ⟨mode, input⟩ dispatcher state
  generalize call V mode input dispatcher state = result at hcase ⊢
  -- Each case of the one call is the same case of the other.
  suffices hseen : CallCase W ⟨mode, input⟩ (dispatcher.map view) (seen state)
      (result.map view seen) from hseen.call_eq.symm
  cases hcase with
  | unresolved hr => exact .unresolved hr
  | unbuilt hr hs hb =>
    refine .unbuilt hr (by simp [hs]) ?_
    rw [show (dispatcher.map view).options = dispatcher.options from rfl, h.build_eq, hb]
    rfl
  | built hr hs hb =>
    rw [map_ofProcessed, ← h.process_eq]
    refine .built hr (by simp [hs]) ?_
    rw [show (dispatcher.map view).options = dispatcher.options from rfl, h.build_eq, hb]
    rfl
  | reused hr hs =>
    rw [map_ofProcessed, ← h.process_eq]
    exact .reused hr (by simp [hs])

end Dispatcher

namespace History

/-- A history seen through views. -/
def map (view : P → Q) (seen : φ → ψ) (history : History φ P) : History ψ Q :=
  ⟨history.dispatcher.map view, seen history.state,
    history.calls.map fun entry => (entry.1, entry.2.map view seen)⟩

variable {view : P → Q} {seen : φ → ψ} {V : Workshop φ P} {W : Workshop ψ Q}

/-- Serving a request is seen as serving it. -/
theorem map_serve (h : V.Shows W view seen) (history : History φ P) (request : Request) :
    (history.serve V request).map view seen = (history.map view seen).serve W request := by
  have hcall := Dispatcher.map_call h request.mode request.input history.dispatcher history.state
  simp only [map, serve, answer, List.map_append, List.map_cons, List.map_nil, ← hcall]
  rfl

/-- A run is seen as a run. -/
theorem map_run (h : V.Shows W view seen) (history : History φ P) (requests : List Request) :
    (history.run V requests).map view seen = (history.map view seen).run W requests := by
  induction requests generalizing history with
  | nil => rfl
  | cons request requests ih => rw [run_cons, run_cons, ih, map_serve h]

end History

end DocPress
