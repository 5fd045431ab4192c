import DeepLink.Session

/-! # What only a dispatch gives off

Presenters are heard, and dispatches are counted, in dispatches alone. All other operations are
quiet in this sense, and so is the resolution inside a dispatch. -/

namespace DeepLink

/-- An event that a presenter gives off. -/
def Event.ofPresenter : Event → Bool
  | .actionRun _ | .targetPresented _ => true
  | _ => false

/-- How often a presenter is heard of. -/
def presentersHeard (signals : List Signal) : Nat :=
  (events signals).countP Event.ofPresenter

/-- The outcome that a counter of dispatches counts. -/
def Counter.outcome? : Counter → Option Dispatched
  | .dispatch outcome => some outcome
  | _ => none

/-- The outcomes that are counted, one entry for each time a counter of dispatches is raised. -/
def dispatchesCounted (signals : List Signal) : List Dispatched :=
  (counts signals).filterMap Counter.outcome?

/-- No presenter is heard of, and no dispatch is counted. -/
def Quiet (signals : List Signal) : Prop :=
  presentersHeard signals = 0 ∧ dispatchesCounted signals = []

@[simp]
theorem presentersHeard_append (a b : List Signal) :
    presentersHeard (a ++ b) = presentersHeard a + presentersHeard b := by
  rw [presentersHeard, events_append, List.countP_append, presentersHeard, presentersHeard]

@[simp]
theorem dispatchesCounted_append (a b : List Signal) :
    dispatchesCounted (a ++ b) = dispatchesCounted a ++ dispatchesCounted b := by
  rw [dispatchesCounted, counts_append, List.filterMap_append, dispatchesCounted,
    dispatchesCounted]

@[simp]
theorem presentersHeard_nil : presentersHeard [] = 0 := rfl

@[simp]
theorem presentersHeard_event (event : Event) (rest : List Signal) :
    presentersHeard (.event event :: rest) =
      presentersHeard rest + if event.ofPresenter then 1 else 0 := by
  simp only [presentersHeard, events, List.filterMap_cons, List.countP_cons]

@[simp]
theorem presentersHeard_count (counter : Counter) (rest : List Signal) :
    presentersHeard (.count counter :: rest) = presentersHeard rest := by
  simp only [presentersHeard, events, List.filterMap_cons]

@[simp]
theorem dispatchesCounted_nil : dispatchesCounted [] = [] := rfl

@[simp]
theorem dispatchesCounted_event (event : Event) (rest : List Signal) :
    dispatchesCounted (.event event :: rest) = dispatchesCounted rest := by
  simp only [dispatchesCounted, counts, List.filterMap_cons]

@[simp]
theorem dispatchesCounted_dispatch (outcome : Dispatched) (rest : List Signal) :
    dispatchesCounted (.count (.dispatch outcome) :: rest) =
      outcome :: dispatchesCounted rest := by
  simp only [dispatchesCounted, counts, List.filterMap_cons, Counter.outcome?]

theorem quiet_nil : Quiet [] := ⟨rfl, rfl⟩

theorem Quiet.append {a b : List Signal} (ha : Quiet a) (hb : Quiet b) : Quiet (a ++ b) := by
  constructor
  · rw [presentersHeard_append, ha.1, hb.1]
  · rw [dispatchesCounted_append, ha.2, hb.2, List.append_nil]

theorem Quiet.cons {signal : Signal} {rest : List Signal} (hsignal : Quiet [signal])
    (hrest : Quiet rest) : Quiet (signal :: rest) :=
  hsignal.append hrest

/-! ## Registries -/

namespace Registry

theorem quiet_register {β : Type} (r : Registry β) (kind : Kind) (key : String) (binding : β) :
    Quiet (r.register kind key binding).signals := by
  unfold register
  split
  · exact ⟨rfl, rfl⟩
  · split
    · exact ⟨rfl, rfl⟩
    · exact ⟨rfl, rfl⟩

theorem quiet_registerAll (r : Registry String) (routes : List Route) :
    Quiet (r.registerAll routes).signals := by
  induction routes generalizing r with
  | nil => exact quiet_nil
  | cons route routes ih =>
      have hfirst := r.quiet_register route.kind route.pattern route.target
      unfold registerAll
      dsimp only
      split
      · exact hfirst
      · exact hfirst.append (ih _)

theorem quiet_resolve {β : Type} (r : Registry β) (route : String) :
    Quiet (r.resolve route).signals := by
  unfold resolve
  dsimp only
  split
  · exact ⟨rfl, rfl⟩
  · split
    · exact ⟨rfl, rfl⟩
    · split
      · exact quiet_nil
      · exact ⟨rfl, rfl⟩

end Registry

/-! ## Dispatchers -/

namespace Dispatcher

theorem quiet_build (config : Config) : Quiet (build config).signals := by
  have hroutes := Registry.empty.quiet_registerAll config.routes
  unfold build Registry.build
  dsimp only
  split
  · exact hroutes
  · exact hroutes.append ⟨rfl, rfl⟩

theorem quiet_apply (d : Dispatcher) (config : Config) : Quiet (d.apply config).2.signals := by
  have hroutes := Registry.empty.quiet_registerAll config.routes
  unfold apply Registry.build
  dsimp only
  split
  · exact hroutes
  · exact hroutes.append ⟨rfl, rfl⟩

theorem quiet_applyEach (d : Dispatcher) (configs : List Config) :
    Quiet (d.applyEach configs).2 := by
  induction configs generalizing d with
  | nil => exact quiet_nil
  | cons config rest ih =>
      simp only [applyEach]
      refine (d.quiet_apply config).append (Quiet.cons ?_ (ih _))
      split
      · exact ⟨rfl, rfl⟩
      · exact ⟨rfl, rfl⟩

end Dispatcher

/-- Whether an operation is a dispatch. -/
def Step.isDispatch : Step → Bool
  | .dispatch _ _ _ => true
  | _ => false

/-- Nothing but a dispatch is heard of. -/
theorem Dispatcher.quiet_perform (d : Dispatcher) {step : Step} (h : step.isDispatch = false) :
    Quiet (d.perform step).signals ∧ (d.perform step).collected = none := by
  cases step with
  | register kind pattern target =>
      have hregister := d.registry.quiet_register kind pattern target
      simp only [perform]
      split
      · exact ⟨hregister, rfl⟩
      · exact ⟨hregister, rfl⟩
  | dispatch route arguments flags => cases h
  | setPresenter presenter => exact ⟨quiet_nil, rfl⟩
  | setFallback fallback => exact ⟨quiet_nil, rfl⟩
  | clearFallback => exact ⟨quiet_nil, rfl⟩
  | reset => exact ⟨⟨rfl, rfl⟩, rfl⟩
  | replaceRegistry routes =>
      have hroutes := Registry.empty.quiet_registerAll routes
      simp only [perform, Registry.build]
      split
      · exact ⟨hroutes, rfl⟩
      · exact ⟨hroutes.append ⟨rfl, rfl⟩, rfl⟩
  | apply config =>
      have happly := d.quiet_apply config
      simp only [perform]
      split
      · exact ⟨happly, rfl⟩
      · exact ⟨happly, rfl⟩
  | reload configs ending =>
      have hseries := d.quiet_applyEach configs
      refine ⟨(hseries.append ?_).append ⟨rfl, rfl⟩, rfl⟩
      cases ending
      · exact quiet_nil
      · exact ⟨rfl, rfl⟩
  | resolve route =>
      simp only [perform, and_true]
      exact d.registry.quiet_resolve route
  | isValid route =>
      simp only [perform, Registry.isValid, and_true]
      exact d.registry.quiet_resolve route

end DeepLink
