import DeepLink.Metrics
import DeepLink.Proofs.Config.Replacement
import DeepLink.Proofs.Dispatch.Decision
import DeepLink.Proofs.Session.History
import DeepLink.Proofs.Session.Quiet

/-! # Counted registrations and resolutions

Registrations and resolutions are counted deep inside of operations. The counters are compared with
a list of the calls that a session makes: every registration is in it, up to the one that refuses a
table, and every resolution, but a resolution that fails is counted nowhere. -/

namespace DeepLink

/-! ## Calls, and the counters they belong to -/

/-- A call that is to be counted, with its answer. -/
inductive CountedCall where
  | register (kind : Kind) (result : Except RouteError (Registry String))
  | resolve (result : Except RouteError (Option (Resolution String)))

/-- The counter that a call belongs to. -/
def CountedCall.counter? : CountedCall → Option Counter
  | .register kind (.ok _) => some (.registration kind .ok)
  | .register kind (.error (.duplicateRoute _ _)) => some (.registration kind .duplicate)
  | .register kind (.error (.malformedPattern _ _)) => some (.registration kind .malformed)
  | .register _ (.error (.malformedQuery _ _)) => none
  | .resolve (.ok (some found)) => some (.resolution (some found.kind))
  | .resolve (.ok none) => some (.resolution none)
  | .resolve (.error _) => none

/-- The registrations that are made for a list of routes. A route is registered when all routes in
front of it have been. -/
def Registry.registrations (r : Registry String) (routes : List Route) : List CountedCall :=
  routes.zipIdx.filterMap fun (route, index) =>
    match (r.registerAll (routes.take index)).result with
    | .ok before =>
        some (.register route.kind
          (before.register route.kind route.pattern route.target).result)
    | .error _ => none

/-- The calls that an operation makes. -/
def Turn.calls (turn : Turn) : List CountedCall :=
  match turn.step with
  | .register kind pattern target =>
      [.register kind (turn.dispatcher.registry.register kind pattern target).result]
  | .dispatch route _ _ | .resolve route | .isValid route =>
      [.resolve (turn.dispatcher.registry.resolve route).result]
  | .replaceRegistry routes => Registry.empty.registrations routes
  | .apply config => Registry.empty.registrations config.routes
  | .reload configs _ => configs.flatMap fun config => Registry.empty.registrations config.routes
  | .setPresenter _ | .setFallback _ | .clearFallback | .reset => []

/-- The counters that are raised, those of dispatches left out. -/
def callsCounted (signals : List Signal) : List Counter :=
  (counts signals).filter (·.outcome?.isNone)

@[simp]
theorem callsCounted_nil : callsCounted [] = [] := rfl

@[simp]
theorem callsCounted_append (a b : List Signal) :
    callsCounted (a ++ b) = callsCounted a ++ callsCounted b := by
  rw [callsCounted, counts_append, List.filter_append, callsCounted, callsCounted]

@[simp]
theorem callsCounted_event (event : Event) (rest : List Signal) :
    callsCounted (.event event :: rest) = callsCounted rest := by
  simp only [callsCounted, counts, List.filterMap_cons]

@[simp]
theorem callsCounted_dispatch (outcome : Dispatched) (rest : List Signal) :
    callsCounted (.count (.dispatch outcome) :: rest) = callsCounted rest := by
  simp [callsCounted, counts, Counter.outcome?]

@[simp]
theorem callsCounted_registration (kind : Kind) (outcome : Registered) (rest : List Signal) :
    callsCounted (.count (.registration kind outcome) :: rest) =
      .registration kind outcome :: callsCounted rest := by
  simp [callsCounted, counts, Counter.outcome?]

@[simp]
theorem callsCounted_resolution (kind : Option Kind) (rest : List Signal) :
    callsCounted (.count (.resolution kind) :: rest) = .resolution kind :: callsCounted rest := by
  simp [callsCounted, counts, Counter.outcome?]

/-! ## Registrations -/

namespace Registry

theorem callsCounted_register (r : Registry String) (kind : Kind) (key target : String) :
    callsCounted (r.register kind key target).signals =
      [CountedCall.register kind (r.register kind key target).result].filterMap
        CountedCall.counter? := by
  unfold register
  split
  · simp [CountedCall.counter?]
  · split
    · simp [CountedCall.counter?]
    · simp [CountedCall.counter?]

theorem registrations_cons_of_ok {r next : Registry String} {route : Route}
    (h : (r.register route.kind route.pattern route.target).result = .ok next)
    (routes : List Route) :
    r.registrations (route :: routes) =
      .register route.kind (.ok next) :: next.registrations routes := by
  simp only [registrations, List.zipIdx_cons, List.zipIdx_succ, List.filterMap_cons, List.take_zero,
    registerAll, h, List.filterMap_map, Function.comp_def, List.take_succ_cons]

/-- Nothing is registered behind a route that is refused. -/
theorem registrations_cons_of_error {r : Registry String} {route : Route} {error : RouteError}
    (h : (r.register route.kind route.pattern route.target).result = .error error)
    (routes : List Route) :
    r.registrations (route :: routes) = [.register route.kind (.error error)] := by
  simp only [registrations, List.zipIdx_cons, List.zipIdx_succ, List.filterMap_cons, List.take_zero,
    registerAll, h, List.filterMap_map, Function.comp_def, List.take_succ_cons]
  simp

theorem callsCounted_registerAll (r : Registry String) (routes : List Route) :
    callsCounted (r.registerAll routes).signals =
      (r.registrations routes).filterMap CountedCall.counter? := by
  induction routes generalizing r with
  | nil => rfl
  | cons route routes ih =>
      have hfirst := r.callsCounted_register route.kind route.pattern route.target
      cases hresult : (r.register route.kind route.pattern route.target).result with
      | error error =>
          have hsignals : (r.registerAll (route :: routes)).signals =
              (r.register route.kind route.pattern route.target).signals := by
            simp only [registerAll, hresult]
          rw [hsignals, hfirst, hresult, registrations_cons_of_error hresult]
      | ok next =>
          have hsignals : (r.registerAll (route :: routes)).signals =
              (r.register route.kind route.pattern route.target).signals ++
                (next.registerAll routes).signals := by
            simp only [registerAll, hresult]
          rw [hsignals, callsCounted_append, hfirst, ih, hresult, ← List.filterMap_append,
            List.singleton_append, registrations_cons_of_ok hresult]

/-- A table that is built asks for each of its routes, and each is granted. -/
theorem map_counter?_registrations {r last : Registry String} {routes : List Route}
    (h : (r.registerAll routes).result = .ok last) :
    (r.registrations routes).map CountedCall.counter? =
      routes.map fun route => some (.registration route.kind .ok) := by
  induction routes generalizing r with
  | nil => rfl
  | cons route routes ih =>
      obtain ⟨next, hfirst, hrest⟩ := registerAll_cons_eq_ok h
      rw [registrations_cons_of_ok hfirst, List.map_cons, List.map_cons, ih hrest]
      rfl

/-- A table that is refused asks for its routes up to the one that is refused, and no further. -/
theorem FailsAt.map_counter?_registrations {r : Registry String} {routes : List Route}
    {index : Nat} {route : Route} {error : RouteError} (h : r.FailsAt routes index route error) :
    (r.registrations routes).map CountedCall.counter? =
      ((routes.take index).map fun before => some (.registration before.kind .ok)) ++
        [(CountedCall.register route.kind (.error error)).counter?] := by
  obtain ⟨hroute, before, hbefore, hrefused⟩ := h
  induction routes generalizing r index with
  | nil => simp at hroute
  | cons first routes ih =>
      cases index with
      | zero =>
          obtain rfl := Option.some.inj hroute
          obtain rfl := Except.ok.inj hbefore
          rw [registrations_cons_of_error hrefused]
          rfl
      | succ index =>
          obtain ⟨next, hfirst, hrest⟩ := registerAll_cons_eq_ok hbefore
          rw [registrations_cons_of_ok hfirst, List.map_cons, ih hroute hrest, List.take_succ_cons,
            List.map_cons, List.cons_append]
          rfl

theorem callsCounted_resolve (r : Registry String) (route : String) :
    callsCounted (r.resolve route).signals =
      [CountedCall.resolve (r.resolve route).result].filterMap CountedCall.counter? := by
  unfold resolve
  dsimp only
  split
  · simp [CountedCall.counter?]
  · split
    · simp [CountedCall.counter?]
    · split
      · simp [CountedCall.counter?]
      · simp [CountedCall.counter?]

end Registry

/-! ## One operation -/

namespace Dispatcher

theorem callsCounted_build (config : Config) :
    callsCounted (build config).signals =
      (Registry.empty.registrations config.routes).filterMap CountedCall.counter? := by
  rw [← Registry.callsCounted_registerAll]
  unfold build Registry.build
  dsimp only
  split
  · rfl
  · simp

theorem callsCounted_apply (d : Dispatcher) (config : Config) :
    callsCounted (d.apply config).2.signals =
      (Registry.empty.registrations config.routes).filterMap CountedCall.counter? := by
  rw [← Registry.callsCounted_registerAll]
  unfold apply Registry.build
  dsimp only
  split
  · rfl
  · simp [replaceRegistry]

theorem callsCounted_applyEach (d : Dispatcher) (configs : List Config) :
    callsCounted (d.applyEach configs).2 =
      (configs.flatMap fun config => Registry.empty.registrations config.routes).filterMap
        CountedCall.counter? := by
  induction configs generalizing d with
  | nil => rfl
  | cons config rest ih =>
      simp only [applyEach, callsCounted_append, callsCounted_event, callsCounted_apply, ih,
        List.flatMap_cons, List.filterMap_append]

/-- How a dispatch ends is counted among dispatches only. -/
theorem callsCounted_verdict (verdict : Verdict) : callsCounted verdict.signals = [] := by
  cases verdict with
  | presented presenter p fallback => cases presenter <;> simp [Verdict.signals, Presenter.signals]
  | _ => simp [Verdict.signals]

theorem callsCounted_dispatch (d : Dispatcher) (route : String)
    (arguments : List (String × String)) (flags : Flags) :
    callsCounted (d.dispatch route arguments flags).signals =
      [CountedCall.resolve (d.registry.resolve route).result].filterMap CountedCall.counter? := by
  rw [signals_dispatch, callsCounted_append, callsCounted_verdict, List.append_nil,
    callsCounted_event, Registry.callsCounted_resolve]

end Dispatcher

/-- An operation raises the counters of the calls that it makes, in their order. -/
theorem Turn.callsCounted_reaction (turn : Turn) :
    callsCounted turn.reaction.signals = turn.calls.filterMap CountedCall.counter? := by
  obtain ⟨d, step⟩ := turn
  cases step with
  | register kind pattern target =>
      simp only [reaction, calls, Dispatcher.perform]
      rw [← Registry.callsCounted_register]
      split
      · rfl
      · rfl
  | dispatch route arguments flags =>
      simp only [reaction, calls, Dispatcher.perform]
      exact d.callsCounted_dispatch route arguments flags
  | setPresenter presenter => rfl
  | setFallback fallback => rfl
  | clearFallback => rfl
  | reset => rfl
  | replaceRegistry routes =>
      simp only [reaction, calls, Dispatcher.perform]
      rw [← Registry.callsCounted_registerAll]
      unfold Registry.build
      split
      · rfl
      · simp [Dispatcher.replaceRegistry]
  | apply config =>
      simp only [reaction, calls, Dispatcher.perform]
      rw [← d.callsCounted_apply config]
      split
      · rfl
      · rfl
  | reload configs ending =>
      simp only [reaction, calls, Dispatcher.perform]
      rw [callsCounted_append, callsCounted_append, d.callsCounted_applyEach]
      cases ending <;> simp
  | resolve route =>
      simp only [reaction, calls, Dispatcher.perform]
      exact d.registry.callsCounted_resolve route
  | isValid route =>
      simp only [reaction, calls, Dispatcher.perform, Registry.isValid]
      exact d.registry.callsCounted_resolve route

/-! ## A whole session -/

theorem callsCounted_flatMap (turns : List Turn) :
    callsCounted (turns.flatMap (·.reaction.signals)) =
      (turns.flatMap Turn.calls).filterMap CountedCall.counter? := by
  induction turns with
  | nil => rfl
  | cons turn rest ih =>
      rw [List.flatMap_cons, callsCounted_append, turn.callsCounted_reaction, ih, List.flatMap_cons,
        List.filterMap_append]

/-- The counters of registrations and resolutions stand at the numbers of calls that belong to
them. -/
structure Accounts (signals : List Signal) (calls : List CountedCall) : Prop where
  registration : ∀ kind outcome,
    Metrics.value (counts signals) (.registration kind outcome) =
      calls.countP (·.counter? = some (.registration kind outcome))
  resolution : ∀ kind,
    Metrics.value (counts signals) (.resolution kind) =
      calls.countP (·.counter? = some (.resolution kind))

theorem countP_counter? (calls : List CountedCall) (counter : Counter) :
    calls.countP (·.counter? = some counter) =
      (calls.filterMap CountedCall.counter?).count counter := by
  rw [List.count_filterMap]
  simp only [beq_eq_decide]

theorem accounts_of_callsCounted {signals : List Signal} {calls : List CountedCall}
    (h : callsCounted signals = calls.filterMap CountedCall.counter?) : Accounts signals calls := by
  have hvalue : ∀ counter : Counter, counter.outcome? = none →
      Metrics.value (counts signals) counter = calls.countP (·.counter? = some counter) := by
    intro counter hcounter
    rw [countP_counter?, ← h, callsCounted, List.count_filter, Metrics.value]
    simp [hcounter]
  exact ⟨fun kind outcome => hvalue _ rfl, fun kind => hvalue _ rfl⟩

/-- Every registration and every resolution is accounted for. At every point of a session, with or
without the building of its dispatcher, each counter stands at the number of calls that were
answered so. A table that is built registers all its routes, and one that is refused registers those
in front of the refused route, and this one, and no more. A resolution that fails is counted
nowhere. -/
theorem Dispatcher.calls_counted (d : Dispatcher) (steps : List Step) :
    Accounts ((d.run steps).flatMap (·.signals)) ((d.history steps).flatMap Turn.calls) ∧
    (∀ config, Accounts (build config).signals (Registry.empty.registrations config.routes) ∧
      Accounts ((build config).signals ++ (d.run steps).flatMap (·.signals))
        (Registry.empty.registrations config.routes ++ (d.history steps).flatMap Turn.calls)) ∧
    (∀ routes registry, (Registry.build routes).result = .ok registry →
      (Registry.empty.registrations routes).map CountedCall.counter? =
        routes.map fun route => some (.registration route.kind .ok)) ∧
    (∀ routes index route error, Registry.empty.FailsAt routes index route error →
      (Registry.empty.registrations routes).map CountedCall.counter? =
        ((routes.take index).map fun before => some (.registration before.kind .ok)) ++
          [(CountedCall.register route.kind (.error error)).counter?]) ∧
    ∀ (r : Registry String) route error, (r.resolve route).result = .error error →
      callsCounted (r.resolve route).signals = [] := by
  have hsession : callsCounted ((d.run steps).flatMap (·.signals)) =
      ((d.history steps).flatMap Turn.calls).filterMap CountedCall.counter? := by
    rw [run_eq_map_history, List.flatMap_map]
    exact callsCounted_flatMap (d.history steps)
  refine ⟨accounts_of_callsCounted hsession, fun config => ⟨?_, ?_⟩,
    fun _ _ h => Registry.map_counter?_registrations h,
    fun _ _ _ _ h => h.map_counter?_registrations, ?_⟩
  · exact accounts_of_callsCounted (callsCounted_build config)
  · apply accounts_of_callsCounted
    rw [callsCounted_append, callsCounted_build, hsession, List.filterMap_append]
  · intro r route error herror
    rw [r.callsCounted_resolve, herror]
    rfl

/-- A table is refused at its second route; its first route is registered by itself, and a broken
one refused; a query cannot be read, a link resolves, and another one matches nothing. -/
def refusedSession : List Step :=
  [.apply Config.repeatingTable, .register .composite Registry.itemTemplate "Item",
    .register .action "no pattern" "Item", .dispatch "app://h/items/7/a.b?x" [] .empty,
    .isValid "app://h/items/7/a.b", .resolve "app://h/x"]

theorem Dispatcher.calls_counted_refused :
    Registry.empty.FailsAt Config.repeatingTable.routes 1 ⟨.direct, Registry.itemTemplate, "Item"⟩
      (.duplicateRoute Registry.itemTemplate .composite) ∧
    (Registry.empty.registrations Config.repeatingTable.routes).map CountedCall.counter? =
      [some (.registration .composite .ok), some (.registration .direct .duplicate)] ∧
    Metrics.value (counts ((empty.run refusedSession).flatMap (·.signals)))
      (.registration .composite .ok) = 2 ∧
    Metrics.value (counts ((empty.run refusedSession).flatMap (·.signals)))
      (.registration .action .malformed) = 1 ∧
    Metrics.value (counts ((empty.run refusedSession).flatMap (·.signals)))
      (.resolution (some .composite)) = 1 ∧
    Metrics.value (counts ((empty.run refusedSession).flatMap (·.signals)))
      (.resolution none) = 1 := by
  obtain ⟨haccounts, _, _, hrefused, _⟩ := calls_counted empty refusedSession
  have hfails : Registry.empty.FailsAt Config.repeatingTable.routes 1
      ⟨.direct, Registry.itemTemplate, "Item"⟩
      (.duplicateRoute Registry.itemTemplate .composite) := ⟨rfl, _, rfl, rfl⟩
  have hcounters : ((empty.history refusedSession).flatMap Turn.calls).filterMap
      CountedCall.counter? =
      [.registration .composite .ok, .registration .direct .duplicate,
        .registration .composite .ok, .registration .action .malformed,
        .resolution (some .composite), .resolution none] := rfl
  refine ⟨hfails, hrefused _ _ _ _ hfails, ?_, ?_, ?_, ?_⟩
  · rw [haccounts.registration, countP_counter?, hcounters]
    rfl
  · rw [haccounts.registration, countP_counter?, hcounters]
    rfl
  · rw [haccounts.resolution, countP_counter?, hcounters]
    rfl
  · rw [haccounts.resolution, countP_counter?, hcounters]
    rfl

end DeepLink
