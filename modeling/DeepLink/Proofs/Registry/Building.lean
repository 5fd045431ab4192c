import DeepLink.Config
import DeepLink.Proofs.Registry.Reachable

/-! # Registering a list of routes

Routes are registered in order, as in a chain, up to the first that is refused. When none is, the
registry holds exactly these routes, each under its own template. -/

namespace DeepLink

/-- The route that an entry was registered for. -/
def Entry.route (entry : Entry String) : Route := ⟨entry.kind, entry.key, entry.binding⟩

/-- What a route of a configuration asks of a registry. -/
def Route.registration (route : Route) : Registration String :=
  ⟨route.kind, route.pattern, route.target⟩

namespace Registry

/-! ## Chains -/

section Chain

variable {β : Type}

theorem chain_cons_of_ok {r next : Registry β} {wish : Registration β}
    (h : (r.register wish.kind wish.key wish.binding).result = .ok next)
    (wishes : List (Registration β)) : r.chain (wish :: wishes) = next.chain wishes := by
  simp only [chain, h]

theorem chain_cons_of_error {r : Registry β} {wish : Registration β} {error : RouteError}
    (h : (r.register wish.kind wish.key wish.binding).result = .error error)
    (wishes : List (Registration β)) : r.chain (wish :: wishes) = .error error := by
  simp only [chain, h]

/-- A chain fails with the error of its first refusal. What stands in front has been granted. -/
theorem chain_eq_error_iff (r : Registry β) (wishes : List (Registration β)) (error : RouteError) :
    r.chain wishes = .error error ↔
      ∃ before wish behind reached, wishes = before ++ wish :: behind ∧
        r.chain before = .ok reached ∧
        (reached.register wish.kind wish.key wish.binding).result = .error error := by
  constructor
  · intro h
    induction wishes generalizing r with
    | nil => cases h
    | cons wish wishes ih =>
        cases hresult : (r.register wish.kind wish.key wish.binding).result with
        | error other =>
            rw [chain_cons_of_error hresult] at h
            obtain rfl := Except.error.inj h
            exact ⟨[], wish, wishes, r, rfl, rfl, hresult⟩
        | ok next =>
            rw [chain_cons_of_ok hresult] at h
            obtain ⟨before, refused, behind, reached, rfl, hbefore, hrefused⟩ := ih next h
            exact ⟨wish :: before, refused, behind, reached, rfl,
              (chain_cons_of_ok hresult before).trans hbefore, hrefused⟩
  · rintro ⟨before, wish, behind, reached, rfl, hbefore, hrefused⟩
    induction before generalizing r with
    | nil =>
        obtain rfl := Except.ok.inj hbefore
        exact chain_cons_of_error hrefused behind
    | cons first before ih =>
        cases hresult : (r.register first.kind first.key first.binding).result with
        | error other =>
            rw [chain_cons_of_error hresult] at hbefore
            cases hbefore
        | ok next =>
            rw [chain_cons_of_ok hresult] at hbefore
            rw [List.cons_append, chain_cons_of_ok hresult]
            exact ih next hbefore

end Chain

/-! ## One registration after another -/

theorem registerAll_cons_of_ok {r next : Registry String} {route : Route}
    (h : (r.register route.kind route.pattern route.target).result = .ok next)
    (routes : List Route) :
    (r.registerAll (route :: routes)).result = (next.registerAll routes).result := by
  simp only [registerAll, h]

theorem registerAll_cons_of_error {r : Registry String} {route : Route} {error : RouteError}
    (h : (r.register route.kind route.pattern route.target).result = .error error)
    (routes : List Route) : (r.registerAll (route :: routes)).result = .error error := by
  simp only [registerAll, h]

theorem registerAll_cons_eq_ok {r last : Registry String} {route : Route} {routes : List Route}
    (h : (r.registerAll (route :: routes)).result = .ok last) :
    ∃ next, (r.register route.kind route.pattern route.target).result = .ok next ∧
      (next.registerAll routes).result = .ok last := by
  cases hfirst : (r.register route.kind route.pattern route.target).result with
  | error error =>
      rw [registerAll_cons_of_error hfirst] at h
      cases h
  | ok next =>
      rw [registerAll_cons_of_ok hfirst] at h
      exact ⟨next, rfl, h⟩

/-- Registering routes is a chain of registrations. -/
theorem result_registerAll (r : Registry String) (routes : List Route) :
    (r.registerAll routes).result = r.chain (routes.map Route.registration) := by
  induction routes generalizing r with
  | nil => rfl
  | cons route routes ih =>
      rw [List.map_cons]
      cases h : (r.register route.kind route.pattern route.target).result with
      | error error => rw [registerAll_cons_of_error h, chain_cons_of_error h]
      | ok next => rw [registerAll_cons_of_ok h, chain_cons_of_ok h, ih]

/-! ## The route that is refused -/

/-- Routes are registered up to one of them, and that one is refused. -/
structure FailsAt (r : Registry String) (routes : List Route) (index : Nat) (route : Route)
    (error : RouteError) : Prop where
  route_eq : routes[index]? = some route
  refused : ∃ before, (r.registerAll (routes.take index)).result = .ok before ∧
    (before.register route.kind route.pattern route.target).result = .error error

theorem failsAt_zero {r : Registry String} {route : Route} {error : RouteError}
    (h : (r.register route.kind route.pattern route.target).result = .error error)
    (routes : List Route) : r.FailsAt (route :: routes) 0 route error :=
  ⟨rfl, r, rfl, h⟩

theorem FailsAt.cons {r next : Registry String} {first route : Route} {routes : List Route}
    {index : Nat} {error : RouteError} (h : next.FailsAt routes index route error)
    (hfirst : (r.register first.kind first.pattern first.target).result = .ok next) :
    r.FailsAt (first :: routes) (index + 1) route error := by
  obtain ⟨before, hbefore, hrefused⟩ := h.refused
  refine ⟨by simpa using h.route_eq, before, ?_, hrefused⟩
  rw [List.take_succ_cons, registerAll_cons_of_ok hfirst, hbefore]

/-- Registration is refused exactly when it fails at one of the routes. -/
theorem registerAll_eq_error_iff (r : Registry String) (routes : List Route) (error : RouteError) :
    (r.registerAll routes).result = .error error ↔
      ∃ index route, r.FailsAt routes index route error := by
  rw [result_registerAll, chain_eq_error_iff]
  constructor
  · rintro ⟨before, wish, behind, reached, hsplit, hbefore, hrefused⟩
    obtain ⟨front, back, rfl, rfl, hback⟩ := List.map_eq_append_iff.1 hsplit
    obtain ⟨route, rest, rfl, rfl, _⟩ := List.map_eq_cons_iff.1 hback
    refine ⟨front.length, route, by simp, reached, ?_, hrefused⟩
    rw [List.take_left, result_registerAll]
    exact hbefore
  · rintro ⟨index, route, hroute, reached, hbefore, hrefused⟩
    obtain ⟨hindex, rfl⟩ := List.getElem?_eq_some_iff.1 hroute
    refine ⟨(routes.take index).map Route.registration, routes[index].registration,
      (routes.drop (index + 1)).map Route.registration, reached, ?_, ?_, hrefused⟩
    · rw [← List.map_cons, ← List.map_append, List.getElem_cons_drop, List.take_append_drop]
    · rw [← result_registerAll]
      exact hbefore

/-! ## What is stored -/

theorem WellFormed.registerAll {r last : Registry String} {routes : List Route}
    (hr : r.WellFormed) (h : (r.registerAll routes).result = .ok last) : last.WellFormed := by
  induction routes generalizing r with
  | nil =>
      injection h with h
      exact h ▸ hr
  | cons route routes ih =>
      obtain ⟨next, hfirst, hrest⟩ := registerAll_cons_eq_ok h
      exact ih (hr.register hfirst) hrest

/-- The routes are stored one after the other, behind those that were there before. -/
theorem map_route_registerAll {r last : Registry String} {routes : List Route}
    (h : (r.registerAll routes).result = .ok last) :
    last.entries.map Entry.route = r.entries.map Entry.route ++ routes := by
  induction routes generalizing r with
  | nil =>
      injection h with h
      simp [h]
  | cons route routes ih =>
      obtain ⟨next, hfirst, hrest⟩ := registerAll_cons_eq_ok h
      obtain ⟨pattern, _, _, rfl⟩ := register_eq_ok hfirst
      rw [ih hrest]
      simp [Entry.route]

/-- A route is refused when all routes in front of it have been registered. -/
theorem FailsAt.exists_registered {r : Registry String} {routes : List Route} {index : Nat}
    {route : Route} {error : RouteError} (h : r.FailsAt routes index route error) :
    ∃ before, (r.registerAll (routes.take index)).result = .ok before ∧
      before.size = r.size + index := by
  obtain ⟨hroute, before, hbefore, _⟩ := h
  have hindex : index < routes.length := (List.getElem?_eq_some_iff.1 hroute).1
  have hstored := congrArg List.length (map_route_registerAll hbefore)
  rw [List.length_map, List.length_append, List.length_map, List.length_take] at hstored
  refine ⟨before, hbefore, ?_⟩
  simp only [size]
  omega

/-- A registry built from routes holds these and no others, each found under its own template. -/
theorem build_eq_ok {routes : List Route} {registry : Registry String}
    (h : (build routes).result = .ok registry) :
    registry.size = routes.length ∧
      ∀ route ∈ routes, (registry.find? route.pattern).map Entry.route = some route := by
  have hstored : registry.entries.map Entry.route = routes := map_route_registerAll h
  have hwell : registry.WellFormed := wellFormed_empty.registerAll h
  refine ⟨by rw [← hstored, List.length_map, size], ?_⟩
  intro route hroute
  rw [← hstored] at hroute
  obtain ⟨entry, hmem, rfl⟩ := List.mem_map.1 hroute
  have hkey : entry.route.pattern = entry.key := rfl
  rw [hkey, hwell.find?_of_mem hmem, Option.map_some]

/-! ## Signals -/

theorem event_mem_register {β : Type} {r : Registry β} {kind : Kind} {key : String} {binding : β}
    {event : Event} (h : .event event ∈ (r.register kind key binding).signals) :
    event = .routeRegistered ∨ event = .duplicateRegistration ∨ event = .patternRejected := by
  unfold register at h
  split at h
  · exact .inr (.inl (by simpa using h))
  · split at h
    · exact .inr (.inr (by simpa using h))
    · exact .inl (by simpa using h)

/-- Registration tells of routes, never of a whole table. -/
theorem event_mem_registerAll {r : Registry String} {routes : List Route} {event : Event}
    (h : .event event ∈ (r.registerAll routes).signals) :
    event = .routeRegistered ∨ event = .duplicateRegistration ∨ event = .patternRejected := by
  induction routes generalizing r with
  | nil => simp [registerAll] at h
  | cons route routes ih =>
      unfold registerAll at h
      dsimp only at h
      split at h
      · exact event_mem_register h
      · rcases List.mem_append.1 h with h | h
        · exact event_mem_register h
        · exact ih h

end Registry

end DeepLink
