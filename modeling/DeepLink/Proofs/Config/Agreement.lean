import DeepLink.Config.Problem
import DeepLink.Proofs.Registry.Building

/-! # Validation and registration agree

Validation keeps the patterns it has seen, broken ones included; registration keeps the routes it
has accepted, and checks for duplicates before it compiles. The two go hand in hand up to the first
route that registration refuses, and that route is the first whose pattern validation reports. -/

namespace DeepLink

/-! ## Problems with patterns -/

/-- The route whose pattern a problem is about. -/
def Problem.patternIndex? : Problem → Option Nat
  | .malformedPattern index _ => some index
  | .duplicatePattern index _ _ _ => some index
  | .emptyTarget _ _ => none
  | .emptyFallbackTarget => none

/-- A problem with the pattern of a route announces how registering that route fails. A malformed
pattern is reported with the very error, and so with its wording; a duplicate names the kind. -/
inductive Problem.Announces : Problem → Nat → String → RouteError → Prop where
  | malformed {index pattern fault} :
      Announces (.malformedPattern index (.malformedPattern pattern fault)) index pattern
        (.malformedPattern pattern fault)
  | duplicate {index first pattern kind} :
      Announces (.duplicatePattern index first pattern kind) index pattern
        (.duplicateRoute pattern kind)

/-- The problems with patterns among others. -/
def Problem.onPatterns (problems : List Problem) : List Problem :=
  problems.filter (·.patternIndex?.isSome)

theorem Problem.onPatterns_append (a b : List Problem) :
    onPatterns (a ++ b) = onPatterns a ++ onPatterns b :=
  List.filter_append a b

theorem Problem.mem_onPatterns {problem : Problem} {problems : List Problem} :
    problem ∈ onPatterns problems ↔ problem ∈ problems ∧ problem.patternIndex?.isSome :=
  List.mem_filter

namespace Config

/-- The problems with the pattern of one route: it is malformed, or an earlier route has it. -/
theorem onPatterns_problemsOf (seen : FirstSeen) (index : Nat) (route : Route) :
    Problem.onPatterns (problemsOf seen index route) =
      (match Pattern.compile route.pattern with
        | .ok _ => []
        | .error fault => [.malformedPattern index (.malformedPattern route.pattern fault)]) ++
      (match seen.get? route.pattern with
        | some (first, kind) => [.duplicatePattern index first route.pattern kind]
        | none => []) := by
  have htarget : Problem.onPatterns
      (if Text.isBlank route.target then [.emptyTarget index route.pattern] else []) = [] := by
    split
    · rfl
    · rfl
  unfold problemsOf
  simp only [Problem.onPatterns_append, htarget, List.nil_append]
  cases Pattern.compile route.pattern with
  | ok pattern =>
      cases seen.get? route.pattern with
      | none => rfl
      | some known => rfl
  | error fault =>
      cases seen.get? route.pattern with
      | none => rfl
      | some known => rfl

theorem patternIndex?_eq_of_mem_problemsOf {seen : FirstSeen} {index i : Nat} {route : Route}
    {problem : Problem} (h : problem ∈ problemsOf seen index route)
    (hi : problem.patternIndex? = some i) : i = index := by
  have hmem : problem ∈ Problem.onPatterns (problemsOf seen index route) :=
    Problem.mem_onPatterns.2 ⟨h, by rw [hi]; rfl⟩
  rw [onPatterns_problemsOf, List.mem_append] at hmem
  rcases hmem with hmem | hmem
  · split at hmem
    · simp at hmem
    · rw [List.mem_singleton.1 hmem] at hi
      exact (Option.some.inj hi).symm
  · split at hmem
    · rw [List.mem_singleton.1 hmem] at hi
      exact (Option.some.inj hi).symm
    · simp at hmem

/-- The problems of a list of routes are numbered from the first index on. -/
theorem le_of_mem_routeProblems {seen : FirstSeen} {index i : Nat} {routes : List Route}
    {problem : Problem} (h : problem ∈ routeProblems seen index routes)
    (hi : problem.patternIndex? = some i) : index ≤ i := by
  induction routes generalizing seen index with
  | nil => simp [routeProblems] at h
  | cons route routes ih =>
      rw [routeProblems, List.mem_append] at h
      rcases h with h | h
      · exact Nat.le_of_eq (patternIndex?_eq_of_mem_problemsOf h hi).symm
      · have hlater := ih h
        omega

/-! ## Hand in hand -/

/-- The patterns that validation has seen are those that are registered, under the same kinds. -/
structure Tracks (seen : FirstSeen) (r : Registry String) : Prop where
  wellFormed : r.WellFormed
  kindOf?_eq : ∀ key, (seen.get? key).map (·.2) = r.kindOf? key

theorem tracks_empty : Tracks .empty .empty :=
  ⟨Registry.wellFormed_empty, fun _ => rfl⟩

theorem Tracks.register {seen : FirstSeen} {r : Registry String} (h : Tracks seen r) {route : Route}
    {next : Registry String}
    (hregister : (r.register route.kind route.pattern route.target).result = .ok next)
    (index : Nat) : Tracks (seen.insertNew route.pattern (index, route.kind)) next := by
  refine ⟨h.wellFormed.register hregister, ?_⟩
  obtain ⟨pattern, hkind, _, rfl⟩ := Registry.register_eq_ok hregister
  intro key
  have hseen := h.kindOf?_eq
  rw [Registry.kindOf?_append hkind, Dictionary.get?_insertNew, ← hseen key]
  have hnew : seen.get? route.pattern = none := by
    rw [← Option.map_eq_none_iff, hseen, hkind]
  by_cases hkey : key = route.pattern
  · rw [if_pos hkey, if_pos hkey, hnew]
    rfl
  · rw [if_neg hkey, if_neg hkey]

/-- One route: either it is registered and its pattern has no problem, or it is refused, and its
pattern has one problem, which announces the error. -/
theorem Tracks.register_cases {seen : FirstSeen} {r : Registry String} (h : Tracks seen r)
    (route : Route) (index : Nat) :
    (∃ next, (r.register route.kind route.pattern route.target).result = .ok next ∧
      Problem.onPatterns (problemsOf seen index route) = []) ∨
    ∃ error problem, (r.register route.kind route.pattern route.target).result = .error error ∧
      problem.Announces index route.pattern error ∧
      Problem.onPatterns (problemsOf seen index route) = [problem] := by
  rw [onPatterns_problemsOf]
  have hseen := h.kindOf?_eq route.pattern
  rcases r.register_cases route.kind route.pattern route.target with
    ⟨existing, hkind, hresult⟩ | ⟨fault, hkind, hcompile, hresult⟩ |
      ⟨pattern, hkind, hcompile, hresult⟩
  · -- A pattern that was registered compiles, so the duplicate is the only problem.
    obtain ⟨pattern, hcompile⟩ := h.wellFormed.exists_compile hkind
    rw [hkind] at hseen
    obtain ⟨⟨first, kind⟩, hfirst, rfl⟩ := Option.map_eq_some_iff.1 hseen
    refine .inr ⟨_, _, hresult, @Problem.Announces.duplicate index first _ kind, ?_⟩
    rw [hcompile, hfirst]
    rfl
  · rw [hkind, Option.map_eq_none_iff] at hseen
    refine .inr ⟨_, _, hresult, .malformed, ?_⟩
    rw [hcompile, hseen]
    rfl
  · rw [hkind, Option.map_eq_none_iff] at hseen
    refine .inl ⟨_, hresult, ?_⟩
    rw [hcompile, hseen]
    rfl

/-- All routes: either they are registered and no pattern has a problem, or one of them is refused,
and the first problem with a pattern announces its error, all others being about later routes. -/
theorem Tracks.registerAll_cases {seen : FirstSeen} {r : Registry String} (h : Tracks seen r)
    (routes : List Route) (start : Nat) :
    (∃ last, (r.registerAll routes).result = .ok last ∧
      Problem.onPatterns (routeProblems seen start routes) = []) ∨
    ∃ index route error problem others, (r.registerAll routes).result = .error error ∧
      r.FailsAt routes index route error ∧
      problem.Announces (start + index) route.pattern error ∧
      Problem.onPatterns (routeProblems seen start routes) = problem :: others ∧
      ∀ other ∈ others, ∀ i, other.patternIndex? = some i → start + index < i := by
  induction routes generalizing seen r start with
  | nil => exact .inl ⟨r, rfl, rfl⟩
  | cons first routes ih =>
      rw [routeProblems, Problem.onPatterns_append]
      rcases h.register_cases first start with ⟨next, hfirst, hnone⟩ |
        ⟨error, problem, hfirst, hannounces, hone⟩
      · rw [hnone, List.nil_append, Registry.registerAll_cons_of_ok hfirst]
        rcases ih (h.register hfirst start) (start + 1) with hok |
          ⟨index, route, error, problem, others, herror, hfails, hannounces, hproblems, hothers⟩
        · exact .inl hok
        · have hindex : start + 1 + index = start + (index + 1) := by omega
          rw [hindex] at hannounces hothers
          exact .inr ⟨index + 1, route, error, problem, others, herror, hfails.cons hfirst,
            hannounces, hproblems, hothers⟩
      · refine .inr ⟨0, first, error, problem, _, Registry.registerAll_cons_of_error hfirst routes,
          Registry.failsAt_zero hfirst routes, hannounces, by rw [hone]; rfl, ?_⟩
        intro other hother i hi
        exact le_of_mem_routeProblems (Problem.mem_onPatterns.1 hother).1 hi

/-! ## Whole configurations -/

theorem onPatterns_problems (config : Config) :
    Problem.onPatterns config.problems =
      Problem.onPatterns (routeProblems .empty 0 config.routes) := by
  rw [problems, Problem.onPatterns_append]
  refine (congrArg _ ?_).trans (List.append_nil _)
  split
  · split
    · rfl
    · rfl
  · rfl

/-- A whole configuration: either it is built and no pattern has a problem, or one route is refused,
and the first problem with a pattern announces its error. -/
theorem build_cases (config : Config) :
    (∃ registry, (Registry.build config.routes).result = .ok registry ∧
      Problem.onPatterns config.problems = []) ∨
    ∃ index route error problem others, (Registry.build config.routes).result = .error error ∧
      Registry.empty.FailsAt config.routes index route error ∧
      problem.Announces index route.pattern error ∧
      Problem.onPatterns config.problems = problem :: others ∧
      ∀ other ∈ others, ∀ i, other.patternIndex? = some i → index < i := by
  rw [onPatterns_problems]
  rcases tracks_empty.registerAll_cases config.routes 0 with hok |
    ⟨index, route, error, problem, others, herror, hfails, hannounces, hproblems, hothers⟩
  · exact .inl hok
  · rw [Nat.zero_add] at hannounces hothers
    exact .inr ⟨index, route, error, problem, others, herror, hfails, hannounces, hproblems,
      hothers⟩

/-- A configuration without problems is built into a registry. -/
theorem exists_build_of_problems_eq_nil {config : Config} (h : config.problems = []) :
    ∃ registry, (Registry.build config.routes).result = .ok registry := by
  rcases config.build_cases with ⟨registry, hok, _⟩ | ⟨_, _, _, _, _, _, _, _, hproblems, _⟩
  · exact ⟨registry, hok⟩
  · rw [h] at hproblems
    cases hproblems

/-- Building fails exactly when a problem with a pattern is reported. -/
theorem build_eq_error_iff (config : Config) :
    (∃ error, (Registry.build config.routes).result = .error error) ↔
      ∃ problem ∈ config.problems, problem.patternIndex?.isSome := by
  simp only [← Problem.mem_onPatterns]
  rcases config.build_cases with ⟨registry, hok, hnone⟩ |
    ⟨_, _, error, problem, others, herror, _, _, hproblems, _⟩
  · rw [hok, hnone]
    simp
  · rw [herror, hproblems]
    simp

/-- Building fails at the first route whose pattern is reported, in the way that is announced. -/
theorem exists_announces_of_build_eq_error {config : Config} {error : RouteError}
    (h : (Registry.build config.routes).result = .error error) :
    ∃ index route problem, Registry.empty.FailsAt config.routes index route error ∧
      problem ∈ config.problems ∧ problem.Announces index route.pattern error ∧
      ∀ other ∈ config.problems, ∀ i, other.patternIndex? = some i →
        other = problem ∨ index < i := by
  rcases config.build_cases with ⟨registry, hok, _⟩ |
    ⟨index, route, error', problem, others, herror, hfails, hannounces, hproblems, hothers⟩
  · rw [hok] at h
    cases h
  · rw [herror] at h
    injection h with h
    subst h
    have hmem : problem ∈ Problem.onPatterns config.problems := by simp [hproblems]
    refine ⟨index, route, problem, hfails, (Problem.mem_onPatterns.1 hmem).1, hannounces, ?_⟩
    intro other hother i hi
    have hpattern : other ∈ Problem.onPatterns config.problems :=
      Problem.mem_onPatterns.2 ⟨hother, by rw [hi]; rfl⟩
    rw [hproblems] at hpattern
    rcases List.mem_cons.1 hpattern with heq | hlater
    · exact .inl heq
    · exact .inr (hothers other hlater i hi)

end Config

end DeepLink
