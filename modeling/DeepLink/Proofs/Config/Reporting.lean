import DeepLink.Config.Reading
import Mathlib.Data.List.Sort
import Mathlib.Data.List.TakeWhile
import Mathlib.Data.Prod.Lex
import Mathlib.Order.WithBot

/-! # What validation reports

Validation remembers where each pattern came first. It reports a problem exactly when the table has
it, once, and in the order of the routes: for one route the blank target, then the malformed
pattern, then the repeated one. The fallback comes last. -/

namespace DeepLink

/-- A text is blank when nothing is left of it after trimming. -/
theorem Text.trim_eq_empty_iff (text : String) : trim text = "" ↔ isBlank text := by
  rw [trim, isBlank, List.all_eq_true, String.ofList_eq_empty_iff, List.reverse_eq_nil_iff,
    List.dropWhile_eq_nil_iff]
  constructor
  · intro h
    have hempty : text.toList.dropWhile isBlankChar = [] := by
      by_contra hne
      have hblank := h _ (List.mem_reverse.2 (List.head_mem hne))
      rw [List.head_dropWhile_not isBlankChar hne] at hblank
      cases hblank
    exact List.dropWhile_eq_nil_iff.1 hempty
  · intro h c hc
    exact h c ((List.dropWhile_sublist _).subset (List.mem_reverse.1 hc))

/-! ## The order of problems -/

namespace Problem

/-- The place of a problem in a report. Routes come in order, and the fallback behind all of them. A
blank target comes in front of a malformed pattern, and that in front of a repeated one. -/
def place : Problem → WithTop Nat ×ₗ Nat
  | .emptyTarget index _ => toLex (WithTop.some index, 0)
  | .malformedPattern index _ => toLex (WithTop.some index, 1)
  | .duplicatePattern index _ _ _ => toLex (WithTop.some index, 2)
  | .emptyFallbackTarget => toLex (⊤, 0)

/-- One problem has its place in front of another. -/
def Precedes (problem other : Problem) : Prop := problem.place < other.place

instance : Std.Irrefl Precedes := ⟨fun problem => lt_irrefl problem.place⟩

instance : Std.Antisymm Precedes := ⟨fun _ _ h h' => absurd h' (lt_asymm h)⟩

theorem precedes_of_lt {problem other : Problem}
    (h : (ofLex problem.place).1 < (ofLex other.place).1) : problem.Precedes other :=
  Prod.Lex.lt_iff.2 (.inl h)

end Problem

namespace Config

/-! ## The problems of a table -/

/-- The first of several routes with a pattern, and its index. -/
structure FirstWith (routes : List Route) (pattern : String) (index : Nat) (route : Route) :
    Prop where
  getElem? : routes[index]? = some route
  pattern_eq : route.pattern = pattern
  new : ∀ other ∈ routes.take index, other.pattern ≠ pattern

/-- The problems of a route behind others: its target is blank, its pattern does not compile, which
is reported with the error of the compiler, or its pattern is that of an earlier route, which is
reported with the index and the kind of the first such route. -/
inductive RouteProblem (earlier : List Route) (route : Route) : Problem → Prop where
  | emptyTarget (h : Text.trim route.target = "") :
      RouteProblem earlier route (.emptyTarget earlier.length route.pattern)
  | malformedPattern {fault} (h : Pattern.compile route.pattern = .error fault) :
      RouteProblem earlier route
        (.malformedPattern earlier.length (.malformedPattern route.pattern fault))
  | duplicatePattern {first original} (h : FirstWith earlier route.pattern first original) :
      RouteProblem earlier route
        (.duplicatePattern earlier.length first route.pattern original.kind)

/-- The problems of a configuration: those of its routes, and a blank target of its fallback. -/
inductive Has (config : Config) : Problem → Prop where
  | route {earlier route later problem} (hroutes : config.routes = earlier ++ route :: later)
      (h : RouteProblem earlier route problem) : Has config problem
  | fallback {fallback} (hfallback : config.fallback = some fallback)
      (h : Text.trim fallback.target = "") : Has config .emptyFallbackTarget

/-! ## The first route with a pattern -/

theorem FirstWith.append {routes : List Route} {pattern : String} {index : Nat} {route : Route}
    (h : FirstWith routes pattern index route) (more : List Route) :
    FirstWith (routes ++ more) pattern index route := by
  obtain ⟨hlt, _⟩ := List.getElem?_eq_some_iff.1 h.getElem?
  exact ⟨by rw [List.getElem?_append_left hlt, h.getElem?], h.pattern_eq, by
    rw [List.take_append_of_le_length hlt.le]
    exact h.new⟩

/-- A route whose pattern is new is the first with it. -/
theorem firstWith_length {routes : List Route} {route : Route}
    (h : ∀ other ∈ routes, other.pattern ≠ route.pattern) :
    FirstWith (routes ++ [route]) route.pattern routes.length route :=
  ⟨List.getElem?_concat_length, rfl, by rwa [List.take_left]⟩

theorem FirstWith.mem {routes : List Route} {pattern : String} {index : Nat} {route : Route}
    (h : FirstWith routes pattern index route) : route ∈ routes :=
  List.mem_of_getElem? h.getElem?

theorem FirstWith.not_lt {routes : List Route} {pattern : String} {index index' : Nat}
    {route route' : Route} (h : FirstWith routes pattern index route)
    (h' : FirstWith routes pattern index' route') : ¬ index < index' := by
  intro hlt
  have hmem : route ∈ routes.take index' :=
    List.mem_of_getElem? ((List.getElem?_take_of_lt hlt).trans h.getElem?)
  exact h'.new route hmem h.pattern_eq

theorem FirstWith.unique {routes : List Route} {pattern : String} {index index' : Nat}
    {route route' : Route} (h : FirstWith routes pattern index route)
    (h' : FirstWith routes pattern index' route') : index = index' ∧ route = route' := by
  have hindex : index = index' := by
    have hle := h.not_lt h'
    have hge := h'.not_lt h
    omega
  subst hindex
  exact ⟨rfl, Option.some.inj (h.getElem?.symm.trans h'.getElem?)⟩

/-! ## What validation remembers -/

/-- Validation remembers the first route with each pattern so far, and no other pattern. -/
structure Remembers (seen : FirstSeen) (routes : List Route) : Prop where
  found : ∀ {pattern first kind}, seen.get? pattern = some (first, kind) →
    ∃ route, FirstWith routes pattern first route ∧ route.kind = kind
  missing : ∀ {pattern}, seen.get? pattern = none → ∀ other ∈ routes, other.pattern ≠ pattern

theorem remembers_empty : Remembers .empty [] where
  found h := by cases h
  missing _ := by simp

/-- A pattern that is met again stays with the route it came with first. -/
theorem Remembers.insertNew {seen : FirstSeen} {routes : List Route} (h : Remembers seen routes)
    (route : Route) :
    Remembers (seen.insertNew route.pattern (routes.length, route.kind)) (routes ++ [route]) := by
  constructor
  · intro pattern first kind hget
    have hknown : seen.get? pattern = some (first, kind) →
        ∃ original, FirstWith (routes ++ [route]) pattern first original ∧
          original.kind = kind := by
      intro hseen
      obtain ⟨original, hfirst, hkind⟩ := h.found hseen
      exact ⟨original, hfirst.append [route], hkind⟩
    rw [Dictionary.get?_insertNew] at hget
    split at hget
    · rename_i hpattern
      subst hpattern
      cases hseen : seen.get? route.pattern with
      | none =>
          rw [hseen, Option.getD_none, Option.some.injEq, Prod.mk.injEq] at hget
          obtain ⟨rfl, rfl⟩ := hget
          exact ⟨route, firstWith_length (h.missing hseen), rfl⟩
      | some known =>
          rw [hseen, Option.getD_some] at hget
          exact hknown (hseen.trans hget)
    · exact hknown hget
  · intro pattern hget other hother
    rw [Dictionary.get?_insertNew] at hget
    split at hget
    · cases hget
    · rename_i hpattern
      rcases List.mem_append.1 hother with hother | hother
      · exact h.missing hget other hother
      · obtain rfl := List.mem_singleton.1 hother
        exact Ne.symm hpattern

/-! ## One route -/

/-- The problems reported for a route are those it has. -/
theorem mem_problemsOf_iff {seen : FirstSeen} {earlier : List Route} (h : Remembers seen earlier)
    (route : Route) (problem : Problem) :
    problem ∈ problemsOf seen earlier.length route ↔ RouteProblem earlier route problem := by
  simp only [problemsOf, List.mem_append, ← Text.trim_eq_empty_iff]
  constructor
  · rintro ((hmem | hmem) | hmem)
    · split at hmem
      · rename_i hblank
        exact List.mem_singleton.1 hmem ▸ .emptyTarget hblank
      · cases hmem
    · split at hmem
      · cases hmem
      · rename_i fault hfault
        exact List.mem_singleton.1 hmem ▸ .malformedPattern hfault
    · split at hmem
      · rename_i first kind hget
        obtain ⟨original, hfirst, rfl⟩ := h.found hget
        exact List.mem_singleton.1 hmem ▸ .duplicatePattern hfirst
      · cases hmem
  · intro hproblem
    cases hproblem with
    | emptyTarget hblank =>
        left
        left
        rw [if_pos hblank]
        exact List.mem_singleton_self _
    | malformedPattern hfault =>
        left
        right
        rw [hfault]
        exact List.mem_singleton_self _
    | @duplicatePattern first original hfirst =>
        right
        cases hget : seen.get? route.pattern with
        | none => exact absurd hfirst.pattern_eq (h.missing hget original hfirst.mem)
        | some known =>
            obtain ⟨other, hother, hkind⟩ := h.found hget
            obtain ⟨hindex, rfl⟩ := hfirst.unique hother
            rw [hindex, hkind]
            exact List.mem_singleton_self _

/-- The problems of a route stand at its index. -/
theorem RouteProblem.place_fst {earlier : List Route} {route : Route} {problem : Problem}
    (h : RouteProblem earlier route problem) :
    (ofLex problem.place).1 = WithTop.some earlier.length := by
  cases h <;> rfl

theorem pairwise_problemsOf (seen : FirstSeen) (index : Nat) (route : Route) :
    (problemsOf seen index route).Pairwise Problem.Precedes := by
  unfold problemsOf
  cases Text.isBlank route.target <;> cases Pattern.compile route.pattern <;>
    cases seen.get? route.pattern <;>
    simp [Problem.Precedes, Problem.place, Prod.Lex.toLex_lt_toLex]

/-! ## All routes -/

theorem mem_routeProblems_iff {seen : FirstSeen} {before : List Route} (h : Remembers seen before)
    (routes : List Route) (problem : Problem) :
    problem ∈ routeProblems seen before.length routes ↔
      ∃ earlier route later, routes = earlier ++ route :: later ∧
        RouteProblem (before ++ earlier) route problem := by
  induction routes generalizing seen before with
  | nil => simp [routeProblems]
  | cons first routes ih =>
      have hrest := ih (h.insertNew first)
      rw [List.length_append, List.length_singleton] at hrest
      rw [routeProblems, List.mem_append, mem_problemsOf_iff h, hrest]
      constructor
      · rintro (hproblem | ⟨earlier, route, later, rfl, hproblem⟩)
        · exact ⟨[], first, routes, rfl, by rwa [List.append_nil]⟩
        · exact ⟨first :: earlier, route, later, rfl, by simpa using hproblem⟩
      · rintro ⟨earlier, route, later, hroutes, hproblem⟩
        cases earlier with
        | nil =>
            obtain ⟨rfl, rfl⟩ := List.cons.inj hroutes
            exact .inl (by rwa [List.append_nil] at hproblem)
        | cons head earlier =>
            obtain ⟨rfl, rfl⟩ := List.cons.inj hroutes
            exact .inr ⟨earlier, route, later, rfl, by simpa using hproblem⟩

theorem pairwise_routeProblems {seen : FirstSeen} {before : List Route} (h : Remembers seen before)
    (routes : List Route) :
    (routeProblems seen before.length routes).Pairwise Problem.Precedes := by
  induction routes generalizing seen before with
  | nil => exact .nil
  | cons first routes ih =>
      have hnext := h.insertNew first
      have hrest := ih hnext
      have hmem := mem_routeProblems_iff hnext routes
      rw [List.length_append, List.length_singleton] at hrest hmem
      rw [routeProblems, List.pairwise_append]
      refine ⟨pairwise_problemsOf seen before.length first, hrest, ?_⟩
      intro problem hproblem other hother
      obtain ⟨earlier, route, later, _, hother⟩ := (hmem other).1 hother
      have hplace := ((mem_problemsOf_iff h first problem).1 hproblem).place_fst
      have hlater : before.length < (before ++ [first] ++ earlier).length := by
        simp only [List.length_append, List.length_singleton]
        omega
      apply Problem.precedes_of_lt
      rw [hplace, hother.place_fst]
      exact WithTop.coe_lt_coe.2 hlater

/-! ## The whole report -/

/-- The problem of the fallback stands behind those of the routes. -/
theorem problems_cases (config : Config) :
    (config.problems = routeProblems .empty 0 config.routes ++ [Problem.emptyFallbackTarget] ∧
      ∃ fallback, config.fallback = some fallback ∧ Text.trim fallback.target = "") ∨
    (config.problems = routeProblems .empty 0 config.routes ∧
      ∀ fallback, config.fallback = some fallback → Text.trim fallback.target ≠ "") := by
  simp only [ne_eq, Text.trim_eq_empty_iff, problems]
  cases config.fallback with
  | none => simp
  | some fallback =>
      by_cases hblank : Text.isBlank fallback.target
      · simp [hblank]
      · simp [hblank]

theorem mem_problems_iff (config : Config) (problem : Problem) :
    problem ∈ config.problems ↔ config.Has problem := by
  have hroutes := mem_routeProblems_iff remembers_empty config.routes problem
  have hparts : problem ∈ config.problems ↔ problem ∈ routeProblems .empty 0 config.routes ∨
      problem = .emptyFallbackTarget ∧
        ∃ fallback, config.fallback = some fallback ∧ Text.trim fallback.target = "" := by
    rcases config.problems_cases with ⟨hproblems, hblank⟩ | ⟨hproblems, hfine⟩
    · simp [hproblems, hblank]
    · have hnone : ¬ ∃ fallback, config.fallback = some fallback ∧ Text.trim fallback.target = "" :=
        fun ⟨fallback, hfallback, hblank⟩ => hfine fallback hfallback hblank
      simp [hproblems, hnone]
  rw [List.length_nil] at hroutes
  rw [hparts, hroutes]
  constructor
  · rintro (⟨earlier, route, later, hsplit, hproblem⟩ | ⟨rfl, fallback, hfallback, hblank⟩)
    · exact .route hsplit hproblem
    · exact .fallback hfallback hblank
  · intro hproblem
    cases hproblem with
    | route hsplit hproblem => exact .inl ⟨_, _, _, hsplit, hproblem⟩
    | fallback hfallback hblank => exact .inr ⟨rfl, _, hfallback, hblank⟩

theorem pairwise_problems (config : Config) : config.problems.Pairwise Problem.Precedes := by
  have hordered := pairwise_routeProblems remembers_empty config.routes
  rw [List.length_nil] at hordered
  rcases config.problems_cases with ⟨hproblems, _⟩ | ⟨hproblems, _⟩
  · rw [hproblems, List.pairwise_append]
    refine ⟨hordered, List.pairwise_singleton _ _, ?_⟩
    intro problem hproblem last hlast
    obtain rfl := List.mem_singleton.1 hlast
    obtain ⟨_, _, _, _, hproblem⟩ :=
      (mem_routeProblems_iff remembers_empty config.routes problem).1 hproblem
    apply Problem.precedes_of_lt
    rw [hproblem.place_fst]
    exact WithTop.coe_lt_top _
  · rwa [hproblems]

/-- Validation reports exactly the problems that a configuration has, in their order, so that none
is reported twice: any list in that order with exactly these problems is the report. A configuration
is accepted exactly when it has no problem, and refused with the report otherwise. -/
theorem problems_exact (config : Config) :
    (∀ problem, problem ∈ config.problems ↔ config.Has problem) ∧
    config.problems.Pairwise Problem.Precedes ∧
    (∀ listed : List Problem, listed.Pairwise Problem.Precedes →
      (∀ problem, problem ∈ listed ↔ config.Has problem) → listed = config.problems) ∧
    (config.validate = .ok config ↔ ∀ problem, ¬ config.Has problem) ∧
    ((∃ problem, config.Has problem) →
      config.validate = .error (.invalid config.problems)) := by
  have hmem := config.mem_problems_iff
  have hordered := config.pairwise_problems
  refine ⟨hmem, hordered, ?_, ?_, ?_⟩
  · intro listed hlisted hsame
    exact hlisted.eq_of_mem_iff hordered fun problem => (hsame problem).trans (hmem problem).symm
  · simp only [← hmem, ← List.eq_nil_iff_forall_not_mem]
    unfold validate
    cases config.problems with
    | nil => simp
    | cons problem others => simp
  · rintro ⟨problem, hproblem⟩
    rw [← hmem] at hproblem
    unfold validate
    cases hproblems : config.problems with
    | nil =>
        rw [hproblems] at hproblem
        cases hproblem
    | cons first others => rfl

/-- One broken pattern three times, under all kinds, and two blank targets. -/
def copiesTable : Config :=
  { routes := [⟨.direct, "x", "A"⟩, ⟨.action, "x", " "⟩, ⟨.composite, "x", "C"⟩]
    fallback := some ⟨.direct, ""⟩ }

/-- Both copies are reported with the index and the kind of the first. -/
theorem problems_exact_copies :
    copiesTable.problems =
      [.malformedPattern 0 (.malformedPattern "x" (.address (.syntaxFault .noScheme))),
        .emptyTarget 1 "x",
        .malformedPattern 1 (.malformedPattern "x" (.address (.syntaxFault .noScheme))),
        .duplicatePattern 1 0 "x" .direct,
        .malformedPattern 2 (.malformedPattern "x" (.address (.syntaxFault .noScheme))),
        .duplicatePattern 2 0 "x" .direct,
        .emptyFallbackTarget] ∧
      copiesTable.Has (.duplicatePattern 2 0 "x" .direct) ∧
      copiesTable.validate = .error (.invalid copiesTable.problems) := by
  have hproblems : Problem.duplicatePattern 2 0 "x" .direct ∈ copiesTable.problems := by decide
  obtain ⟨hmem, _, _, _, hrefused⟩ := copiesTable.problems_exact
  have hcopy := (hmem _).1 hproblems
  exact ⟨rfl, hcopy, hrefused ⟨_, hcopy⟩⟩

end Config

end DeepLink
