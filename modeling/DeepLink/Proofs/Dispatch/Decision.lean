import DeepLink.Dispatch.Dispatcher

/-! # How a dispatch is decided

A dispatch can end in six ways. Each is given with the conditions under which it is chosen, and with
what it leaves behind. -/

namespace DeepLink

/-! ## The six ways -/

namespace Dispatcher

/-- The link is the one presented last, and no flag asks for it again. -/
def Repeats (d : Dispatcher) (route : String) (flags : Flags) : Prop :=
  d.current = some route ∧ flags.contains .overrideSameRoute = false

/-- No route matches the link, and there is a fallback, which cannot read the query. -/
def fallbackUnreadable (d : Dispatcher) (route : String) : Bool :=
  match (d.registry.resolve route).result, d.fallback, Query.parse (Query.split route).2 with
  | .ok none, some _, .error _ => true
  | _, _, _ => false

/-- The ways in which a dispatch ends, each with its conditions. -/
inductive Decides (d : Dispatcher) (route : String) (arguments : List (String × String))
    (flags : Flags) : Verdict → Prop
  | unresolved {error} (hresolve : (d.registry.resolve route).result = .error error) :
      Decides d route arguments flags (.unresolved error)
  | fallbackUnreadable {fallback piece}
      (hresolve : (d.registry.resolve route).result = .ok none)
      (hfallback : d.fallback = some fallback)
      (hquery : Query.parse (Query.split route).2 = .error piece) :
      Decides d route arguments flags (.fallbackUnreadable (.malformedQuery route piece))
  | unmatched (hresolve : (d.registry.resolve route).result = .ok none)
      (hfallback : d.fallback = none) : Decides d route arguments flags .unmatched
  | repeated {choice} (hchoice : d.choose route = .ok choice) (hrepeats : d.Repeats route flags) :
      Decides d route arguments flags .repeated
  | unpresentable {choice} (hchoice : d.choose route = .ok choice)
      (hnew : ¬ d.Repeats route flags) (hpresenter : d.presenter = none) :
      Decides d route arguments flags .unpresentable
  | presented {choice presenter p} (hchoice : d.choose route = .ok choice)
      (hnew : ¬ d.Repeats route flags) (hpresenter : d.presenter = some presenter)
      (hp : p = { route := route
                  kind := choice.kind
                  binding := choice.target
                  arguments := choice.wildcards.insertAll
                    (arguments.map fun (name, text) => (name, .text text))
                  params := choice.params
                  flags := flags }) :
      Decides d route arguments flags (.presented presenter p choice.fallback)

/-- What is chosen for a link: the route it resolves to, or else the fallback. -/
theorem choose_eq_ok {d : Dispatcher} {route : String} {choice : Choice}
    (h : d.choose route = .ok choice) :
    (∃ found, (d.registry.resolve route).result = .ok (some found)) ∨
      (d.registry.resolve route).result = .ok none ∧ (∃ fallback, d.fallback = some fallback) ∧
        ∃ params, Query.parse (Query.split route).2 = .ok params := by
  unfold choose at h
  split at h
  · cases h
  · rename_i found hresolve
    exact .inl ⟨found, hresolve⟩
  · rename_i hresolve
    split at h
    · cases h
    · rename_i fallback hfallback
      split at h
      · cases h
      · rename_i params hquery
        exact .inr ⟨hresolve, ⟨fallback, hfallback⟩, params, hquery⟩

theorem verdict_decides (d : Dispatcher) (route : String) (arguments : List (String × String))
    (flags : Flags) : d.Decides route arguments flags (d.verdict route arguments flags) := by
  unfold verdict
  cases hchoice : d.choose route with
  | error verdict =>
      -- Nothing was chosen, so the verdict is one of the first three.
      dsimp only
      unfold choose at hchoice
      split at hchoice
      · rename_i error hresolve
        injection hchoice with hchoice
        exact hchoice ▸ .unresolved hresolve
      · cases hchoice
      · rename_i hresolve
        split at hchoice
        · rename_i hfallback
          injection hchoice with hchoice
          exact hchoice ▸ .unmatched hresolve hfallback
        · rename_i fallback hfallback
          split at hchoice
          · rename_i piece hquery
            injection hchoice with hchoice
            exact hchoice ▸ .fallbackUnreadable hresolve hfallback hquery
          · cases hchoice
  | ok choice =>
      dsimp only
      by_cases hrepeats : d.Repeats route flags
      · have hcond : d.current = some route ∧ !flags.contains .overrideSameRoute := by
          simpa [Repeats] using hrepeats
        rw [if_pos hcond]
        exact .repeated hchoice hrepeats
      · have hcond : ¬ (d.current = some route ∧ !flags.contains .overrideSameRoute) := by
          simpa [Repeats] using hrepeats
        rw [if_neg hcond]
        cases hpresenter : d.presenter with
        | none => exact .unpresentable hchoice hrepeats hpresenter
        | some presenter => exact .presented hchoice hrepeats hpresenter rfl

end Dispatcher

/-! ## What a dispatch leaves behind -/

namespace Dispatcher

variable (d : Dispatcher) (route : String) (arguments : List (String × String)) (flags : Flags)

theorem presented_dispatch :
    (d.dispatch route arguments flags).presented =
      (d.verdict route arguments flags).presentation? := by
  simp only [dispatch]

theorem result_dispatch :
    (d.dispatch route arguments flags).result =
      (d.verdict route arguments flags).result route := by
  simp only [dispatch]

theorem signals_dispatch :
    (d.dispatch route arguments flags).signals =
      .event .dispatching :: (d.registry.resolve route).signals ++
        (d.verdict route arguments flags).signals := by
  simp only [dispatch]

/-- Only a presentation changes the state, and it changes nothing but the current link. -/
theorem next_dispatch :
    (d.dispatch route arguments flags).next =
      if (d.verdict route arguments flags).presentation?.isSome
      then { d with current := some route } else d := by
  unfold dispatch
  dsimp only
  generalize d.verdict route arguments flags = verdict
  cases verdict <;> rfl

variable {d route arguments flags}

/-- What is behind a presentation: something was chosen for the link, there is no reason to pass it
over, and there is a presenter. -/
theorem exists_of_presented {p : Presentation String}
    (h : (d.verdict route arguments flags).presentation? = some p) :
    ∃ choice presenter, d.choose route = .ok choice ∧ ¬ d.Repeats route flags ∧
      d.presenter = some presenter ∧
      p = { route := route
            kind := choice.kind
            binding := choice.target
            arguments := choice.wildcards.insertAll
              (arguments.map fun (name, text) => (name, .text text))
            params := choice.params
            flags := flags } := by
  have hdecides := d.verdict_decides route arguments flags
  generalize d.verdict route arguments flags = verdict at h hdecides
  cases hdecides with
  | presented hchoice hnew hpresenter hp =>
      injection h with h
      exact ⟨_, _, hchoice, hnew, hpresenter, h ▸ hp⟩
  | unresolved _ => cases h
  | fallbackUnreadable _ _ _ => cases h
  | unmatched _ _ => cases h
  | repeated _ _ => cases h
  | unpresentable _ _ _ => cases h

/-- A link that is presented is not passed over. -/
theorem not_repeats_of_presented
    (h : (d.verdict route arguments flags).presentation?.isSome) : ¬ d.Repeats route flags := by
  obtain ⟨p, hp⟩ := Option.isSome_iff_exists.1 h
  obtain ⟨_, _, _, hnew, _, _⟩ := exists_of_presented hp
  exact hnew

end Dispatcher

end DeepLink
