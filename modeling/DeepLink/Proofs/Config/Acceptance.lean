import DeepLink.Proofs.Config.Agreement
import DeepLink.Proofs.Config.Replacement
import DeepLink.Watch
import Mathlib

/-! # Accepted configurations are taken over

A configuration is accepted by validation, and readers and trackers pass on accepted ones only. What
is accepted is built and taken over whole: every reload announces it, and none refuses it. -/

namespace DeepLink

namespace Config

/-! ## Accepted configurations -/

/-- A configuration that validation, a reader or a tracker lets through. -/
inductive Accepted (config : Config) : Prop where
  | validated {original : Config} (h : original.validate = .ok config)
  | parsed {text : String} (h : Config.parse text = .ok config)
  | loaded {file : FileState} (h : file.load = .ok config)
  | reloaded {tracker : Tracker} {file : FileState} {change : Change}
      (h : (tracker.reload file).passed = some (config, change))

theorem problems_eq_nil_of_validate {original config : Config}
    (h : original.validate = .ok config) : config.problems = [] := by
  unfold validate at h
  split at h
  · rename_i hproblems
    injection h with h
    exact h ▸ hproblems
  · cases h

theorem problems_eq_nil_of_parse {text : String} {config : Config} (h : parse text = .ok config) :
    config.problems = [] := by
  unfold parse at h
  split at h
  · cases h
  · exact problems_eq_nil_of_validate h

/-- Whatever way it came, an accepted configuration has no problems. -/
theorem Accepted.problems_eq_nil {config : Config} (h : config.Accepted) :
    config.problems = [] := by
  cases h with
  | validated h => exact problems_eq_nil_of_validate h
  | parsed h => exact problems_eq_nil_of_parse h
  | @loaded file h =>
      unfold FileState.load at h
      split at h
      · cases h
      · exact problems_eq_nil_of_parse h
  | @reloaded tracker file change h =>
      unfold Tracker.reload at h
      split at h
      · cases h
      · split at h
        · cases h
        · split at h
          · cases h
          · rename_i hparse
            injection h with h
            injection h with h _
            exact h ▸ problems_eq_nil_of_parse hparse

/-- A registry, and a dispatcher around it, that hold a configuration and nothing else. -/
structure BuiltInto (config : Config) (registry : Registry String) : Prop where
  built : (Registry.build config.routes).result = .ok registry
  size : registry.size = config.routes.length
  find? : ∀ route ∈ config.routes, (registry.find? route.pattern).map Entry.route = some route
  dispatcher : (Dispatcher.build config).result =
    .ok { registry := registry, fallback := config.fallback }
  apply : ∀ d : Dispatcher, (d.apply config).2.result = .ok config.routes.length ∧
    (d.apply config).1.registry = registry ∧ (d.apply config).1.fallback = config.fallback

theorem Accepted.exists_builtInto {config : Config} (h : config.Accepted) :
    ∃ registry, config.BuiltInto registry := by
  obtain ⟨registry, hregistry⟩ := exists_build_of_problems_eq_nil h.problems_eq_nil
  obtain ⟨hsize, hfind⟩ := Registry.build_eq_ok hregistry
  refine ⟨registry, hregistry, hsize, hfind, Dispatcher.build_of_registry hregistry, ?_⟩
  intro d
  rw [Dispatcher.apply_of_registry hregistry, hsize]
  exact ⟨rfl, rfl, rfl⟩

theorem Accepted.builds {config : Config} (h : config.Accepted) : config.Builds := by
  obtain ⟨registry, hbuilt⟩ := h.exists_builtInto
  exact ⟨_, hbuilt.dispatcher⟩

end Config

/-! ## Taking over -/

namespace Dispatcher

/-- The last of a series of accepted configurations is left. -/
theorem replaced_applyEach (d : Dispatcher) {configs : List Config}
    (h : ∀ config ∈ configs, config.Accepted) :
    ∀ last ∈ configs.getLast?, d.Replaced last (d.applyEach configs).1 := by
  intro last hlast
  rcases d.applyEach_cases configs with
    ⟨config, ⟨_, before, after, hconfigs, hafter⟩, hreplaced⟩ | ⟨hnone, _⟩
  · cases after with
    | nil =>
        rw [hconfigs, List.getLast?_concat] at hlast
        obtain rfl := Option.some.inj hlast
        exact hreplaced
    | cons later after =>
        have haccepted := h later (by simp [hconfigs])
        exact absurd haccepted.builds (hafter later List.mem_cons_self)
  · have hmem := List.mem_of_getLast? hlast
    exact absurd (h last hmem).builds (hnone last hmem)

/-- An accepted configuration is announced before the next one is looked at. -/
theorem signals_applyEach_cons (d : Dispatcher) {config : Config} (h : config.Accepted)
    (rest : List Config) :
    (d.applyEach (config :: rest)).2 =
      (Registry.build config.routes).signals ++ .event .tableReplaced :: .event .tableApplied ::
        ((d.apply config).1.applyEach rest).2 := by
  obtain ⟨registry, hbuilt⟩ := h.exists_builtInto
  simp only [applyEach, apply_of_registry hbuilt.built, List.append_assoc, List.singleton_append]

theorem count_tableApplied_applyEach (d : Dispatcher) {configs : List Config}
    (h : ∀ config ∈ configs, config.Accepted) :
    (d.applyEach configs).2.count (.event .tableApplied) = configs.length := by
  induction configs generalizing d with
  | nil => rfl
  | cons config configs ih =>
      obtain ⟨haccepted, hrest⟩ := List.forall_mem_cons.1 h
      have hroutes : (Registry.build config.routes).signals.count (.event .tableApplied) = 0 :=
        List.count_eq_zero.2 fun hmem => by simpa using Registry.event_mem_registerAll hmem
      rw [d.signals_applyEach_cons haccepted, List.count_append, hroutes,
        List.count_cons_of_ne (by simp), List.count_cons_self, ih _ hrest, List.length_cons,
        Nat.zero_add]

/-- A series of accepted configurations goes through without a refusal. -/
theorem tableRefused_not_mem_applyEach (d : Dispatcher) {configs : List Config}
    (h : ∀ config ∈ configs, config.Accepted) :
    .event .tableRefused ∉ (d.applyEach configs).2 := by
  induction configs generalizing d with
  | nil => simp [applyEach]
  | cons config configs ih =>
      obtain ⟨haccepted, hrest⟩ := List.forall_mem_cons.1 h
      have hroutes : .event .tableRefused ∉ (Registry.build config.routes).signals :=
        fun hmem => by simpa using Registry.event_mem_registerAll hmem
      rw [d.signals_applyEach_cons haccepted]
      simp [hroutes, ih _ hrest]

end Dispatcher

theorem Tracker.tableRefused_not_mem_reload (tracker : Tracker) (file : FileState) :
    .event .tableRefused ∉ (tracker.reload file).signals := by
  unfold reload
  split
  · simp
  · split
    · simp
    · split
      · simp
      · simp

namespace Watch

/-- What the tracker passes on is sent to the dispatcher as a series of one. -/
theorem poll_of_passed {watch : Watch} {file : FileState} {config : Config} {change : Change}
    (h : (watch.tracker.reload file).passed = some (config, change)) :
    (watch.poll file).result.dispatcher = (watch.dispatcher.applyEach [config]).1 ∧
      (watch.poll file).signals =
        (watch.tracker.reload file).signals ++ (watch.dispatcher.applyEach [config]).2 := by
  constructor
  · simp only [poll, h]
  · simp only [poll, h]

theorem forall_accepted_of_passed {watch : Watch} {file : FileState} {config : Config}
    {change : Change} (h : (watch.tracker.reload file).passed = some (config, change)) :
    ∀ c ∈ [config], c.Accepted := by
  intro c hc
  rw [List.mem_singleton.1 hc]
  exact .reloaded h

/-- Watching a file never meets a table that is announced and then refused. -/
theorem tableRefused_not_mem_poll (watch : Watch) (file : FileState) :
    .event .tableRefused ∉ (watch.poll file).signals := by
  have hreload := watch.tracker.tableRefused_not_mem_reload file
  cases hpassed : (watch.tracker.reload file).passed with
  | none => simpa only [poll, hpassed] using hreload
  | some passed =>
      obtain ⟨config, change⟩ := passed
      rw [(poll_of_passed hpassed).2, List.mem_append, not_or]
      exact ⟨hreload, watch.dispatcher.tableRefused_not_mem_applyEach
        (forall_accepted_of_passed hpassed)⟩

/-- A table that is passed on is taken over, and announced. -/
theorem replaced_poll {watch : Watch} {file : FileState} {config : Config} {change : Change}
    (h : (watch.tracker.reload file).passed = some (config, change)) :
    watch.dispatcher.Replaced config (watch.poll file).result.dispatcher ∧
      .event .tableApplied ∈ (watch.poll file).signals := by
  have haccepted := forall_accepted_of_passed h
  obtain ⟨hdispatcher, hsignals⟩ := poll_of_passed h
  have hcount := watch.dispatcher.count_tableApplied_applyEach haccepted
  rw [hdispatcher, hsignals]
  refine ⟨watch.dispatcher.replaced_applyEach haccepted config rfl, List.mem_append_right _ ?_⟩
  exact List.count_pos_iff.1 (hcount.symm ▸ Nat.one_pos)

end Watch

namespace Config

/-- Validation and registration agree. What is accepted is built and taken over whole: a series of
accepted configurations is applied one by one, each is announced and none refused, and the last one
is left; so is a table that a watched file passes on. Building fails exactly when the pattern of a
route is reported, at the first such route, with the error that its one problem announces. -/
theorem registration_agrees (config : Config) :
    (config.Accepted → ∃ registry, config.BuiltInto registry) ∧
    (∀ (d : Dispatcher) (configs : List Config), (∀ c ∈ configs, c.Accepted) →
      .event .tableRefused ∉ (d.applyEach configs).2 ∧
      (d.applyEach configs).2.count (.event .tableApplied) = configs.length ∧
      ∀ last ∈ configs.getLast?, d.Replaced last (d.applyEach configs).1) ∧
    (∀ (watch : Watch) (file : FileState), .event .tableRefused ∉ (watch.poll file).signals ∧
      ∀ passed change, (watch.tracker.reload file).passed = some (passed, change) →
        watch.dispatcher.Replaced passed (watch.poll file).result.dispatcher ∧
        .event .tableApplied ∈ (watch.poll file).signals) ∧
    ((∃ error, (Registry.build config.routes).result = .error error) ↔
      ∃ problem ∈ config.problems, problem.patternIndex?.isSome) ∧
    ∀ error, (Registry.build config.routes).result = .error error →
      ∃ index route problem, Registry.empty.FailsAt config.routes index route error ∧
        problem ∈ config.problems ∧ problem.Announces index route.pattern error ∧
        ∀ other ∈ config.problems, ∀ i, other.patternIndex? = some i →
          other = problem ∨ index < i := by
  refine ⟨Accepted.exists_builtInto, ?_, ?_, build_eq_error_iff config, ?_⟩
  · intro d configs haccepted
    exact ⟨d.tableRefused_not_mem_applyEach haccepted, d.count_tableApplied_applyEach haccepted,
      d.replaced_applyEach haccepted⟩
  · intro watch file
    exact ⟨watch.tableRefused_not_mem_poll file, fun _ _ hpassed => Watch.replaced_poll hpassed⟩
  · intro error herror
    exact exists_announces_of_build_eq_error herror

/-- A table is taken over behind an empty one, and the table of an empty file by watching it.
Another table is refused, where a template is repeated. -/
theorem registration_agrees_item :
    itemTable.Accepted ∧ (∃ registry, itemTable.BuiltInto registry) ∧
      Dispatcher.empty.Replaced itemTable (Dispatcher.empty.applyEach [{}, itemTable]).1 ∧
      (∃ change, (Tracker.reload {} (.text "")).passed = some ({}, change)) ∧
      .event .tableApplied ∈ ((⟨.empty, {}⟩ : Watch).poll (.text "")).signals ∧
      ∃ index route problem,
        Registry.empty.FailsAt repeatingTable.routes index route
          (.duplicateRoute Registry.itemTemplate .composite) ∧
        problem ∈ repeatingTable.problems ∧
        problem.Announces index route.pattern
          (.duplicateRoute Registry.itemTemplate .composite) := by
  have hvalid : itemTable.validate = .ok itemTable := rfl
  have herror : (Registry.build repeatingTable.routes).result =
      .error (.duplicateRoute Registry.itemTemplate .composite) := rfl
  have hnone : Config.validate {} = .ok {} := rfl
  have haccepted : itemTable.Accepted := .validated hvalid
  have hseries : ∀ c ∈ [{}, itemTable], c.Accepted := by
    intro c hc
    rcases List.mem_pair.1 hc with rfl | rfl
    · exact .validated hnone
    · exact haccepted
  have hpassed : (Tracker.reload {} (.text "")).passed = some ({}, ⟨0, 0⟩) := by cbv
  obtain ⟨hbuilt, heach, hpoll, _⟩ := registration_agrees itemTable
  obtain ⟨_, _, _, _, hfirst⟩ := registration_agrees repeatingTable
  obtain ⟨index, route, problem, hfails, hmem, hannounces, _⟩ := hfirst _ herror
  exact ⟨haccepted, hbuilt haccepted, (heach .empty _ hseries).2.2 itemTable rfl,
    ⟨_, hpassed⟩, ((hpoll ⟨.empty, {}⟩ (.text "")).2 _ _ hpassed).2, index, route, problem,
    hfails, hmem, hannounces⟩

end Config

end DeepLink
