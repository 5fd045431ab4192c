import DeepLink.Proofs.Registry.Building
import DeepLink.Session

/-! # Configurations replace one another

Taking over a configuration leaves the routes and the fallback of a fresh start with it, whatever
was there before; only the presenter stays. A series of configurations therefore ends in the last
one that can be built. -/

namespace DeepLink

/-- A dispatcher can be built from the configuration. -/
def Config.Builds (config : Config) : Prop :=
  ∃ fresh, (Dispatcher.build config).result = .ok fresh

/-- The last configuration of a series that can be built. -/
def Config.IsLastBuilt (configs : List Config) (config : Config) : Prop :=
  config.Builds ∧ ∃ before after, configs = before ++ config :: after ∧
    ∀ later ∈ after, ¬ later.Builds

namespace Dispatcher

/-! ## One configuration -/

/-- The routes and the fallback are those of a fresh dispatcher for the configuration. -/
def Holds (d : Dispatcher) (config : Config) : Prop :=
  ∃ fresh, (build config).result = .ok fresh ∧ d.registry = fresh.registry ∧
    d.fallback = fresh.fallback

/-- What is left when a configuration has replaced what a dispatcher had. -/
structure Replaced (d : Dispatcher) (config : Config) (next : Dispatcher) : Prop where
  holds : next.Holds config
  current : next.current = none
  presenter : next.presenter = d.presenter

theorem build_of_registry {config : Config} {registry : Registry String}
    (h : (Registry.build config.routes).result = .ok registry) :
    (build config).result = .ok { registry := registry, fallback := config.fallback } := by
  simp only [build, h]

theorem apply_of_registry {config : Config} {registry : Registry String}
    (h : (Registry.build config.routes).result = .ok registry) (d : Dispatcher) :
    d.apply config = ({ d with registry := registry, fallback := config.fallback, current := none },
      ⟨.ok registry.size,
        (Registry.build config.routes).signals ++ [.event .tableReplaced]⟩) := by
  simp only [apply, h, replaceRegistry]

theorem build_of_error {config : Config} {error : RouteError}
    (h : (Registry.build config.routes).result = .error error) :
    (build config).result = .error error := by
  simp only [build, h]

/-- The routes held are those of a registry that was built. -/
theorem Holds.build_eq {d : Dispatcher} {config : Config} (h : d.Holds config) :
    (Registry.build config.routes).result = .ok d.registry := by
  obtain ⟨fresh, hbuild, hregistry, _⟩ := h
  cases hroutes : (Registry.build config.routes).result with
  | error error =>
      rw [build_of_error hroutes] at hbuild
      cases hbuild
  | ok registry =>
      rw [build_of_registry hroutes] at hbuild
      obtain rfl := Except.ok.inj hbuild
      rw [hregistry]

theorem Holds.size_eq {d : Dispatcher} {config : Config} (h : d.Holds config) :
    d.registry.size = config.routes.length :=
  (Registry.build_eq_ok h.build_eq).1

theorem apply_of_error {config : Config} {error : RouteError}
    (h : (Registry.build config.routes).result = .error error) (d : Dispatcher) :
    d.apply config = (d, ⟨.error error, (Registry.build config.routes).signals⟩) := by
  simp only [apply, h]

/-- Either a configuration replaces everything but the presenter, or nothing at all happens. -/
theorem apply_cases (d : Dispatcher) (config : Config) :
    ((d.apply config).2.result = .ok config.routes.length ∧ config.Builds ∧
      d.Replaced config (d.apply config).1) ∨
    ∃ error, (d.apply config).2.result = .error error ∧ (build config).result = .error error ∧
      (d.apply config).1 = d := by
  cases h : (Registry.build config.routes).result with
  | error error =>
      refine .inr ⟨error, ?_, build_of_error h, ?_⟩
      · rw [apply_of_error h]
      · rw [apply_of_error h]
  | ok registry =>
      have hbuild := build_of_registry h
      rw [apply_of_registry h, (Registry.build_eq_ok h).1]
      exact .inl ⟨rfl, ⟨_, hbuild⟩, ⟨_, hbuild, rfl, rfl⟩, rfl, rfl⟩

/-- The answer to a configuration is that of building it, with the number of routes. -/
theorem apply_result (d : Dispatcher) (config : Config) :
    (d.apply config).2.result = (build config).result.map fun _ => config.routes.length := by
  rcases d.apply_cases config with ⟨hok, ⟨fresh, hbuild⟩, _⟩ | ⟨error, herror, hbuild, _⟩
  · rw [hok, hbuild]
    rfl
  · rw [herror, hbuild]
    rfl

theorem not_builds_of_error {config : Config} {error : RouteError}
    (h : (build config).result = .error error) : ¬ config.Builds := by
  rintro ⟨fresh, hbuild⟩
  rw [h] at hbuild
  cases hbuild

theorem replaced_apply {config : Config} (h : config.Builds) (d : Dispatcher) :
    d.Replaced config (d.apply config).1 := by
  rcases d.apply_cases config with ⟨_, _, hreplaced⟩ | ⟨error, _, hbuild, _⟩
  · exact hreplaced
  · exact absurd h (not_builds_of_error hbuild)

theorem apply_of_not_builds {config : Config} (h : ¬ config.Builds) (d : Dispatcher) :
    (d.apply config).1 = d := by
  rcases d.apply_cases config with ⟨_, hbuilds, _⟩ | ⟨_, _, _, hsame⟩
  · exact absurd hbuilds h
  · exact hsame

/-! ## A series of configurations -/

/-- A series ends in its last configuration that can be built, or leaves everything as it was. -/
theorem applyEach_cases (d : Dispatcher) (configs : List Config) :
    (∃ config, Config.IsLastBuilt configs config ∧ d.Replaced config (d.applyEach configs).1) ∨
    (∀ config ∈ configs, ¬ config.Builds) ∧ (d.applyEach configs).1 = d := by
  induction configs generalizing d with
  | nil => exact .inr ⟨by simp, rfl⟩
  | cons first rest ih =>
      have hstep : (d.applyEach (first :: rest)).1 = ((d.apply first).1.applyEach rest).1 := rfl
      rw [hstep]
      rcases ih (d.apply first).1 with
        ⟨config, ⟨hbuilds, before, after, hrest, hafter⟩, hholds, hcurrent, hpresenter⟩ |
          ⟨hnone, hsame⟩
      · -- A later configuration takes the place of the first, which can only keep the presenter.
        have hkept : (d.apply first).1.presenter = d.presenter := by
          by_cases hfirst : first.Builds
          · exact (replaced_apply hfirst d).presenter
          · rw [apply_of_not_builds hfirst]
        refine .inl ⟨config, ⟨hbuilds, first :: before, after, by rw [hrest, List.cons_append],
          hafter⟩, hholds, hcurrent, hpresenter.trans hkept⟩
      · by_cases hfirst : first.Builds
        · rw [hsame]
          exact .inl ⟨first, ⟨hfirst, [], rest, rfl, hnone⟩, replaced_apply hfirst d⟩
        · refine .inr ⟨?_, hsame.trans (apply_of_not_builds hfirst d)⟩
          intro config hconfig
          rcases List.mem_cons.1 hconfig with rfl | hconfig
          · exact hfirst
          · exact hnone config hconfig

/-! ## The loop that takes them over -/

/-- A run of the reload loop. It takes the configurations that are sent to it, one by one, until the
channel is closed and empty, or until it is shut down, which may be at any point. -/
inductive Reloads : Dispatcher → List Config → Ending → List Config → Dispatcher → Prop
  | closed {d} : Reloads d [] .closed [] d
  | shutdown {d sent} : Reloads d sent .shutdown [] d
  | take {d config sent ending taken last} :
      Reloads (d.apply config).1 sent ending taken last →
      Reloads d (config :: sent) ending (config :: taken) last

theorem Reloads.taken_spec {d last : Dispatcher} {sent taken : List Config} {ending : Ending}
    (h : Reloads d sent ending taken last) :
    taken <+: sent ∧ (ending = .closed → taken = sent) := by
  induction h with
  | closed => exact ⟨List.prefix_rfl, fun _ => rfl⟩
  | shutdown => exact ⟨List.nil_prefix, by simp⟩
  | take _ ih => exact ⟨List.cons_prefix_cons.2 ⟨rfl, ih.1⟩, fun hclosed => by rw [ih.2 hclosed]⟩

/-- What the loop leaves is what taking over each configuration in turn leaves. -/
theorem Reloads.execution {d last : Dispatcher} {sent taken : List Config} {ending : Ending}
    (h : Reloads d sent ending taken last) : (d.applyEach taken).1 = last := by
  induction h with
  | closed => rfl
  | shutdown => rfl
  | take _ ih => exact ih

theorem reloads_shutdown {sent taken : List Config} (h : taken <+: sent) (d : Dispatcher) :
    Reloads d sent .shutdown taken (d.applyEach taken).1 := by
  induction taken generalizing d sent with
  | nil => exact .shutdown
  | cons config taken ih =>
      obtain ⟨rest, rfl⟩ := h
      exact .take (ih ⟨rest, rfl⟩ _)

theorem reloads_closed (d : Dispatcher) (sent : List Config) :
    Reloads d sent .closed sent (d.applyEach sent).1 := by
  induction sent generalizing d with
  | nil => exact .closed
  | cons config sent ih => exact .take (ih _)

/-- The runs of the loop, by what they take and what they leave. -/
theorem reloads_iff (d last : Dispatcher) (sent taken : List Config) (ending : Ending) :
    Reloads d sent ending taken last ↔
      taken <+: sent ∧ (ending = .closed → taken = sent) ∧
        (d.perform (.reload taken ending)).next = last := by
  constructor
  · intro h
    exact ⟨h.taken_spec.1, h.taken_spec.2, h.execution⟩
  · rintro ⟨hpart, hclosed, rfl⟩
    cases ending with
    | closed =>
        obtain rfl := hclosed rfl
        exact reloads_closed d taken
    | shutdown => exact reloads_shutdown hpart d

/-- Reloading does not depend on what was there before. A configuration is answered as a fresh start
with it is, and when it can be built the routes and the fallback are those of the fresh start;
otherwise nothing changes. However the loop ends, and after whichever of the configurations sent to
it, it leaves what performing the reload leaves: the last one taken that can be built, or the
dispatcher as it was. -/
theorem reload_agrees (d : Dispatcher) :
    (∀ config, (d.apply config).2.result =
      (build config).result.map fun _ => config.routes.length) ∧
    (∀ config, config.Builds → d.Replaced config (d.apply config).1) ∧
    (∀ config, ¬ config.Builds → (d.apply config).1 = d) ∧
    (∀ sent taken ending, taken <+: sent → (ending = .closed → taken = sent) →
      Reloads d sent ending taken (d.perform (.reload taken ending)).next) ∧
    ∀ sent taken ending last, Reloads d sent ending taken last →
      taken <+: sent ∧ (ending = .closed → taken = sent) ∧
      (d.perform (.reload taken ending)).next = last ∧
      ((∃ config, Config.IsLastBuilt taken config ∧ d.Replaced config last) ∨
        (∀ config ∈ taken, ¬ config.Builds) ∧ last = d) := by
  refine ⟨d.apply_result, fun _ h => replaced_apply h d, fun _ h => apply_of_not_builds h d,
    ?_, ?_⟩
  · intro sent taken ending hpart hclosed
    exact (reloads_iff d _ sent taken ending).2 ⟨hpart, hclosed, rfl⟩
  · intro sent taken ending last hreloads
    obtain ⟨hpart, hclosed, rfl⟩ := (reloads_iff d last sent taken ending).1 hreloads
    exact ⟨hpart, hclosed, rfl, d.applyEach_cases taken⟩

end Dispatcher

namespace Config

/-- A table with one route. -/
def itemTable : Config := { routes := [⟨.composite, Registry.itemTemplate, "Item"⟩] }

/-- The same route with its template repeated, and a broken one behind. -/
def repeatingTable : Config :=
  { routes := itemTable.routes ++
      [⟨.direct, Registry.itemTemplate, "Item"⟩, ⟨.action, "no pattern", "Item"⟩] }

end Config

namespace Dispatcher

/-- The loop is shut down behind a table that is refused, and before it takes the next one. -/
theorem reload_agrees_item :
    Config.itemTable.Builds ∧ ¬ Config.repeatingTable.Builds ∧
      ∃ last, Reloads empty [Config.itemTable, Config.repeatingTable, {}] .shutdown
          [Config.itemTable, Config.repeatingTable] last ∧
        (empty.perform (.reload [Config.itemTable, Config.repeatingTable] .shutdown)).next = last ∧
        empty.Replaced Config.itemTable last := by
  have hitem : Config.itemTable.Builds := ⟨_, rfl⟩
  have herror : (build Config.repeatingTable).result =
      .error (.duplicateRoute Registry.itemTemplate .composite) := rfl
  have hrepeating : ¬ Config.repeatingTable.Builds := not_builds_of_error herror
  obtain ⟨_, _, _, hruns, hends⟩ := reload_agrees empty
  have hlast := hruns [Config.itemTable, Config.repeatingTable, {}]
    [Config.itemTable, Config.repeatingTable] .shutdown ⟨[{}], rfl⟩ (by simp)
  refine ⟨hitem, hrepeating, _, hlast, rfl, ?_⟩
  obtain ⟨_, _, _, ⟨config, ⟨hbuilds, before, after, hsplit, _⟩, hreplaced⟩ | ⟨hnone, _⟩⟩ :=
    hends _ _ _ _ hlast
  · have hmem : config ∈ [Config.itemTable, Config.repeatingTable] := by simp [hsplit]
    rcases List.mem_pair.1 hmem with rfl | rfl
    · exact hreplaced
    · exact absurd hbuilds hrepeating
  · exact absurd hitem (hnone _ (by simp))

end Dispatcher

end DeepLink
