import DeepLink.Proofs.Resolution.Correctness
import DeepLink.Proofs.Results
import DeepLink.Proofs.Session.Current

/-! # The current link, once more

A link is resolved, and its query is read, before anyone asks whether it is the current one. Still,
to dispatch the current link again never fails: it could be presented once, and what that takes is
lost only with the current link, unless the fallback is taken away on its own. -/

namespace DeepLink

/-! ## Links that can be presented -/

/-- A query is read only for a link with a match, and then it decides the rest. -/
theorem Registry.resolve_query_cases {β : Type} (r : Registry β) (route : String) :
    (r.resolve route).result = .ok none ∨
    (∃ error piece, (r.resolve route).result = .error error ∧
      Query.parse (Query.split route).2 = .error piece) ∨
    ∃ found params, (r.resolve route).result = .ok (some found) ∧
      Query.parse (Query.split route).2 = .ok params := by
  unfold resolve
  dsimp only
  split
  · exact .inl rfl
  · split
    · exact .inl rfl
    · cases hquery : Query.parse (Query.split route).2 with
      | error piece => exact .inr (.inl ⟨_, piece, rfl, rfl⟩)
      | ok params => exact .inr (.inr ⟨_, params, rfl, rfl⟩)

namespace Dispatcher

/-- The query of a link can be read, and a route matches the link, or there is a fallback. -/
structure Answerable (d : Dispatcher) (route : String) : Prop where
  query : ∃ params, Query.parse (Query.split route).2 = .ok params
  target : (∃ entry ∈ d.registry.entries, entry.Matches (Query.split route).1) ∨
    d.fallback.isSome = true

/-- Something is chosen for a link exactly when its query can be read, and something is there to be
chosen. -/
theorem exists_choose_iff {d : Dispatcher} (hd : d.registry.WellFormed) (route : String) :
    (∃ choice, d.choose route = .ok choice) ↔ d.Answerable route := by
  have hnone := hd.resolve_eq_none_iff route
  rcases d.registry.resolve_query_cases route with hresult | ⟨error, piece, hresult, hquery⟩ |
    ⟨found, params, hresult, hquery⟩
  · have hunmatched := hnone.1 hresult
    constructor
    · rintro ⟨choice, hchoice⟩
      rcases choose_eq_ok hchoice with ⟨found, hfound⟩ | ⟨_, hfallback, hquery⟩
      · rw [hresult] at hfound
        cases hfound
      · exact ⟨hquery, .inr (Option.isSome_iff_exists.2 hfallback)⟩
    · rintro ⟨⟨params, hquery⟩, ⟨entry, hmem, hmatches⟩ | hsome⟩
      · exact absurd hmatches (hunmatched entry hmem)
      · obtain ⟨fallback, hfallback⟩ := Option.isSome_iff_exists.1 hsome
        unfold choose
        simp only [hresult, hfallback, hquery]
        exact ⟨_, rfl⟩
  · constructor
    · rintro ⟨choice, hchoice⟩
      unfold choose at hchoice
      rw [hresult] at hchoice
      cases hchoice
    · rintro ⟨⟨params, hparams⟩, _⟩
      rw [hquery] at hparams
      cases hparams
  · have hmatched : ∃ entry ∈ d.registry.entries, entry.Matches (Query.split route).1 := by
      have hsome : (d.registry.resolve route).result ≠ .ok none := by simp [hresult]
      simpa [hnone] using hsome
    refine ⟨fun _ => ⟨⟨params, hquery⟩, .inl hmatched⟩, fun _ => ?_⟩
    unfold choose
    rw [hresult]
    exact ⟨_, rfl⟩

/-! ## What every operation keeps -/

/-- The registry could have arisen, and the current link could be presented once more. -/
structure Settled (d : Dispatcher) : Prop where
  wellFormed : d.registry.WellFormed
  current : ∀ route, d.current = some route → d.Answerable route

theorem settled_of_current_eq_none {d : Dispatcher} (hd : d.registry.WellFormed)
    (h : d.current = none) : d.Settled := by
  refine ⟨hd, fun route hroute => ?_⟩
  rw [h] at hroute
  cases hroute

theorem Holds.wellFormed {d : Dispatcher} {config : Config} (h : d.Holds config) :
    d.registry.WellFormed :=
  Registry.wellFormed_empty.registerAll h.build_eq

theorem Replaced.settled {d next : Dispatcher} {config : Config} (h : d.Replaced config next) :
    next.Settled :=
  settled_of_current_eq_none h.holds.wellFormed h.current

/-- Nothing is lost when routes are added, or when there is a fallback now. -/
theorem Settled.mono {d next : Dispatcher} (h : d.Settled) (hnext : next.registry.WellFormed)
    (hcurrent : next.current = d.current)
    (hentries : ∀ entry ∈ d.registry.entries, entry ∈ next.registry.entries)
    (hfallback : d.fallback.isSome = true → next.fallback.isSome = true) : next.Settled := by
  refine ⟨hnext, fun route hroute => ?_⟩
  obtain ⟨hquery, htarget⟩ := h.current route (hcurrent ▸ hroute)
  refine ⟨hquery, ?_⟩
  rcases htarget with ⟨entry, hmem, hmatches⟩ | hsome
  · exact .inl ⟨entry, hentries entry hmem, hmatches⟩
  · exact .inr (hfallback hsome)

/-- Only a link that can be answered is presented. -/
theorem answerable_of_presented {d : Dispatcher} (hd : d.registry.WellFormed) {route : String}
    {arguments : List (String × String)} {flags : Flags}
    (h : (d.verdict route arguments flags).presentation?.isSome) : d.Answerable route := by
  obtain ⟨p, hp⟩ := Option.isSome_iff_exists.1 h
  obtain ⟨choice, _, hchoice, _, _, _⟩ := exists_of_presented hp
  exact (exists_choose_iff hd route).1 ⟨choice, hchoice⟩

theorem Settled.next_dispatch {d : Dispatcher} (h : d.Settled) (route : String)
    (arguments : List (String × String)) (flags : Flags) :
    (d.dispatch route arguments flags).next.Settled := by
  rw [d.next_dispatch route arguments flags]
  split
  · rename_i hpresented
    refine ⟨h.wellFormed, fun other hother => ?_⟩
    obtain rfl := Option.some.inj hother
    obtain ⟨hquery, htarget⟩ := answerable_of_presented h.wellFormed hpresented
    exact ⟨hquery, htarget⟩
  · exact h

theorem Settled.register {d next : Dispatcher} (h : d.Settled) {kind : Kind} {key target : String}
    (hregister : (d.register kind key target).result = .ok next) : next.Settled := by
  obtain ⟨registry, hresult, rfl⟩ := map_eq_ok hregister
  have hwell := h.wellFormed.register hresult
  obtain ⟨pattern, _, _, rfl⟩ := Registry.register_eq_ok hresult
  exact h.mono hwell rfl (fun _ hmem => List.mem_append_left _ hmem) id

/-- Every operation but one keeps the current link answerable, or forgets it. -/
theorem Settled.perform {d : Dispatcher} (h : d.Settled) {step : Step}
    (hstep : step ≠ .clearFallback) : (d.perform step).next.Settled := by
  cases step with
  | register kind pattern target =>
      simp only [Dispatcher.perform]
      cases hresult : (d.register kind pattern target).result with
      | error error => exact h
      | ok next => exact h.register hresult
  | dispatch route arguments flags =>
      simp only [Dispatcher.perform]
      exact h.next_dispatch route arguments flags
  | setPresenter presenter => exact h.mono h.wellFormed rfl (fun _ hmem => hmem) id
  | setFallback fallback => exact h.mono h.wellFormed rfl (fun _ hmem => hmem) fun _ => rfl
  | clearFallback => exact absurd rfl hstep
  | reset => exact settled_of_current_eq_none Registry.wellFormed_empty rfl
  | replaceRegistry routes =>
      simp only [Dispatcher.perform]
      cases hresult : (Registry.build routes).result with
      | error error => exact h
      | ok registry =>
          exact settled_of_current_eq_none (Registry.wellFormed_empty.registerAll hresult) rfl
  | apply config =>
      simp only [Dispatcher.perform]
      rcases d.apply_cases config with ⟨hresult, _, hreplaced⟩ | ⟨error, hresult, _, hsame⟩
      · rw [hresult]
        exact hreplaced.settled
      · rw [hresult, hsame]
        exact h
  | reload configs ending =>
      simp only [Dispatcher.perform]
      rcases d.applyEach_cases configs with ⟨config, _, hreplaced⟩ | ⟨_, hsame⟩
      · exact hreplaced.settled
      · rw [hsame]
        exact h
  | resolve route => exact h
  | isValid route => exact h

/-! ## Every state that can arise -/

/-- The dispatchers that arise when the fallback is never taken away on its own: by operations, from
a dispatcher that is empty, stands around a registry, or was built from a configuration. Tables are
unordered, so one that lists the same routes in another order counts as well. -/
inductive Arises : Dispatcher → Prop where
  | empty : Arises .empty
  | around {registry : Registry String} (h : registry.Reachable) : Arises (.ofRegistry registry)
  | built {config d} (h : (build config).result = .ok d) : Arises d
  | perform {d step} (hstep : step ≠ .clearFallback) : Arises d → Arises (d.perform step).next
  | replace {d} {registry : Registry String} (h : registry.Reachable) :
      Arises d → Arises (d.replaceRegistry registry).result
  | reorder {d} {registry : Registry String} (h : registry.entries.Perm d.registry.entries) :
      Arises d → Arises { d with registry := registry }

theorem Arises.settled {d : Dispatcher} (h : d.Arises) : d.Settled := by
  induction h with
  | empty => exact settled_of_current_eq_none Registry.wellFormed_empty rfl
  | around hregistry => exact settled_of_current_eq_none hregistry.wellFormed rfl
  | built hbuild =>
      exact settled_of_current_eq_none (Holds.wellFormed ⟨_, hbuild, rfl, rfl⟩)
        (Fresh.built hbuild).current_eq_none
  | perform hstep _ ih => exact ih.perform hstep
  | replace hregistry _ _ => exact settled_of_current_eq_none hregistry.wellFormed rfl
  | reorder hperm _ ih =>
      exact ih.mono (ih.wellFormed.reorder hperm) rfl (fun _ hmem => hperm.mem_iff.2 hmem) id

theorem Arises.after {d : Dispatcher} (h : d.Arises) {steps : List Step}
    (hsteps : ∀ step ∈ steps, step ≠ .clearFallback) : (d.after steps).Arises := by
  induction steps generalizing d with
  | nil => exact h
  | cons step rest ih =>
      obtain ⟨hstep, hrest⟩ := List.forall_mem_cons.1 hsteps
      exact ih (.perform hstep h) hrest

theorem verdict_of_repeats {d : Dispatcher} {route : String} {choice : Choice} {flags : Flags}
    (hchoice : d.choose route = .ok choice) (h : d.Repeats route flags)
    (arguments : List (String × String)) : d.verdict route arguments flags = .repeated := by
  have hcond : d.current = some route ∧ !flags.contains .overrideSameRoute := by
    simpa [Repeats] using h
  unfold verdict
  rw [hchoice]
  exact if_pos hcond

/-- Dispatching the current link again does nothing. Unless the fallback was taken away on its own,
the link is passed over, whatever arguments and flags come with it, as long as no flag asks for it:
there is no error, nothing is presented, and nothing changes. -/
theorem dispatch_current {d : Dispatcher} (h : d.Arises) {route : String}
    (hroute : d.current = some route) (arguments : List (String × String)) {flags : Flags}
    (hflags : flags.contains .overrideSameRoute = false) :
    (d.dispatch route arguments flags).result = .ok .suppressed ∧
      (d.dispatch route arguments flags).next = d ∧
      (d.dispatch route arguments flags).presented = none ∧
      (Turn.mk d (.dispatch route arguments flags)).handed = 0 := by
  obtain ⟨choice, hchoice⟩ :=
    (exists_choose_iff h.settled.wellFormed route).2 (h.settled.current route hroute)
  have hverdict := verdict_of_repeats hchoice ⟨hroute, hflags⟩ arguments
  refine ⟨?_, ?_, ?_, ?_⟩
  · rw [result_dispatch, hverdict]
    rfl
  · rw [d.next_dispatch, hverdict]
    rfl
  · rw [presented_dispatch, hverdict]
    rfl
  · rw [Turn.handed_eq, Turn.presented?_dispatch, hverdict]
    rfl

/-- A link is presented by the fallback, and its route is registered afterwards. -/
def belatedSession : List Step :=
  [.setPresenter .logger, .setFallback ⟨.direct, "Missing"⟩,
    .dispatch "app://h/items/7/a.b/x-1?k=v" [] .empty,
    .register .composite Registry.itemTemplate "Item"]

/-- The link matches a route by now, and is passed over all the same. -/
theorem dispatch_current_belated :
    (empty.after belatedSession).Arises ∧
      (empty.after belatedSession).current = some "app://h/items/7/a.b/x-1?k=v" ∧
      ((empty.after belatedSession).dispatch "app://h/items/7/a.b/x-1?k=v" [("k", "w")]
        (.ofList [.popCurrent])).result = .ok .suppressed ∧
      ((empty.after belatedSession).dispatch "app://h/items/7/a.b/x-1?k=v" [("k", "w")]
        (.ofList [.popCurrent])).next = empty.after belatedSession := by
  have harises : (empty.after belatedSession).Arises := by
    refine Arises.empty.after fun step hstep => ?_
    simp only [belatedSession, List.mem_cons, List.not_mem_nil, or_false] at hstep
    rcases hstep with rfl | rfl | rfl | rfl <;> simp
  have hcurrent : (empty.after belatedSession).current = some "app://h/items/7/a.b/x-1?k=v" := rfl
  obtain ⟨hresult, hnext, _⟩ :=
    @dispatch_current _ harises _ hcurrent [("k", "w")] (.ofList [.popCurrent]) rfl
  exact ⟨harises, hcurrent, hresult, hnext⟩

/-- Once the fallback is taken away, the link that it presented is refused. -/
example : ((empty.after [.setPresenter .logger, .setFallback ⟨.direct, "Missing"⟩,
    .dispatch "app://h/x" [] .empty, .clearFallback]).dispatch "app://h/x" [] .empty).result =
      .error (.notFound "app://h/x") := rfl

end Dispatcher

end DeepLink
