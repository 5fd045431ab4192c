import DeepLink.Proofs.Config.Replacement
import DeepLink.Proofs.Dispatch.Decision
import DeepLink.Proofs.Session.History
import DeepLink.Proofs.Session.Quiet
import Mathlib.Data.List.Induction

/-! # The current link

The current link of a dispatcher is the one that was presented last, as long as the routes have not
been removed or replaced since. So the same link is presented twice in a row only on demand. -/

namespace DeepLink

/-! ## What a turn does -/

namespace Turn

/-- The link that was presented, as the answer tells. -/
def presented? (turn : Turn) : Option String :=
  match turn.step, turn.reaction.answer with
  | .dispatch route _ _, .dispatched (.ok (.presented _)) => some route
  | .dispatch route _ _, .dispatched (.ok (.fellBack _)) => some route
  | _, _ => none

/-- Whether the routes were removed, or others took their place. -/
def reconfigures (turn : Turn) : Bool :=
  match turn.step, turn.reaction.answer with
  | .reset, _ => true
  | .replaceRegistry _, .replaced _ => true
  | .apply _, .applied _ => true
  | .reload configs _, _ => configs.any fun config => (Dispatcher.build config).result.isOk
  | _, _ => false

/-- Whether a dispatch asks for the current link to be presented again. -/
def overrides (turn : Turn) : Bool :=
  match turn.step with
  | .dispatch _ _ flags => flags.contains .overrideSameRoute
  | _ => false

/-- How often a presenter was handed something. The collector keeps it; the logger reports it. -/
def handed (turn : Turn) : Nat :=
  turn.reaction.collected.toList.length + presentersHeard turn.reaction.signals

theorem presented?_of_not_dispatch {turn : Turn} (h : turn.step.isDispatch = false) :
    turn.presented? = none := by
  unfold presented?
  cases hstep : turn.step with
  | dispatch route arguments flags =>
      rw [hstep] at h
      cases h
  | _ => rfl

theorem presented?_dispatch (d : Dispatcher) (route : String)
    (arguments : List (String × String)) (flags : Flags) :
    (Turn.mk d (.dispatch route arguments flags)).presented? =
      if (d.verdict route arguments flags).presentation?.isSome then some route else none := by
  simp only [presented?, reaction, Dispatcher.perform, Dispatcher.result_dispatch]
  generalize d.verdict route arguments flags = verdict
  cases verdict with
  | presented presenter p fallback => cases fallback <;> rfl
  | _ => rfl

theorem exists_dispatch_of_presented? {turn : Turn} {route : String}
    (h : turn.presented? = some route) :
    ∃ arguments flags, turn.step = .dispatch route arguments flags ∧
      (turn.dispatcher.verdict route arguments flags).presentation?.isSome := by
  obtain ⟨d, step⟩ := turn
  cases step with
  | dispatch link arguments flags =>
      rw [presented?_dispatch] at h
      split at h
      · rename_i hpresented
        obtain rfl := Option.some.inj h
        exact ⟨arguments, flags, rfl, hpresented⟩
      · cases h
  | _ => cases h

theorem isOk_build_iff (config : Config) :
    (Dispatcher.build config).result.isOk = true ↔ config.Builds := by
  unfold Config.Builds
  cases h : (Dispatcher.build config).result with
  | error error => simp [Except.isOk, Except.toBool]
  | ok fresh => simp [Except.isOk, Except.toBool]

/-- A turn makes the link that it presents the current one, and a reconfiguration leaves none. -/
theorem current_reaction (turn : Turn) :
    turn.reaction.next.current =
      match turn.presented?, turn.reconfigures with
      | some route, _ => some route
      | none, true => none
      | none, false => turn.dispatcher.current := by
  obtain ⟨d, step⟩ := turn
  cases step with
  | register kind pattern target =>
      simp only [presented?, reconfigures, reaction, Dispatcher.perform, Dispatcher.register]
      cases (d.registry.register kind pattern target).result <;> rfl
  | dispatch route arguments flags =>
      rw [presented?_dispatch]
      simp only [reconfigures, reaction, Dispatcher.perform, Dispatcher.next_dispatch]
      generalize (d.verdict route arguments flags).presentation?.isSome = presented
      cases presented <;> rfl
  | setPresenter presenter => rfl
  | setFallback fallback => rfl
  | clearFallback => rfl
  | reset => rfl
  | replaceRegistry routes =>
      simp only [presented?, reconfigures, reaction, Dispatcher.perform]
      cases (Registry.build routes).result <;> rfl
  | apply config =>
      simp only [presented?, reconfigures, reaction, Dispatcher.perform]
      rcases d.apply_cases config with ⟨hresult, _, hreplaced⟩ | ⟨error, hresult, _, hsame⟩
      · rw [hresult]
        exact hreplaced.current
      · rw [hresult]
        exact congrArg _ hsame
  | reload configs ending =>
      simp only [presented?, reconfigures, reaction, Dispatcher.perform]
      rcases d.applyEach_cases configs with
        ⟨config, ⟨hbuilds, before, after, hsplit, _⟩, hreplaced⟩ | ⟨hnone, hsame⟩
      · have hany : configs.any fun config => (Dispatcher.build config).result.isOk :=
          List.any_eq_true.2 ⟨config, by simp [hsplit], (isOk_build_iff config).2 hbuilds⟩
        rw [hany]
        exact hreplaced.current
      · have hany : (configs.any fun config => (Dispatcher.build config).result.isOk) = false := by
          refine List.any_eq_false.2 fun config hmem hok => ?_
          exact hnone config hmem ((isOk_build_iff config).1 hok)
        rw [hany, hsame]
  | resolve route => rfl
  | isValid route => rfl

/-! ## What a presenter is handed -/

theorem ofPresenter_event (p : Presentation String) : p.event.ofPresenter = true := by
  unfold Presentation.event
  split
  · rfl
  · rfl

/-- The collector keeps the presentation and is silent; the logger does the opposite. -/
theorem handed_of_decides {d : Dispatcher} {route : String} {arguments : List (String × String)}
    {flags : Flags} {verdict : Verdict} (h : d.Decides route arguments flags verdict) :
    (if d.presenter = some .collector then verdict.presentation? else none).toList.length +
        presentersHeard verdict.signals =
      if verdict.presentation?.isSome then 1 else 0 := by
  cases h with
  | @presented choice presenter p hchoice hnew hpresenter hp =>
      rw [hpresenter]
      cases presenter with
      | collector => cases choice.fallback <;> rfl
      | logger =>
          have hrouted : Event.routeDispatched.ofPresenter = false := rfl
          simp [Verdict.presentation?, Verdict.signals, Presenter.signals, ofPresenter_event,
            hrouted]
  | unresolved _ => simp [Verdict.presentation?, Verdict.signals, Event.ofPresenter]
  | fallbackUnreadable _ _ _ => simp [Verdict.presentation?, Verdict.signals]
  | unmatched _ _ => simp [Verdict.presentation?, Verdict.signals, Event.ofPresenter]
  | repeated _ _ => simp [Verdict.presentation?, Verdict.signals, Event.ofPresenter]
  | unpresentable _ _ _ => simp [Verdict.presentation?, Verdict.signals, Event.ofPresenter]

/-- A presenter is handed one thing by a turn that presents, and nothing by any other. -/
theorem handed_eq (turn : Turn) : turn.handed = if turn.presented?.isSome then 1 else 0 := by
  obtain ⟨d, step⟩ := turn
  cases hstep : step.isDispatch with
  | false =>
      obtain ⟨⟨hheard, _⟩, hcollected⟩ := d.quiet_perform hstep
      rw [presented?_of_not_dispatch hstep, handed, reaction, hcollected, hheard]
      rfl
  | true =>
      cases step with
      | dispatch route arguments flags =>
          have hstart : Quiet (.event .dispatching :: (d.registry.resolve route).signals) :=
            Quiet.cons ⟨rfl, rfl⟩ (d.registry.quiet_resolve route)
          rw [presented?_dispatch, handed]
          simp only [reaction, Dispatcher.perform, Dispatcher.presented_dispatch,
            Dispatcher.signals_dispatch, presentersHeard_append, hstart.1, Nat.zero_add]
          rw [handed_of_decides (d.verdict_decides route arguments flags)]
          split
          · rfl
          · rfl
      | _ => cases hstep

end Turn

/-! ## The link presented last -/

/-- The link was presented, and since then nothing else was, and the routes have stayed. -/
def IsLatest (turns : List Turn) (route : String) : Prop :=
  ∃ before turn later, turns = before ++ turn :: later ∧ turn.presented? = some route ∧
    ∀ other ∈ later, other.presented? = none ∧ other.reconfigures = false

/-- One more turn either presents a link, or leaves the latest one as it was, or takes it away. -/
theorem isLatest_snoc_iff (turns : List Turn) (turn : Turn) (route : String) :
    IsLatest (turns ++ [turn]) route ↔ turn.presented? = some route ∨
      turn.presented? = none ∧ turn.reconfigures = false ∧ IsLatest turns route := by
  constructor
  · rintro ⟨before, picked, later, hsplit, hpicked, hlater⟩
    rcases List.eq_nil_or_concat later with rfl | ⟨others, last, rfl⟩
    · obtain ⟨_, hturn⟩ := List.append_inj' hsplit rfl
      obtain rfl := List.singleton_inj.1 hturn
      exact .inl hpicked
    · rw [List.concat_eq_append, ← List.cons_append, ← List.append_assoc] at hsplit
      obtain ⟨hturns, hturn⟩ := List.append_inj' hsplit rfl
      obtain rfl := List.singleton_inj.1 hturn
      obtain ⟨hsilent, hstays⟩ := hlater turn (by simp)
      refine .inr ⟨hsilent, hstays, before, picked, others, hturns, hpicked, ?_⟩
      intro other hother
      exact hlater other (by simp [hother])
  · rintro (hturn | ⟨hsilent, hstays, before, picked, others, rfl, hpicked, hothers⟩)
    · exact ⟨turns, turn, [], rfl, hturn, by simp⟩
    · refine ⟨before, picked, others ++ [turn], by simp, hpicked, ?_⟩
      intro other hother
      rcases List.mem_append.1 hother with hother | hother
      · exact hothers other hother
      · rw [List.mem_singleton.1 hother]
        exact ⟨hsilent, hstays⟩

namespace Dispatcher

/-- A dispatcher that nothing was asked of yet: an empty one, one around a registry, or one built
from a configuration. -/
inductive Fresh : Dispatcher → Prop
  | empty : Fresh .empty
  | ofRegistry (registry : Registry String) : Fresh (.ofRegistry registry)
  | built {config d} (h : (build config).result = .ok d) : Fresh d

theorem Fresh.current_eq_none {d : Dispatcher} (h : d.Fresh) : d.current = none := by
  cases h with
  | empty => rfl
  | ofRegistry registry => rfl
  | @built config _ h =>
      unfold build at h
      dsimp only at h
      split at h
      · cases h
      · injection h with h
        rw [← h]

/-- The current link of a session is the latest one. -/
theorem current_after_iff {d : Dispatcher} (hd : d.current = none) (steps : List Step)
    (route : String) :
    (d.after steps).current = some route ↔ IsLatest (d.history steps) route := by
  induction steps using List.reverseRecOn with
  | nil => simp [after, history, IsLatest, hd]
  | append_singleton steps step ih =>
      rw [after_snoc, history_snoc, isLatest_snoc_iff, Turn.current_reaction]
      cases hpresented : (Turn.mk (d.after steps) step).presented? with
      | some link => simp
      | none =>
          cases hchanges : (Turn.mk (d.after steps) step).reconfigures with
          | true => simp
          | false => simpa using ih

/-- Between two presentations of one link stands a wish for the second, or a reconfiguration. -/
theorem overrides_or_reconfigures {d : Dispatcher} (hd : d.current = none) {steps : List Step}
    {past between later : List Turn} {first second : Turn} {route : String}
    (h : d.history steps = past ++ first :: (between ++ second :: later))
    (hfirst : first.presented? = some route) (hsecond : second.presented? = some route)
    (hbetween : ∀ turn ∈ between, turn.presented? = none) :
    second.overrides = true ∨ ∃ turn ∈ between, turn.reconfigures = true := by
  by_cases hchange : ∃ turn ∈ between, turn.reconfigures = true
  · exact .inr hchange
  · left
    have hlatest : IsLatest (past ++ first :: between) route := by
      refine ⟨past, first, between, rfl, hfirst, fun turn hturn => ⟨hbetween turn hturn, ?_⟩⟩
      exact Bool.eq_false_iff.2 fun hchanges => hchange ⟨turn, hturn, hchanges⟩
    rw [← List.cons_append, ← List.append_assoc] at h
    obtain ⟨steps', hpast, hdispatcher⟩ := exists_past_of_history h
    rw [← hpast, ← current_after_iff hd, ← hdispatcher] at hlatest
    obtain ⟨arguments, flags, hstep, hpresented⟩ := second.exists_dispatch_of_presented? hsecond
    have hnew := not_repeats_of_presented hpresented
    simp only [Repeats, hlatest, true_and, Bool.not_eq_false] at hnew
    simp only [Turn.overrides, hstep, hnew]

/-- The current link is exactly the one presented last. A session from a fresh dispatcher has a
current link when it has presented one since its routes were last removed or replaced, and then it
is the latest; a presenter is handed one thing by each dispatch that answers so, and nothing
otherwise; and two presentations in a row are of different links, unless the second was asked for or
the session was reconfigured between them. -/
theorem current_is_latest {d : Dispatcher} (hd : d.Fresh) (steps : List Step) :
    (∀ route, (d.after steps).current = some route ↔ IsLatest (d.history steps) route) ∧
    (∀ turn ∈ d.history steps, turn.handed = if turn.presented?.isSome then 1 else 0) ∧
    ∀ past first between second later route,
      d.history steps = past ++ first :: (between ++ second :: later) →
      first.presented? = some route → second.presented? = some route →
      (∀ turn ∈ between, turn.presented? = none) →
      second.overrides = true ∨ ∃ turn ∈ between, turn.reconfigures = true := by
  have hcurrent := hd.current_eq_none
  refine ⟨current_after_iff hcurrent steps, fun turn _ => turn.handed_eq, ?_⟩
  intro past first between second later route h hfirst hsecond hbetween
  exact overrides_or_reconfigures hcurrent h hfirst hsecond hbetween

/-- A link without a route is presented, then passed over, and then presented again on demand. -/
def missingSession : List Step :=
  [.setPresenter .logger, .setFallback ⟨.direct, "Missing"⟩, .dispatch "app://h/x" [] .empty,
    .dispatch "app://h/x" [] .empty, .dispatch "app://h/x" [] (.ofList [.overrideSameRoute])]

theorem current_is_latest_missing :
    Fresh empty ∧ (empty.after missingSession).current = some "app://h/x" ∧
      ∃ past first between second,
        empty.history missingSession = past ++ first :: (between ++ second :: []) ∧
        first.presented? = some "app://h/x" ∧ second.presented? = some "app://h/x" ∧
        (∀ turn ∈ between, turn.presented? = none) ∧ between.length = 1 ∧
        (second.overrides = true ∨ ∃ turn ∈ between, turn.reconfigures = true) ∧
        first.handed = 1 ∧ ∀ turn ∈ between, turn.handed = 0 := by
  obtain ⟨hcurrent, hhanded, hrepeated⟩ := current_is_latest .empty missingSession
  have hpresented : (empty.history missingSession).map Turn.presented? =
      [none, none, some "app://h/x", none, some "app://h/x"] := rfl
  generalize empty.history missingSession = turns at hcurrent hhanded hrepeated hpresented ⊢
  simp only [List.map_eq_cons_iff, List.map_eq_nil_iff] at hpresented
  obtain ⟨start, _, hturns, _, next, _, rfl, _, first, _, rfl, hfirst, middle, _, rfl, hmiddle,
    second, _, rfl, hsecond, rfl⟩ := hpresented
  have hbetween : ∀ turn ∈ [middle], turn.presented? = none := by simpa using hmiddle
  have hsplit : turns = [start, next] ++ first :: ([middle] ++ second :: []) := hturns
  refine ⟨.empty, ?_, [start, next], first, [middle], second, hsplit, hfirst, hsecond, hbetween,
    rfl, hrepeated _ _ _ _ _ _ hsplit hfirst hsecond hbetween, ?_, ?_⟩
  · rw [hcurrent]
    exact ⟨[start, next, first, middle], second, [], hturns, hsecond, by simp⟩
  · rw [hhanded first (by simp [hturns]), hfirst]
    rfl
  · intro turn hturn
    obtain rfl := List.mem_singleton.1 hturn
    rw [hhanded turn (by simp [hturns]), hmiddle]
    rfl

end Dispatcher

end DeepLink
