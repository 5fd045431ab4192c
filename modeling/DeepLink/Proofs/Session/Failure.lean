import DeepLink.Proofs.Session.Current

/-! # Operations in vain

An operation that is refused, and a dispatch that fails or passes over its link, leave the
dispatcher as it was, and no presenter is handed anything. A whole session therefore comes to the
same when such operations are left out of it. A dispatch that presents changes nothing but the
current link. -/

namespace DeepLink

/-- The answer of an operation in vain: it was refused, or it was a dispatch that failed or passed
over its link. -/
def Answer.inVain : Answer → Bool
  | .refused _ => true
  | .dispatched (.error _) => true
  | .dispatched (.ok .suppressed) => true
  | _ => false

/-! ## One operation -/

namespace Turn

/-- The operation is in vain. -/
def inVain (turn : Turn) : Bool :=
  turn.reaction.answer.inVain

/-- A dispatch either presents its link or is in vain. -/
theorem inVain_dispatch (d : Dispatcher) (route : String) (arguments : List (String × String))
    (flags : Flags) :
    (Turn.mk d (.dispatch route arguments flags)).inVain =
      (d.verdict route arguments flags).presentation?.isNone := by
  simp only [inVain, reaction, Dispatcher.perform, Dispatcher.result_dispatch]
  generalize d.verdict route arguments flags = verdict
  cases verdict with
  | presented presenter p fallback => cases fallback <;> rfl
  | _ => rfl

theorem inVain_of_dispatch {turn : Turn} (h : turn.step.isDispatch = true) :
    turn.inVain = turn.presented?.isNone := by
  obtain ⟨d, step⟩ := turn
  cases step with
  | dispatch route arguments flags =>
      rw [inVain_dispatch, presented?_dispatch]
      cases (d.verdict route arguments flags).presentation? <;> rfl
  | _ => cases h

/-- An operation in vain leaves everything as it was. -/
theorem next_of_inVain {turn : Turn} (h : turn.inVain = true) :
    turn.reaction.next = turn.dispatcher := by
  obtain ⟨d, step⟩ := turn
  cases step with
  | register kind pattern target =>
      simp only [inVain, reaction, Dispatcher.perform] at h ⊢
      cases hresult : (d.register kind pattern target).result with
      | error error => rfl
      | ok next =>
          rw [hresult] at h
          cases h
  | dispatch route arguments flags =>
      rw [inVain_dispatch, Option.isNone_iff_eq_none] at h
      simp only [reaction, Dispatcher.perform, Dispatcher.next_dispatch, h]
      rfl
  | setPresenter presenter => cases h
  | setFallback fallback => cases h
  | clearFallback => cases h
  | reset => cases h
  | replaceRegistry routes =>
      simp only [inVain, reaction, Dispatcher.perform] at h ⊢
      cases hresult : (Registry.build routes).result with
      | error error => rfl
      | ok registry =>
          rw [hresult] at h
          cases h
  | apply config =>
      simp only [inVain, reaction, Dispatcher.perform] at h ⊢
      rcases d.apply_cases config with ⟨hresult, _, _⟩ | ⟨error, hresult, _, hsame⟩
      · rw [hresult] at h
        cases h
      · rw [hresult]
        exact hsame
  | reload configs ending => cases h
  | resolve route => cases h
  | isValid route => cases h

theorem presented?_of_inVain {turn : Turn} (h : turn.inVain = true) : turn.presented? = none := by
  cases hstep : turn.step.isDispatch with
  | true => exact Option.isNone_iff_eq_none.1 ((inVain_of_dispatch hstep).symm.trans h)
  | false => exact presented?_of_not_dispatch hstep

/-- An operation that presents a link makes it the current one, and changes nothing else. -/
theorem next_of_presented {turn : Turn} {route : String} (h : turn.presented? = some route) :
    turn.reaction.next = { turn.dispatcher with current := some route } := by
  obtain ⟨arguments, flags, hstep, hpresented⟩ := turn.exists_dispatch_of_presented? h
  simp only [reaction, hstep, Dispatcher.perform, Dispatcher.next_dispatch, hpresented, if_true]

end Turn

/-! ## Configurations -/

namespace Dispatcher

/-- A configuration is refused exactly when one of its routes is, and then with the same error. -/
theorem answer_apply_eq_refused_iff (d : Dispatcher) (config : Config) (error : RouteError) :
    (d.perform (.apply config)).answer = .refused error ↔
      ∃ index route, Registry.empty.FailsAt config.routes index route error := by
  rw [← Registry.registerAll_eq_error_iff]
  change _ ↔ (Registry.build config.routes).result = .error error
  cases hroutes : (Registry.build config.routes).result with
  | error other => simp [perform, apply_of_error hroutes]
  | ok registry => simp [perform, apply_of_registry hroutes]

/-! ## A whole session -/

/-- The operations of a session that are not in vain. -/
def effective (d : Dispatcher) (steps : List Step) : List Step :=
  ((d.history steps).filter fun turn => !turn.inVain).map (·.step)

theorem effective_cons (d : Dispatcher) (step : Step) (rest : List Step) :
    d.effective (step :: rest) =
      if (Turn.mk d step).inVain then d.effective rest
      else step :: (d.perform step).next.effective rest := by
  cases hvain : (Turn.mk d step).inVain with
  | true =>
      have hnext : (d.perform step).next = d := Turn.next_of_inVain hvain
      simp [effective, history, hvain, hnext]
  | false => simp [effective, history, hvain]

/-- Without the operations in vain, a session takes the same turns otherwise, and comes to the same
end. -/
theorem history_effective (d : Dispatcher) (steps : List Step) :
    d.history (d.effective steps) = (d.history steps).filter (fun turn => !turn.inVain) ∧
      d.after (d.effective steps) = d.after steps := by
  induction steps generalizing d with
  | nil => exact ⟨rfl, rfl⟩
  | cons step rest ih =>
      rw [effective_cons, history, after]
      cases hvain : (Turn.mk d step).inVain with
      | true =>
          have hnext : (d.perform step).next = d := Turn.next_of_inVain hvain
          rw [hnext]
          simpa [hvain] using ih d
      | false =>
          obtain ⟨hhistory, hafter⟩ := ih (d.perform step).next
          simp [hvain, history, after, hhistory, hafter]

/-- What fails changes nothing. An operation that is refused, and a dispatch that fails or passes
over its link, leave the dispatcher as it was, and no presenter is handed anything; so they can be
left out of every session. A configuration is refused exactly when one of its routes is, with its
error, when all routes in front of it have been registered; even then nothing is taken over. A
dispatch is in vain or presents its link, and then it changes nothing but the current link. -/
theorem failures_change_nothing (d : Dispatcher) :
    (∀ step, (Turn.mk d step).inVain = true →
      (Turn.mk d step).reaction.next = d ∧ (Turn.mk d step).handed = 0) ∧
    (∀ config error, (d.perform (.apply config)).answer = .refused error ↔
      ∃ index route, Registry.empty.FailsAt config.routes index route error) ∧
    (∀ config index route error, Registry.empty.FailsAt config.routes index route error →
      (∃ before, (Registry.build (config.routes.take index)).result = .ok before ∧
        before.size = index) ∧
      (d.perform (.apply config)).next = d) ∧
    (∀ step, step.isDispatch = true →
      (Turn.mk d step).inVain = (Turn.mk d step).presented?.isNone) ∧
    (∀ step route, (Turn.mk d step).presented? = some route →
      (Turn.mk d step).reaction.next = { d with current := some route } ∧
        (Turn.mk d step).handed = 1) ∧
    ∀ steps, d.history (d.effective steps) = (d.history steps).filter (fun turn => !turn.inVain) ∧
      d.after (d.effective steps) = d.after steps := by
  refine ⟨?_, d.answer_apply_eq_refused_iff, ?_, fun step h => Turn.inVain_of_dispatch h, ?_,
    d.history_effective⟩
  · intro step hvain
    refine ⟨Turn.next_of_inVain hvain, ?_⟩
    rw [Turn.handed_eq, Turn.presented?_of_inVain hvain]
    rfl
  · intro config index route error hfails
    obtain ⟨before, hbefore, hsize⟩ := hfails.exists_registered
    refine ⟨⟨before, hbefore, by simpa [Registry.size, Registry.empty] using hsize⟩, ?_⟩
    have hrefused := (d.answer_apply_eq_refused_iff config error).2 ⟨index, route, hfails⟩
    have hvain : (Turn.mk d (.apply config)).inVain = true := congrArg Answer.inVain hrefused
    exact Turn.next_of_inVain hvain
  · intro step route hpresented
    refine ⟨Turn.next_of_presented hpresented, ?_⟩
    rw [Turn.handed_eq, hpresented]
    rfl

/-- A dispatcher without routes, which has presented its fallback. -/
def fallenBack : Dispatcher :=
  { registry := .empty, presenter := some .logger, fallback := some ⟨.direct, "Missing"⟩,
    current := some "app://h/y" }

/-- A broken template is refused, the current link is passed over, and a table is refused at its
second route; another link is presented. -/
theorem failures_change_nothing_missing :
    (∀ step ∈ [.register .direct "no pattern" "Item", .dispatch "app://h/y" [] .empty],
      (Turn.mk fallenBack step).inVain = true ∧
        (Turn.mk fallenBack step).reaction.next = fallenBack) ∧
    Registry.empty.FailsAt Config.repeatingTable.routes 1 ⟨.direct, Registry.itemTemplate, "Item"⟩
      (.duplicateRoute Registry.itemTemplate .composite) ∧
    (fallenBack.perform (.apply Config.repeatingTable)).next = fallenBack ∧
    (Turn.mk fallenBack (.dispatch "app://h/x" [] .empty)).presented? = some "app://h/x" ∧
    (Turn.mk fallenBack (.dispatch "app://h/x" [] .empty)).inVain = false ∧
    (Turn.mk fallenBack (.dispatch "app://h/x" [] .empty)).reaction.next =
      { fallenBack with current := some "app://h/x" } := by
  obtain ⟨hvain, _, hfails, hdispatch, hpresented, _⟩ := failures_change_nothing fallenBack
  have hregister : (Turn.mk fallenBack (.register .direct "no pattern" "Item")).inVain = true := rfl
  have hcurrent : (Turn.mk fallenBack (.dispatch "app://h/y" [] .empty)).inVain = true := rfl
  have hrefused : Registry.empty.FailsAt Config.repeatingTable.routes 1
      ⟨.direct, Registry.itemTemplate, "Item"⟩
      (.duplicateRoute Registry.itemTemplate .composite) := ⟨rfl, _, rfl, rfl⟩
  have hother : (Turn.mk fallenBack (.dispatch "app://h/x" [] .empty)).presented? =
      some "app://h/x" := rfl
  refine ⟨?_, hrefused, (hfails _ _ _ _ hrefused).2, hother, ?_, (hpresented _ _ hother).1⟩
  · intro step hstep
    rcases List.mem_pair.1 hstep with rfl | rfl
    · exact ⟨hregister, (hvain _ hregister).1⟩
    · exact ⟨hcurrent, (hvain _ hcurrent).1⟩
  · rw [hdispatch _ rfl, hother]
    rfl

end Dispatcher

end DeepLink
