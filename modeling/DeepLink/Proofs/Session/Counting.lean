import DeepLink.Metrics
import DeepLink.Proofs.Dispatch.Decision
import DeepLink.Proofs.Session.History
import DeepLink.Proofs.Session.Quiet
import Mathlib.Algebra.GroupWithZero.Nat

/-! # Counted dispatches

A dispatch raises one counter, under the label of its result. There is one exception: when no route
matches and the fallback cannot read the query, no counter is raised. So the counters add up to the
number of all dispatches without these. -/

namespace DeepLink

/-! ## Counters and their sum -/

namespace Metrics

/-- Everything that a dispatch can be counted as. -/
def outcomes : List Dispatched :=
  [.presented, .fallback, .suppressed, .notFound, .noPresenter, .resolutionError]

/-- The sum of the counters of dispatches. -/
def dispatchTotal (raised : List Counter) : Nat :=
  (outcomes.map fun outcome => value raised (.dispatch outcome)).sum

/-- The label under which the result of a dispatch is counted. -/
def resultLabel : Except DispatchError Outcome → String
  | .ok (.presented _) => "presented"
  | .ok (.fellBack _) => "fallback"
  | .ok .suppressed => "suppressed"
  | .error (.route _) => "resolution_error"
  | .error (.notFound _) => "not_found"
  | .error .noPresenter => "presenter_unavailable"

theorem value_dispatch (raised : List Counter) (outcome : Dispatched) :
    value raised (.dispatch outcome) = (raised.filterMap Counter.outcome?).count outcome := by
  unfold value
  induction raised with
  | nil => rfl
  | cons counter rest ih =>
      cases counter with
      | registration kind other => simp [List.filterMap_cons, Counter.outcome?, ih]
      | resolution kind => simp [List.filterMap_cons, Counter.outcome?, ih]
      | dispatch other => simp [Counter.outcome?, List.count_cons, ih]

/-- Every outcome is counted under one of the six. -/
theorem sum_count_outcomes (found : List Dispatched) :
    (outcomes.map fun outcome => found.count outcome).sum = found.length := by
  induction found with
  | nil => rfl
  | cons first rest ih =>
      simp only [outcomes, List.map_cons, List.map_nil, List.sum_cons, List.sum_nil] at ih ⊢
      cases first <;> simp <;> omega

/-- The sum of the counters is the number of times that one of them was raised. -/
theorem dispatchTotal_counts (signals : List Signal) :
    dispatchTotal (counts signals) = (dispatchesCounted signals).length := by
  simp only [dispatchTotal, value_dispatch]
  exact sum_count_outcomes _

end Metrics

/-! ## One dispatch -/

namespace Dispatcher

variable {d : Dispatcher} {route : String} {arguments : List (String × String)} {flags : Flags}

theorem fallbackUnreadable_of_choose {choice : Choice} (h : d.choose route = .ok choice) :
    d.fallbackUnreadable route = false := by
  unfold fallbackUnreadable
  rcases choose_eq_ok h with ⟨found, hresolve⟩ | ⟨hresolve, ⟨fallback, hfallback⟩, params, hquery⟩
  · rw [hresolve]
  · rw [hresolve, hfallback, hquery]

/-- One counter of dispatches is raised, once, and its label is that of the result. -/
def CountedAs (signals : List Signal) (result : Except DispatchError Outcome) : Prop :=
  ∃ outcome, dispatchesCounted signals = [outcome] ∧
    Metrics.labels (.dispatch outcome) = [("outcome", Metrics.resultLabel result)]

/-- The verdict is counted under its label, or it is the one that is not counted. -/
theorem dispatchesCounted_of_decides {verdict : Verdict}
    (h : d.Decides route arguments flags verdict) :
    d.fallbackUnreadable route = false ∧ CountedAs verdict.signals (verdict.result route) ∨
    d.fallbackUnreadable route = true ∧ dispatchesCounted verdict.signals = [] ∧
      ∃ piece, verdict.result route = .error (.route (.malformedQuery route piece)) := by
  cases h with
  | unresolved hresolve =>
      exact .inl ⟨by rw [fallbackUnreadable, hresolve], ⟨.resolutionError, rfl, rfl⟩⟩
  | @fallbackUnreadable _ piece hresolve hfallback hquery =>
      exact .inr ⟨by rw [fallbackUnreadable, hresolve, hfallback, hquery], rfl, piece, rfl⟩
  | unmatched hresolve hfallback =>
      exact .inl ⟨by rw [fallbackUnreadable, hresolve, hfallback], ⟨.notFound, rfl, rfl⟩⟩
  | repeated hchoice _ =>
      exact .inl ⟨fallbackUnreadable_of_choose hchoice, ⟨.suppressed, rfl, rfl⟩⟩
  | unpresentable hchoice _ _ =>
      exact .inl ⟨fallbackUnreadable_of_choose hchoice, ⟨.noPresenter, rfl, rfl⟩⟩
  | @presented choice presenter p hchoice _ _ _ =>
      refine .inl ⟨fallbackUnreadable_of_choose hchoice, ?_⟩
      have hsilent : dispatchesCounted (presenter.signals p) = [] := by
        cases presenter <;> rfl
      cases hfallback : choice.fallback with
      | false => exact ⟨.presented, by simp [Verdict.signals, hsilent], rfl⟩
      | true => exact ⟨.fallback, by simp [Verdict.signals, hsilent], rfl⟩

theorem dispatchesCounted_dispatch (d : Dispatcher) (route : String)
    (arguments : List (String × String)) (flags : Flags) :
    dispatchesCounted (d.dispatch route arguments flags).signals =
      dispatchesCounted (d.verdict route arguments flags).signals := by
  have hstart : Quiet (.event .dispatching :: (d.registry.resolve route).signals) :=
    Quiet.cons ⟨rfl, rfl⟩ (d.registry.quiet_resolve route)
  rw [signals_dispatch, dispatchesCounted_append, hstart.2, List.nil_append]

end Dispatcher

/-! ## One turn -/

namespace Turn

/-- A dispatch that is counted nowhere: the fallback stands in for a missing route, and cannot read
the query. -/
def uncounted (turn : Turn) : Bool :=
  match turn.step with
  | .dispatch route _ _ => turn.dispatcher.fallbackUnreadable route
  | _ => false

/-- A dispatch is counted as its result says, or it is the exception, and then it has failed. -/
theorem counted_cases {turn : Turn} (h : turn.step.isDispatch = true) :
    ∃ result, turn.reaction.answer = .dispatched result ∧
      (turn.uncounted = false ∧ Dispatcher.CountedAs turn.reaction.signals result ∨
        turn.uncounted = true ∧ dispatchesCounted turn.reaction.signals = [] ∧
          ∃ route piece, result = .error (.route (.malformedQuery route piece))) := by
  obtain ⟨d, step⟩ := turn
  cases step with
  | dispatch route arguments flags =>
      refine ⟨(d.dispatch route arguments flags).result, rfl, ?_⟩
      simp only [uncounted, reaction, Dispatcher.perform, Dispatcher.CountedAs,
        Dispatcher.dispatchesCounted_dispatch, Dispatcher.result_dispatch]
      rcases Dispatcher.dispatchesCounted_of_decides (d.verdict_decides route arguments flags) with
        hcounted | ⟨hunreadable, hnone, piece, hpiece⟩
      · exact .inl hcounted
      · exact .inr ⟨hunreadable, hnone, route, piece, hpiece⟩
  | _ => cases h

/-- What a turn adds to the counters: one for a dispatch, unless it is the exception. -/
theorem length_dispatchesCounted (turn : Turn) :
    (dispatchesCounted turn.reaction.signals).length + (if turn.uncounted then 1 else 0) =
      if turn.step.isDispatch then 1 else 0 := by
  cases hstep : turn.step.isDispatch with
  | true =>
      obtain ⟨_, _, ⟨hcounted, _, hone, _⟩ | ⟨huncounted, hnone, _⟩⟩ := counted_cases hstep
      · rw [hone, hcounted]
        rfl
      · rw [hnone, huncounted]
        rfl
  | false =>
      obtain ⟨⟨_, hnone⟩, _⟩ := turn.dispatcher.quiet_perform hstep
      have huncounted : turn.uncounted = false := by
        unfold uncounted
        cases hturn : turn.step with
        | dispatch route arguments flags =>
            rw [hturn] at hstep
            cases hstep
        | _ => rfl
      rw [reaction, hnone, huncounted]
      rfl

end Turn

/-! ## A whole session -/

theorem length_dispatchesCounted_flatMap (turns : List Turn) :
    (dispatchesCounted (turns.flatMap (·.reaction.signals))).length + turns.countP Turn.uncounted =
      turns.countP (·.step.isDispatch) := by
  induction turns with
  | nil => rfl
  | cons turn rest ih =>
      have hturn := turn.length_dispatchesCounted
      simp only [List.flatMap_cons, dispatchesCounted_append, List.length_append, List.countP_cons]
      omega

/-- Every dispatch is counted, with one exception. It raises one counter, once, under the label of
its result, unless no route matches and the fallback cannot read the query; such a dispatch fails
and raises none. At every point the counters add up to the number of dispatches, without the
exceptions. -/
theorem Dispatcher.dispatches_counted (d : Dispatcher) (steps : List Step) :
    (∀ config, dispatchesCounted (build config).signals = []) ∧
    (∀ turn ∈ d.history steps, turn.step.isDispatch = true →
      ∃ result, turn.reaction.answer = .dispatched result ∧
        (turn.uncounted = false ∧ CountedAs turn.reaction.signals result ∨
          turn.uncounted = true ∧ dispatchesCounted turn.reaction.signals = [] ∧
            ∃ route piece, result = .error (.route (.malformedQuery route piece)))) ∧
    (∀ turn ∈ d.history steps, turn.step.isDispatch = false →
      dispatchesCounted turn.reaction.signals = []) ∧
    Metrics.dispatchTotal (counts ((d.run steps).flatMap (·.signals))) +
        (d.history steps).countP Turn.uncounted =
      (d.history steps).countP (·.step.isDispatch) := by
  refine ⟨fun config => (quiet_build config).2, fun turn _ h => turn.counted_cases h,
    fun turn _ h => (turn.dispatcher.quiet_perform h).1.2, ?_⟩
  rw [Metrics.dispatchTotal_counts, run_eq_map_history, List.flatMap_map]
  exact length_dispatchesCounted_flatMap (d.history steps)

/-- A link without a route, with a query that has no equals sign. -/
def unreadableSession : List Step :=
  [.setFallback ⟨.direct, "Missing"⟩, .dispatch "app://h/x?y" [] .empty]

/-- A dispatch that fails at the query of the fallback is missing from the counters. -/
theorem not_counted_unreadable :
    (∃ turn ∈ Dispatcher.empty.history unreadableSession,
      turn.reaction.answer =
        .dispatched (.error (.route (.malformedQuery "app://h/x?y" "y"))) ∧
      ¬ Dispatcher.CountedAs turn.reaction.signals
        (.error (.route (.malformedQuery "app://h/x?y" "y")))) ∧
    (Dispatcher.empty.history unreadableSession).countP (·.step.isDispatch) = 1 ∧
    Metrics.dispatchTotal
      (counts ((Dispatcher.empty.run unreadableSession).flatMap (·.signals))) = 0 := by
  refine ⟨⟨⟨_, .dispatch "app://h/x?y" [] .empty⟩, .tail _ (.head _), rfl, ?_⟩, rfl, rfl⟩
  rintro ⟨outcome, hcounted, _⟩
  cases hcounted

end DeepLink
