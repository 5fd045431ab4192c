import DeepLink.Session

/-! # The history of a session

A session is looked at turn by turn: each operation together with the dispatcher that performed it.
What a session has come to is a matter of the turns so far. -/

namespace DeepLink

/-- An operation of a session, with the dispatcher that performs it. -/
structure Turn where
  dispatcher : Dispatcher
  step : Step

/-- What the operation leaves behind. -/
def Turn.reaction (turn : Turn) : Reaction :=
  turn.dispatcher.perform turn.step

namespace Dispatcher

/-- The turns of a session. -/
def history (d : Dispatcher) : List Step → List Turn
  | [] => []
  | step :: rest => ⟨d, step⟩ :: (d.perform step).next.history rest

/-- The dispatcher that a session leaves behind. -/
def after (d : Dispatcher) : List Step → Dispatcher
  | [] => d
  | step :: rest => (d.perform step).next.after rest

/-- The reactions of a run are those of its turns. -/
theorem run_eq_map_history (d : Dispatcher) (steps : List Step) :
    d.run steps = (d.history steps).map Turn.reaction := by
  induction steps generalizing d with
  | nil => rfl
  | cons step rest ih => rw [run, history, List.map_cons, ih, Turn.reaction]

theorem history_append (d : Dispatcher) (before later : List Step) :
    d.history (before ++ later) = d.history before ++ (d.after before).history later := by
  induction before generalizing d with
  | nil => rfl
  | cons step rest ih => rw [List.cons_append, history, ih, history, after, List.cons_append]

theorem history_snoc (d : Dispatcher) (steps : List Step) (step : Step) :
    d.history (steps ++ [step]) = d.history steps ++ [⟨d.after steps, step⟩] :=
  d.history_append steps [step]

theorem after_snoc (d : Dispatcher) (steps : List Step) (step : Step) :
    d.after (steps ++ [step]) = (Turn.mk (d.after steps) step).reaction.next := by
  induction steps generalizing d with
  | nil => rfl
  | cons first rest ih => exact ih _

/-- Whatever turn is picked, its dispatcher is what the turns before it have left behind. -/
theorem exists_past_of_history {d : Dispatcher} {steps : List Step} {before later : List Turn}
    {turn : Turn} (h : d.history steps = before ++ turn :: later) :
    ∃ past, d.history past = before ∧ turn.dispatcher = d.after past := by
  induction before generalizing d steps with
  | nil =>
      cases steps with
      | nil => cases h
      | cons step rest =>
          obtain ⟨rfl, _⟩ := List.cons.inj h
          exact ⟨[], rfl, rfl⟩
  | cons first before ih =>
      cases steps with
      | nil => cases h
      | cons step rest =>
          obtain ⟨rfl, hrest⟩ := List.cons.inj h
          obtain ⟨past, hpast, hturn⟩ := ih hrest
          exact ⟨step :: past, by rw [history, hpast], hturn⟩

end Dispatcher

end DeepLink
