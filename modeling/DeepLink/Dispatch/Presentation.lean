import DeepLink.Dictionary
import DeepLink.Dispatch.Flag
import DeepLink.Signal
import DeepLink.WildcardValue

/-! # Presentations

What a presenter is handed for one dispatch, and what the two kinds of presenter do with it. -/

namespace DeepLink

open DeepLink.Text

/-- Everything a presenter receives. -/
structure Presentation (β : Type) where
  /-- The link as it was given. -/
  route : String
  kind : Kind
  binding : β
  /-- The values of the wildcards, overridden by the caller's arguments. -/
  arguments : Dictionary WildcardValue
  params : Dictionary String
  flags : Flags

/-- Who presents: one presenter keeps what it receives, the other reports it to the log. -/
inductive Presenter where
  | collector
  | logger
  deriving DecidableEq, Repr

namespace Presentation

/-- The arguments as a log shows them: sorted, each quoted, between brackets. -/
def argumentsText {β : Type} (p : Presentation β) : String :=
  let items := p.arguments.pairs.map fun (name, value) => name ++ "=" ++ value.render
  let sorted := items.mergeSort fun a b => !decide (b < a)
  "[" ++ ", ".intercalate (sorted.map quoted) ++ "]"

/-- The event that the log receives. An action is run; anything else is shown. -/
def event (p : Presentation String) : Event :=
  match p.kind with
  | .action =>
      .actionRun [("route", p.route), ("action", p.binding), ("arguments", p.argumentsText)]
  | kind =>
      .targetPresented [("route", p.route), ("kind", kind.label), ("target", p.binding),
        ("arguments", p.argumentsText), ("flags", p.flags.render)]

end Presentation

/-- The signals that a presenter gives off. -/
def Presenter.signals (presenter : Presenter) (p : Presentation String) : List Signal :=
  match presenter with
  | .collector => []
  | .logger => [.event p.event]

end DeepLink
