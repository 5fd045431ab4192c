import DeepLink.Proofs.Dictionary
import DeepLink.Proofs.Dispatch.Decision
import DeepLink.Proofs.Query.Parameters
import DeepLink.Proofs.Registry.Reachable

/-! # What a presenter receives

A presenter receives what the link resolved to, or the fallback with the parameters of the query,
and the caller's arguments override the values of the wildcards. Apart from that and from the flags
themselves, only one flag has a say in a dispatch. -/

namespace DeepLink

open DeepLink.Text

namespace Dispatcher

variable {d : Dispatcher} {route : String} {arguments : List (String × String)} {flags : Flags}

/-! ## The choice for a link -/

/-- What a dispatcher has for a link: the route it resolves to, or the fallback when there is none.
The fallback comes without values of wildcards, and with the parameters of the text behind the first
question mark. -/
inductive Offers (d : Dispatcher) (route : String) : Choice → Prop where
  | resolved {found : Resolution String}
      (hresolve : (d.registry.resolve route).result = .ok (some found)) :
      Offers d route ⟨found.kind, found.binding, found.wildcards, found.params, false⟩
  | fallback {fallback : Fallback} {clean : List Char} {query : Option (List Char)}
      {params : Dictionary String}
      (hresolve : (d.registry.resolve route).result = .ok none)
      (hfallback : d.fallback = some fallback) (hcuts : Cuts '?' route.toList clean query)
      (hquery : Query.parse (query.map String.ofList) = .ok params) :
      Offers d route ⟨fallback.kind, fallback.target, .empty, params, true⟩

theorem Offers.choose_eq {choice : Choice} (h : d.Offers route choice) :
    d.choose route = .ok choice := by
  unfold choose
  cases h with
  | resolved hresolve => simp only [hresolve]
  | fallback hresolve hfallback hcuts hquery =>
      simp only [hresolve, hfallback, Query.split_eq_of_cuts hcuts, hquery]

/-- Nothing but the offer of a link is chosen for it. -/
theorem choose_eq_ok_iff {choice : Choice} :
    d.choose route = .ok choice ↔ d.Offers route choice := by
  refine ⟨fun h => ?_, Offers.choose_eq⟩
  rcases choose_eq_ok h with ⟨found, hresolve⟩ | ⟨hresolve, ⟨fallback, hfallback⟩, params, hquery⟩
  · have hoffers := Offers.resolved hresolve
    rw [hoffers.choose_eq] at h
    exact Except.ok.inj h ▸ hoffers
  · have hcuts := cuts_cutAt '?' route.toList
    rw [Query.split_eq_of_cuts hcuts] at hquery
    have hoffers := Offers.fallback hresolve hfallback hcuts hquery
    rw [hoffers.choose_eq] at h
    exact Except.ok.inj h ▸ hoffers

/-- A link has one offer at most. -/
theorem Offers.unique {choice other : Choice} (h : d.Offers route choice)
    (h' : d.Offers route other) : choice = other :=
  Except.ok.inj (h.choose_eq.symm.trans h'.choose_eq)

end Dispatcher

/-! ## What is handed over -/

/-- The presentation of a choice: it carries the link and the flags as they were given, and a value
from the caller stands in front of the value of a wildcard. -/
structure Presentation.Carries (p : Presentation String) (choice : Dispatcher.Choice)
    (route : String) (arguments : List (String × String)) (flags : Flags) : Prop where
  route : p.route = route
  flags : p.flags = flags
  kind : p.kind = choice.kind
  binding : p.binding = choice.target
  params : p.params = choice.params
  arguments (key : String) : p.arguments.get? key =
    (((Dictionary.ofList arguments).get? key).map WildcardValue.text).or
      (choice.wildcards.get? key)

/-- Presentations of one choice differ in their arguments and flags only. -/
theorem Presentation.Carries.eq {p p' : Presentation String} {choice : Dispatcher.Choice}
    {route : String} {arguments arguments' : List (String × String)} {flags flags' : Flags}
    (h : p.Carries choice route arguments flags) (h' : p'.Carries choice route arguments' flags') :
    p' = { p with arguments := p'.arguments, flags := p'.flags } := by
  obtain ⟨route₁, kind₁, binding₁, values₁, params₁, flags₁⟩ := p
  obtain ⟨route₂, kind₂, binding₂, values₂, params₂, flags₂⟩ := p'
  obtain ⟨rfl, rfl, rfl, rfl, rfl, _⟩ := h
  obtain ⟨rfl, rfl, rfl, rfl, rfl, _⟩ := h'
  rfl

/-- What the caller's arguments add to the values of the wildcards. -/
theorem Dictionary.get?_insertAll_text (values : Dictionary WildcardValue)
    (arguments : List (String × String)) (key : String) :
    (values.insertAll (arguments.map fun (name, text) => (name, .text text))).get? key =
      (((ofList arguments).get? key).map WildcardValue.text).or (values.get? key) := by
  rw [get?_insertAll, ← List.map_reverse, lookup_map_snd, ofList, get?_insertAll, get?_empty,
    Option.or_none]

namespace Dispatcher

variable {d : Dispatcher} {route : String} {arguments : List (String × String)} {flags : Flags}

/-- What is presented is the offer of the link. -/
theorem presented_spec {p : Presentation String}
    (h : (d.dispatch route arguments flags).presented = some p) :
    d.presenter.isSome ∧ ¬ d.Repeats route flags ∧
      ∃ choice, d.Offers route choice ∧ p.Carries choice route arguments flags := by
  rw [presented_dispatch] at h
  obtain ⟨choice, presenter, hchoice, hnew, hpresenter, rfl⟩ := exists_of_presented h
  refine ⟨by rw [hpresenter]; rfl, hnew, choice, choose_eq_ok_iff.1 hchoice, ?_⟩
  exact ⟨rfl, rfl, rfl, rfl, rfl, Dictionary.get?_insertAll_text choice.wildcards arguments⟩

/-- A link is presented when there is something to present, someone to present it, and no reason to
pass it over. -/
theorem exists_presented {choice : Choice} (hoffers : d.Offers route choice)
    (hpresenter : d.presenter.isSome) (hnew : ¬ d.Repeats route flags) :
    ∃ p, (d.dispatch route arguments flags).presented = some p ∧
      p.Carries choice route arguments flags := by
  obtain ⟨presenter, hpresenter⟩ := Option.isSome_iff_exists.1 hpresenter
  have hcond : ¬ (d.current = some route ∧ !flags.contains .overrideSameRoute) := by
    simpa [Repeats] using hnew
  have hpresented : (d.dispatch route arguments flags).presented.isSome := by
    rw [presented_dispatch]
    unfold verdict
    rw [hoffers.choose_eq]
    dsimp only
    rw [if_neg hcond, hpresenter]
    rfl
  obtain ⟨p, hp⟩ := Option.isSome_iff_exists.1 hpresented
  -- What was presented is some offer of the link, and there is only one.
  obtain ⟨_, _, other, hother, hcarries⟩ := presented_spec hp
  obtain rfl := hother.unique hoffers
  exact ⟨p, hp, hcarries⟩

end Dispatcher

/-! ## Two dispatches of one link -/

/-- The verdicts end a dispatch in the same way, up to the arguments and flags of what is
presented. -/
inductive Verdict.Alike : Verdict → Verdict → Prop where
  | same (verdict : Verdict) : Alike verdict verdict
  | presented (presenter : Presenter) (p : Presentation String)
      (arguments : Dictionary WildcardValue) (flags : Flags) (fallback : Bool) :
      Alike (.presented presenter p fallback)
        (.presented presenter { p with arguments := arguments, flags := flags } fallback)

/-- No presenter raises a counter, so that of the presentation only one counter is raised. -/
theorem Verdict.counts_presented (presenter : Presenter) (p : Presentation String)
    (fallback : Bool) :
    counts (Verdict.presented presenter p fallback).signals =
      [.dispatch (if fallback then .fallback else .presented)] := by
  cases presenter <;> rfl

namespace Verdict.Alike

variable {verdict verdict' : Verdict}

theorem result_eq (h : verdict.Alike verdict') (route : String) :
    verdict'.result route = verdict.result route := by
  cases h with
  | same => rfl
  | presented presenter p arguments flags fallback => cases fallback <;> rfl

theorem isSome_presentation_eq (h : verdict.Alike verdict') :
    verdict'.presentation?.isSome = verdict.presentation?.isSome := by
  cases h <;> rfl

theorem counts_eq (h : verdict.Alike verdict') :
    counts verdict'.signals = counts verdict.signals := by
  cases h with
  | same => rfl
  | presented presenter p arguments flags fallback =>
      rw [counts_presented, counts_presented]

end Verdict.Alike

namespace Dispatcher

/-- Arguments have no say in how a dispatch ends, and of the flags only one has. -/
theorem alike_verdict (d : Dispatcher) (route : String)
    (arguments arguments' : List (String × String)) {flags flags' : Flags}
    (h : flags'.contains .overrideSameRoute = flags.contains .overrideSameRoute) :
    (d.verdict route arguments flags).Alike (d.verdict route arguments' flags') := by
  unfold verdict
  rw [h]
  -- The choice and the repetition are settled before the arguments come in.
  cases d.choose route with
  | error verdict => exact .same verdict
  | ok choice =>
      dsimp only
      split
      · exact .same _
      · cases d.presenter with
        | none => exact .same _
        | some presenter => exact .presented ..

/-- A presenter receives the link and the flags as they were given, and what the link resolved to
or the fallback with the parameters of the query; the caller's arguments override the values of the
wildcards. This happens whenever there is something to present, someone to present it, and no reason
to pass the link over. Other arguments, and other flags than the one that overrides, change nothing
but the arguments and flags that the presenter receives. -/
theorem presented_agrees (d : Dispatcher) (route : String) (arguments : List (String × String))
    (flags : Flags) :
    (∀ {p}, (d.dispatch route arguments flags).presented = some p →
      d.presenter.isSome ∧ ¬ d.Repeats route flags ∧
      ∃ choice, d.Offers route choice ∧ p.Carries choice route arguments flags) ∧
    (∀ {choice}, d.Offers route choice → d.presenter.isSome → ¬ d.Repeats route flags →
      ∃ p, (d.dispatch route arguments flags).presented = some p ∧
        p.Carries choice route arguments flags) ∧
    ∀ {arguments' flags'},
      flags'.contains .overrideSameRoute = flags.contains .overrideSameRoute →
      (d.dispatch route arguments' flags').result = (d.dispatch route arguments flags).result ∧
      (d.dispatch route arguments' flags').next = (d.dispatch route arguments flags).next ∧
      counts (d.dispatch route arguments' flags').signals =
        counts (d.dispatch route arguments flags).signals ∧
      (d.dispatch route arguments' flags').presented.isSome =
        (d.dispatch route arguments flags).presented.isSome ∧
      ∀ {p p'}, (d.dispatch route arguments flags).presented = some p →
        (d.dispatch route arguments' flags').presented = some p' →
          p' = { p with arguments := p'.arguments, flags := flags' } ∧
          ∃ choice, d.Offers route choice ∧ p.Carries choice route arguments flags ∧
            p'.Carries choice route arguments' flags' := by
  refine ⟨presented_spec, exists_presented, fun {arguments' flags'} h => ?_⟩
  have halike := d.alike_verdict route arguments arguments' h
  refine ⟨?_, ?_, ?_, ?_, fun hp hp' => ?_⟩
  · rw [result_dispatch, result_dispatch, halike.result_eq]
  · rw [next_dispatch, next_dispatch, halike.isSome_presentation_eq]
  · rw [signals_dispatch, signals_dispatch, counts_append, counts_append, halike.counts_eq]
  · rw [presented_dispatch, presented_dispatch, halike.isSome_presentation_eq]
  · obtain ⟨_, _, choice, hoffers, hcarries⟩ := presented_spec hp
    obtain ⟨_, _, choice', hoffers', hcarries'⟩ := presented_spec hp'
    obtain rfl := hoffers.unique hoffers'
    have heq := hcarries.eq hcarries'
    rw [hcarries'.flags] at heq
    exact ⟨heq, choice, hoffers, hcarries, hcarries'⟩

/-- A dispatcher with one route and a fallback, which has presented another link. -/
def itemDispatcher : Dispatcher where
  registry := ⟨[⟨Registry.itemTemplate, .composite, Registry.itemPattern, "Item"⟩]⟩
  presenter := some .logger
  fallback := some ⟨.direct, "Missing"⟩
  current := some "app://h/y"

/-- The caller's value stands in front of the wildcard of the same name. The fallback comes without
the wildcards and keeps the parameters. Another flag, and no arguments, lead to the same state. -/
theorem presented_agrees_item :
    (∃ p, (itemDispatcher.dispatch "app://h/items/42/a.b?k=v" [("id", "7")] .empty).presented =
        some p ∧ p.kind = .composite ∧ p.params.get? "k" = some "v" ∧
        p.arguments.get? "id" = some (.text "7") ∧ p.arguments.get? "file" = some (.text "a.b")) ∧
      (∃ p, (itemDispatcher.dispatch "app://h/x?k=v" [("id", "7")] .empty).presented = some p ∧
        p.binding = "Missing" ∧ p.params.get? "k" = some "v" ∧
        p.arguments.get? "id" = some (.text "7") ∧ p.arguments.get? "file" = none) ∧
      (itemDispatcher.dispatch "app://h/x?k=v" [] (.ofList [.addToHistory])).next =
        { itemDispatcher with current := some "app://h/x?k=v" } := by
  have hnew : ∀ route, route ≠ "app://h/y" → ¬ itemDispatcher.Repeats route .empty :=
    fun route hroute hrepeats => hroute (Option.some.inj hrepeats.1).symm
  have hitem : itemDispatcher.Offers "app://h/items/42/a.b?k=v"
      ⟨.composite, "Item", ⟨[("id", .integer 42), ("file", .text "a.b")]⟩, ⟨[("k", "v")]⟩, false⟩ :=
    choose_eq_ok_iff.1 rfl
  have hmissing : itemDispatcher.Offers "app://h/x?k=v"
      ⟨.direct, "Missing", .empty, ⟨[("k", "v")]⟩, true⟩ := choose_eq_ok_iff.1 rfl
  obtain ⟨_, hpresents, _⟩ :=
    presented_agrees itemDispatcher "app://h/items/42/a.b?k=v" [("id", "7")] .empty
  obtain ⟨_, hfalls, hagrees⟩ :=
    presented_agrees itemDispatcher "app://h/x?k=v" [("id", "7")] .empty
  obtain ⟨p, hp, hcarries⟩ := hpresents hitem rfl (hnew _ (by decide))
  obtain ⟨p', hp', hcarries'⟩ := hfalls hmissing rfl (hnew _ (by decide))
  refine ⟨⟨p, hp, hcarries.kind, ?_, ?_, ?_⟩, ⟨p', hp', hcarries'.binding, ?_, ?_, ?_⟩, ?_⟩
  · rw [hcarries.params]
    rfl
  · exact hcarries.arguments "id"
  · exact hcarries.arguments "file"
  · rw [hcarries'.params]
    rfl
  · exact hcarries'.arguments "id"
  · exact hcarries'.arguments "file"
  · obtain ⟨_, hnext, _⟩ := @hagrees [] (.ofList [.addToHistory]) rfl
    exact hnext

end Dispatcher

end DeepLink
