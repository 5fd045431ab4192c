import DeepLink.Proofs.Results
import DeepLink.Proofs.Watch.Memory

/-! # Tables that are passed on

A tracker compares texts, and passes tables on. What it passes on therefore differs from the table
in force, with two exceptions: the table in force is written differently now, or it is back after
texts that were refused. -/

namespace DeepLink

/-- Nothing is new or gone in the same table. -/
theorem Change.between_self (routes : List Route) : Change.between routes routes = ⟨0, 0⟩ := by
  have hnone : routes.filter (!routes.contains ·) = [] := by simp
  rw [Change.between, hnone, List.length_nil]

/-! ## The text of the table accepted last -/

namespace FileState

variable {reads : List FileState} {file : FileState} {text : String}

/-- The table is in a text behind which all others were refused. -/
structure Originates (reads : List FileState) (config : Config) (origin : String)
    (refused : List String) : Prop where
  texts_eq : ∃ before, texts reads = before ++ origin :: refused
  parse_eq : Config.parse origin = .ok config
  refused : ∀ other ∈ refused, ∃ error, Config.parse other = .error error

/-- The table accepted last is in the last text that was not refused. -/
theorem getLast?_accepted_iff (reads : List FileState) (config : Config) :
    (accepted reads).getLast? = some config ↔
      ∃ origin refused, Originates reads config origin refused := by
  rw [accepted, List.getLast?_filterMap, List.findSome?_eq_some_iff]
  constructor
  · rintro ⟨later, origin, earlier, htexts, hparse, hrefused⟩
    refine ⟨origin, later.reverse, ⟨earlier.reverse, ?_⟩, (toOption_eq_some_iff _ _).1 hparse, ?_⟩
    · have hreversed := congrArg List.reverse htexts
      simpa using hreversed
    · intro other hother
      exact (toOption_eq_none_iff _).1 (hrefused other (List.mem_reverse.1 hother))
  · rintro ⟨origin, refused, ⟨earlier, htexts⟩, hparse, hrefused⟩
    refine ⟨refused.reverse, origin, earlier.reverse, ?_, (toOption_eq_some_iff _ _).2 hparse, ?_⟩
    · simp [htexts]
    · intro other hother
      exact (toOption_eq_none_iff _).2 (hrefused other (List.mem_reverse.1 hother))

/-- A text that was not read last is not the one the table is in, or others were refused since. -/
theorem Originates.ne_or_ne_nil {config : Config} {origin : String} {refused : List String}
    (h : Originates reads config origin refused) (hnew : lastText? reads ≠ some text) :
    origin ≠ text ∨ refused ≠ [] := by
  by_contra hcontra
  obtain ⟨rfl, rfl⟩ := not_or.1 hcontra |>.imp not_not.1 not_not.1
  obtain ⟨before, htexts⟩ := h.texts_eq
  exact hnew (by rw [lastText?, htexts, List.getLast?_concat])

/-- The text holds the table in force again: written differently, or behind texts that were
refused. -/
def IsRepeated (reads : List FileState) (text : String) (config : Config) : Prop :=
  ∃ origin refused, Originates reads config origin refused ∧ (origin ≠ text ∨ refused ≠ [])

end FileState

open FileState

namespace Tracker

variable {seed file : FileState} {files : List FileState} {config : Config} {change : Change}

/-! ## The table in force -/

/-- The table passed on last, or the one in the file at the start if none has been passed on. -/
def inForce? (seed : FileState) (files : List FileState) : Option Config :=
  match ((Tracker.seed seed).passedOn files).getLast? with
  | some (config, _) => some config
  | none => seed.load.toOption

theorem passedOn_snoc (tracker : Tracker) (files : List FileState) (file : FileState) :
    tracker.passedOn (files ++ [file]) =
      tracker.passedOn files ++ ((tracker.after files).reload file).passed.toList := by
  induction files generalizing tracker with
  | nil => simp [passedOn, after]
  | cons first files ih => simp [passedOn, after, ih]

theorem inForce?_snoc_of_none (h : ((after (.seed seed) files).reload file).passed = none) :
    inForce? seed (files ++ [file]) = inForce? seed files := by
  rw [inForce?, passedOn_snoc, h, Option.toList_none, List.append_nil, inForce?]

theorem inForce?_snoc_of_some
    (h : ((after (.seed seed) files).reload file).passed = some (config, change)) :
    inForce? seed (files ++ [file]) = some config := by
  rw [inForce?, passedOn_snoc, h, Option.toList_some, List.getLast?_concat]

/-- Before anything is passed on, the table in force is the one in the file at the start. -/
theorem inForce?_nil (seed : FileState) : inForce? seed [] = (accepted [seed]).getLast? := by
  cases htext : seed.text? with
  | none => simp [inForce?, passedOn, accepted, texts, FileState.load, htext, Except.toOption]
  | some text =>
      cases hparse : Config.parse text <;>
        simp [inForce?, passedOn, accepted, texts, FileState.load, htext, hparse, Except.toOption]

/-- The table in force is the one accepted last. -/
theorem inForce?_eq (seed : FileState) (files : List FileState) :
    inForce? seed files = (accepted ([seed] ++ files)).getLast? := by
  induction files using List.reverseRecOn with
  | nil => exact inForce?_nil seed
  | append_singleton files file ih =>
      have hremembers := (Starts.seeded seed).remembers.after files
      rw [← List.append_assoc]
      rcases (after (.seed seed) files).reload_cases file with ⟨_, hnone, hsame⟩ |
        ⟨text, htext, _, ⟨error, hparse, _, hnone⟩ | ⟨config, hparse, _, hpassed⟩⟩
      · rw [hremembers.content] at hsame
        rw [inForce?_snoc_of_none hnone, ih, getLast?_accepted_snoc_of_same hsame]
      · rw [inForce?_snoc_of_none hnone, ih, accepted_snoc_of_error htext hparse]
      · rw [inForce?_snoc_of_some hpassed, accepted_snoc_of_ok htext hparse, List.getLast?_concat]

/-! ## What is passed on -/

/-- A tracker that was seeded passes on a table that differs from the one in force, unless the file
holds the table in force again, written differently or behind texts that were refused. That one is
passed on too, and no route is new or gone in it. -/
theorem passed_differs
    (h : ((after (.seed seed) files).reload file).passed = some (config, change)) :
    ∃ text, file.text? = some text ∧ Config.parse text = .ok config ∧
      (¬ IsRepeated ([seed] ++ files) text config → inForce? seed files ≠ some config) ∧
      (IsRepeated ([seed] ++ files) text config →
        inForce? seed files = some config ∧ change = ⟨0, 0⟩) := by
  have hremembers := (Starts.seeded seed).remembers.after files
  obtain ⟨text, htext, hnew, hparse, rfl⟩ := (passed_reload_iff _ _ _ _).1 h
  rw [hremembers.content] at hnew
  refine ⟨text, htext, hparse, fun hfirst hinForce => hfirst ?_, ?_⟩
  · rw [inForce?_eq, getLast?_accepted_iff] at hinForce
    obtain ⟨origin, refused, horiginates⟩ := hinForce
    exact ⟨origin, refused, horiginates, horiginates.ne_or_ne_nil hnew⟩
  · rintro ⟨origin, refused, horiginates, _⟩
    have haccepted := (getLast?_accepted_iff _ _).2 ⟨origin, refused, horiginates⟩
    refine ⟨(inForce?_eq seed files).trans haccepted, ?_⟩
    rw [hremembers.routes, acceptedRoutes, haccepted]
    exact Change.between_self config.routes

/-- A file with one route is broken for a while, and empty then. -/
theorem passed_differs_empty :
    ((after (.seed (.text World.homeText)) [.text "="]).reload (.text "")).passed =
        some ({}, ⟨0, 1⟩) ∧
      ¬ IsRepeated ([.text World.homeText] ++ [.text "="]) "" {} ∧
      inForce? (.text World.homeText) [.text "="] ≠ some {} := by
  have hremembers := (Starts.seeded (.text World.homeText)).remembers.after [.text "="]
  have haccepted : accepted ([.text World.homeText] ++ [.text "="]) = [World.homeTable] := by
    have htexts : texts ([.text World.homeText] ++ [.text "="]) = [World.homeText, "="] := rfl
    rw [accepted, htexts]
    simp [World.parse_homeText, parse_equals_sign, Except.toOption]
  have hpassed : ((after (.seed (.text World.homeText)) [.text "="]).reload (.text "")).passed =
      some ({}, ⟨0, 1⟩) := by
    refine (passed_reload_iff _ _ _ _).2 ⟨"", rfl, ?_, World.parse_empty, ?_⟩
    · rw [hremembers.content]
      decide
    · rw [hremembers.routes, acceptedRoutes, haccepted]
      decide
  have hfirst : ¬ IsRepeated ([.text World.homeText] ++ [.text "="]) "" {} := by
    rintro ⟨origin, refused, horiginates, _⟩
    have hlast := (getLast?_accepted_iff _ _).2 ⟨origin, refused, horiginates⟩
    rw [haccepted] at hlast
    exact absurd hlast (by decide)
  obtain ⟨text, htext, _, hdiffers, _⟩ := passed_differs hpassed
  obtain rfl : "" = text := Option.some.inj htext
  exact ⟨hpassed, hfirst, hdiffers hfirst⟩

/-- The text with one route, and an empty line at its end. -/
def spacedText : String :=
  World.homeText ++ "\n"

theorem parse_spacedText : Config.parse spacedText = .ok World.homeTable := by
  have hnode : (Toml.parse? spacedText).bind Config.ofNode? = some World.homeTable := by cbv
  have hvalid : World.homeTable.validate = .ok World.homeTable := rfl
  simp only [Config.parse, hnode, hvalid]

/-- An empty line is added to the file. The table in it, which is the one in force, is passed on. -/
theorem passed_again_spaced :
    ((after (.seed (.text World.homeText)) []).reload (.text spacedText)).passed =
        some (World.homeTable, ⟨0, 0⟩) ∧
      inForce? (.text World.homeText) [] = some World.homeTable := by
  have hload : (FileState.text World.homeText).load = .ok World.homeTable := World.parse_homeText
  have hseed : Tracker.seed (.text World.homeText) =
      ⟨some World.homeText, World.homeTable.routes⟩ := by
    rw [Tracker.seed, hload]
    rfl
  refine ⟨(passed_reload_iff _ _ _ _).2 ⟨spacedText, rfl, ?_, parse_spacedText, ?_⟩, ?_⟩
  · rw [after, hseed]
    decide
  · rw [after, hseed]
    decide
  · rw [inForce?, passedOn, hload]
    rfl

end Tracker

end DeepLink
