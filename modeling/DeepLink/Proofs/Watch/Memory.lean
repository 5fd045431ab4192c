import DeepLink.Proofs.Watch.Interleaving

/-! # What a tracker remembers

A tracker has two memories: the text it read last, and the routes it accepted last. They part when a
text is refused, and so what they hold is a matter of all readings so far. A text is passed on when
it is not the one read last, with the change from the table accepted last. -/

namespace DeepLink

/-! ## Readings of a file -/

namespace FileState

/-- The texts among readings of a file. -/
def texts (reads : List FileState) : List String :=
  reads.filterMap text?

/-- The text that was read last. -/
def lastText? (reads : List FileState) : Option String :=
  (texts reads).getLast?

/-- The configurations in the texts that were accepted. -/
def accepted (reads : List FileState) : List Config :=
  (texts reads).filterMap fun text => (Config.parse text).toOption

/-- The routes that were accepted last, or none. -/
def acceptedRoutes (reads : List FileState) : List Route :=
  ((accepted reads).getLast?.map (·.routes)).getD []

variable {reads : List FileState} {file : FileState} {text : String}

theorem texts_snoc_of_unreadable (h : file.text? = none) :
    texts (reads ++ [file]) = texts reads := by
  simp [texts, h]

theorem texts_snoc (h : file.text? = some text) :
    texts (reads ++ [file]) = texts reads ++ [text] := by
  simp [texts, h]

theorem lastText?_snoc (h : file.text? = some text) : lastText? (reads ++ [file]) = some text := by
  rw [lastText?, texts_snoc h, List.getLast?_concat]

theorem accepted_snoc_of_error {error : ConfigError} (h : file.text? = some text)
    (hparse : Config.parse text = .error error) : accepted (reads ++ [file]) = accepted reads := by
  simp [accepted, texts_snoc h, hparse, Except.toOption]

theorem accepted_snoc_of_ok {config : Config} (h : file.text? = some text)
    (hparse : Config.parse text = .ok config) :
    accepted (reads ++ [file]) = accepted reads ++ [config] := by
  simp [accepted, texts_snoc h, hparse, Except.toOption]

theorem acceptedRoutes_snoc_of_ok {config : Config} (h : file.text? = some text)
    (hparse : Config.parse text = .ok config) :
    acceptedRoutes (reads ++ [file]) = config.routes := by
  rw [acceptedRoutes, accepted_snoc_of_ok h hparse, List.getLast?_concat, Option.map_some,
    Option.getD_some]

/-- A text that was read last and is accepted holds the table accepted last. -/
theorem getLast?_accepted_of_lastText {config : Config} (h : lastText? reads = some text)
    (hparse : Config.parse text = .ok config) : (accepted reads).getLast? = some config := by
  obtain ⟨before, hbefore⟩ := List.getLast?_eq_some_iff.1 h
  simp [accepted, hbefore, hparse, Except.toOption]

/-- A reading in which nothing is new leaves the table accepted last. -/
theorem getLast?_accepted_snoc_of_same
    (h : ∀ text, file.text? = some text → lastText? reads = some text) :
    (accepted (reads ++ [file])).getLast? = (accepted reads).getLast? := by
  cases htext : file.text? with
  | none => rw [accepted, accepted, texts_snoc_of_unreadable htext]
  | some text =>
      cases hparse : Config.parse text with
      | error error => rw [accepted_snoc_of_error htext hparse]
      | ok config =>
          rw [accepted_snoc_of_ok htext hparse, List.getLast?_concat,
            getLast?_accepted_of_lastText (h text htext) hparse]

theorem acceptedRoutes_snoc_of_same
    (h : ∀ text, file.text? = some text → lastText? reads = some text) :
    acceptedRoutes (reads ++ [file]) = acceptedRoutes reads := by
  rw [acceptedRoutes, getLast?_accepted_snoc_of_same h, acceptedRoutes]

end FileState

open FileState

namespace Tracker

/-! ## One reading -/

/-- A reading finds nothing new, or a text that is refused, or one that is accepted. -/
theorem reload_cases (tracker : Tracker) (file : FileState) :
    ((tracker.reload file).next = tracker ∧ (tracker.reload file).passed = none ∧
      ∀ text, file.text? = some text → tracker.content = some text) ∨
    ∃ text, file.text? = some text ∧ tracker.content ≠ some text ∧
      ((∃ error, Config.parse text = .error error ∧
          (tracker.reload file).next = { tracker with content := some text } ∧
          (tracker.reload file).passed = none) ∨
        ∃ config, Config.parse text = .ok config ∧
          (tracker.reload file).next = ⟨some text, config.routes⟩ ∧
          (tracker.reload file).passed =
            some (config, Change.between tracker.routes config.routes)) := by
  cases htext : file.text? with
  | none =>
      rw [reload_of_unreadable htext]
      exact .inl ⟨rfl, rfl, by simp⟩
  | some text =>
      by_cases hsame : tracker.content = some text
      · rw [reload_of_same htext hsame]
        exact .inl ⟨rfl, rfl, fun other hother => hsame.trans hother⟩
      · refine .inr ⟨text, rfl, hsame, ?_⟩
        cases hparse : Config.parse text with
        | error error =>
            rw [reload_of_error htext hsame hparse]
            exact .inl ⟨error, rfl, rfl, rfl⟩
        | ok config =>
            rw [reload_of_ok htext hsame hparse]
            exact .inr ⟨config, rfl, rfl, rfl⟩

/-- A configuration is passed on exactly when it is in a text that is not the one remembered. -/
theorem passed_reload_iff (tracker : Tracker) (file : FileState) (config : Config)
    (change : Change) :
    (tracker.reload file).passed = some (config, change) ↔
      ∃ text, file.text? = some text ∧ tracker.content ≠ some text ∧
        Config.parse text = .ok config ∧
        change = Change.between tracker.routes config.routes := by
  constructor
  · intro h
    rcases tracker.reload_cases file with ⟨_, hnone, _⟩ |
      ⟨text, htext, hnew, ⟨_, _, _, hnone⟩ | ⟨other, hparse, _, hpassed⟩⟩
    · rw [hnone] at h
      cases h
    · rw [hnone] at h
      cases h
    · obtain ⟨rfl, rfl⟩ := Prod.mk.inj (Option.some.inj (hpassed.symm.trans h))
      exact ⟨text, htext, hnew, hparse, rfl⟩
  · rintro ⟨text, htext, hnew, hparse, rfl⟩
    rw [reload_of_ok htext hnew hparse]

/-- Routes are remembered only when they are passed on. -/
theorem routes_reload_of_none {tracker : Tracker} {file : FileState}
    (h : (tracker.reload file).passed = none) :
    (tracker.reload file).next.routes = tracker.routes := by
  rcases tracker.reload_cases file with ⟨hsame, _, _⟩ |
    ⟨_, _, _, ⟨_, _, hnext, _⟩ | ⟨_, _, _, hpassed⟩⟩
  · rw [hsame]
  · rw [hnext]
  · rw [hpassed] at h
    cases h

/-! ## Reading after reading -/

/-- The tracker that readings leave behind. -/
def after (tracker : Tracker) : List FileState → Tracker
  | [] => tracker
  | file :: files => (tracker.reload file).next.after files

/-- What is passed on by readings. -/
def passedOn (tracker : Tracker) : List FileState → List (Config × Change)
  | [] => []
  | file :: files =>
      (tracker.reload file).passed.toList ++ (tracker.reload file).next.passedOn files

/-- How a tracker starts, and what it has read by then. -/
inductive Starts : Tracker → List FileState → Prop
  | unseeded : Starts {} []
  | seeded (file : FileState) : Starts (.seed file) [file]

/-- The tracker remembers the text read last, and the routes accepted last. -/
structure Remembers (tracker : Tracker) (reads : List FileState) : Prop where
  content : tracker.content = lastText? reads
  routes : tracker.routes = acceptedRoutes reads

variable {tracker : Tracker} {reads files : List FileState} {text : String}

/-- Every reading keeps both memories right. -/
theorem Remembers.reload (h : tracker.Remembers reads) (file : FileState) :
    (tracker.reload file).next.Remembers (reads ++ [file]) := by
  cases htext : file.text? with
  | none =>
      rw [reload_of_unreadable htext]
      refine ⟨?_, ?_⟩
      · rw [h.content, lastText?, lastText?, texts_snoc_of_unreadable htext]
      · rw [h.routes, acceptedRoutes_snoc_of_same (by simp [htext])]
  | some text =>
      by_cases hsame : tracker.content = some text
      · rw [reload_of_same htext hsame]
        refine ⟨by rw [lastText?_snoc htext, hsame], ?_⟩
        have hlast : ∀ other, file.text? = some other → lastText? reads = some other :=
          fun other hother => h.content.symm.trans (hsame.trans (htext.symm.trans hother))
        rw [h.routes, acceptedRoutes_snoc_of_same hlast]
      · cases hparse : Config.parse text with
        | error error =>
            rw [reload_of_error htext hsame hparse]
            refine ⟨(lastText?_snoc htext).symm, ?_⟩
            rw [acceptedRoutes, accepted_snoc_of_error htext hparse]
            exact h.routes
        | ok config =>
            rw [reload_of_ok htext hsame hparse]
            exact ⟨(lastText?_snoc htext).symm, (acceptedRoutes_snoc_of_ok htext hparse).symm⟩

/-- Seeding is a first reading, except that nothing is passed on. -/
theorem seed_eq_reload (file : FileState) : seed file = (reload {} file).next := by
  cases htext : file.text? with
  | none => simp only [seed, FileState.load, reload_of_unreadable htext, htext]
  | some text =>
      have hnew : ({} : Tracker).content ≠ some text := by simp
      cases hparse : Config.parse text with
      | error error =>
          simp only [seed, FileState.load, reload_of_error htext hnew hparse, htext, hparse]
      | ok config =>
          simp only [seed, FileState.load, reload_of_ok htext hnew hparse, htext, hparse]

theorem Starts.remembers (h : tracker.Starts reads) : tracker.Remembers reads := by
  have hunseeded : Remembers {} [] := ⟨rfl, rfl⟩
  cases h with
  | unseeded => exact hunseeded
  | seeded file =>
      rw [seed_eq_reload]
      exact hunseeded.reload file

theorem Remembers.after (h : tracker.Remembers reads) (files : List FileState) :
    (tracker.after files).Remembers (reads ++ files) := by
  induction files generalizing tracker reads with
  | nil => simpa [Tracker.after] using h
  | cons file files ih => simpa [Tracker.after] using ih (h.reload file)

/-! ## One text, read over and over -/

/-- No file holds another text than the one given. -/
def Repeats (text : String) (files : List FileState) : Prop :=
  ∀ file ∈ files, ∀ other, file.text? = some other → other = text

theorem passedOn_of_remembered (hfiles : Repeats text files) (h : tracker.content = some text) :
    tracker.passedOn files = [] := by
  induction files with
  | nil => rfl
  | cons file files ih =>
      obtain ⟨hfile, hrest⟩ := List.forall_mem_cons.1 hfiles
      rcases tracker.reload_cases file with ⟨hsame, hnone, _⟩ | ⟨read, hread, hnew, _⟩
      · rw [passedOn, hsame, hnone, ih hrest, Option.toList_none, List.append_nil]
      · exact absurd (hfile read hread ▸ h) hnew

/-- A text that is refused is never passed on. -/
theorem passedOn_of_error {error : ConfigError} (hfiles : Repeats text files)
    (h : Config.parse text = .error error) : tracker.passedOn files = [] := by
  induction files generalizing tracker with
  | nil => rfl
  | cons file files ih =>
      obtain ⟨hfile, hrest⟩ := List.forall_mem_cons.1 hfiles
      have hnone : (tracker.reload file).passed = none := by
        rw [Option.eq_none_iff_forall_ne_some]
        rintro ⟨config, change⟩ hpassed
        obtain ⟨read, hread, _, hparse, _⟩ := (passed_reload_iff _ _ _ _).1 hpassed
        rw [hfile read hread, h] at hparse
        cases hparse
      rw [passedOn, hnone, ih hrest, Option.toList_none, List.append_nil]

/-- A text is passed on once at most. -/
theorem length_passedOn_le (hfiles : Repeats text files) :
    (tracker.passedOn files).length ≤ 1 := by
  induction files generalizing tracker with
  | nil => exact Nat.zero_le 1
  | cons file files ih =>
      obtain ⟨hfile, hrest⟩ := List.forall_mem_cons.1 hfiles
      rcases tracker.reload_cases file with ⟨hsame, hnone, _⟩ |
        ⟨read, hread, _, ⟨_, _, _, hnone⟩ | ⟨config, _, hnext, hpassed⟩⟩
      · rw [passedOn, hsame, hnone]
        exact ih hrest
      · rw [passedOn, hnone]
        exact ih hrest
      · -- From here on the text is remembered.
        have hcontent : (tracker.reload file).next.content = some text := by
          rw [hnext, hfile read hread]
        rw [passedOn, hpassed, passedOn_of_remembered hrest hcontent]
        exact Nat.le_refl 1

/-- After any readings, a tracker remembers the text read last and the routes accepted last. It
passes a configuration on exactly when the file holds a text that is not the one read last and is
accepted, with the change from the routes accepted last; otherwise it keeps these routes. One text,
read over and over, is passed on at most once, and not at all when it is refused or was read
last. -/
theorem tracking_agrees {start : Tracker} {seen : List FileState} (h : start.Starts seen)
    (files : List FileState) :
    (start.after files).Remembers (seen ++ files) ∧
      (∀ file config change, ((start.after files).reload file).passed = some (config, change) ↔
        ∃ text, file.text? = some text ∧ lastText? (seen ++ files) ≠ some text ∧
          Config.parse text = .ok config ∧
          change = Change.between (acceptedRoutes (seen ++ files)) config.routes) ∧
      (∀ file, ((start.after files).reload file).passed = none →
        ((start.after files).reload file).next.routes = (start.after files).routes) ∧
      ∀ text later, Repeats text later →
        ((start.after files).passedOn later).length ≤ 1 ∧
          (lastText? (seen ++ files) = some text ∨ (∃ error, Config.parse text = .error error) →
            (start.after files).passedOn later = []) := by
  have hremembers := h.remembers.after files
  refine ⟨hremembers, fun file config change => ?_, fun file => routes_reload_of_none, ?_⟩
  · rw [← hremembers.content, ← hremembers.routes]
    exact passed_reload_iff _ file config change
  · intro text later hlater
    refine ⟨length_passedOn_le hlater, ?_⟩
    rintro (hlast | ⟨error, hparse⟩)
    · exact passedOn_of_remembered hlater (hremembers.content.trans hlast)
    · exact passedOn_of_error hlater hparse

theorem parse_equals_sign : Config.parse "=" = .error .notToml := by
  have hnode : (Toml.parse? "=").bind Config.ofNode? = none := by cbv
  simp only [Config.parse, hnode]

/-- A file with one route is broken for a while. The route is passed on again when it is back, and
nothing has changed since it was accepted. -/
theorem tracking_agrees_home :
    Starts (.seed (.text World.homeText)) [.text World.homeText] ∧
      (after (.seed (.text World.homeText)) [.text "=", .missing, .text "="]).content = some "=" ∧
      ((after (.seed (.text World.homeText)) [.text "=", .missing, .text "="]).reload
        (.text World.homeText)).passed = some (World.homeTable, ⟨0, 0⟩) := by
  have hstart : Starts (.seed (.text World.homeText)) [.text World.homeText] := .seeded _
  obtain ⟨hremembers, hpassed, _⟩ := tracking_agrees hstart [.text "=", .missing, .text "="]
  have hlast : lastText? ([.text World.homeText] ++ [.text "=", .missing, .text "="]) =
      some "=" := rfl
  have hroutes : acceptedRoutes ([.text World.homeText] ++ [.text "=", .missing, .text "="]) =
      World.homeTable.routes := by
    have htexts : texts ([.text World.homeText] ++ [.text "=", .missing, .text "="]) =
        [World.homeText, "=", "="] := rfl
    rw [acceptedRoutes, accepted, htexts]
    simp [World.parse_homeText, parse_equals_sign, Except.toOption]
  refine ⟨hstart, hremembers.content.trans hlast, (hpassed _ _ _).2 ?_⟩
  refine ⟨World.homeText, rfl, ?_, World.parse_homeText, ?_⟩
  · rw [hlast]
    decide
  · rw [hroutes]
    decide

end Tracker

end DeepLink
