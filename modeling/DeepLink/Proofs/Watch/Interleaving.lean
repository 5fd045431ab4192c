import DeepLink.Proofs.Config.Acceptance
import DeepLink.Proofs.Dispatch.Decision
import DeepLink.Watch
import Mathlib

/-! # Watching a file that others write

The file of a table is read once to start with, once more to seed the tracker, and again at every
poll, and another program may write it between any two of these. After a poll the table in use is
the one in the file, with one exception: as long as the tracker has read nothing but one text, the
table is still the one that was read to start with. -/

namespace DeepLink

/-! ## Interleavings -/

/-- How far the watching program has come. -/
inductive Phase where
  | idle
  /-- The file was read to start with. -/
  | loaded (first : FileState) (config : Config)
  /-- The tracker was seeded; `reads` is all that it has read, the seed in front. -/
  | watching (first : FileState) (config : Config) (reads : List FileState) (watch : Watch)

/-- The file, and the program that watches it. -/
structure World where
  file : FileState
  phase : Phase

namespace World

/-- What the file and the program can come to, whenever the file is written in between. -/
inductive Reachable : World → Prop
  | start {file} : Reachable ⟨file, .idle⟩
  | write {file phase} (other : FileState) : Reachable ⟨file, phase⟩ → Reachable ⟨other, phase⟩
  | load {file config} : Reachable ⟨file, .idle⟩ → file.load = .ok config →
      Reachable ⟨file, .loaded file config⟩
  | seed {file first config watch} : Reachable ⟨file, .loaded first config⟩ →
      (Watch.start config file).result = .ok watch →
      Reachable ⟨file, .watching first config [file] watch⟩
  | present {file first config reads watch} (presenter : Presenter) :
      Reachable ⟨file, .watching first config reads watch⟩ →
      Reachable ⟨file, .watching first config reads
        { watch with dispatcher := { watch.dispatcher with presenter := some presenter } }⟩
  | dispatch {file first config reads watch} (route : String)
      (arguments : List (String × String)) (flags : Flags) :
      Reachable ⟨file, .watching first config reads watch⟩ →
      Reachable ⟨file, .watching first config reads
        { watch with dispatcher := (watch.dispatcher.dispatch route arguments flags).next }⟩
  | poll {file first config reads watch} :
      Reachable ⟨file, .watching first config reads watch⟩ →
      Reachable ⟨file, .watching first config (reads ++ [file]) (watch.poll file).result⟩

end World

/-! ## One poll -/

/-- The tracker was seeded with the text, and has read no other text since. -/
def SeedOnly (reads : List FileState) (text : String) : Prop :=
  ∃ seed later, reads = seed :: later ∧ seed.text? = some text ∧
    ∀ file ∈ later, ∀ other, file.text? = some other → other = text

theorem seedOnly_singleton_iff (file : FileState) (text : String) :
    SeedOnly [file] text ↔ file.text? = some text := by
  constructor
  · rintro ⟨seed, later, hreads, hseed, _⟩
    obtain ⟨rfl, rfl⟩ := List.cons.inj hreads
    exact hseed
  · intro h
    exact ⟨file, [], rfl, h, by simp⟩

theorem seedOnly_snoc_iff {reads : List FileState} (hreads : reads ≠ []) (file : FileState)
    (text : String) :
    SeedOnly (reads ++ [file]) text ↔
      SeedOnly reads text ∧ ∀ other, file.text? = some other → other = text := by
  obtain ⟨seed, later, rfl⟩ := List.exists_cons_of_ne_nil hreads
  constructor
  · rintro ⟨first, others, hsplit, hfirst, hothers⟩
    obtain ⟨rfl, rfl⟩ := List.cons.inj hsplit
    refine ⟨⟨seed, later, rfl, hfirst, fun other hother => ?_⟩, ?_⟩
    · exact hothers other (by simp [hother])
    · exact hothers file (by simp)
  · rintro ⟨⟨first, others, hsplit, hfirst, hothers⟩, hfile⟩
    obtain ⟨rfl, rfl⟩ := List.cons.inj hsplit
    refine ⟨seed, later ++ [file], by simp, hfirst, ?_⟩
    intro other hother
    rcases List.mem_append.1 hother with hother | hother
    · exact hothers other hother
    · rw [List.mem_singleton.1 hother]
      exact hfile

namespace Tracker

variable {tracker : Tracker} {file : FileState} {text : String}

theorem reload_of_unreadable (h : file.text? = none) :
    tracker.reload file = ⟨tracker, none, [.event .tableUnreadable]⟩ := by
  simp only [reload, h]

theorem reload_of_same (htext : file.text? = some text) (h : tracker.content = some text) :
    tracker.reload file = ⟨tracker, none, [.event .tableUnchanged]⟩ := by
  simp only [reload, htext, h, if_true]

theorem reload_of_error {error : ConfigError} (htext : file.text? = some text)
    (h : tracker.content ≠ some text) (hparse : Config.parse text = .error error) :
    tracker.reload file =
      ⟨{ tracker with content := some text }, none, [.event .tableRejected]⟩ := by
  simp only [reload, htext, h, if_false, hparse]

theorem reload_of_ok {config : Config} (htext : file.text? = some text)
    (h : tracker.content ≠ some text) (hparse : Config.parse text = .ok config) :
    tracker.reload file =
      ⟨{ content := some text, routes := config.routes },
        some (config, Change.between tracker.routes config.routes), [.event .tableReloaded]⟩ := by
  simp only [reload, htext, h, if_false, hparse]

end Tracker

namespace Watch

/-- A poll reads nothing new, or a text that is refused, or one whose table is taken over. -/
theorem poll_cases (watch : Watch) (file : FileState) :
    ((watch.poll file).result = watch ∧
      ∀ text, file.text? = some text → watch.tracker.content = some text) ∨
    ∃ text, file.text? = some text ∧ watch.tracker.content ≠ some text ∧
      (watch.poll file).result.tracker.content = some text ∧
      ((∃ error, Config.parse text = .error error) ∨
        ∃ config, Config.parse text = .ok config ∧
          (watch.poll file).result.dispatcher = (watch.dispatcher.apply config).1) := by
  cases htext : file.text? with
  | none =>
      refine .inl ⟨?_, by simp⟩
      simp only [poll, Tracker.reload_of_unreadable htext]
  | some text =>
      by_cases hsame : watch.tracker.content = some text
      · refine .inl ⟨?_, fun other hother => hsame.trans hother⟩
        simp only [poll, Tracker.reload_of_same htext hsame]
      · cases hparse : Config.parse text with
        | error error =>
            refine .inr ⟨text, rfl, hsame, ?_, .inl ⟨error, hparse⟩⟩
            simp only [poll, Tracker.reload_of_error htext hsame hparse]
        | ok config =>
            refine .inr ⟨text, rfl, hsame, ?_, .inr ⟨config, hparse, ?_⟩⟩
            · simp only [poll, Tracker.reload_of_ok htext hsame hparse]
            · simp only [poll, Tracker.reload_of_ok htext hsame hparse, Dispatcher.applyEach]

end Watch

/-! ## What every interleaving keeps -/

theorem Dispatcher.Holds.next_dispatch {d : Dispatcher} {config : Config} (h : d.Holds config)
    (route : String) (arguments : List (String × String)) (flags : Flags) :
    (d.dispatch route arguments flags).next.Holds config := by
  rw [d.next_dispatch route arguments flags]
  split
  · exact h
  · exact h

/-- The table in use is that of the text that the tracker remembers. As long as it was only seeded
with that text, it is the one that was read to start with. -/
structure Watch.Synced (watch : Watch) (config : Config) (reads : List FileState) : Prop where
  started : reads ≠ []
  seedOnly : ∀ text, SeedOnly reads text →
    watch.tracker.content = some text ∧ watch.dispatcher.Holds config
  moved : ∀ text accepted, ¬ SeedOnly reads text → watch.tracker.content = some text →
    Config.parse text = .ok accepted → watch.dispatcher.Holds accepted

namespace Watch

variable {watch : Watch} {config : Config} {reads : List FileState}

theorem synced_start {file : FileState} (h : (start config file).result = .ok watch) :
    watch.Synced config [file] := by
  cases hbuild : (Dispatcher.build config).result with
  | error error =>
      simp only [start, hbuild] at h
      cases h
  | ok fresh =>
      simp only [start, hbuild] at h
      obtain rfl := Except.ok.inj h
      refine ⟨by simp, fun text htext => ?_, fun text accepted hnot htext _ => ?_⟩
      · exact ⟨(seedOnly_singleton_iff file text).1 htext, fresh, hbuild, rfl, rfl⟩
      · exact absurd ((seedOnly_singleton_iff file text).2 htext) hnot

/-- Links that come in between two polls leave the table alone. -/
theorem Synced.congr {d : Dispatcher} (h : watch.Synced config reads)
    (hd : ∀ other, watch.dispatcher.Holds other → d.Holds other) :
    ({ watch with dispatcher := d } : Watch).Synced config reads where
  started := h.started
  seedOnly text htext := ⟨(h.seedOnly text htext).1, hd _ (h.seedOnly text htext).2⟩
  moved text accepted hnot htext hparse := hd _ (h.moved text accepted hnot htext hparse)

theorem Synced.poll (h : watch.Synced config reads) (file : FileState) :
    (watch.poll file).result.Synced config (reads ++ [file]) := by
  have hstarted : reads ++ [file] ≠ [] := by simp
  rcases watch.poll_cases file with ⟨hsame, hcontent⟩ | ⟨read, hread, hnew, hnext, houtcome⟩
  · rw [hsame]
    refine ⟨hstarted, fun text htext => ?_, fun text accepted hnot htext hparse => ?_⟩
    · exact h.seedOnly text ((seedOnly_snoc_iff h.started file text).1 htext).1
    · -- The file still holds the text remembered, so that the reading does not end the seeding.
      refine h.moved text accepted (fun hseed => hnot ?_) htext hparse
      refine (seedOnly_snoc_iff h.started file text).2 ⟨hseed, fun other hother => ?_⟩
      exact Option.some.inj ((hcontent other hother).symm.trans htext)
  · -- A new text ends the seeding, since the tracker still remembers the seed until then.
    have hended : ∀ text, ¬ SeedOnly (reads ++ [file]) text := by
      intro text htext
      obtain ⟨hseed, hfile⟩ := (seedOnly_snoc_iff h.started file text).1 htext
      exact hnew (hfile read hread ▸ (h.seedOnly text hseed).1)
    refine ⟨hstarted, fun text htext => absurd htext (hended text),
      fun text accepted _ htext hparse => ?_⟩
    obtain rfl := Option.some.inj (hnext.symm.trans htext)
    rcases houtcome with ⟨error, herror⟩ | ⟨other, hother, hdispatcher⟩
    · rw [herror] at hparse
      cases hparse
    · obtain rfl := Except.ok.inj (hother.symm.trans hparse)
      rw [hdispatcher]
      exact (Dispatcher.replaced_apply (Config.Accepted.parsed hparse).builds _).holds

/-- A poll leaves the tracker with the text of a file that can be read. -/
theorem content_poll (watch : Watch) {file : FileState} {text : String}
    (h : file.text? = some text) : (watch.poll file).result.tracker.content = some text := by
  rcases watch.poll_cases file with ⟨hsame, hcontent⟩ | ⟨read, hread, _, hnext, _⟩
  · rw [hsame]
    exact hcontent text h
  · rw [hnext, ← hread, h]

end Watch

/-- What is known of a phase, whatever was written to the file. -/
def Phase.Sound : Phase → Prop
  | .idle => True
  | .loaded first config => first.load = .ok config
  | .watching first config reads watch => first.load = .ok config ∧ watch.Synced config reads

namespace World

theorem Reachable.sound {world : World} (h : Reachable world) : world.phase.Sound := by
  induction h with
  | start => trivial
  | write other _ ih => exact ih
  | load _ hload _ => exact hload
  | seed _ hstart ih => exact ⟨ih, Watch.synced_start hstart⟩
  | present presenter _ ih => exact ⟨ih.1, ih.2.congr fun _ hholds => hholds⟩
  | dispatch route arguments flags _ ih =>
      exact ⟨ih.1, ih.2.congr fun _ hholds => hholds.next_dispatch route arguments flags⟩
  | poll _ ih => exact ⟨ih.1, ih.2.poll _⟩

/-- After a poll that reads an accepted text, the table in use is that of the text, unless the
tracker has never read another one. Then it is that of the text read to start with, which is the
same when the file was not written in between. -/
theorem poll_agrees {file first : FileState} {config accepted : Config} {reads : List FileState}
    {watch : Watch} {text : String} (h : Reachable ⟨file, .watching first config reads watch⟩)
    (htext : file.text? = some text) (hparse : Config.parse text = .ok accepted) :
    (¬ SeedOnly (reads ++ [file]) text ∨ first.text? = some text →
      (watch.poll file).result.dispatcher.Holds accepted) ∧
    (SeedOnly (reads ++ [file]) text →
      first.load = .ok config ∧ (watch.poll file).result.dispatcher.Holds config) := by
  obtain ⟨hload, hsynced⟩ := h.sound
  have hnext := hsynced.poll file
  refine ⟨fun hcase => ?_, fun hseed => ⟨hload, (hnext.seedOnly text hseed).2⟩⟩
  by_cases hseed : SeedOnly (reads ++ [file]) text
  · have hfirst : first.text? = some text := hcase.resolve_left fun hnot => hnot hseed
    have hconfig : Config.parse text = .ok config := by
      simpa only [FileState.load, hfirst] using hload
    obtain rfl := Except.ok.inj (hconfig.symm.trans hparse)
    exact (hnext.seedOnly text hseed).2
  · exact hnext.moved text accepted hseed (watch.content_poll htext) hparse

/-- A text with one route. -/
def homeText : String :=
  "[[routes]]\nkind = \"direct\"\npattern = \"app://h\"\ntarget = \"Home\"\n"

/-- The table in it. -/
def homeTable : Config := { routes := [⟨.direct, "app://h", "Home"⟩] }

theorem parse_homeText : Config.parse homeText = .ok homeTable := by
  have hnode : (Toml.parse? homeText).bind Config.ofNode? = some homeTable := by cbv
  have hvalid : homeTable.validate = .ok homeTable := rfl
  simp only [Config.parse, hnode, hvalid]

theorem parse_empty : Config.parse "" = .ok {} := by
  have hnode : (Toml.parse? "").bind Config.ofNode? = some {} := by cbv
  have hvalid : Config.validate {} = .ok {} := rfl
  simp only [Config.parse, hnode, hvalid]

/-- The watching program starts with an empty file, and seeds its tracker from the file given. -/
theorem reachable_seeded (seed : FileState) :
    Reachable ⟨seed, .watching (.text "") {} [seed] ⟨.empty, .seed seed⟩⟩ :=
  .seed (.write seed (.load .start parse_empty)) rfl

/-- A route is written to the file once the tracker is seeded. -/
theorem poll_agrees_home :
    Reachable ⟨.text homeText, .watching (.text "") {} [.text ""] ⟨.empty, .seed (.text "")⟩⟩ ∧
      Config.parse homeText = .ok homeTable ∧
      ((⟨.empty, .seed (.text "")⟩ : Watch).poll (.text homeText)).result.dispatcher.Holds
        homeTable := by
  have hreachable := Reachable.write (.text homeText) (reachable_seeded (.text ""))
  have hmoved : ¬ SeedOnly ([.text ""] ++ [.text homeText]) homeText := by
    rw [seedOnly_snoc_iff (by simp), seedOnly_singleton_iff]
    rintro ⟨hseed, _⟩
    exact absurd hseed (by decide)
  exact ⟨hreachable, parse_homeText,
    (poll_agrees hreachable rfl parse_homeText).1 (.inl hmoved)⟩

/-- A route that is written to the file just before the tracker is seeded is not taken over. -/
theorem not_polled_home :
    Reachable ⟨.text homeText,
        .watching (.text "") {} [.text homeText] ⟨.empty, .seed (.text homeText)⟩⟩ ∧
      Config.parse homeText = .ok homeTable ∧
      ¬ ((⟨.empty, .seed (.text homeText)⟩ : Watch).poll (.text homeText)).result.dispatcher.Holds
        homeTable := by
  refine ⟨reachable_seeded (.text homeText), parse_homeText, fun hholds => ?_⟩
  have hsame : Tracker.reload (.seed (.text homeText)) (.text homeText) =
      ⟨.seed (.text homeText), none, [.event .tableUnchanged]⟩ :=
    Tracker.reload_of_same rfl rfl
  simp only [Watch.poll, hsame] at hholds
  exact absurd hholds.size_eq (by decide)

end World

end DeepLink
