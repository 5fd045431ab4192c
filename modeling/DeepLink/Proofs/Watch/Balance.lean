import DeepLink.Proofs.Registry.Order
import DeepLink.Proofs.Watch.Forwarding
import Mathlib.Data.Finset.Card

/-! # The balance of changes

A change counts the routes that are new and those that are gone, each by a pass of its own over one
table. The two counts fit together because no table that a tracker accepts holds a route twice: from
one table to the next, and over a whole run, they account for the sizes of the tables. -/

namespace DeepLink

open FileState

/-! ## One change -/

namespace Change

/-- A change accounts for the step from one table to another: it counts the routes that one of them
has and the other lacks, and it is nothing exactly when they hold the same routes. -/
structure Balances (change : Change) (old new : List Route) : Prop where
  added : change.added = (new.toFinset \ old.toFinset).card
  removed : change.removed = (old.toFinset \ new.toFinset).card
  length : old.length + change.added = new.length + change.removed
  eq_zero_iff : change.added = 0 ∧ change.removed = 0 ↔ old.Perm new

/-- The routes that a table has and another lacks are counted once each. -/
theorem length_filter_eq_card {table : List Route} (h : table.Nodup) (other : List Route) :
    (table.filter (!other.contains ·)).length = (table.toFinset \ other.toFinset).card := by
  have hset : table.toFinset \ other.toFinset = (table.filter (!other.contains ·)).toFinset := by
    ext route
    simp
  rw [hset, List.toFinset_card_of_nodup (h.filter _)]

/-- With what the other lacks, either table comes to the routes of both together. -/
theorem length_add_added {old new : List Route} (hold : old.Nodup) (hnew : new.Nodup) :
    old.length + (between old new).added = new.length + (between old new).removed := by
  rw [between, ← List.toFinset_card_of_nodup hold, ← List.toFinset_card_of_nodup hnew]
  dsimp only
  rw [length_filter_eq_card hnew old, length_filter_eq_card hold new]
  calc
    old.toFinset.card + (new.toFinset \ old.toFinset).card
      = (new.toFinset ∪ old.toFinset).card := by rw [Nat.add_comm, Finset.card_sdiff_add_card]
    _ = (old.toFinset ∪ new.toFinset).card := by rw [Finset.union_comm]
    _ = new.toFinset.card + (old.toFinset \ new.toFinset).card := by
      rw [Nat.add_comm, Finset.card_sdiff_add_card]

/-- Without repeated routes the two counts of a change fit together. -/
theorem balances_between {old new : List Route} (hold : old.Nodup) (hnew : new.Nodup) :
    (between old new).Balances old new where
  added := length_filter_eq_card hnew old
  removed := length_filter_eq_card hold new
  length := length_add_added hold hnew
  eq_zero_iff := by
    rw [List.perm_ext_iff_of_nodup hold hnew]
    simp only [between, List.length_eq_zero_iff, List.filter_eq_nil_iff, Bool.not_eq_true',
      Bool.not_eq_false, List.contains_iff_mem]
    constructor
    · rintro ⟨hadded, hremoved⟩ route
      exact ⟨hremoved route, hadded route⟩
    · intro hsame
      exact ⟨fun route => (hsame route).2, fun route => (hsame route).1⟩

/-- Everything that was added in a series of changes, and everything that was removed. -/
def total (changes : List Change) : Change :=
  ⟨(changes.map added).sum, (changes.map removed).sum⟩

theorem total_cons (change : Change) (changes : List Change) :
    total (change :: changes) =
      ⟨change.added + (total changes).added, change.removed + (total changes).removed⟩ := rfl

end Change

/-! ## Tables without repeated routes -/

/-- A table that is accepted holds no route twice. -/
theorem Config.nodup_routes_of_parse {text : String} {config : Config}
    (h : parse text = .ok config) : config.routes.Nodup := by
  have hbuilt := exists_build_of_problems_eq_nil (problems_eq_nil_of_parse h)
  exact .of_map _ ((Registry.exists_build_iff config.routes).1 hbuilt).2

theorem FileState.nodup_acceptedRoutes (reads : List FileState) : (acceptedRoutes reads).Nodup := by
  unfold acceptedRoutes
  cases hlast : (accepted reads).getLast? with
  | none => exact List.nodup_nil
  | some config =>
      have hmem : config ∈ accepted reads := List.mem_of_getLast? hlast
      obtain ⟨text, _, hparse⟩ := List.mem_filterMap.1 hmem
      exact Config.nodup_routes_of_parse ((toOption_eq_some_iff _ _).1 hparse)

namespace Tracker

variable {tracker : Tracker} {file : FileState} {config : Config} {change : Change}

/-! ## One reading -/

/-- A table that is passed on comes with the change from the one remembered, and is remembered in
its place. -/
theorem balances_of_passed (h : tracker.routes.Nodup)
    (hpassed : (tracker.reload file).passed = some (config, change)) :
    change.Balances tracker.routes config.routes ∧
      (tracker.reload file).next.routes = config.routes := by
  obtain ⟨text, htext, hnew, hparse, rfl⟩ := (passed_reload_iff _ _ _ _).1 hpassed
  rw [reload_of_ok htext hnew hparse]
  exact ⟨Change.balances_between h (Config.nodup_routes_of_parse hparse), rfl⟩

theorem nodup_routes_reload (h : tracker.routes.Nodup) (file : FileState) :
    (tracker.reload file).next.routes.Nodup := by
  rcases tracker.reload_cases file with ⟨hsame, _, _⟩ |
    ⟨_, _, _, ⟨_, _, hnext, _⟩ | ⟨config, hparse, hnext, _⟩⟩
  · rwa [hsame]
  · rwa [hnext]
  · rw [hnext]
    exact Config.nodup_routes_of_parse hparse

/-! ## Reading after reading -/

/-- The changes that are passed on over a series of readings add up. -/
theorem length_routes_after (h : tracker.routes.Nodup) (files : List FileState) :
    tracker.routes.length + (Change.total ((tracker.passedOn files).map (·.2))).added =
      (tracker.after files).routes.length +
        (Change.total ((tracker.passedOn files).map (·.2))).removed := by
  induction files generalizing tracker with
  | nil => rfl
  | cons file files ih =>
      have hrest := ih (nodup_routes_reload h file)
      rw [passedOn, after]
      cases hpassed : (tracker.reload file).passed with
      | none =>
          rw [routes_reload_of_none hpassed] at hrest
          exact hrest
      | some found =>
          obtain ⟨config, change⟩ := found
          obtain ⟨hbalances, hroutes⟩ := balances_of_passed h hpassed
          have hstep := hbalances.length
          rw [hroutes] at hrest
          rw [Option.toList_some, List.singleton_append, List.map_cons, Change.total_cons]
          dsimp only
          omega

/-- Every change that is passed on balances the table accepted before and the one passed on, and
over a whole run the routes added, less those removed, are the growth of the table. -/
theorem changes_balance {start : Tracker} {seen : List FileState} (h : start.Starts seen)
    (files : List FileState) :
    (∀ file config change, ((start.after files).reload file).passed = some (config, change) →
      change.Balances (acceptedRoutes (seen ++ files)) config.routes) ∧
    ((Change.total ((start.passedOn files).map (·.2))).added : Int) -
        (Change.total ((start.passedOn files).map (·.2))).removed =
      (acceptedRoutes (seen ++ files)).length - (acceptedRoutes seen).length := by
  have hstart := h.remembers
  have hafter := hstart.after files
  constructor
  · intro file config change hpassed
    have hnodup : (start.after files).routes.Nodup := hafter.routes ▸ nodup_acceptedRoutes _
    rw [← hafter.routes]
    exact (balances_of_passed hnodup hpassed).1
  · have hnodup : start.routes.Nodup := hstart.routes ▸ nodup_acceptedRoutes seen
    have hlength := length_routes_after hnodup files
    rw [hstart.routes, hafter.routes] at hlength
    omega

/-- A file holds one route, is broken for a while, and is empty then. -/
theorem changes_balance_home :
    Starts {} [] ∧
      ((after {} [.text World.homeText, .text "="]).reload (.text "")).passed =
        some ({}, ⟨0, 1⟩) ∧
      Change.Balances ⟨0, 1⟩ World.homeTable.routes [] ∧
      ((Change.total ((passedOn {} [.text World.homeText, .text "="]).map (·.2))).added : Int) -
        (Change.total ((passedOn {} [.text World.homeText, .text "="]).map (·.2))).removed = 1 := by
  have haccepted : accepted [.text World.homeText, .text "="] = [World.homeTable] := by
    have htexts : texts [.text World.homeText, .text "="] = [World.homeText, "="] := rfl
    rw [accepted, htexts]
    simp [World.parse_homeText, parse_equals_sign, Except.toOption]
  have hroutes : acceptedRoutes ([] ++ [.text World.homeText, .text "="]) =
      World.homeTable.routes := by
    rw [List.nil_append, acceptedRoutes, haccepted]
    rfl
  have hremembers := Starts.unseeded.remembers.after [.text World.homeText, .text "="]
  have hpassed : ((after {} [.text World.homeText, .text "="]).reload (.text "")).passed =
      some ({}, ⟨0, 1⟩) := by
    refine (passed_reload_iff _ _ _ _).2 ⟨"", rfl, ?_, World.parse_empty, ?_⟩
    · rw [hremembers.content]
      decide
    · rw [hremembers.routes, hroutes]
      decide
  obtain ⟨hbalances, htotal⟩ := changes_balance .unseeded [.text World.homeText, .text "="]
  have hchange := hbalances _ _ _ hpassed
  rw [hroutes] at hchange htotal
  exact ⟨.unseeded, hpassed, hchange, htotal⟩

end Tracker

end DeepLink
