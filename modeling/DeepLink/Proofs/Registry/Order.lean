import DeepLink.Proofs.Registry.Building

/-! # The order of registration

Routes are built into a registry exactly when every template compiles and none occurs twice, which
does not depend on their order. Registries that hold the same routes in another order look up every
template alike, and list their tables alike. -/

namespace DeepLink

/-- The entry for a route whose template compiles. -/
def Route.entry? (route : Route) : Option (Entry String) :=
  match Pattern.compile route.pattern with
  | .ok pattern => some ⟨route.pattern, route.kind, pattern, route.target⟩
  | .error _ => none

namespace Registry

variable {β : Type}

/-! ## The same entries in another order -/

theorem table_perm {r other : Registry β} (h : other.entries.Perm r.entries) (kind : Kind) :
    (other.table kind).Perm (r.table kind) :=
  h.filter _

theorem WellFormed.find?_eq_of_perm {r other : Registry β} (hr : r.WellFormed)
    (h : other.entries.Perm r.entries) (key : String) : other.find? key = r.find? key := by
  cases hfind : r.find? key with
  | none =>
      simp only [find?, List.find?_eq_none] at hfind ⊢
      intro entry hentry
      exact hfind entry (h.mem_iff.1 hentry)
  | some entry =>
      have hkey : entry.key = key := by simpa using List.find?_some hfind
      rw [← hkey]
      exact (hr.reorder h).find?_of_mem (h.mem_iff.2 (List.mem_of_find?_eq_some hfind))

theorem WellFormed.kindOf?_eq_of_perm {r other : Registry β} (hr : r.WellFormed)
    (h : other.entries.Perm r.entries) (key : String) : other.kindOf? key = r.kindOf? key := by
  rw [kindOf?, hr.find?_eq_of_perm h, kindOf?]

theorem listing_perm (r : Registry β) (kind : Kind) : (r.listing kind).Perm (r.table kind) :=
  List.mergeSort_perm _ _

/-- A listing is in the order of the templates. -/
theorem pairwise_listing (r : Registry β) (kind : Kind) :
    (r.listing kind).Pairwise fun a b => a.key ≤ b.key := by
  have htrans : ∀ a b c : Entry β, !decide (b.key < a.key) → !decide (c.key < b.key) →
      !decide (c.key < a.key) := by
    intro a b c hab hbc
    simp only [Bool.not_eq_true', decide_eq_false_iff_not, String.not_lt] at hab hbc ⊢
    exact String.le_trans hab hbc
  have htotal : ∀ a b : Entry β, !decide (b.key < a.key) || !decide (a.key < b.key) := by
    intro a b
    simp only [Bool.or_eq_true, Bool.not_eq_true', decide_eq_false_iff_not, String.not_lt]
    exact String.le_total a.key b.key
  simpa only [listing, Bool.not_eq_true', decide_eq_false_iff_not, String.not_lt] using
    List.pairwise_mergeSort htrans htotal (r.table kind)

/-- Without repeated templates there is one sorted listing of a table. -/
theorem WellFormed.listing_eq_of_perm {r other : Registry β} (hr : r.WellFormed)
    (h : other.entries.Perm r.entries) (kind : Kind) : other.listing kind = r.listing kind := by
  have hperm : (other.listing kind).Perm (r.listing kind) :=
    ((other.listing_perm kind).trans (table_perm h kind)).trans (r.listing_perm kind).symm
  have hentries : ∀ entry ∈ r.listing kind, entry ∈ r.entries := fun entry hentry =>
    List.mem_of_mem_filter ((r.listing_perm kind).mem_iff.1 hentry)
  refine hperm.eq_of_pairwise ?_ (other.pairwise_listing kind) (r.pairwise_listing kind)
  -- Two entries that each come before the other have one template, and so they are the same.
  intro a b ha hb hab hba
  have hkeys : a.key = b.key := String.le_antisymm hab hba
  have hfind := hr.find?_of_mem (hentries a (hperm.mem_iff.1 ha))
  rw [hkeys, hr.find?_of_mem (hentries b hb)] at hfind
  exact (Option.some.inj hfind).symm

/-! ## The same routes in another order -/

theorem entries_registerAll {r last : Registry String} {routes : List Route}
    (h : (r.registerAll routes).result = .ok last) :
    last.entries = r.entries ++ routes.filterMap Route.entry? := by
  induction routes generalizing r with
  | nil =>
      obtain rfl := Except.ok.inj h
      simp
  | cons route routes ih =>
      obtain ⟨next, hfirst, hrest⟩ := registerAll_cons_eq_ok h
      obtain ⟨pattern, _, hcompile, rfl⟩ := register_eq_ok hfirst
      have hentry : route.entry? = some ⟨route.pattern, route.kind, pattern, route.target⟩ := by
        simp only [Route.entry?, hcompile]
      rw [ih hrest, List.filterMap_cons_some hentry, List.append_assoc, List.singleton_append]

/-- Routes are registered when their templates compile, and none of them is there already. -/
theorem exists_registerAll {r : Registry String} {routes : List Route}
    (hcompile : ∀ route ∈ routes, ∃ pattern, Pattern.compile route.pattern = .ok pattern)
    (hnodup : (r.entries.map (·.key) ++ routes.map (·.pattern)).Nodup) :
    ∃ last, (r.registerAll routes).result = .ok last := by
  induction routes generalizing r with
  | nil => exact ⟨r, rfl⟩
  | cons route routes ih =>
      obtain ⟨pattern, hpattern⟩ := hcompile route (by simp)
      have hnew : r.kindOf? route.pattern = none := by
        rw [kindOf?_eq_none_iff]
        intro hmem
        exact (List.nodup_append.1 hnodup).2.2 _ hmem _ (by simp) rfl
      rw [registerAll_cons_of_ok (register_of_compile hnew hpattern route.kind route.target)]
      refine ih (fun other hother => hcompile other (by simp [hother])) ?_
      simpa using hnodup

/-- Routes are built into a registry exactly when every template compiles and none occurs twice. -/
theorem exists_build_iff (routes : List Route) :
    (∃ r, (build routes).result = .ok r) ↔
      (∀ route ∈ routes, ∃ pattern, Pattern.compile route.pattern = .ok pattern) ∧
        (routes.map (·.pattern)).Nodup := by
  constructor
  · rintro ⟨r, h⟩
    have hstored : r.entries.map Entry.route = routes := map_route_registerAll h
    have hwell : r.WellFormed := wellFormed_empty.registerAll h
    rw [← hstored]
    constructor
    · intro route hroute
      obtain ⟨entry, hentry, rfl⟩ := List.mem_map.1 hroute
      exact ⟨entry.pattern, hwell.compiled entry hentry⟩
    · rw [List.map_map]
      exact hwell.nodup
  · rintro ⟨hcompile, hnodup⟩
    exact exists_registerAll hcompile (by simpa [empty] using hnodup)

/-- Routes that can be built can be built in any order, and the registry holds the same entries. -/
theorem exists_build_of_perm {routes other : List Route} {r : Registry String}
    (hperm : other.Perm routes) (h : (build routes).result = .ok r) :
    ∃ s, (build other).result = .ok s ∧ s.entries.Perm r.entries := by
  obtain ⟨hcompile, hnodup⟩ := (exists_build_iff routes).1 ⟨r, h⟩
  obtain ⟨s, hs⟩ := (exists_build_iff other).2
    ⟨fun route hroute => hcompile route (hperm.mem_iff.1 hroute), (hperm.map _).nodup_iff.2 hnodup⟩
  refine ⟨s, hs, ?_⟩
  rw [entries_registerAll hs, entries_registerAll h]
  exact (hperm.filterMap _).append_left _

end Registry

end DeepLink
