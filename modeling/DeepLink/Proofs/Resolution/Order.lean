import DeepLink.Proofs.Registry.Order
import DeepLink.Proofs.Resolution.Correctness

/-! # Resolution does not depend on the order of the routes

Tables are walked in an order that is nobody's choice. As long as no two routes of one kind match a
link, every order finds the same route, and so it does not matter in which order the routes were
registered. -/

namespace DeepLink

/-! ## A search without ties -/

/-- A search gives the same in every order when all that it can find is the same. -/
theorem findSome?_eq_of_perm {α β : Type} {f : α → Option β} {l other : List α}
    (h : other.Perm l) (hunique : ∀ a ∈ l, ∀ b ∈ l, (f a).isSome → (f b).isSome → f a = f b) :
    other.findSome? f = l.findSome? f := by
  cases hfound : l.findSome? f with
  | none =>
      rw [List.findSome?_eq_none_iff] at hfound ⊢
      intro a ha
      exact hfound a (h.mem_iff.1 ha)
  | some found =>
      obtain ⟨a, ha, hfa⟩ := List.exists_of_findSome?_eq_some hfound
      cases hother : other.findSome? f with
      | none =>
          rw [List.findSome?_eq_none_iff.1 hother a (h.mem_iff.2 ha)] at hfa
          cases hfa
      | some second =>
          obtain ⟨b, hb, hfb⟩ := List.exists_of_findSome?_eq_some hother
          rw [← hfa, ← hfb]
          exact hunique b (h.mem_iff.1 hb) a ha (by simp [hfb]) (by simp [hfa])

namespace Registry

variable {β : Type}

/-! ## Links that at most one route of each kind matches -/

/-- At most one route of each kind matches the text. -/
def Unambiguous (r : Registry β) (clean : String) : Prop :=
  ∀ a ∈ r.entries, ∀ b ∈ r.entries, a.kind = b.kind → a.Matches clean → b.Matches clean →
    a.key = b.key

theorem Unambiguous.reorder {r other : Registry β} {clean : String} (hr : r.Unambiguous clean)
    (h : other.entries.Perm r.entries) : other.Unambiguous clean := fun a ha b hb =>
  hr a (h.mem_iff.1 ha) b (h.mem_iff.1 hb)

theorem matches_of_align {entry : Entry β} {clean : String} {address : Address}
    (hparse : Address.parse clean = .ok address) (h : (entry.pattern.align address).isSome) :
    entry.Matches clean := by
  obtain ⟨taken, halign⟩ := Option.isSome_iff_exists.1 h
  exact ⟨address, taken, hparse, (Pattern.align_eq_some_iff _ _ _).1 halign⟩

theorem WellFormed.matchIn_eq_of_perm {r other : Registry β} (hr : r.WellFormed) {clean : String}
    (hclean : r.Unambiguous clean) (h : other.entries.Perm r.entries) {address : Address}
    (hparse : Address.parse clean = .ok address) (kind : Kind) :
    other.matchIn kind address = r.matchIn kind address := by
  refine findSome?_eq_of_perm (table_perm h kind) ?_
  intro a ha b hb hfa hfb
  rw [Option.isSome_map] at hfa hfb
  obtain ⟨hamem, hakind⟩ := (mem_table_iff r kind a).1 ha
  obtain ⟨hbmem, hbkind⟩ := (mem_table_iff r kind b).1 hb
  have hkeys : a.key = b.key := hclean a hamem b hbmem (hakind.trans hbkind.symm)
    (matches_of_align hparse hfa) (matches_of_align hparse hfb)
  have hfind := hr.find?_of_mem hamem
  rw [hkeys, hr.find?_of_mem hbmem] at hfind
  obtain rfl := Option.some.inj hfind
  rfl

/-- A link that at most one route of each kind matches is resolved alike in every order. -/
theorem WellFormed.resolve_eq_of_perm {r other : Registry β} (hr : r.WellFormed) {route : String}
    (hroute : r.Unambiguous (Query.split route).1) (h : other.entries.Perm r.entries) :
    other.resolve route = r.resolve route := by
  unfold resolve
  cases hparse : Address.parse (Query.split route).1 with
  | error fault => simp only [hparse]
  | ok address =>
      have hfirst : other.firstMatch address Kind.precedence =
          r.firstMatch address Kind.precedence := by
        unfold firstMatch
        simp only [hr.matchIn_eq_of_perm hroute h hparse]
      simp only [hparse, hfirst]

/-- The order of registration does not matter. Routes that can be built can be built in any order,
into a registry of the same size, which knows every template under the same kind and has the same
entries in each table, and so the same listing. A link that at most one route of each kind matches
is resolved alike, in whatever order the tables of either registry are walked. -/
theorem build_agrees_of_perm {routes other : List Route} {r : Registry String}
    (hperm : other.Perm routes) (h : (build routes).result = .ok r) :
    ∃ s, (build other).result = .ok s ∧ s.size = r.size ∧
      (∀ key, s.kindOf? key = r.kindOf? key) ∧
      (∀ kind, (s.table kind).Perm (r.table kind) ∧ s.listing kind = r.listing kind) ∧
      ∀ route, r.Unambiguous (Query.split route).1 → ∀ a b : Registry String,
        a.entries.Perm r.entries → b.entries.Perm s.entries →
          b.resolve route = a.resolve route := by
  obtain ⟨s, hs, hentries⟩ := exists_build_of_perm hperm h
  have hr : r.WellFormed := wellFormed_empty.registerAll h
  refine ⟨s, hs, hentries.length_eq, hr.kindOf?_eq_of_perm hentries,
    fun kind => ⟨table_perm hentries kind, hr.listing_eq_of_perm hentries kind⟩, ?_⟩
  intro route hroute a b ha hb
  calc b.resolve route
    _ = r.resolve route := hr.resolve_eq_of_perm hroute (hb.trans hentries)
    _ = a.resolve route := (hr.resolve_eq_of_perm hroute ha).symm

/-- Two composite routes below one host, and the host itself. -/
def mixedRoutes : List Route :=
  [⟨.composite, itemTemplate, "Item"⟩, ⟨.composite, "app://h/items", "Items"⟩,
    ⟨.direct, "app://h", "Home"⟩]

/-- The registry of these routes. -/
def mixedRegistry : Registry String :=
  ⟨[⟨itemTemplate, .composite, itemPattern, "Item"⟩,
    ⟨"app://h/items", .composite, ⟨"app", "h", [.literal "items"]⟩, "Items"⟩,
    ⟨"app://h", .direct, ⟨"app", "h", []⟩, "Home"⟩]⟩

theorem build_mixedRoutes : (build mixedRoutes).result = .ok mixedRegistry := rfl

/-- Only the first of the routes matches. -/
theorem unambiguous_mixedRegistry : mixedRegistry.Unambiguous "app://h/items/7/a.b" := by
  have hparse : Address.parse "app://h/items/7/a.b" =
      .ok ⟨"app", "h", ["items", "7", "a.b"], false, false⟩ := rfl
  have honly : ∀ entry ∈ mixedRegistry.entries, entry.Matches "app://h/items/7/a.b" →
      entry.key = itemTemplate := by
    rintro entry hentry ⟨address, taken, haddress, hfits⟩
    obtain rfl := Except.ok.inj (hparse.symm.trans haddress)
    have halign := (Pattern.align_eq_some_iff _ _ _).2 hfits
    have hothers : ∀ other ∈ mixedRegistry.entries.tail,
        other.pattern.align ⟨"app", "h", ["items", "7", "a.b"], false, false⟩ = none := by decide
    rcases List.mem_cons.1 hentry with rfl | hother
    · rfl
    · rw [hothers entry hother] at halign
      cases halign
  intro a ha b hb _ hmatches hmatches'
  rw [honly a ha hmatches, honly b hb hmatches']

/-- The routes are registered the other way round, and the tables turned round once more. -/
theorem build_agrees_of_perm_item :
    mixedRoutes.reverse.Perm mixedRoutes ∧ (build mixedRoutes).result = .ok mixedRegistry ∧
      mixedRegistry.Unambiguous "app://h/items/7/a.b" ∧
      ∃ s, (build mixedRoutes.reverse).result = .ok s ∧
        s.kindOf? itemTemplate = some .composite ∧
        s.resolve "app://h/items/7/a.b?k=v" =
          resolve ⟨mixedRegistry.entries.reverse⟩ "app://h/items/7/a.b?k=v" := by
  have hperm : mixedRoutes.reverse.Perm mixedRoutes := List.reverse_perm _
  obtain ⟨s, hs, _, hkind, _, hresolve⟩ := build_agrees_of_perm hperm build_mixedRoutes
  have hroute : (Query.split "app://h/items/7/a.b?k=v").1 = "app://h/items/7/a.b" := rfl
  refine ⟨hperm, build_mixedRoutes, unambiguous_mixedRegistry, s, hs, hkind itemTemplate, ?_⟩
  refine hresolve _ ?_ ⟨mixedRegistry.entries.reverse⟩ s (List.reverse_perm _) (.refl _)
  rw [hroute]
  exact unambiguous_mixedRegistry

end Registry

end DeepLink
