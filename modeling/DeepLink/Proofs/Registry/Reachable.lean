import DeepLink.Proofs.Pattern.Compilation
import DeepLink.Registry

/-! # Registries that can arise

A registry comes about by registering routes and by being reset. Its tables are unordered, so one
that lists the same routes in another order counts as well. Every such registry holds each template
once, compiled. -/

namespace DeepLink.Registry

variable {β : Type}

/-- The registries that arise from the one without routes. -/
inductive Reachable : Registry β → Prop where
  | empty : Reachable .empty
  | register {r next : Registry β} {kind key binding} :
      Reachable r → (r.register kind key binding).result = .ok next → Reachable next
  | reset {r : Registry β} : Reachable r → Reachable r.reset.result
  | reorder {r other : Registry β} : Reachable r → other.entries.Perm r.entries → Reachable other

/-- Every template is compiled, and none is held twice. -/
structure WellFormed (r : Registry β) : Prop where
  compiled : ∀ entry ∈ r.entries, Pattern.compile entry.key = .ok entry.pattern
  nodup : (r.entries.map (·.key)).Nodup

/-! ## Looking up a template -/

theorem kindOf?_eq_none_iff (r : Registry β) (key : String) :
    r.kindOf? key = none ↔ key ∉ r.entries.map (·.key) := by
  simp [kindOf?, find?, List.find?_eq_none]

/-- A route at the end gives its kind to its template, when the template is new. -/
theorem kindOf?_append {r : Registry β} {entry : Entry β} (h : r.kindOf? entry.key = none)
    (key : String) :
    (⟨r.entries ++ [entry]⟩ : Registry β).kindOf? key =
      if key = entry.key then some entry.kind else r.kindOf? key := by
  by_cases hkey : key = entry.key
  · subst hkey
    have hnone : r.entries.find? (·.key = entry.key) = none := Option.map_eq_none_iff.1 h
    simp [kindOf?, find?, List.find?_append, hnone]
  · have hother : ¬ entry.key = key := fun heq => hkey heq.symm
    simp [kindOf?, find?, List.find?_append, hkey, hother]

theorem WellFormed.exists_compile {r : Registry β} (hr : r.WellFormed) {key : String} {kind : Kind}
    (h : r.kindOf? key = some kind) : ∃ pattern, Pattern.compile key = .ok pattern := by
  obtain ⟨entry, hfind, _⟩ := Option.map_eq_some_iff.1 h
  have hkey : entry.key = key := by simpa using List.find?_some hfind
  exact ⟨entry.pattern, hkey ▸ hr.compiled entry (List.mem_of_find?_eq_some hfind)⟩

theorem WellFormed.find?_of_mem {r : Registry β} (hr : r.WellFormed) {entry : Entry β}
    (h : entry ∈ r.entries) : r.find? entry.key = some entry := by
  obtain ⟨entries⟩ := r
  have hnodup := hr.nodup
  simp only [find?] at h hnodup ⊢
  clear hr
  induction entries with
  | nil => simp at h
  | cons first entries ih =>
      rw [List.map_cons, List.nodup_cons] at hnodup
      rcases List.mem_cons.1 h with rfl | hmem
      · simp
      · have hother : first.key ≠ entry.key := fun heq =>
          hnodup.1 (heq ▸ List.mem_map_of_mem hmem)
        rw [List.find?_cons_of_neg (by simpa using hother)]
        exact ih hmem hnodup.2

/-! ## One registration -/

/-- Everything that a registration can come to. -/
theorem register_cases (r : Registry β) (kind : Kind) (key : String) (binding : β) :
    (∃ existing, r.kindOf? key = some existing ∧
      (r.register kind key binding).result = .error (.duplicateRoute key existing)) ∨
    (∃ fault, r.kindOf? key = none ∧ Pattern.compile key = .error fault ∧
      (r.register kind key binding).result = .error (.malformedPattern key fault)) ∨
    (∃ pattern, r.kindOf? key = none ∧ Pattern.compile key = .ok pattern ∧
      (r.register kind key binding).result =
        .ok ⟨r.entries ++ [⟨key, kind, pattern, binding⟩]⟩) := by
  unfold register
  cases hkind : r.kindOf? key with
  | some existing => exact .inl ⟨existing, rfl, rfl⟩
  | none =>
      cases hcompile : Pattern.compile key with
      | error fault => exact .inr (.inl ⟨fault, rfl, rfl, rfl⟩)
      | ok pattern => exact .inr (.inr ⟨pattern, rfl, rfl, rfl⟩)

theorem register_of_compile {r : Registry β} {key : String} {pattern : Pattern}
    (hkind : r.kindOf? key = none) (hcompile : Pattern.compile key = .ok pattern) (kind : Kind)
    (binding : β) :
    (r.register kind key binding).result =
      .ok ⟨r.entries ++ [⟨key, kind, pattern, binding⟩]⟩ := by
  simp only [register, hkind, hcompile]

theorem register_eq_ok {r next : Registry β} {kind : Kind} {key : String} {binding : β}
    (h : (r.register kind key binding).result = .ok next) :
    ∃ pattern, r.kindOf? key = none ∧ Pattern.compile key = .ok pattern ∧
      next = ⟨r.entries ++ [⟨key, kind, pattern, binding⟩]⟩ := by
  rcases r.register_cases kind key binding with ⟨_, _, hresult⟩ | ⟨_, _, _, hresult⟩ |
    ⟨pattern, hkind, hcompile, hresult⟩
  · rw [hresult] at h
    cases h
  · rw [hresult] at h
    cases h
  · rw [hresult] at h
    injection h with h
    exact ⟨pattern, hkind, hcompile, h.symm⟩

/-! ## Every step keeps registries well formed -/

theorem WellFormed.register {r next : Registry β} {kind : Kind} {key : String} {binding : β}
    (hr : r.WellFormed) (h : (r.register kind key binding).result = .ok next) :
    next.WellFormed := by
  obtain ⟨pattern, hkind, hcompile, rfl⟩ := register_eq_ok h
  have hnew := (kindOf?_eq_none_iff r key).1 hkind
  constructor
  · intro entry hentry
    rcases List.mem_append.1 hentry with hentry | hentry
    · exact hr.compiled entry hentry
    · rw [List.mem_singleton.1 hentry]
      exact hcompile
  · rw [List.map_append, List.nodup_append]
    refine ⟨hr.nodup, by simp, ?_⟩
    intro a ha b hb hab
    have hb : b = key := by simpa using hb
    exact hnew (hb ▸ hab ▸ ha)

theorem WellFormed.reorder {r other : Registry β} (hr : r.WellFormed)
    (h : other.entries.Perm r.entries) : other.WellFormed where
  compiled := fun entry hentry => hr.compiled entry (h.mem_iff.1 hentry)
  nodup := (h.map (·.key)).nodup_iff.2 hr.nodup

theorem wellFormed_empty : (empty : Registry β).WellFormed :=
  ⟨by simp [empty], by simp [empty]⟩

/-- Every registry that can arise is well formed. -/
theorem Reachable.wellFormed {r : Registry β} (h : r.Reachable) : r.WellFormed := by
  induction h with
  | empty => exact wellFormed_empty
  | register _ hregister ih => exact ih.register hregister
  | reset => exact wellFormed_empty
  | reorder _ hperm ih => exact ih.reorder hperm

/-! ## A registry of one route -/

/-- A template with a literal, an integer and a word. -/
def itemTemplate : String := "app://h/items/i:\x7bid\x7d/s:\x7bfile\x7d"

/-- The template, compiled. -/
def itemPattern : Pattern :=
  ⟨"app", "h", [.literal "items", .wildcard "id" .integer, .wildcard "file" .word]⟩

theorem compile_itemTemplate : Pattern.compile itemTemplate = .ok itemPattern := rfl

/-- A registry with nothing but the template, as a composite route. -/
def itemRegistry : Registry Nat := ⟨[⟨itemTemplate, .composite, itemPattern, 7⟩]⟩

theorem reachable_itemRegistry : itemRegistry.Reachable := by
  have hregister : ((empty : Registry Nat).register .composite itemTemplate 7).result =
      .ok itemRegistry := rfl
  exact .register .empty hregister

end DeepLink.Registry
