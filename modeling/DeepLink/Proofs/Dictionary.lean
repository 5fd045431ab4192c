import DeepLink.Dictionary

/-! # Dictionaries

What a dictionary says after many pairs were written into it, and what it says when no key was
written twice. Where the first value of a key counts, new pairs only extend a dictionary. -/

namespace DeepLink.Dictionary

variable {α : Type}

theorem replaceIn_of_not_mem {key : String} {pairs : List (String × α)}
    (h : key ∉ pairs.map (·.1)) (value : α) :
    replaceIn key value pairs = pairs ++ [(key, value)] := by
  induction pairs with
  | nil => rfl
  | cons p rest ih =>
      simp only [List.map_cons, List.mem_cons, not_or] at h
      rw [replaceIn, if_neg (Ne.symm h.1), ih h.2, List.cons_append]

/-- A new key goes to the end. -/
theorem insert_of_not_mem {d : Dictionary α} {key : String} (h : key ∉ d.keys) (value : α) :
    d.insert key value = ⟨d.pairs ++ [(key, value)]⟩ := by
  rw [insert, replaceIn_of_not_mem h]

/-- Without repeated keys every pair gives the value of its key. -/
theorem lookup_of_mem {pairs : List (String × α)} (hnodup : (pairs.map (·.1)).Nodup)
    {key : String} {value : α} (h : (key, value) ∈ pairs) : pairs.lookup key = some value := by
  induction pairs with
  | nil => cases h
  | cons p rest ih =>
      obtain ⟨k, v⟩ := p
      rw [List.map_cons, List.nodup_cons] at hnodup
      rcases List.mem_cons.1 h with heq | hmem
      · injection heq with hk hv
        subst hk hv
        exact List.lookup_cons_self
      · have hne : key ≠ k := by
          rintro rfl
          exact hnodup.1 (List.mem_map.2 ⟨_, hmem, rfl⟩)
        rw [List.lookup_cons, beq_false_of_ne hne]
        exact ih hnodup.2 hmem

/-! ## Many pairs at once -/

theorem lookup_map_snd {β : Type} (f : α → β) (pairs : List (String × α)) (key : String) :
    (pairs.map fun (name, value) => (name, f value)).lookup key = (pairs.lookup key).map f := by
  induction pairs with
  | nil => rfl
  | cons p rest ih =>
      obtain ⟨name, value⟩ := p
      by_cases hkey : key = name
      · subst hkey
        rw [List.map_cons, List.lookup_cons_self, List.lookup_cons_self, Option.map_some]
      · rw [List.map_cons, List.lookup_cons, List.lookup_cons, beq_false_of_ne hkey]
        exact ih

/-- The last pair of a key overrides what the dictionary said. -/
theorem get?_insertAll (d : Dictionary α) (pairs : List (String × α)) (key : String) :
    (d.insertAll pairs).get? key = (pairs.reverse.lookup key).or (d.get? key) := by
  induction pairs generalizing d with
  | nil => rfl
  | cons p rest ih =>
      obtain ⟨name, value⟩ := p
      have hfirst : (d.insertAll ((name, value) :: rest)) = (d.insert name value).insertAll rest :=
        rfl
      rw [hfirst, ih, get?_insert, List.reverse_cons, List.lookup_append, Option.or_assoc]
      by_cases hkey : key = name
      · subst hkey
        simp
      · simp [hkey, List.lookup_cons, beq_false_of_ne hkey]

/-! ## Keys that are known -/

theorem mem_keys_iff (d : Dictionary α) (key : String) :
    key ∈ d.keys ↔ ∃ value, d.get? key = some value := by
  rw [← Option.isSome_iff_exists, ← Option.ne_none_iff_isSome, get?, ne_eq,
    List.lookup_eq_none_iff]
  simp [keys]

/-- A key that is known is passed over. -/
theorem insertNew_of_mem {d : Dictionary α} {key : String} (h : key ∈ d.keys) (value : α) :
    d.insertNew key value = d := by
  obtain ⟨known, hknown⟩ := (mem_keys_iff d key).1 h
  rw [insertNew, hknown]

theorem insertNew_of_not_mem {d : Dictionary α} {key : String} (h : key ∉ d.keys) (value : α) :
    d.insertNew key value = ⟨d.pairs ++ [(key, value)]⟩ := by
  rw [mem_keys_iff, not_exists] at h
  rw [insertNew, Option.eq_none_iff_forall_ne_some.2 h]

theorem nodup_keys_insertNew {d : Dictionary α} (h : d.keys.Nodup) (key : String) (value : α) :
    (d.insertNew key value).keys.Nodup := by
  by_cases hkey : key ∈ d.keys
  · rwa [insertNew_of_mem hkey]
  · rw [insertNew_of_not_mem hkey, keys, List.map_append]
    refine List.nodup_append.2 ⟨h, by simp, ?_⟩
    rintro known hknown new hnew rfl
    obtain rfl : known = key := by simpa using hnew
    exact hkey hknown

/-- A dictionary, and behind it the pairs of another whose keys it lacks. -/
def extend (d other : Dictionary α) : Dictionary α :=
  ⟨d.pairs ++ other.pairs.filter fun p => !d.keys.contains p.1⟩

theorem extend_empty (d : Dictionary α) : d.extend .empty = d := by
  simp [extend, empty]

theorem mem_keys_extend_iff (d other : Dictionary α) (key : String) :
    key ∈ (d.extend other).keys ↔ key ∈ d.keys ∨ key ∈ other.keys := by
  by_cases hkey : key ∈ d.keys
  · have hmem : key ∈ (d.extend other).keys := by
      rw [keys, extend, List.map_append, List.mem_append]
      exact .inl hkey
    exact iff_of_true hmem (.inl hkey)
  · have hnew : key ∈ (other.pairs.filter fun p => !d.keys.contains p.1).map (·.1) ↔
        key ∈ other.keys := by
      simp only [keys, List.mem_map]
      refine exists_congr fun p => ?_
      rw [List.mem_filter]
      constructor
      · rintro ⟨⟨hmem, _⟩, rfl⟩
        exact ⟨hmem, rfl⟩
      · rintro ⟨hmem, rfl⟩
        exact ⟨⟨hmem, by simpa [keys] using hkey⟩, rfl⟩
    rw [keys, extend, List.map_append, List.mem_append, hnew]
    rfl

/-- A pair that is new to the second dictionary is new to both, or passed over. -/
theorem extend_insertNew (d other : Dictionary α) (key : String) (value : α) :
    d.extend (other.insertNew key value) = (d.extend other).insertNew key value := by
  by_cases hother : key ∈ other.keys
  · have hmem := (mem_keys_extend_iff d other key).2 (.inr hother)
    rw [insertNew_of_mem hother, insertNew_of_mem hmem]
  · by_cases hkey : key ∈ d.keys
    · have hmem := (mem_keys_extend_iff d other key).2 (.inl hkey)
      rw [insertNew_of_mem hmem, insertNew_of_not_mem hother]
      simp [extend, hkey]
    · have hmem : key ∉ (d.extend other).keys := by simp [mem_keys_extend_iff, hkey, hother]
      rw [insertNew_of_not_mem hmem, insertNew_of_not_mem hother]
      simp [extend, hkey]

end DeepLink.Dictionary
