import DeepLink.Proofs.Pattern.Matching
import DeepLink.Proofs.Registry.Reachable
import DeepLink.Resolution

/-! # Matching and reading agree

Resolution decides first whether a pattern matches and reads the values of its wildcards afterwards.
The second step never fails where the first one succeeded, so the first table with a match is never
passed over. -/

namespace DeepLink

/-! ## The values of a match -/

/-- The values belong to the wildcards of a pattern: each name occurs once, and it has the value
that the segment in its place says. -/
structure Pattern.Binds (pattern : Pattern) (taken : List String)
    (values : Dictionary WildcardValue) : Prop where
  keys : values.keys = pattern.names
  nodup : values.keys.Nodup
  value : ∀ {i : Nat} {name segment : String} {type : WildcardType},
    pattern.slots[i]? = some (.wildcard name type) → taken[i]? = some segment →
      ∃ value, values.get? name = some value ∧ type.Reads segment value

theorem Pattern.Readings.binds {pattern : Pattern} {taken : List String}
    {pairs : List (String × WildcardValue)} (h : Pattern.Readings pattern.slots taken pairs)
    (hnodup : pattern.names.Nodup) : pattern.Binds taken ⟨pairs⟩ := by
  have hkeys : (⟨pairs⟩ : Dictionary WildcardValue).keys = pattern.names := h.names_eq
  refine ⟨hkeys, by rw [hkeys]; exact hnodup, ?_⟩
  intro i name segment type hslot hsegment
  obtain ⟨value, hmem, hreads⟩ := h.mem_of_getElem? hslot hsegment
  have hunique : (pairs.map (·.1)).Nodup := by
    rw [h.names_eq]
    exact hnodup
  exact ⟨value, Dictionary.lookup_of_mem hunique hmem, hreads⟩

/-- What a pattern fits can be read. -/
theorem Pattern.Fits.exists_extract {pattern : Pattern} {address : Address} {taken : List String}
    (h : pattern.Fits address taken) (hnodup : pattern.names.Nodup) :
    ∃ values, pattern.extract taken = some values ∧ pattern.Binds taken values := by
  obtain ⟨pairs, hpairs⟩ := Pattern.exists_readings h.admits
  exact ⟨⟨pairs⟩, Pattern.extract_of_readings hpairs hnodup, hpairs.binds hnodup⟩

theorem Pattern.Fits.isPrefix {pattern : Pattern} {address : Address} {taken : List String}
    (h : pattern.Fits address taken) : taken <+: address.segments := by
  rcases h.segments with heq | ⟨slug, _, heq⟩
  · exact ⟨[], by rw [heq, List.append_nil]⟩
  · rw [heq]
    exact List.prefix_append taken [slug]

/-! ## One table -/

namespace Registry

variable {β : Type}

theorem mem_table_iff (r : Registry β) (kind : Kind) (entry : Entry β) :
    entry ∈ r.table kind ↔ entry ∈ r.entries ∧ entry.kind = kind := by
  simp [table]

theorem matchIn_eq_some {r : Registry β} {kind : Kind} {address : Address} {entry : Entry β}
    {taken : List String} (h : r.matchIn kind address = some (entry, taken)) :
    entry ∈ r.entries ∧ entry.kind = kind ∧ entry.pattern.Fits address taken := by
  obtain ⟨other, hmem, hfound⟩ := List.exists_of_findSome?_eq_some h
  obtain ⟨segments, halign, heq⟩ := Option.map_eq_some_iff.1 hfound
  injection heq with hentry htaken
  subst hentry htaken
  obtain ⟨hentries, hkind⟩ := (mem_table_iff r kind other).1 hmem
  exact ⟨hentries, hkind, (Pattern.align_eq_some_iff _ _ _).1 halign⟩

theorem matchIn_eq_none_iff (r : Registry β) (kind : Kind) (address : Address) :
    r.matchIn kind address = none ↔
      ∀ entry ∈ r.entries, entry.kind = kind → ∀ taken, ¬ entry.pattern.Fits address taken := by
  rw [matchIn, List.findSome?_eq_none_iff]
  simp only [mem_table_iff, and_imp, Option.map_eq_none_iff, ← Pattern.align_eq_some_iff]
  simp only [Option.eq_none_iff_forall_ne_some, ne_eq]

/-! ## The tables in turn -/

theorem firstMatch_cons_of_none {r : Registry β} {kind : Kind} {address : Address}
    (h : r.matchIn kind address = none) (kinds : List Kind) :
    r.firstMatch address (kind :: kinds) = r.firstMatch address kinds := by
  simp [firstMatch, h]

/-- The first table with a match decides. -/
theorem WellFormed.firstMatch_cons_of_some {r : Registry β} (hr : r.WellFormed) {kind : Kind}
    {address : Address} {entry : Entry β} {taken : List String}
    (h : r.matchIn kind address = some (entry, taken)) (kinds : List Kind) :
    ∃ values, entry.pattern.extract taken = some values ∧ entry.pattern.Binds taken values ∧
      r.firstMatch address (kind :: kinds) = some (entry, values) := by
  obtain ⟨hmem, _, hfits⟩ := matchIn_eq_some h
  obtain ⟨values, hextract, hbinds⟩ :=
    hfits.exists_extract (Pattern.nodup_names_of_compile (hr.compiled entry hmem))
  refine ⟨values, hextract, hbinds, ?_⟩
  simp [firstMatch, h, hextract]

/-- A match that is found can be read: the values belong to the wildcards of the pattern, one for
each, and no table that holds a match is passed over. -/
theorem extract_of_align :
    (∀ {template : String} {pattern : Pattern} {address : Address} {taken : List String},
      Pattern.compile template = .ok pattern → pattern.align address = some taken →
        taken <+: address.segments ∧ taken.length = pattern.slots.length ∧
          ∃ values, pattern.extract taken = some values ∧ pattern.Binds taken values) ∧
    ∀ {r : Registry β} {kind : Kind} {address : Address} {entry : Entry β} {taken : List String},
      r.Reachable → r.matchIn kind address = some (entry, taken) →
        ∃ values, entry.pattern.extract taken = some values ∧
          ∀ kinds, r.firstMatch address (kind :: kinds) = some (entry, values) := by
  constructor
  · intro template pattern address taken hcompile halign
    have hfits := (Pattern.align_eq_some_iff pattern address taken).1 halign
    exact ⟨hfits.isPrefix, hfits.admits.length_eq.symm,
      hfits.exists_extract (Pattern.nodup_names_of_compile hcompile)⟩
  · intro r kind address entry taken hr hmatch
    obtain ⟨values, hextract, _⟩ := hr.wellFormed.firstMatch_cons_of_some hmatch []
    refine ⟨values, hextract, ?_⟩
    intro kinds
    simp [firstMatch, hmatch, hextract]

/-- A link with leading zeros and a slug at its end. -/
theorem extract_of_align_item :
    ∃ address values,
      Pattern.compile itemTemplate = .ok itemPattern ∧
      Address.parse "app://h/items/0042/a-b.pdf/old-red-coat" = .ok address ∧
      itemPattern.align address = some ["items", "0042", "a-b.pdf"] ∧
      itemPattern.extract ["items", "0042", "a-b.pdf"] = some values ∧
      itemPattern.Binds ["items", "0042", "a-b.pdf"] values ∧
      itemRegistry.Reachable ∧
      itemRegistry.firstMatch address [.composite, .action] =
        some (⟨itemTemplate, .composite, itemPattern, 7⟩, values) := by
  have haddress : Address.parse "app://h/items/0042/a-b.pdf/old-red-coat" =
      .ok ⟨"app", "h", ["items", "0042", "a-b.pdf", "old-red-coat"], false, false⟩ := rfl
  have halign : itemPattern.align
      ⟨"app", "h", ["items", "0042", "a-b.pdf", "old-red-coat"], false, false⟩ =
        some ["items", "0042", "a-b.pdf"] := rfl
  have hmatch : itemRegistry.matchIn .composite
      ⟨"app", "h", ["items", "0042", "a-b.pdf", "old-red-coat"], false, false⟩ =
        some (⟨itemTemplate, .composite, itemPattern, 7⟩, ["items", "0042", "a-b.pdf"]) := rfl
  obtain ⟨_, _, values, hextract, hbinds⟩ :=
    (@extract_of_align Nat).1 compile_itemTemplate halign
  obtain ⟨values', hextract', hfirst⟩ :=
    (@extract_of_align Nat).2 reachable_itemRegistry hmatch
  have hsame : values' = values := Option.some.inj (hextract'.symm.trans hextract)
  subst hsame
  exact ⟨_, values', compile_itemTemplate, haddress, halign, hextract, hbinds,
    reachable_itemRegistry, hfirst [.action]⟩

end Registry

end DeepLink
