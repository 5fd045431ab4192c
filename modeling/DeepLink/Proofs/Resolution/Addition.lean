import DeepLink.Proofs.Resolution.Order

/-! # One more route

A route that is added decides a link when its pattern matches and no kind that is tried earlier has
a match. All other links are resolved as before, and no link that had a match is left without one.
-/

namespace DeepLink

/-- The kinds that are tried before a kind. -/
def Kind.earlier (kind : Kind) : List Kind :=
  precedence.takeWhile (· ≠ kind)

theorem Kind.exists_precedence_eq (kind : Kind) :
    ∃ later, precedence = kind.earlier ++ kind :: later := by
  cases kind with
  | direct => exact ⟨[.composite, .action], rfl⟩
  | composite => exact ⟨[.action], rfl⟩
  | action => exact ⟨[], rfl⟩

theorem Kind.ne_of_mem_earlier {kind other : Kind} (h : other ∈ kind.earlier) : kind ≠ other := by
  rintro rfl
  cases kind <;> simp [earlier, precedence] at h

namespace Registry

variable {β : Type}

/-- A route of a kind that is tried earlier matches the text. -/
def MatchesBefore (r : Registry β) (kind : Kind) (clean : String) : Prop :=
  ∃ entry ∈ r.entries, entry.kind ∈ kind.earlier ∧ entry.Matches clean

/-! ## What decides a resolution -/

theorem firstMatch_append (r : Registry β) (address : Address) (front rest : List Kind) :
    r.firstMatch address (front ++ rest) =
      (r.firstMatch address front).or (r.firstMatch address rest) :=
  List.findSome?_append

theorem firstMatch_congr {r other : Registry β} {address : Address} {kinds : List Kind}
    (h : ∀ kind ∈ kinds, other.matchIn kind address = r.matchIn kind address) :
    other.firstMatch address kinds = r.firstMatch address kinds := by
  induction kinds with
  | nil => rfl
  | cons kind kinds ih =>
      obtain ⟨hkind, hkinds⟩ := List.forall_mem_cons.1 h
      simp only [firstMatch, List.findSome?_cons, hkind] at ih ⊢
      rw [ih hkinds]

/-- Registries with the same first match resolve a link alike. -/
theorem resolve_congr {r other : Registry β} {route : String}
    (h : ∀ address, Address.parse (Query.split route).1 = .ok address →
      other.firstMatch address Kind.precedence = r.firstMatch address Kind.precedence) :
    other.resolve route = r.resolve route := by
  unfold resolve
  cases hparse : Address.parse (Query.split route).1 with
  | error fault => simp only [hparse]
  | ok address => simp only [hparse, h address hparse]

/-- A link is resolved to its first match, unless its query cannot be read. -/
theorem resolve_of_firstMatch {r : Registry β} {route : String} {address : Address}
    {entry : Entry β} {values : Dictionary WildcardValue}
    (hparse : Address.parse (Query.split route).1 = .ok address)
    (hfirst : r.firstMatch address Kind.precedence = some (entry, values)) :
    (r.resolve route).result =
      match Query.parse (Query.split route).2 with
      | .error piece => .error (.malformedQuery route piece)
      | .ok params => .ok (some ⟨route, (Query.split route).1, entry.key, entry.kind,
          entry.binding, values, params⟩) := by
  unfold resolve
  simp only [hparse, hfirst]
  cases Query.parse (Query.split route).2 with
  | error piece => rfl
  | ok params => rfl

/-! ## A route at the end -/

theorem matchIn_append (r : Registry β) (entry : Entry β) (kind : Kind) (address : Address) :
    (⟨r.entries ++ [entry]⟩ : Registry β).matchIn kind address =
      (r.matchIn kind address).or
        (if entry.kind = kind then
          (entry.pattern.align address).map fun taken => (entry, taken) else none) := by
  unfold matchIn table
  rw [List.filter_append, List.findSome?_append]
  by_cases hkind : entry.kind = kind
  · simp [hkind]
  · simp [hkind]

theorem matchIn_append_of_ne {entry : Entry β} {kind : Kind} (h : entry.kind ≠ kind)
    (r : Registry β) (address : Address) :
    (⟨r.entries ++ [entry]⟩ : Registry β).matchIn kind address = r.matchIn kind address := by
  rw [matchIn_append, if_neg h, Option.or_none]

/-- Where the new route does not match, every table is searched with the same outcome. -/
theorem matchIn_append_of_not_matches {entry : Entry β} {clean : String} {address : Address}
    (hparse : Address.parse clean = .ok address) (h : ¬ entry.Matches clean) (r : Registry β)
    (kind : Kind) :
    (⟨r.entries ++ [entry]⟩ : Registry β).matchIn kind address = r.matchIn kind address := by
  have halign : entry.pattern.align address = none := by
    rw [← Option.not_isSome_iff_eq_none]
    exact fun hsome => h (matches_of_align hparse hsome)
  rw [matchIn_append, halign]
  simp

/-- Where an earlier kind has a match, it decides, with the new route and without it. -/
theorem WellFormed.firstMatch_append_of_matchesBefore {r : Registry β} (hr : r.WellFormed)
    {entry : Entry β} {clean : String} {address : Address}
    (hparse : Address.parse clean = .ok address) (h : r.MatchesBefore entry.kind clean) :
    (⟨r.entries ++ [entry]⟩ : Registry β).firstMatch address Kind.precedence =
      r.firstMatch address Kind.precedence := by
  obtain ⟨later, hprecedence⟩ := entry.kind.exists_precedence_eq
  have hearlier : (⟨r.entries ++ [entry]⟩ : Registry β).firstMatch address entry.kind.earlier =
      r.firstMatch address entry.kind.earlier :=
    firstMatch_congr fun kind hkind =>
      matchIn_append_of_ne (Kind.ne_of_mem_earlier hkind) r address
  rw [hprecedence, firstMatch_append, firstMatch_append, hearlier]
  rcases hr.firstMatch_spec address entry.kind.earlier with ⟨_, hnone⟩ |
    ⟨found, _, values, _, _, hfirst, _⟩
  · obtain ⟨other, hmem, hkind, hmatches⟩ := h
    exact absurd hmatches (not_matches_of_matchIn_eq_none hparse hmem (hnone _ hkind))
  · rw [hfirst, Option.some_or, Option.some_or]

/-- Where no earlier kind has a match, and no other route of its kind, the new route decides. -/
theorem WellFormed.firstMatch_append_of_fits {r : Registry β} {entry : Entry β}
    (hnext : (⟨r.entries ++ [entry]⟩ : Registry β).WellFormed) {clean : String}
    (hclean : (⟨r.entries ++ [entry]⟩ : Registry β).Unambiguous clean) {address : Address}
    {taken : List String} (hparse : Address.parse clean = .ok address)
    (hfits : entry.pattern.Fits address taken) (hfirst : ¬ r.MatchesBefore entry.kind clean) :
    ∃ values, entry.pattern.Binds taken values ∧
      (⟨r.entries ++ [entry]⟩ : Registry β).firstMatch address Kind.precedence =
        some (entry, values) := by
  have hmatches : entry.Matches clean := ⟨address, taken, hparse, hfits⟩
  have hkeys : entry.key ∉ r.entries.map (·.key) := by
    have hnodup := hnext.nodup
    rw [List.map_append, List.nodup_append] at hnodup
    exact fun hmem => hnodup.2.2 _ hmem _ (by simp) rfl
  -- The table of the kind held no match, or two routes of one kind would match.
  have hown : r.matchIn entry.kind address = none := by
    rw [matchIn_eq_none_iff]
    intro other hmem hkind others hother
    have hsame : other.key = entry.key :=
      hclean other (by simp [hmem]) entry (by simp) hkind ⟨address, others, hparse, hother⟩ hmatches
    exact hkeys (hsame ▸ List.mem_map_of_mem hmem)
  have hmatch : (⟨r.entries ++ [entry]⟩ : Registry β).matchIn entry.kind address =
      some (entry, taken) := by
    rw [matchIn_append, hown, (Pattern.align_eq_some_iff _ _ _).2 hfits]
    simp
  obtain ⟨later, hprecedence⟩ := entry.kind.exists_precedence_eq
  obtain ⟨values, _, hbinds, hdecides⟩ := hnext.firstMatch_cons_of_some hmatch later
  refine ⟨values, hbinds, ?_⟩
  have hearlier : (⟨r.entries ++ [entry]⟩ : Registry β).firstMatch address entry.kind.earlier =
      none := by
    rcases hnext.firstMatch_spec address entry.kind.earlier with ⟨hnone, _⟩ |
      ⟨found, used, _, before, after, _, hkinds, hmem, hfound, _⟩
    · exact hnone
    · have hkind : found.kind ∈ entry.kind.earlier := by rw [hkinds]; simp
      rcases List.mem_append.1 hmem with hmem | hmem
      · exact absurd ⟨found, hmem, hkind, address, used, hparse, hfound⟩ hfirst
      · rw [List.mem_singleton.1 hmem] at hkind
        exact absurd rfl (Kind.ne_of_mem_earlier hkind)
  rw [hprecedence, firstMatch_append, hearlier, Option.none_or, hdecides]

/-- A route that is added disturbs only what it must. Let at most one route of each kind match a
link. If the new route does not match it, or a kind that is tried earlier has a match, the link is
resolved as before; otherwise it is resolved to the new route, unless its query cannot be read. In
any case a link that was not unmatched before is not unmatched now. The tables may be walked in any
order, before and after. -/
theorem resolve_after_register {r next other : Registry β} {kind : Kind} {key : String}
    {binding : β} (hr : r.Reachable) (h : (r.register kind key binding).result = .ok next)
    (hother : other.entries.Perm next.entries) (route : String) :
    ∃ entry : Entry β, entry.key = key ∧ entry.kind = kind ∧ entry.binding = binding ∧
      Pattern.compile key = .ok entry.pattern ∧
      (other.Unambiguous (Query.split route).1 →
        (¬ entry.Matches (Query.split route).1 → other.resolve route = r.resolve route) ∧
        (entry.Matches (Query.split route).1 → r.MatchesBefore kind (Query.split route).1 →
          other.resolve route = r.resolve route) ∧
        (entry.Matches (Query.split route).1 → ¬ r.MatchesBefore kind (Query.split route).1 →
          ∃ address taken values, Address.parse (Query.split route).1 = .ok address ∧
            entry.pattern.Fits address taken ∧ entry.pattern.Binds taken values ∧
            (other.resolve route).result =
              match Query.parse (Query.split route).2 with
              | .error piece => .error (.malformedQuery route piece)
              | .ok params => .ok (some {
                  route := route
                  clean := (Query.split route).1
                  key := key
                  kind := kind
                  binding := binding
                  wildcards := values
                  params := params }))) ∧
      ((r.resolve route).result ≠ .ok none → (other.resolve route).result ≠ .ok none) := by
  have hnext : next.WellFormed := hr.wellFormed.register h
  obtain ⟨pattern, _, hcompile, rfl⟩ := register_eq_ok h
  refine ⟨⟨key, kind, pattern, binding⟩, rfl, rfl, rfl, hcompile, fun hunambiguous => ?_, ?_⟩
  · have hclean := hunambiguous.reorder hother.symm
    rw [hnext.resolve_eq_of_perm hclean hother]
    refine ⟨fun hnot => ?_, fun _ hbefore => ?_, fun hmatches hbefore => ?_⟩
    · exact resolve_congr fun address hparse =>
        firstMatch_congr fun kind _ => matchIn_append_of_not_matches hparse hnot r kind
    · exact resolve_congr fun address hparse =>
        hr.wellFormed.firstMatch_append_of_matchesBefore hparse hbefore
    · obtain ⟨address, taken, hparse, hfits⟩ := hmatches
      obtain ⟨values, hbinds, hfirst⟩ :=
        hnext.firstMatch_append_of_fits hclean hparse hfits hbefore
      exact ⟨address, taken, values, hparse, hfits, hbinds, resolve_of_firstMatch hparse hfirst⟩
  · rw [ne_eq, ne_eq, hr.wellFormed.resolve_eq_none_iff, (hnext.reorder hother).resolve_eq_none_iff]
    intro hmatched hnone
    refine hmatched fun entry hmem => hnone entry (hother.mem_iff.2 ?_)
    exact List.mem_append_left _ hmem

/-- A template for one file of every item. -/
def fileTemplate : String := "app://h/items/i:\x7bnumber\x7d/a.b"

/-- The template, compiled. -/
def filePattern : Pattern :=
  ⟨"app", "h", [.literal "items", .wildcard "number" .integer, .literal "a.b"]⟩

/-- The registry of the items, with the file as a direct route in front. -/
def fileRegistry : Registry Nat :=
  ⟨⟨fileTemplate, .direct, filePattern, 5⟩ :: itemRegistry.entries⟩

/-- A direct route and a composite one are no ties, whatever link they match. -/
theorem unambiguous_fileRegistry (clean : String) : fileRegistry.Unambiguous clean := by
  have hkeys : ∀ a ∈ fileRegistry.entries, ∀ b ∈ fileRegistry.entries, a.kind = b.kind →
      a.key = b.key := by decide
  intro a ha b hb hkinds _ _
  exact hkeys a ha b hb hkinds

/-- A direct route is added, and decides a link that was an item's before. The link has leading
zeros, a slug and a query. -/
theorem resolve_after_register_file :
    itemRegistry.Reachable ∧
      (itemRegistry.register .direct fileTemplate 5).result =
        .ok ⟨itemRegistry.entries ++ [⟨fileTemplate, .direct, filePattern, 5⟩]⟩ ∧
      (itemRegistry.resolve "app://h/items/042/a.b/old-red?k=v").result ≠ .ok none ∧
      ∃ values params,
        filePattern.Binds ["items", "042", "a.b"] values ∧
        (fileRegistry.resolve "app://h/items/042/a.b/old-red?k=v").result =
          .ok (some {
            route := "app://h/items/042/a.b/old-red?k=v"
            clean := "app://h/items/042/a.b/old-red"
            key := fileTemplate
            kind := .direct
            binding := 5
            wildcards := values
            params := params }) := by
  have hregister : (itemRegistry.register .direct fileTemplate 5).result =
      .ok ⟨itemRegistry.entries ++ [⟨fileTemplate, .direct, filePattern, 5⟩]⟩ := rfl
  have hperm : fileRegistry.entries.Perm
      (itemRegistry.entries ++ [⟨fileTemplate, .direct, filePattern, 5⟩]) :=
    (List.perm_append_singleton _ itemRegistry.entries).symm
  have hcompile : Pattern.compile fileTemplate = .ok filePattern := rfl
  have hparse : Address.parse "app://h/items/042/a.b/old-red" =
      .ok ⟨"app", "h", ["items", "042", "a.b", "old-red"], false, false⟩ := rfl
  have hfound : (itemRegistry.resolve "app://h/items/042/a.b/old-red?k=v").result ≠ .ok none := by
    rw [ne_eq, reachable_itemRegistry.wellFormed.resolve_eq_none_iff]
    exact fun hnone => hnone _ (List.mem_singleton.2 rfl) (matches_of_align hparse rfl)
  obtain ⟨entry, _, _, _, hentry, hdecides, _⟩ := resolve_after_register reachable_itemRegistry
    hregister hperm "app://h/items/042/a.b/old-red?k=v"
  have hpattern : entry.pattern = filePattern := Except.ok.inj (hentry.symm.trans hcompile)
  obtain ⟨_, _, hnew⟩ := hdecides (unambiguous_fileRegistry _)
  have hmatches : entry.Matches "app://h/items/042/a.b/old-red" :=
    matches_of_align hparse (by rw [hpattern]; rfl)
  have hbefore : ¬ itemRegistry.MatchesBefore .direct "app://h/items/042/a.b/old-red" := by
    rintro ⟨_, _, hkind, _⟩
    cases hkind
  obtain ⟨address, taken, values, haddress, hfits, hbinds, hresult⟩ := hnew hmatches hbefore
  obtain rfl := Except.ok.inj (hparse.symm.trans haddress)
  rw [hpattern] at hfits hbinds
  have halign := (Pattern.align_eq_some_iff _ _ _).2 hfits
  obtain rfl : ["items", "042", "a.b"] = taken := Option.some.inj halign
  exact ⟨reachable_itemRegistry, hregister, hfound, values, ⟨[("k", "v")]⟩, hbinds, hresult⟩

end Registry

end DeepLink
