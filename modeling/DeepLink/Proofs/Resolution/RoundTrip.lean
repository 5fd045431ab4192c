import DeepLink.Proofs.Pattern.Writing
import DeepLink.Proofs.Query.Writing
import DeepLink.Proofs.Registry.Reachable
import DeepLink.Resolution

/-! # Resolving undoes writing

A link may be written from a pattern, with values for its wildcards, a slug, and the pairs of a
query. Where nothing but the pattern is registered, such a link resolves to exactly what it was
written from. -/

namespace DeepLink

open DeepLink.Text

/-- The links that are written from a pattern, with the part in front of the query mark. -/
inductive Pattern.WritesLink (pattern : Pattern) (value : String → WildcardValue)
    (slug : Option String) : Option (List (String × String)) → List Char → List Char → Prop where
  | bare {clean} (h : pattern.Writes value slug clean) :
      WritesLink pattern value slug none clean clean
  | queried {clean pairs query} (h : pattern.Writes value slug clean)
      (hquery : Query.Writes pairs query) :
      WritesLink pattern value slug (some pairs) clean (clean ++ '?' :: query)

theorem Pattern.WritesLink.writes {pattern : Pattern} {value : String → WildcardValue}
    {slug : Option String} {pairs : Option (List (String × String))} {clean route : List Char}
    (h : pattern.WritesLink value slug pairs clean route) : pattern.Writes value slug clean := by
  cases h with
  | bare h => exact h
  | queried h => exact h

/-- A link is divided where its query was added, and the query says the pairs. -/
theorem Pattern.WritesLink.cuts {pattern : Pattern} {value : String → WildcardValue}
    {slug : Option String} {pairs : Option (List (String × String))} {clean route : List Char}
    (h : pattern.WritesLink value slug pairs clean route) (hmark : '?' ∉ clean) :
    ∃ query, Cuts '?' route clean query ∧ (∀ piece ∈ Query.piecesOf query, '=' ∈ piece) ∧
      (Query.piecesOf query).filterMap Query.pair? = pairs.getD [] := by
  cases h with
  | bare => exact ⟨none, .whole hmark, by simp [Query.piecesOf], rfl⟩
  | queried _ hquery =>
      obtain ⟨hpaired, hpairs⟩ := hquery.pieces_spec
      exact ⟨_, .parted hmark _, hpaired, hpairs⟩

namespace Registry

variable {β : Type}

theorem firstMatch_single {entry : Entry β} {address : Address} {taken : List String}
    {values : Dictionary WildcardValue} (halign : entry.pattern.align address = some taken)
    (hextract : entry.pattern.extract taken = some values) :
    (⟨[entry]⟩ : Registry β).firstMatch address Kind.precedence = some (entry, values) := by
  obtain ⟨key, kind, pattern, binding⟩ := entry
  cases kind with
  | direct => simp [firstMatch, Kind.precedence, matchIn, table, halign, hextract]
  | composite => simp [firstMatch, Kind.precedence, matchIn, table, halign, hextract]
  | action => simp [firstMatch, Kind.precedence, matchIn, table, halign, hextract]

/-- A link that was written from a pattern resolves to what it was written from. -/
theorem resolve_written {template : String} {pattern : Pattern} {value : String → WildcardValue}
    {slug : Option String} {pairs : Option (List (String × String))} {clean route : List Char}
    {shape : Url.Shape} (hcompile : Pattern.compile template = .ok pattern)
    (hscheme : '?' ∉ pattern.scheme.toList)
    (hwrites : pattern.WritesLink value slug pairs clean route)
    (hcheck : Url.check clean = .ok shape) (kind : Kind) (binding : β) :
    ∃ r params,
      ((empty : Registry β).register kind template binding).result = .ok r ∧
      (r.resolve (String.ofList route)).result =
        .ok (some {
          route := String.ofList route
          clean := String.ofList clean
          key := template
          kind := kind
          binding := binding
          wildcards := ⟨pattern.names.map fun name => (name, value name)⟩
          params := params }) ∧
      ∀ key, params.get? key = (pairs.getD []).lookup key := by
  have hclean := hwrites.writes
  obtain ⟨address, taken, haddress, halign, hextract⟩ := hclean.parse_eq hcompile hcheck
  obtain ⟨query, hcuts, hpaired, hpairs⟩ := hwrites.cuts (hclean.not_mem hcompile hscheme)
  obtain ⟨params, hparams, hget⟩ := Query.collect_eq_ok_of_forall_mem .empty hpaired
  refine ⟨⟨[⟨template, kind, pattern, binding⟩]⟩, params,
    register_of_compile rfl hcompile kind binding, ?_, ?_⟩
  · have hfirst := @firstMatch_single β ⟨template, kind, pattern, binding⟩ _ _ _ halign hextract
    rw [← String.toList_ofList (l := route)] at hcuts
    unfold resolve
    simp only [Query.split_eq_of_cuts hcuts, haddress, hfirst, Query.parse_eq_collect, hparams]
  · intro key
    rw [hget, hpairs]
    simp

/-- A link with escapes, zeros, a slug and a repeated key. -/
theorem resolve_written_item :
    ∃ r params,
      ((empty : Registry Nat).register .action itemTemplate 7).result = .ok r ∧
      (r.resolve "app://h/it%65ms/0042/a.b/old-red?k%3D=%C3%bc%26&k%3d=w&=").result =
        .ok (some {
          route := "app://h/it%65ms/0042/a.b/old-red?k%3D=%C3%bc%26&k%3d=w&="
          clean := "app://h/it%65ms/0042/a.b/old-red"
          key := itemTemplate
          kind := .action
          binding := 7
          wildcards := ⟨[("id", .integer 42), ("file", .text "a.b")]⟩
          params := params }) ∧
      params.get? "k=" = some "ü&" := by
  have htexts : List.Forall₂
      (Slot.Writes fun name => if name = "id" then .integer 42 else .text "a.b")
      itemPattern.slots ["items", "0042", "a.b"] := by
    have hbound : 42 < Segment.integerBound := by decide
    have hword : Segment.IsWordText "a.b" := (Segment.isWord_iff _).1 rfl
    exact .cons (.literal "items") (.cons (.integer rfl hbound 2) (.cons (.word rfl hword) .nil))
  have hslug : ∀ text ∈ some "old-red", Segment.IsHyphenated text := by
    rintro _ ⟨⟩
    exact (Segment.isSlug_iff _).1 rfl
  have hitems : Segment.Spells "items" "it%65ms".toList :=
    .plain (by decide) (.plain (by decide) (@Spelling.escaped _ 'e' _ "%65".toList _
      (.cons rfl rfl .nil) (.self rfl)))
  have hspelled : List.Forall₂ Segment.Spells (["items", "0042", "a.b"] ++ ["old-red"])
      ["it%65ms".toList, "0042".toList, "a.b".toList, "old-red".toList] :=
    .cons hitems (.cons (.self rfl) (.cons (.self rfl) (.cons (.self rfl) .nil)))
  have hfirst : Query.WritesPair ("k=", "ü&") "k%3D=%C3%bc%26".toList :=
    @Query.WritesPair.joined "k=" "ü&" "k%3D".toList "%C3%bc%26".toList
      (.plain (by decide) (@Spelling.escaped _ '=' _ "%3D".toList _ (.cons rfl rfl .nil) .nil))
      (@Spelling.escaped _ 'ü' _ "%C3%bc".toList _ (.cons rfl rfl (.cons rfl rfl .nil))
        (@Spelling.escaped _ '&' _ "%26".toList _ (.cons rfl rfl .nil) .nil))
  have hsecond : Query.WritesPair ("k=", "w") "k%3d=w".toList :=
    @Query.WritesPair.joined "k=" "w" "k%3d".toList "w".toList
      (.plain (by decide) (@Spelling.escaped _ '=' _ "%3d".toList _ (.cons rfl rfl .nil) .nil))
      (.self rfl)
  have hthird : Query.WritesPair ("", "") "=".toList :=
    @Query.WritesPair.joined "" "" [] [] .nil .nil
  have hquery : Query.Writes [("k=", "ü&"), ("k=", "w"), ("", "")]
      "k%3D=%C3%bc%26&k%3d=w&=".toList :=
    .joined (.cons hfirst (.cons hsecond (.cons hthird .nil)))
  have hlink := Pattern.WritesLink.queried (.joined htexts hslug hspelled) hquery
  have hcheck : Url.check "app://h/it%65ms/0042/a.b/old-red".toList = .ok .hierarchical := rfl
  obtain ⟨r, params, hregister, hresolve, hget⟩ :=
    resolve_written compile_itemTemplate (by decide) hlink hcheck .action 7
  exact ⟨r, params, hregister, hresolve, hget "k="⟩

end Registry

end DeepLink
