import DeepLink.Proofs.Registry.Reachable
import DeepLink.Proofs.Resolution.Correctness
import DeepLink.Proofs.Url.Shape

/-! # Marks of queries and fragments in patterns

A template with a query or a fragment is no pattern. Their marks are looked for behind the first
`://`, where an authority is expected. A URL need not have its authority there: its path may begin
right behind the colon, and hold a mark and a `://` behind it. Such a template is compiled, with the
mark in its scheme, and no other template with a mark is. -/

namespace DeepLink

open DeepLink.Text

namespace Address

/-! ## Where the first colon and the first authority mark stand -/

/-- Whether a text holds the mark of a query or of a fragment. -/
def Marked (text : List Char) : Prop := '?' ∈ text ∨ '#' ∈ text

/-- The first colon of a text begins its first `://`. -/
def OpensAtColon (text : List Char) : Prop :=
  ∃ scheme rest, Cuts ':' text scheme (some ('/' :: '/' :: rest))

/-- The first colon of a text comes before its first `://`, and all marks stand between the two. -/
structure HidesMarks (text front inner rest : List Char) : Prop where
  authority : cutAtWord authorityMark text = some (front ++ ':' :: inner, rest)
  front : ':' ∉ front ∧ ¬ Marked front
  inner : Marked inner
  rest : ¬ Marked rest

theorem marked_append (a b : List Char) : Marked (a ++ b) ↔ Marked a ∨ Marked b := by
  simp only [Marked, List.mem_append]
  tauto

theorem marked_authorityMark_append (text : List Char) :
    Marked (authorityMark ++ text) ↔ Marked text := by
  simp [Marked, authorityMark]

theorem cutAtWord_of_cuts {text scheme rest : List Char}
    (h : Cuts ':' text scheme (some ('/' :: '/' :: rest))) :
    cutAtWord authorityMark text = some (scheme, rest) := by
  cases h with
  | parted hcolon => simpa [authorityMark] using cutAtWord_of_not_mem hcolon ['/', '/'] rest

/-- A text opens at its first colon when the part before the first `://` holds no colon. -/
theorem opensAtColon_iff {text scheme rest : List Char}
    (h : cutAtWord authorityMark text = some (scheme, rest)) :
    OpensAtColon text ↔ ':' ∉ scheme := by
  constructor
  · rintro ⟨scheme', rest', hcuts⟩
    have hsame := h.symm.trans (cutAtWord_of_cuts hcuts)
    injection hsame with hsame
    injection hsame with hscheme _
    exact hscheme ▸ hcuts.not_mem
  · intro hcolon
    have htext : text = scheme ++ ':' :: '/' :: '/' :: rest := by
      simpa [authorityMark] using eq_append_of_cutAtWord h
    exact ⟨scheme, rest, htext ▸ .parted hcolon _⟩

theorem HidesMarks.not_opensAtColon {text front inner rest : List Char}
    (h : HidesMarks text front inner rest) : ¬ OpensAtColon text := by
  rw [opensAtColon_iff h.authority]
  simp

/-! ## What stands in front of the first colon -/

/-- The part of an address in front of its first colon holds neither a mark nor a slash. -/
theorem not_mem_front_of_parse {text : String} {address : Address} {front rest : List Char}
    (h : parse text = .ok address) (htext : text.toList = front ++ ':' :: rest)
    (hcolon : ':' ∉ front) : ¬ Marked front ∧ '/' ∉ front := by
  have hcheck := ((parse_eq_ok_iff text address).1 h).1
  rw [htext] at hcheck
  have hclean : ∀ c ∈ front, c ≠ '?' ∧ c ≠ '#' ∧ c ≠ '/' := by
    intro c hc
    have hchar := Url.schemeChar_of_check hcheck hcolon hc
    refine ⟨?_, ?_, ?_⟩
    · rintro rfl
      exact absurd hchar (by decide)
    · rintro rfl
      exact absurd hchar (by decide)
    · rintro rfl
      exact absurd hchar (by decide)
  refine ⟨?_, fun hmem => (hclean '/' hmem).2.2 rfl⟩
  rintro (hmem | hmem)
  · exact (hclean '?' hmem).1 rfl
  · exact (hclean '#' hmem).2.1 rfl

/-- Behind the first `://` of an address without a query and a fragment no mark stands. -/
theorem exists_rest_of_parse {text : String} {address : Address} (h : parse text = .ok address)
    (hquery : address.hasQuery = false) (hfragment : address.hasFragment = false) :
    ∃ rest, cutAtWord authorityMark text.toList = some (address.scheme.toList, rest) ∧
      ¬ Marked rest := by
  have hcut := ((parse_eq_ok_iff text address).1 h).2
  obtain ⟨path, tail, hlayout, _⟩ := exists_layout_of_cut hcut
  obtain ⟨hnoQuery, hnoFragment⟩ := not_mem_of_cut hlayout.authority hcut hquery hfragment
  exact ⟨_, hlayout.authority, not_or.2 ⟨hnoQuery, hnoFragment⟩⟩

/-- An address that holds a mark, but is read without a query and a fragment, hides it. -/
theorem exists_hidesMarks_of_parse {text : String} {address : Address}
    (h : parse text = .ok address) (hquery : address.hasQuery = false)
    (hfragment : address.hasFragment = false) (hmarked : Marked text.toList) :
    ∃ front inner rest, HidesMarks text.toList front inner rest := by
  obtain ⟨rest, hauthority, hrest⟩ := exists_rest_of_parse h hquery hfragment
  have htext := eq_append_of_cutAtWord hauthority
  have hscheme : Marked address.scheme.toList := by
    rw [htext, List.append_assoc, marked_append, marked_authorityMark_append] at hmarked
    exact hmarked.resolve_right hrest
  by_cases hcolon : ':' ∈ address.scheme.toList
  · obtain ⟨front, inner, hparts, hfront⟩ := List.eq_append_cons_of_mem hcolon
    rw [hparts] at hauthority htext hscheme
    have hclean : ¬ Marked front :=
      (not_mem_front_of_parse h (by simpa using htext) hfront).1
    refine ⟨front, inner, rest, hauthority, ⟨hfront, hclean⟩, ?_, hrest⟩
    rw [marked_append] at hscheme
    simpa [Marked] using hscheme.resolve_left hclean
  · have hclean := (not_mem_front_of_parse h (by simpa [authorityMark] using htext) hcolon).1
    exact absurd hscheme hclean

end Address

namespace Pattern

/-! ## Compiled templates -/

/-- Behind the first `://` of a compiled template no mark stands. -/
theorem exists_rest_of_compile {template : String} {pattern : Pattern}
    (h : compile template = .ok pattern) :
    ∃ rest, cutAtWord Address.authorityMark template.toList =
      some (pattern.scheme.toList, rest) ∧ ¬ Address.Marked rest := by
  obtain ⟨address, haddress, hpattern⟩ := (compile_eq_ok_iff template pattern).1 h
  rw [hpattern.scheme]
  exact Address.exists_rest_of_parse haddress hpattern.no_query hpattern.no_fragment

theorem exists_hidesMarks_of_compile {template : String} {pattern : Pattern}
    (h : compile template = .ok pattern) (hmarked : Address.Marked template.toList) :
    ∃ front inner rest, Address.HidesMarks template.toList front inner rest := by
  obtain ⟨address, haddress, hpattern⟩ := (compile_eq_ok_iff template pattern).1 h
  exact Address.exists_hidesMarks_of_parse haddress hpattern.no_query hpattern.no_fragment hmarked

/-- A compiled template that opens at its first colon has a scheme without marks and slashes. -/
theorem scheme_of_compile {template : String} {pattern : Pattern}
    (h : compile template = .ok pattern) (hopens : Address.OpensAtColon template.toList) :
    (¬ Address.Marked pattern.scheme.toList ∧ '/' ∉ pattern.scheme.toList) ∧
      ∃ rest, Cuts ':' template.toList pattern.scheme.toList (some ('/' :: '/' :: rest)) := by
  obtain ⟨address, haddress, _⟩ := (compile_eq_ok_iff template pattern).1 h
  obtain ⟨rest, hauthority, _⟩ := exists_rest_of_compile h
  have hcolon := (Address.opensAtColon_iff hauthority).1 hopens
  have htext : template.toList = pattern.scheme.toList ++ ':' :: '/' :: '/' :: rest := by
    simpa [Address.authorityMark] using eq_append_of_cutAtWord hauthority
  exact ⟨Address.not_mem_front_of_parse haddress htext hcolon, rest, htext ▸ .parted hcolon _⟩

/-- A pattern whose template holds a question mark fits no text without one. -/
theorem not_matches_of_mem {β : Type} {entry : Entry β} (h : compile entry.key = .ok entry.pattern)
    (hmark : '?' ∈ entry.key.toList) {clean : String} (hclean : '?' ∉ clean.toList) :
    ¬ entry.Matches clean := by
  rintro ⟨address, taken, haddress, hfits⟩
  obtain ⟨rest, hauthority, hrest⟩ := exists_rest_of_compile h
  have hscheme : '?' ∈ entry.pattern.scheme.toList := by
    have hrest' : '?' ∉ rest := fun hmem => hrest (.inl hmem)
    rw [eq_append_of_cutAtWord hauthority] at hmark
    simpa [Address.authorityMark, hrest'] using hmark
  obtain ⟨path, tail, hlayout, _⟩ :=
    Address.exists_layout_of_cut ((Address.parse_eq_ok_iff clean address).1 haddress).2
  rw [hfits.scheme] at hscheme
  apply hclean
  rw [eq_append_of_cutAtWord hlayout.authority]
  simp [hscheme]

/-- A template with the mark of a query or of a fragment is refused when it opens at its first
colon: as no address, or for the query or fragment. One that is compiled all the same has its marks
between its first colon and its first `://`. A compiled template that opens at its first colon has a
scheme without marks and slashes, and `://` follows it there; any other has a colon in its scheme.
So a registry holds no marked template that opens at its first colon, and a template with a question
mark is never matched. -/
theorem compile_of_marked {β : Type} :
    (∀ template : String, Address.OpensAtColon template.toList →
      Address.Marked template.toList → compile template = .error .hasTail ∨
        ∃ fault, Address.parse template = .error fault ∧
          compile template = .error (.address fault)) ∧
    (∀ template pattern, compile template = .ok pattern → Address.Marked template.toList →
      ∃ front inner rest, Address.HidesMarks template.toList front inner rest) ∧
    (∀ template pattern, compile template = .ok pattern →
      (Address.OpensAtColon template.toList →
        (¬ Address.Marked pattern.scheme.toList ∧ '/' ∉ pattern.scheme.toList) ∧
          ∃ rest, Cuts ':' template.toList pattern.scheme.toList (some ('/' :: '/' :: rest))) ∧
      (¬ Address.OpensAtColon template.toList → ':' ∈ pattern.scheme.toList)) ∧
    ∀ r : Registry β, r.Reachable → ∀ entry ∈ r.entries,
      (Address.OpensAtColon entry.key.toList → ¬ Address.Marked entry.key.toList) ∧
      ('?' ∈ entry.key.toList → ∀ clean : String, '?' ∉ clean.toList →
        ¬ entry.Matches clean) := by
  refine ⟨?_, fun _ _ => exists_hidesMarks_of_compile, ?_, ?_⟩
  · intro template hopens hmarked
    cases haddress : Address.parse template with
    | error fault => exact .inr ⟨fault, rfl, by simp only [compile, haddress]⟩
    | ok address =>
        have htail : address.hasQuery || address.hasFragment := by
          by_contra hnone
          obtain ⟨hquery, hfragment⟩ : address.hasQuery = false ∧ address.hasFragment = false := by
            simpa using hnone
          obtain ⟨_, _, _, hhides⟩ :=
            Address.exists_hidesMarks_of_parse haddress hquery hfragment hmarked
          exact hhides.not_opensAtColon hopens
        exact .inl (by simp only [compile, haddress, htail, if_true])
  · intro template pattern hcompile
    refine ⟨scheme_of_compile hcompile, fun hopens => ?_⟩
    obtain ⟨rest, hauthority, _⟩ := exists_rest_of_compile hcompile
    rw [Address.opensAtColon_iff hauthority] at hopens
    exact not_not.1 hopens
  · intro r hr entry hentry
    have hcompile := hr.wellFormed.compiled entry hentry
    refine ⟨fun hopens hmarked => ?_, fun hmark clean => not_matches_of_mem hcompile hmark⟩
    obtain ⟨_, _, _, hhides⟩ := exists_hidesMarks_of_compile hcompile hmarked
    exact hhides.not_opensAtColon hopens

/-- A page with a query is refused, the template of an item has a plain scheme, and a template that
hides a question mark is compiled. -/
theorem compile_of_marked_page :
    Address.OpensAtColon "app://h/x?k".toList ∧ Address.Marked "app://h/x?k".toList ∧
      compile "app://h/x?k" = .error .hasTail ∧
      (∀ entry ∈ Registry.itemRegistry.entries, ¬ Address.Marked entry.key.toList) ∧
      compile Registry.itemTemplate = .ok Registry.itemPattern ∧
      ('/' ∉ Registry.itemPattern.scheme.toList) ∧
      compile "a:/b?x://h" = .ok ⟨"a:/b?x", "h", []⟩ ∧
      (∃ front inner rest, Address.HidesMarks "a:/b?x://h".toList front inner rest) := by
  have hplain : ':' ∉ "app".toList := by decide
  have hopens : Address.OpensAtColon "app://h/x?k".toList :=
    ⟨"app".toList, "h/x?k".toList, .parted hplain _⟩
  have hitem : Address.OpensAtColon Registry.itemTemplate.toList :=
    ⟨"app".toList, "h/items/i:\x7bid\x7d/s:\x7bfile\x7d".toList, .parted hplain _⟩
  have hmarked : Address.Marked "app://h/x?k".toList := .inl (by decide)
  have hhidden : compile "a:/b?x://h" = .ok ⟨"a:/b?x", "h", []⟩ := rfl
  obtain ⟨hrefused, hhides, hscheme, hregistry⟩ := compile_of_marked (β := Nat)
  obtain ⟨⟨_, hslash⟩, _⟩ := (hscheme _ _ Registry.compile_itemTemplate).1 hitem
  refine ⟨hopens, hmarked, ?_, ?_, Registry.compile_itemTemplate, hslash, hhidden,
    hhides _ _ hhidden (.inl (by decide))⟩
  · rcases hrefused _ hopens hmarked with htail | ⟨fault, hparse, _⟩
    · exact htail
    · cases hparse
  · intro entry hentry
    obtain ⟨hclean, _⟩ := hregistry _ Registry.reachable_itemRegistry entry hentry
    obtain rfl := List.mem_singleton.1 hentry
    exact hclean hitem

/-- A path right behind the colon hides a question mark from the compiler. The template is
registered, and its own text does not resolve. -/
theorem compile_hidden_query :
    '?' ∈ "a:/b?x://h".toList ∧ compile "a:/b?x://h" = .ok ⟨"a:/b?x", "h", []⟩ ∧
      ∃ r : Registry String,
        ((Registry.empty : Registry String).register .direct "a:/b?x://h" "X").result = .ok r ∧
          r.contains "a:/b?x://h" ∧ (r.resolve "a:/b?x://h").result = .ok none :=
  ⟨by decide, rfl, _, rfl, rfl, rfl⟩

end Pattern

end DeepLink
