import DeepLink.Proofs.Resolution.Correctness
import DeepLink.Proofs.Resolution.Query
import DeepLink.Proofs.Url.Shape

/-! # Links with a fragment

An address leaves its fragment out before anything is compared, so a fragment has no part in the
match. The query of a link is cut off first, though, and it ends where the link ends: a fragment
behind it is read as part of the query, and so is whatever follows a question mark in a fragment. -/

namespace DeepLink

open DeepLink.Text

/-! ## Addresses with a fragment -/

namespace Address

/-- A fragment behind a text with a scheme only leaves its mark. -/
theorem cut_append_fragment {text : List Char} (hmark : '#' ∉ text)
    (hauthority : authorityMark <:+: text) (fragment : List Char) :
    cut (text ++ '#' :: fragment) =
      (cut text).map fun address => { address with hasFragment := true } := by
  obtain ⟨scheme, rest, hscheme⟩ := exists_cutAtWord hauthority
  have htext := eq_append_of_cutAtWord hscheme
  have hrest : '#' ∉ rest := by
    intro hmem
    exact hmark (htext ▸ List.mem_append_right _ hmem)
  have hlong : cutAtWord authorityMark (text ++ '#' :: fragment) =
      some (scheme, rest ++ '#' :: fragment) := by
    conv_lhs => rw [htext]
    rw [List.append_assoc]
    exact cutAtWord_authorityMark hscheme _
  rw [authorityMark] at hscheme hlong
  unfold cut
  rw [hscheme, hlong]
  simp only [cutAt_append hrest, cutAt_of_not_mem hrest]
  split
  · rfl
  · rfl

theorem toOption_parse_of_check {text : List Char} {shape : Url.Shape}
    (h : Url.check text = .ok shape) :
    (parse (String.ofList text)).toOption =
      if shape = .hierarchical then (cut text).toOption else none := by
  unfold parse
  rw [String.toList_ofList, h]
  cases shape with
  | hierarchical => rfl
  | rootless => rfl

/-- Without an authority there is no address, whatever the shape. -/
theorem toOption_parse_of_no_authority {text : List Char} {shape : Url.Shape}
    (h : Url.check text = .ok shape) (hauthority : ¬ authorityMark <:+: text) :
    (parse (String.ofList text)).toOption = none := by
  have hcut : cut text = .error .noAuthorityMark := by
    have hnone := (cutAtWord_eq_none_iff _ _).2 hauthority
    rw [authorityMark] at hnone
    rw [cut, hnone]
  rw [toOption_parse_of_check h, hcut]
  exact ite_self none

/-- A text is the same address with a fragment behind it, unless its first `://` stands in the
fragment. -/
theorem toOption_parse_fragment {text fragment : List Char} {shape shape' : Url.Shape}
    (hmark : '#' ∉ text) (hcheck : Url.check text = .ok shape)
    (hcheck' : Url.check (text ++ '#' :: fragment) = .ok shape')
    (hauthority : authorityMark <:+: text ++ '#' :: fragment → authorityMark <:+: text) :
    (parse (String.ofList (text ++ '#' :: fragment))).toOption =
      (parse (String.ofList text)).toOption.map fun address =>
        { address with hasFragment := true } := by
  by_cases hinfix : authorityMark <:+: text
  · have hcut := cut_append_fragment hmark hinfix fragment
    -- What stands up to the mark settles the shape of both texts.
    obtain ⟨front, rest, htext⟩ := hinfix
    have hlong : text ++ '#' :: fragment = front ++ authorityMark ++ (rest ++ '#' :: fragment) := by
      rw [← htext, List.append_assoc]
    have hshape : shape' = shape := by
      rw [hlong] at hcheck'
      rw [← htext] at hcheck
      exact Url.shape_eq_of_check hcheck' hcheck
    rw [toOption_parse_of_check hcheck, toOption_parse_of_check hcheck', hshape, hcut]
    split
    · cases cut text with
      | error fault => rfl
      | ok address => rfl
    · rfl
  · rw [toOption_parse_of_no_authority hcheck hinfix,
      toOption_parse_of_no_authority hcheck' (fun hlong => hinfix (hauthority hlong))]
    rfl

/-- A text whose first `://` stands in its fragment has the mark of the fragment in its scheme. -/
theorem mem_scheme_of_cut {text fragment : List Char} {address : Address}
    (hauthority : ¬ authorityMark <:+: text)
    (h : cut (text ++ '#' :: fragment) = .ok address) : '#' ∈ address.scheme.toList := by
  obtain ⟨path, tail, hlayout, _⟩ := exists_layout_of_cut h
  have htext := eq_append_of_cutAtWord hlayout.authority
  apply Decidable.of_not_not
  intro hscheme
  have hfront : '#' ∉ address.scheme.toList ++ authorityMark := by
    rw [List.mem_append, not_or]
    exact ⟨hscheme, by decide⟩
  have hshort := prefix_of_append_eq hfront htext.symm
  exact hauthority ((List.suffix_append _ _).isInfix.trans hshort.isInfix)

end Address

/-! ## What the query of a link with a fragment is -/

/-- A fragment behind a query makes it longer; otherwise the query of the fragment, if it has one,
is the query of the link. -/
theorem cuts_fragment {text fragment clean clean' : List Char} {query query' : Option (List Char)}
    (h : Cuts '?' text clean query) (h' : Cuts '?' (text ++ '#' :: fragment) clean' query') :
    (∃ asked, query = some asked ∧ clean' = clean ∧ query' = some (asked ++ '#' :: fragment)) ∨
      ∃ front, query = none ∧ clean = text ∧ Cuts '?' fragment front query' ∧
        clean' = text ++ '#' :: front := by
  cases h with
  | whole hmark =>
      have hfragment := cuts_cutAt '?' fragment
      have hfront : '?' ∉ text ++ ['#'] := by simp [hmark]
      have hlong := hfragment.append_left hfront
      simp only [List.append_assoc, List.singleton_append] at hlong
      obtain ⟨hclean, hquery⟩ := h'.unique hlong
      refine .inr ⟨_, rfl, rfl, ?_, hclean⟩
      rw [hquery]
      exact hfragment
  | parted hmark asked =>
      rw [List.append_assoc, List.cons_append] at h'
      have hlong : Cuts '?' (clean ++ '?' :: (asked ++ '#' :: fragment)) clean
        (some (asked ++ '#' :: fragment)) := .parted hmark _
      obtain ⟨hclean, hquery⟩ := h'.unique hlong
      exact .inl ⟨asked, rfl, hclean, hquery⟩

/-! ## Outcomes -/

/-- Two queries say the same, or neither can be read. -/
inductive Query.SameReading :
    Except String (Dictionary String) → Except String (Dictionary String) → Prop where
  | refused {piece piece'} : SameReading (.error piece) (.error piece')
  | read {params params' : Dictionary String} (h : ∀ key, params.get? key = params'.get? key) :
      SameReading (.ok params) (.ok params')

/-- Two links come to the same: both are unmatched, both queries are refused, or both links are
resolved to one match with the same parameters. -/
inductive SameOutcome {β : Type} : Except RouteError (Option (Resolution β)) →
    Except RouteError (Option (Resolution β)) → Prop where
  | unmatched : SameOutcome (.ok none) (.ok none)
  | refused {route route' piece piece'} :
      SameOutcome (.error (.malformedQuery route piece)) (.error (.malformedQuery route' piece'))
  | resolved {found found' : Resolution β} (h : found.SameMatch found')
      (hparams : ∀ key, found.params.get? key = found'.params.get? key) :
      SameOutcome (.ok (some found)) (.ok (some found'))

namespace Registry

variable {β : Type} {r : Registry β}

/-- Two links with the same winner come to the same exactly when nothing matches them, or their
queries say the same. -/
theorem sameOutcome_iff {route other : String} {clean clean' : List Char}
    {query query' : Option (List Char)} (h : Cuts '?' route.toList clean query)
    (h' : Cuts '?' other.toList clean' query')
    (hwinner : r.winner? (String.ofList clean') = r.winner? (String.ofList clean)) :
    SameOutcome (r.resolve other).result (r.resolve route).result ↔
      (r.resolve route).result = .ok none ∨
        Query.SameReading (Query.parse (query'.map String.ofList))
          (Query.parse (query.map String.ofList)) := by
  rw [result_resolve, result_resolve, Query.split_eq_of_cuts h, Query.split_eq_of_cuts h']
  dsimp only
  rw [hwinner]
  cases r.winner? (String.ofList clean) with
  | none => exact ⟨fun _ => .inl rfl, fun _ => .unmatched⟩
  | some won =>
      generalize Query.parse (query'.map String.ofList) = reading'
      generalize Query.parse (query.map String.ofList) = reading
      constructor
      · intro hsame
        refine .inr ?_
        cases reading' with
        | error piece' =>
            cases reading with
            | error piece => exact .refused
            | ok params => cases hsame
        | ok params' =>
            cases reading with
            | error piece => cases hsame
            | ok params =>
                cases hsame with
                | resolved _ hparams => exact .read hparams
      · rintro (hnone | hreading)
        · cases reading with
          | error piece => cases hnone
          | ok params => cases hnone
        · cases hreading with
          | refused => exact .refused
          | read hparams => exact .resolved ⟨rfl, rfl, rfl, rfl⟩ hparams

/-- The fragment has no part in the match, unless the first `://` of the text stands in it. -/
theorem winner?_fragment (r : Registry β) {text fragment : List Char} {shape shape' : Url.Shape}
    (hmark : '#' ∉ text) (hcheck : Url.check text = .ok shape)
    (hcheck' : Url.check (text ++ '#' :: fragment) = .ok shape')
    (hauthority : Address.authorityMark <:+: text ++ '#' :: fragment →
      Address.authorityMark <:+: text) :
    r.winner? (String.ofList (text ++ '#' :: fragment)) = r.winner? (String.ofList text) := by
  rw [winner?, winner?, Address.toOption_parse_fragment hmark hcheck hcheck' hauthority,
    Option.bind_map]
  refine congrArg _ (funext fun address => ?_)
  exact firstMatch_eq_of_align (fun _ _ => rfl) _

/-- Without any `://` in front of its query a link is unmatched. -/
theorem result_eq_none_of_no_authority (r : Registry β) {route : String} {clean : List Char}
    {query : Option (List Char)} {shape : Url.Shape} (h : Cuts '?' route.toList clean query)
    (hcheck : Url.check clean = .ok shape) (hauthority : ¬ Address.authorityMark <:+: clean) :
    (r.resolve route).result = .ok none := by
  rw [result_eq_none_iff h, winner?, Address.toOption_parse_of_no_authority hcheck hauthority]
  rfl

/-- A fragment has no part in the match of a link, but it has one in the query. Behind a query it
makes the query longer, and what follows a question mark in it is read as a query. The link comes to
the same as without its fragment exactly when nothing matches it or both queries say the same, and
so it does where there is no question mark. Only a text without any `://` in front of its fragment
may differ in the match too: it is unmatched, and with the fragment it is matched by nothing but
patterns that hold the mark in their scheme. -/
theorem resolve_fragment (r : Registry β) {base fragment : String} {clean clean' : List Char}
    {query query' : Option (List Char)} {shape shape' : Url.Shape} (hmark : '#' ∉ base.toList)
    (h : Cuts '?' base.toList clean query)
    (h' : Cuts '?' (base ++ "#" ++ fragment).toList clean' query')
    (hcheck : Url.check clean = .ok shape) (hcheck' : Url.check clean' = .ok shape') :
    ((∃ asked, query = some asked ∧ clean' = clean ∧
        query' = some (asked ++ '#' :: fragment.toList)) ∨
      ∃ front, query = none ∧ clean = base.toList ∧ Cuts '?' fragment.toList front query' ∧
        clean' = base.toList ++ '#' :: front) ∧
    ((Address.authorityMark <:+: clean' → Address.authorityMark <:+: clean) →
      ((r.resolve (base ++ "#" ++ fragment)).result = .ok none ↔
        (r.resolve base).result = .ok none) ∧
      (∀ {found found'}, (r.resolve base).result = .ok (some found) →
        (r.resolve (base ++ "#" ++ fragment)).result = .ok (some found') →
          found'.SameMatch found) ∧
      (query' = none →
        SameOutcome (r.resolve (base ++ "#" ++ fragment)).result (r.resolve base).result) ∧
      (SameOutcome (r.resolve (base ++ "#" ++ fragment)).result (r.resolve base).result ↔
        (r.resolve base).result = .ok none ∨
          Query.SameReading (Query.parse (query'.map String.ofList))
            (Query.parse (query.map String.ofList)))) ∧
    (Address.authorityMark <:+: clean' → ¬ Address.authorityMark <:+: clean →
      (r.resolve base).result = .ok none ∧
        ∀ entry ∈ r.entries, entry.Matches (String.ofList clean') →
          '#' ∈ entry.pattern.scheme.toList) := by
  have hroute : (base ++ "#" ++ fragment).toList = base.toList ++ '#' :: fragment.toList := by
    simp
  have hqueries := cuts_fragment h (hroute ▸ h')
  refine ⟨hqueries, fun hauthority => ?_, fun hlong hshort => ?_⟩
  · have hwinner : r.winner? (String.ofList clean') = r.winner? (String.ofList clean) := by
      rcases hqueries with ⟨_, _, rfl, _⟩ | ⟨front, _, rfl, _, rfl⟩
      · rfl
      · exact winner?_fragment r hmark hcheck hcheck' hauthority
    obtain ⟨hunmatched, hsame⟩ := sameMatch_of_winner? h h' hwinner
    refine ⟨hunmatched, hsame, fun hnone => ?_, sameOutcome_iff h h' hwinner⟩
    refine (sameOutcome_iff h h' hwinner).2 (.inr ?_)
    rcases hqueries with ⟨_, _, _, hsome⟩ | ⟨_, hquery, _, _, _⟩
    · rw [hsome] at hnone
      cases hnone
    · rw [hnone, hquery]
      exact .read fun _ => rfl
  · rcases hqueries with ⟨_, _, rfl, _⟩ | ⟨front, _, rfl, _, rfl⟩
    · exact absurd hlong hshort
    · refine ⟨result_eq_none_of_no_authority r h hcheck hshort, ?_⟩
      rintro entry _ ⟨address, taken, hparse, hfits⟩
      have hcut := ((Address.parse_eq_ok_iff _ _).1 hparse).2
      rw [String.toList_ofList] at hcut
      rw [hfits.scheme]
      exact Address.mem_scheme_of_cut hshort hcut

/-- A registry of one page. -/
def pageRegistry : Registry String :=
  ⟨[⟨"app://h/x", .direct, ⟨"app", "h", [.literal "x"]⟩, "X"⟩]⟩

/-- The page is found with a fragment as it is without one; a question mark in the fragment gives
the link a parameter of its own. -/
theorem resolve_fragment_page :
    Url.check "app://h/x".toList = .ok .hierarchical ∧
      Url.check ("app://h/x" ++ "#" ++ "top").toList = .ok .hierarchical ∧
      (pageRegistry.resolve "app://h/x").result ≠ .ok none ∧
      SameOutcome (pageRegistry.resolve ("app://h/x" ++ "#" ++ "top")).result
        (pageRegistry.resolve "app://h/x").result ∧
      ¬ SameOutcome (pageRegistry.resolve ("app://h/x" ++ "#" ++ "top?k=v")).result
        (pageRegistry.resolve "app://h/x").result := by
  have hcheck : Url.check "app://h/x".toList = .ok .hierarchical := rfl
  have hcheck' : Url.check "app://h/x#top".toList = .ok .hierarchical := rfl
  have hmark : '#' ∉ "app://h/x".toList := by decide
  have hauthority : Address.authorityMark <:+: "app://h/x".toList :=
    ⟨"app".toList, "h/x".toList, rfl⟩
  have hcuts : Cuts '?' "app://h/x".toList "app://h/x".toList none := .whole (by decide)
  have hlong : Cuts '?' ("app://h/x" ++ "#" ++ "top").toList "app://h/x#top".toList none :=
    .whole (by decide)
  have hfront : '?' ∉ "app://h/x#top".toList := by decide
  have hasked : Cuts '?' ("app://h/x" ++ "#" ++ "top?k=v").toList "app://h/x#top".toList _ :=
    .parted hfront "k=v".toList
  have hfound : (pageRegistry.resolve "app://h/x").result ≠ .ok none := by
    intro hnone
    cases hnone
  obtain ⟨_, hplain, _⟩ := resolve_fragment pageRegistry hmark hcuts hlong hcheck hcheck'
  obtain ⟨_, hquery, _⟩ := resolve_fragment pageRegistry hmark hcuts hasked hcheck hcheck'
  obtain ⟨_, _, hsame, _⟩ := hplain fun _ => hauthority
  obtain ⟨_, _, _, hiff⟩ := hquery fun _ => hauthority
  refine ⟨hcheck, hcheck', hfound, hsame rfl, fun hsame' => ?_⟩
  rcases hiff.1 hsame' with hnone | hreading
  · exact hfound hnone
  · cases hreading with
    | read hparams => exact absurd (hparams "k") (by decide)

/-- A fragment behind a query is read as the end of the last value. -/
theorem resolve_fragment_in_value :
    ((empty : Registry String).register .direct "app://h/x" "X").result = .ok pageRegistry ∧
      '#' ∉ "app://h/x?k=v".toList ∧
      Cuts '?' "app://h/x?k=v".toList "app://h/x".toList (some "k=v".toList) ∧
      Cuts '?' "app://h/x?k=v#top".toList "app://h/x".toList (some "k=v#top".toList) ∧
      Url.check "app://h/x".toList = .ok .hierarchical ∧
      (∃ found found', (pageRegistry.resolve "app://h/x?k=v").result = .ok (some found) ∧
        (pageRegistry.resolve "app://h/x?k=v#top").result = .ok (some found') ∧
        found.params.get? "k" = some "v" ∧ found'.params.get? "k" = some "v#top") ∧
      ¬ SameOutcome (pageRegistry.resolve "app://h/x?k=v#top").result
        (pageRegistry.resolve "app://h/x?k=v").result := by
  have hmark : '?' ∉ "app://h/x".toList := by decide
  refine ⟨rfl, by decide, .parted hmark "k=v".toList, .parted hmark "k=v#top".toList, rfl,
    ⟨_, _, rfl, rfl, rfl, rfl⟩, fun hsame => ?_⟩
  cases hsame with
  | resolved _ hparams => exact absurd (hparams "k") (by decide)

end Registry

end DeepLink
