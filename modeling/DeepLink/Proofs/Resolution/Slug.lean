import DeepLink.Proofs.Pattern.Writing
import DeepLink.Proofs.Resolution.Extraction
import DeepLink.Proofs.Resolution.Query

/-! # Links with a slug at their end

A slug behind a link is one more segment, and a pattern leaves it out. So it makes no difference to
the whole resolution, as long as no pattern needs the slug itself, and none would have left out the
last segment of the link. -/

namespace DeepLink

open DeepLink.Text

/-! ## The slug as a segment -/

/-- A slug is spelled as it stands. -/
theorem Segment.IsHyphenated.spells {slug : String} (h : Segment.IsHyphenated slug) :
    Segment.Spells slug slug.toList := by
  refine Spelling.self (List.all_eq_true.2 fun c hc => ?_)
  have hreserved : ∀ mark ∈ Segment.reserved, ¬ (mark.isAlphanum ∨ mark = '-') := by
    simp [Segment.reserved]
  have hmem : c ∉ Segment.reserved := fun hmem => hreserved c hmem (h.hyphensApart.chars c hc)
  simpa using hmem

namespace Address

/-- A piece behind a slash is one more segment, also where the path is empty or ends in a slash. -/
theorem segmentsOf_append {piece : List Char} (hslash : '/' ∉ piece) (hne : piece ≠ [])
    (path : List Char) :
    segmentsOf (path ++ '/' :: piece) =
      segmentsOf path ++ [String.ofList (Percent.decodeChars piece)] := by
  have hpieces : (path ++ '/' :: piece).splitOn '/' = path.splitOn '/' ++ [piece] := by
    rw [List.splitOn_append_cons_self, List.splitOn_eq_singleton hslash]
  simp [segmentsOf, hpieces, hne]

/-- A segment is added to an address by writing it behind a slash. -/
theorem cut_append_segment {text piece : List Char} {segment : String} {address : Address}
    (hquery : '?' ∉ text) (hfragment : '#' ∉ text) (hcut : cut text = .ok address)
    (hspells : Segment.Spells segment piece) (hne : segment.toList ≠ []) :
    cut (text ++ '/' :: piece) =
      .ok { address with segments := address.segments ++ [segment] } := by
  obtain ⟨path, tail, hlayout, hsegments⟩ := exists_layout_of_cut hcut
  have htext := eq_append_of_cutAtWord hlayout.authority
  have htail : tail = [] := by
    cases tail with
    | nil => rfl
    | cons mark tail =>
        have hmem : mark ∈ text := by simp [htext]
        have hmark : mark = '?' ∨ mark = '#' := by simpa using hlayout.tail_head
        rcases hmark with rfl | rfl
        · exact absurd hmem hquery
        · exact absurd hmem hfragment
  subst htail
  obtain ⟨hslash, hquery', hfragment'⟩ := hspells.not_mem
  have hchars : '?' ∉ path ++ '/' :: piece ∧ '#' ∉ path ++ '/' :: piece := by
    simp [hlayout.path_chars, hquery', hfragment']
  have hhead : (path ++ '/' :: piece).head?.all (· == '/') := by
    cases path with
    | nil => rfl
    | cons c path => exact hlayout.path_head
  have hshort := cut_of_layout hlayout
  have hlong := cut_of_layout (hlayout.replacePath hchars hhead)
  rw [String.ofList_toList, String.ofList_toList, ← hsegments] at hshort
  rw [String.ofList_toList, String.ofList_toList, segmentsOf_append hslash
    (Spelling.ne_nil hspells hne), hspells.decode, ← hsegments] at hlong
  have hjoined : text ++ '/' :: piece =
      address.scheme.toList ++ authorityMark ++
        (address.host.toList ++ (path ++ '/' :: piece)) := by
    conv_lhs => rw [htext]
    simp
  have haddress := Except.ok.inj (hcut.symm.trans hshort)
  rw [hjoined, hlong, congrArg Address.hasQuery haddress, congrArg Address.hasFragment haddress]

/-- An address is read with one segment more where its text goes on with the segment. -/
theorem parse_append_segment {clean segment : String} {address address' : Address}
    (hquery : '?' ∉ clean.toList) (hfragment : '#' ∉ clean.toList)
    (hspells : Segment.Spells segment segment.toList) (hne : segment.toList ≠ [])
    (hparse : parse clean = .ok address)
    (hparse' : parse (clean ++ "/" ++ segment) = .ok address') :
    address' = { address with segments := address.segments ++ [segment] } := by
  have hcut := ((parse_eq_ok_iff _ _).1 hparse).2
  have hlong := cut_append_segment hquery hfragment hcut hspells hne
  have hcut' := ((parse_eq_ok_iff _ _).1 hparse').2
  have htext : (clean ++ "/" ++ segment).toList = clean.toList ++ '/' :: segment.toList := by simp
  rw [htext, hlong] at hcut'
  exact (Except.ok.inj hcut').symm

end Address

/-! ## Patterns that leave a segment out -/

/-- A route matches a text with the last segment left out. -/
def Entry.MatchesShortened {β : Type} (entry : Entry β) (clean : String) : Prop :=
  ∃ address taken last, Address.parse clean = .ok address ∧
    address.segments = taken ++ [last] ∧ entry.pattern.Fits address taken

/-- A route matches a text with all of its segments. -/
def Entry.MatchesWhole {β : Type} (entry : Entry β) (clean : String) : Prop :=
  ∃ address, Address.parse clean = .ok address ∧ entry.pattern.Fits address address.segments

/-- A pattern takes an address alike with a slug and without it, unless it needs the slug or leaves
out another segment. -/
theorem Pattern.align_append_slug {pattern : Pattern} {address : Address} {slug : String}
    (hslug : Segment.IsHyphenated slug)
    (hshort : ∀ taken last, address.segments = taken ++ [last] → ¬ pattern.Fits address taken)
    (hwhole : ¬ pattern.Fits { address with segments := address.segments ++ [slug] }
      (address.segments ++ [slug])) :
    pattern.align { address with segments := address.segments ++ [slug] } =
      pattern.align address := by
  apply Option.ext
  intro taken
  rw [align_eq_some_iff, align_eq_some_iff]
  constructor
  · intro hfits
    rcases hfits.segments with hall | ⟨last, _, hrest⟩
    · obtain rfl : address.segments ++ [slug] = taken := hall
      exact absurd hfits hwhole
    · obtain ⟨htaken, _⟩ := List.append_inj' hrest rfl
      exact ⟨hfits.scheme, hfits.host, .inl htaken, hfits.admits⟩
  · intro hfits
    rcases hfits.segments with hall | ⟨last, _, hrest⟩
    · exact ⟨hfits.scheme, hfits.host, .inr ⟨slug, hslug, congrArg (· ++ [slug]) hall⟩,
        hfits.admits⟩
    · exact absurd hfits (hshort taken last hrest)

namespace Registry

variable {β : Type}

/-- A slug at the end of a link makes no difference. Unless some pattern matches the link by leaving
out the link's own last segment, or matches the link with the slug in full, both are unmatched, or
both are resolved alike in everything but their own text. -/
theorem resolve_slugged (r : Registry β) {clean slug : String} {address address' : Address}
    (hquery : '?' ∉ clean.toList) (hfragment : '#' ∉ clean.toList)
    (hslug : Segment.IsHyphenated slug) (hparse : Address.parse clean = .ok address)
    (hparse' : Address.parse (clean ++ "/" ++ slug) = .ok address')
    (hshort : ∀ entry ∈ r.entries, ¬ entry.MatchesShortened clean)
    (hwhole : ∀ entry ∈ r.entries, ¬ entry.MatchesWhole (clean ++ "/" ++ slug)) :
    ((r.resolve clean).result = .ok none ∧
      (r.resolve (clean ++ "/" ++ slug)).result = .ok none) ∨
    ∃ found, (r.resolve clean).result = .ok (some found) ∧
      (r.resolve (clean ++ "/" ++ slug)).result =
        .ok (some { found with route := clean ++ "/" ++ slug, clean := clean ++ "/" ++ slug }) := by
  have haddress : address' = { address with segments := address.segments ++ [slug] } :=
    Address.parse_append_segment hquery hfragment hslug.spells hslug.ne_nil hparse hparse'
  subst haddress
  have halign : ∀ entry ∈ r.entries,
      entry.pattern.align { address with segments := address.segments ++ [slug] } =
        entry.pattern.align address := by
    intro entry hentry
    refine Pattern.align_append_slug hslug (fun taken last hlast hfits => ?_) (fun hfits => ?_)
    · exact hshort entry hentry ⟨address, taken, last, hparse, hlast, hfits⟩
    · exact hwhole entry hentry ⟨_, hparse', hfits⟩
  have hwinner : r.winner? (clean ++ "/" ++ slug) = r.winner? clean := by
    rw [winner?_of_parse hparse, winner?_of_parse hparse']
    exact firstMatch_eq_of_align halign _
  have hquery' : '?' ∉ (clean ++ "/" ++ slug).toList := by
    have hmark := hslug.spells.not_mem.2.1
    simp [hquery, hmark]
  rw [result_of_not_mem hquery, result_of_not_mem hquery', hwinner]
  cases r.winner? clean with
  | none => exact .inl ⟨rfl, rfl⟩
  | some won => exact .inr ⟨_, rfl, rfl⟩

/-- The link of an item ends in a slash, and goes on with a slug. -/
theorem resolve_slugged_item :
    Segment.IsHyphenated "old-red" ∧
      (∀ entry ∈ itemRegistry.entries, ¬ entry.MatchesShortened "app://h/items/042/a.b/") ∧
      (∀ entry ∈ itemRegistry.entries,
        ¬ entry.MatchesWhole ("app://h/items/042/a.b/" ++ "/" ++ "old-red")) ∧
      ∃ found, (itemRegistry.resolve "app://h/items/042/a.b/").result = .ok (some found) ∧
        (itemRegistry.resolve ("app://h/items/042/a.b/" ++ "/" ++ "old-red")).result =
          .ok (some { found with
            route := "app://h/items/042/a.b/" ++ "/" ++ "old-red"
            clean := "app://h/items/042/a.b/" ++ "/" ++ "old-red" }) := by
  have hslug : Segment.IsHyphenated "old-red" := (Segment.isSlug_iff _).1 rfl
  have hparse : Address.parse "app://h/items/042/a.b/" =
      .ok ⟨"app", "h", ["items", "042", "a.b"], false, false⟩ := rfl
  have hparse' : Address.parse ("app://h/items/042/a.b/" ++ "/" ++ "old-red") =
      .ok ⟨"app", "h", ["items", "042", "a.b", "old-red"], false, false⟩ := rfl
  have hshort : ∀ entry ∈ itemRegistry.entries,
      ¬ entry.MatchesShortened "app://h/items/042/a.b/" := by
    rintro entry hentry ⟨address, taken, last, haddress, hlast, hfits⟩
    obtain rfl := Except.ok.inj (hparse.symm.trans haddress)
    obtain rfl := List.mem_singleton.1 hentry
    have hlength := congrArg List.length hlast
    have hslots := hfits.admits.length_eq
    simp [itemPattern] at hlength hslots
    omega
  have hwhole : ∀ entry ∈ itemRegistry.entries,
      ¬ entry.MatchesWhole ("app://h/items/042/a.b/" ++ "/" ++ "old-red") := by
    rintro entry hentry ⟨address, haddress, hfits⟩
    obtain rfl := Except.ok.inj (hparse'.symm.trans haddress)
    obtain rfl := List.mem_singleton.1 hentry
    exact absurd hfits.admits.length_eq (by decide)
  refine ⟨hslug, hshort, hwhole, ?_⟩
  rcases resolve_slugged itemRegistry (by decide) (by decide) hslug hparse hparse' hshort
    hwhole with ⟨hnone, _⟩ | hfound
  · cases hnone
  · exact hfound

end Registry

end DeepLink
