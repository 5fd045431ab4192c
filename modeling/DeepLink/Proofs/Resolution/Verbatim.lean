import DeepLink.Proofs.Address.Layout
import DeepLink.Proofs.Resolution.Correctness
import Mathlib.Data.List.TakeWhile

/-! # Links are compared as they are written

A text is read as an address without being normalised: each part of the address stands in the text
letter for letter, and only the pieces of the path have their escapes resolved, each on its own. A
link that resolves therefore begins with the scheme and the host of its template. -/

namespace DeepLink

open DeepLink.Text

namespace Address

/-! ## The front of a text -/

/-- The characters that end an authority. -/
def endsAuthority (c : Char) : Bool :=
  c == '/' || c == '?' || c == '#'

/-- The scheme of a text stands in front of its first `://`; the authority follows, up to the first
character that ends it. -/
structure Begins (text scheme authority rest : List Char) : Prop where
  text_eq : text = scheme ++ authorityMark ++ authority ++ rest
  first : ¬ authorityMark <:+: scheme ++ authorityMark.dropLast
  authority_chars : ∀ c ∈ authority, endsAuthority c = false
  rest_head : rest.head?.all endsAuthority

theorem Begins.cutAtWord_eq {text scheme authority rest : List Char}
    (h : Begins text scheme authority rest) :
    cutAtWord authorityMark text = some (scheme, authority ++ rest) := by
  refine (cutAtWord_eq_some_iff (by decide) _ _ _).2 ⟨?_, h.first⟩
  rw [h.text_eq, List.append_assoc]

theorem Begins.takeWhile_eq {text scheme authority rest : List Char}
    (h : Begins text scheme authority rest) :
    (authority ++ rest).takeWhile (!endsAuthority ·) = authority := by
  refine (takeWhile_append_of_head (fun c hc => ?_) rest (by simpa using h.rest_head)).1
  rw [h.authority_chars c hc]
  rfl

/-- A text has one scheme and one authority. -/
theorem Begins.unique {text scheme authority rest scheme' authority' rest' : List Char}
    (h : Begins text scheme authority rest) (h' : Begins text scheme' authority' rest') :
    scheme' = scheme ∧ authority' = authority := by
  have hcut := h.cutAtWord_eq.symm.trans h'.cutAtWord_eq
  obtain ⟨hscheme, hbehind⟩ := Prod.mk.inj (Option.some.inj hcut)
  refine ⟨hscheme.symm, ?_⟩
  rw [← h.takeWhile_eq, ← h'.takeWhile_eq, hbehind]

/-- What is put behind a text and starts with the end of an authority leaves its front alone. -/
theorem Begins.append {text scheme authority rest : List Char}
    (h : Begins text scheme authority rest) {more : List Char}
    (hmore : more.head?.all endsAuthority) :
    Begins (text ++ more) scheme authority (rest ++ more) where
  text_eq := by rw [h.text_eq, List.append_assoc]
  first := h.first
  authority_chars := h.authority_chars
  rest_head := head?_all_append h.rest_head hmore

/-- The host of an address is the authority of its text. -/
theorem Layout.begins {text scheme host path tail : List Char}
    (h : Layout text scheme host path tail) : Begins text scheme host (path ++ tail) where
  text_eq := by
    rw [eq_append_of_cutAtWord h.authority]
    simp only [List.append_assoc]
  first := not_infix_of_cutAtWord (by decide) h.authority
  authority_chars := by
    intro c hc
    rw [endsAuthority, Bool.or_eq_false_iff, Bool.or_eq_false_iff]
    refine ⟨⟨?_, ?_⟩, ?_⟩
    · exact beq_false_of_ne fun heq => h.host_chars.1 (heq ▸ hc)
    · exact beq_false_of_ne fun heq => h.host_chars.2.1 (heq ▸ hc)
    · exact beq_false_of_ne fun heq => h.host_chars.2.2 (heq ▸ hc)
  rest_head := head?_all_append (head?_all_mono (by simp [endsAuthority]) h.path_head)
    (head?_all_mono (by simp [endsAuthority, or_assoc]) h.tail_head)

/-! ## The pieces of a path -/

/-- The segments of a path are its pieces, each with its own escapes resolved. -/
theorem exists_splits (path : List Char) :
    ∃ pieces, Splits '/' path pieces ∧
      segmentsOf path = pieces.map fun piece => String.ofList (Percent.decodeChars piece) :=
  ⟨_, (splits_iff '/' path _).2 rfl, rfl⟩

/-- However a piece is spelled, it is one segment: the text that it spells. -/
theorem getElem?_segments {pieces : List (List Char)} {i : Nat} {written meant : List Char}
    (h : pieces[i]? = some written) (hspelled : Spelling ['%'] meant written) :
    (pieces.map fun piece => String.ofList (Percent.decodeChars piece))[i]? =
      some (String.ofList meant) := by
  rw [List.getElem?_map, h, Option.map_some, decodeChars_spelling (by simp) hspelled]

/-! ## From the parts to an address -/

/-- A text that is laid out is cut into its parts, whatever its tail is. -/
theorem exists_cut_of_layout {text scheme host path tail : List Char}
    (h : Layout text scheme host path tail) :
    ∃ hasQuery hasFragment, cut text = .ok {
      scheme := String.ofList scheme
      host := String.ofList host
      segments := segmentsOf path
      hasQuery
      hasFragment } := by
  have hquery : '?' ∉ host ++ path := by simp [h.host_chars.2.1, h.path_chars.1]
  have hfragment : '#' ∉ host ++ path := by simp [h.host_chars.2.2, h.path_chars.2]
  have hkept : ∀ c ∈ host ++ path, decide ((c != '?') = true ∧ (c != '#') = true) = true := by
    intro c hc
    simp only [bne_iff_ne, decide_eq_true_eq]
    exact ⟨fun heq => hquery (heq ▸ hc), fun heq => hfragment (heq ▸ hc)⟩
  -- Cutting at one mark and then at the other stops where the tail starts.
  have hfront : (cutAt '?' (cutAt '#' (host ++ path ++ tail)).1).1 = host ++ path := by
    rw [cutAt, cutAt, List.takeWhile_takeWhile]
    exact (takeWhile_append_of_head hkept tail (head?_all_mono (by simp) h.tail_head)).1
  obtain ⟨hhost, hpath⟩ := takeWhile_append_mark h.host_chars.1 path h.path_head
  have hauthority := h.authority
  rw [authorityMark] at hauthority
  unfold cut
  rw [hauthority]
  dsimp only
  rw [hfront, hhost, hpath, if_neg (by simpa using h.host_ne_nil)]
  exact ⟨_, _, rfl⟩

/-- A text with the shape of an address and a layout is read as the address that it is laid out
as. -/
theorem exists_parse_of_layout {text : String} {scheme host path tail : List Char}
    (hcheck : Url.check text.toList = .ok .hierarchical)
    (h : Layout text.toList scheme host path tail) :
    ∃ address, parse text = .ok address ∧ address.scheme = String.ofList scheme ∧
      address.host = String.ofList host ∧ address.segments = segmentsOf path := by
  obtain ⟨hasQuery, hasFragment, hcut⟩ := exists_cut_of_layout h
  exact ⟨_, (parse_eq_ok_iff text _).2 ⟨hcheck, hcut⟩, rfl, rfl, rfl⟩

end Address

namespace Registry

variable {β : Type}

/-! ## The front of a link -/

/-- A link that resolves begins with the scheme and the host of its template. -/
theorem WellFormed.begins_of_resolve {r : Registry β} (hr : r.WellFormed) {route : String}
    {found : Resolution β} (h : (r.resolve route).result = .ok (some found)) :
    ∃ pattern rest, Pattern.compile found.key = .ok pattern ∧
      Address.Begins route.toList pattern.scheme.toList pattern.host.toList rest := by
  obtain ⟨hmark, more, htext, hmore⟩ := Address.cuts_tail (cuts_cutAt '?' route.toList)
  rcases hr.resolve_cases (cuts_cutAt '?' route.toList) with ⟨hnone, _⟩ |
    ⟨_, _, ⟨_, _, herror⟩ | ⟨_, other, hother, hdescribes⟩⟩
  · rw [hnone] at h
    cases h
  · rw [herror] at h
    cases h
  · rw [hother] at h
    injection h with h
    injection h with h
    subst h
    obtain ⟨entry, _, _, hkey, _, hcompile, address, taken, hparse, hfits, _⟩ := hdescribes.entry
    have hcut := ((Address.parse_eq_ok_iff _ _).1 hparse).2
    rw [String.toList_ofList] at hcut
    obtain ⟨path, tail, hlayout, _⟩ := Address.exists_layout_of_cut hcut
    refine ⟨entry.pattern, path ++ tail ++ more, hkey ▸ hcompile, ?_⟩
    -- The query starts with a character that ends the authority, so it leaves the front alone.
    have hends : more.head?.all Address.endsAuthority :=
      head?_all_mono (by simp [Address.endsAuthority]) hmore
    rw [hfits.scheme, hfits.host, htext]
    exact hlayout.begins.append hends

/-- Nothing is normalised before it is compared. A text that is an address holds its scheme, its
host and its path as they are written, and its segments are the pieces of the path in order, each
one the text that it spells; whatever has the shape of an address and is laid out in this way is
one. A link that resolves begins, letter for letter, with the scheme and the host of its template,
and these end there: no link with another scheme or another authority ever resolves to the
template. -/
theorem resolve_verbatim :
    (∀ {text : String} {address : Address}, Address.parse text = .ok address →
      ∃ path tail pieces,
        text.toList = address.scheme.toList ++ "://".toList ++ address.host.toList ++ path ++ tail ∧
        Address.Layout text.toList address.scheme.toList address.host.toList path tail ∧
        Splits '/' path pieces ∧
        address.segments = pieces.map (fun piece => String.ofList (Percent.decodeChars piece)) ∧
        ∀ {i : Nat} {written meant : List Char}, pieces[i]? = some written →
          Spelling ['%'] meant written → address.segments[i]? = some (String.ofList meant)) ∧
    (∀ {text : String} {scheme host path tail : List Char},
      Url.check text.toList = .ok .hierarchical →
        Address.Layout text.toList scheme host path tail →
          ∃ address, Address.parse text = .ok address ∧ address.scheme = String.ofList scheme ∧
            address.host = String.ofList host ∧ address.segments = Address.segmentsOf path) ∧
    ∀ {r : Registry β} {route : String} {found : Resolution β}, r.Reachable →
      (r.resolve route).result = .ok (some found) →
        ∃ pattern, Pattern.compile found.key = .ok pattern ∧
          (∃ rest, route.toList =
              pattern.scheme.toList ++ "://".toList ++ pattern.host.toList ++ rest ∧
            rest.head?.all Address.endsAuthority) ∧
          ∀ {scheme authority rest : List Char},
            Address.Begins route.toList scheme authority rest →
              scheme = pattern.scheme.toList ∧ authority = pattern.host.toList := by
  refine ⟨?_, Address.exists_parse_of_layout, ?_⟩
  · intro text address h
    obtain ⟨path, tail, hlayout, hsegments⟩ :=
      Address.exists_layout_of_cut ((Address.parse_eq_ok_iff text address).1 h).2
    obtain ⟨pieces, hpieces, hdecoded⟩ := Address.exists_splits path
    rw [hsegments, hdecoded]
    refine ⟨path, tail, pieces, ?_, hlayout, hpieces, rfl, Address.getElem?_segments⟩
    rw [hlayout.begins.text_eq, Address.authorityMark, List.append_assoc _ path tail]
  · intro r route found hr h
    obtain ⟨pattern, rest, hcompile, hbegins⟩ := hr.wellFormed.begins_of_resolve h
    exact ⟨pattern, hcompile, ⟨rest, hbegins.text_eq, hbegins.rest_head⟩, hbegins.unique⟩

/-- An address with an escaped slash, dots and a fragment, and a link with a query. -/
theorem resolve_verbatim_item :
    (∃ path tail pieces,
      Address.parse "app://h//a%2fB/..#?/" = .ok ⟨"app", "h", ["a/B", ".."], false, true⟩ ∧
      Address.Layout "app://h//a%2fB/..#?/".toList "app".toList "h".toList path tail ∧
      Splits '/' path pieces ∧
      ["a/B", ".."] = pieces.map fun piece => String.ofList (Percent.decodeChars piece)) ∧
    Url.check "app://h//a%2fB/..#?/".toList = .ok .hierarchical ∧
    (∃ address, Address.parse "app://h//a%2fB/..#?/" = .ok address ∧ address.host = "h") ∧
    itemRegistry.Reachable ∧
    ∃ found, (itemRegistry.resolve "app://h/items/042/a.b?k=v").result = .ok (some found) ∧
      ∃ pattern, Pattern.compile found.key = .ok pattern ∧
        ∀ scheme authority rest,
          Address.Begins "app://h/items/042/a.b?k=v".toList scheme authority rest →
            scheme = pattern.scheme.toList ∧ authority = pattern.host.toList := by
  have hparse : Address.parse "app://h//a%2fB/..#?/" =
      .ok ⟨"app", "h", ["a/B", ".."], false, true⟩ := rfl
  have hfound : (itemRegistry.resolve "app://h/items/042/a.b?k=v").result = .ok (some
      ⟨"app://h/items/042/a.b?k=v", "app://h/items/042/a.b", itemTemplate, .composite, 7,
        ⟨[("id", .integer 42), ("file", .text "a.b")]⟩, ⟨[("k", "v")]⟩⟩) := rfl
  obtain ⟨path, tail, pieces, _, hlayout, hpieces, hsegments, _⟩ :=
    (@resolve_verbatim Nat).1 hparse
  have hcheck : Url.check "app://h//a%2fB/..#?/".toList = .ok .hierarchical := rfl
  obtain ⟨address, haddress, _, hhost, _⟩ := (@resolve_verbatim Nat).2.1 hcheck hlayout
  obtain ⟨pattern, hcompile, _, hunique⟩ :=
    (@resolve_verbatim Nat).2.2 reachable_itemRegistry hfound
  exact ⟨⟨path, tail, pieces, hparse, hlayout, hpieces, hsegments⟩, hcheck,
    ⟨address, haddress, hhost⟩, reachable_itemRegistry, _, hfound, pattern, hcompile,
    fun _ _ _ => hunique⟩

end Registry

end DeepLink
