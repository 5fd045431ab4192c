import DeepLink.Address
import DeepLink.Proofs.Text.Cutting
import DeepLink.Proofs.Text.Spelling

/-! # The layout of an address

An address is found in its text without change: scheme, mark, host, path and tail stand there one
after the other. A text laid out in this way, without a tail, is cut into exactly these parts. -/

namespace DeepLink.Address

open DeepLink.Text

/-- The mark between the scheme and the host. -/
def authorityMark : List Char := "://".toList

/-- A text in which a host, a path and a tail follow the first `://`. -/
structure Layout (text scheme host path tail : List Char) : Prop where
  authority : cutAtWord authorityMark text = some (scheme, host ++ path ++ tail)
  host_ne_nil : host ≠ []
  host_chars : '/' ∉ host ∧ '?' ∉ host ∧ '#' ∉ host
  path_chars : '?' ∉ path ∧ '#' ∉ path
  path_head : path.head?.all (· == '/')
  tail_head : tail.head?.all fun c => c == '?' || c == '#'

theorem parse_eq_ok_iff (text : String) (address : Address) :
    parse text = .ok address ↔
      Url.check text.toList = .ok .hierarchical ∧ cut text.toList = .ok address := by
  unfold parse
  split
  · rename_i fault h
    simp [h]
  · rename_i h
    simp [h]
  · rename_i h
    simp [h]

/-! ## From a text to its parts -/

theorem cuts_tail {mark : Char} {text before : List Char} {after : Option (List Char)}
    (h : Cuts mark text before after) :
    mark ∉ before ∧ ∃ tail, text = before ++ tail ∧ tail.head?.all (· == mark) := by
  cases h with
  | whole h => exact ⟨h, [], by simp, by simp⟩
  | parted h after => exact ⟨h, mark :: after, rfl, by simp⟩

/-- A query, if any, and a fragment, if any, start with a mark of their own. -/
theorem head?_query_append_fragment {query fragment : List Char}
    (hquery : query.head?.all (· == '?')) (hfragment : fragment.head?.all (· == '#')) :
    (query ++ fragment).head?.all fun c => c == '?' || c == '#' :=
  head?_all_append (head?_all_mono (by simp) hquery) (head?_all_mono (by simp) hfragment)

theorem exists_layout_of_cut {text : List Char} {address : Address}
    (h : cut text = .ok address) :
    ∃ path tail, Layout text address.scheme.toList address.host.toList path tail ∧
      address.segments = segmentsOf path := by
  unfold cut at h
  split at h
  · cases h
  · rename_i scheme rest hscheme
    obtain ⟨hfragment, fragmentTail, hrest, hfragmentHead⟩ := cuts_tail (cuts_cutAt '#' rest)
    generalize cutAt '#' rest = atFragment at h hfragment hrest
    obtain ⟨beforeFragment, fragment⟩ := atFragment
    obtain ⟨hquery, queryTail, hbefore, hqueryHead⟩ :=
      cuts_tail (cuts_cutAt '?' beforeFragment)
    dsimp only at h hfragment hrest
    generalize cutAt '?' beforeFragment = atQuery at h hquery hbefore
    obtain ⟨beforeQuery, query⟩ := atQuery
    dsimp only at h hquery hbefore
    split at h
    · cases h
    · rename_i hhost
      injection h with h
      subst h
      have hparts : beforeQuery.takeWhile (· != '/') ++ beforeQuery.dropWhile (· != '/') =
          beforeQuery := List.takeWhile_append_dropWhile
      have hslash : '/' ∉ beforeQuery.takeWhile (· != '/') :=
        not_mem_cutAt_fst '/' beforeQuery
      have hhead : (beforeQuery.dropWhile (· != '/')).head?.all (· == '/')  :=
        head?_dropWhile_mark '/' beforeQuery
      have hnoFragment : '#' ∉ beforeQuery := by
        intro hmem
        exact hfragment (hbefore ▸ List.mem_append_left _ hmem)
      generalize beforeQuery.takeWhile (· != '/') = host at *
      generalize beforeQuery.dropWhile (· != '/') = path at *
      subst hparts
      simp only [List.mem_append, not_or] at hquery hnoFragment
      refine ⟨path, queryTail ++ fragmentTail, ?_, rfl⟩
      simp only [String.toList_ofList]
      exact {
        authority := by
          rw [authorityMark, hscheme, hrest, hbefore]
          simp
        host_ne_nil := by simpa using hhost
        host_chars := ⟨hslash, hquery.1, hnoFragment.1⟩
        path_chars := ⟨hquery.2, hnoFragment.2⟩
        path_head := hhead
        tail_head := head?_query_append_fragment hqueryHead hfragmentHead }

/-- Without a query and a fragment, no mark of either stands behind the first `://`. -/
theorem not_mem_of_cut {text scheme rest : List Char} {address : Address}
    (hauthority : cutAtWord authorityMark text = some (scheme, rest))
    (h : cut text = .ok address) (hquery : address.hasQuery = false)
    (hfragment : address.hasFragment = false) : '?' ∉ rest ∧ '#' ∉ rest := by
  rw [authorityMark] at hauthority
  unfold cut at h
  rw [hauthority] at h
  dsimp only at h
  split at h
  · cases h
  · injection h with h
    subst h
    have hwhole : (cutAt '#' rest).1 = rest := cutAt_eq_of_none (by simpa using hfragment)
    rw [hwhole] at hquery
    have hclean : (cutAt '?' rest).1 = rest := cutAt_eq_of_none (by simpa using hquery)
    exact ⟨hclean ▸ not_mem_cutAt_fst '?' rest, hwhole ▸ not_mem_cutAt_fst '#' rest⟩

/-! ## From the parts to a text -/

/-- What stands before the first `://` still does when something else follows it. -/
theorem cutAtWord_authorityMark {text scheme rest : List Char}
    (h : cutAtWord authorityMark text = some (scheme, rest)) (other : List Char) :
    cutAtWord authorityMark (scheme ++ authorityMark ++ other) = some (scheme, other) :=
  cutAtWord_append (by decide) h other

/-- Behind the same scheme and host another path is laid out as well. -/
theorem Layout.replacePath {text scheme host path tail : List Char}
    (h : Layout text scheme host path tail) {other : List Char}
    (hchars : '?' ∉ other ∧ '#' ∉ other) (hhead : other.head?.all (· == '/')) :
    Layout (scheme ++ authorityMark ++ (host ++ other)) scheme host other [] where
  authority := by
    rw [List.append_nil]
    exact cutAtWord_authorityMark h.authority _
  host_ne_nil := h.host_ne_nil
  host_chars := h.host_chars
  path_chars := hchars
  path_head := hhead
  tail_head := rfl

theorem cut_of_layout {text scheme host path : List Char}
    (h : Layout text scheme host path []) :
    cut text = .ok {
      scheme := String.ofList scheme
      host := String.ofList host
      segments := segmentsOf path
      hasQuery := false
      hasFragment := false } := by
  have hfragment : '#' ∉ host ++ path := by
    simp [h.host_chars.2.2, h.path_chars.2]
  have hquery : '?' ∉ host ++ path := by
    simp [h.host_chars.2.1, h.path_chars.1]
  obtain ⟨hhost, hpath⟩ := takeWhile_append_mark h.host_chars.1 path h.path_head
  have hauthority := h.authority
  rw [List.append_nil, authorityMark] at hauthority
  unfold cut
  rw [hauthority]
  simp only [cutAt_of_not_mem hfragment, cutAt_of_not_mem hquery, hhost, hpath]
  rw [if_neg (by simpa using h.host_ne_nil)]
  rfl

/-! ## Segments -/

/-- No segment is empty. -/
theorem ne_nil_of_mem_segmentsOf {path : List Char} {segment : String}
    (h : segment ∈ segmentsOf path) : segment.toList ≠ [] := by
  unfold segmentsOf at h
  obtain ⟨piece, hpiece, rfl⟩ := List.mem_map.1 h
  have hne : piece ≠ [] := by simpa using (List.mem_filter.1 hpiece).2
  rw [String.toList_ofList]
  exact decodeChars_ne_nil hne

/-! ## Paths that are put together -/

/-- What may stand between two slashes of a path: a text that is not empty and holds no mark. -/
structure IsPiece (piece : List Char) : Prop where
  ne_nil : piece ≠ []
  no_slash : '/' ∉ piece
  no_query : '?' ∉ piece
  no_fragment : '#' ∉ piece

/-- A path written with a slash in front of each piece has the pieces as its segments. -/
theorem segmentsOf_flatMap {pieces : List (List Char)} (h : ∀ piece ∈ pieces, IsPiece piece) :
    segmentsOf (pieces.flatMap ('/' :: ·)) =
      pieces.map fun piece => String.ofList (Percent.decodeChars piece) := by
  have hkept : pieces.filter (!·.isEmpty) = pieces := by
    rw [List.filter_eq_self]
    intro piece hpiece
    simpa using (h piece hpiece).ne_nil
  rw [segmentsOf, splitOn_flatMap fun piece hpiece => (h piece hpiece).no_slash,
    List.filter_cons_of_neg (by simp), hkept]

/-- Such a path holds no mark of a query or a fragment, and starts with a slash. -/
theorem path_of_pieces {pieces : List (List Char)} (h : ∀ piece ∈ pieces, IsPiece piece) :
    ('?' ∉ pieces.flatMap ('/' :: ·) ∧ '#' ∉ pieces.flatMap ('/' :: ·)) ∧
      (pieces.flatMap ('/' :: ·)).head?.all (· == '/') := by
  refine ⟨⟨?_, ?_⟩, ?_⟩
  · intro hmem
    obtain ⟨piece, hpiece, hmem⟩ := List.mem_flatMap.1 hmem
    simp [(h piece hpiece).no_query] at hmem
  · intro hmem
    obtain ⟨piece, hpiece, hmem⟩ := List.mem_flatMap.1 hmem
    simp [(h piece hpiece).no_fragment] at hmem
  · cases pieces with
    | nil => rfl
    | cons piece pieces => rfl

/-- Behind the scheme and host of a text, a path put together from pieces is cut into them. -/
theorem Layout.cut_of_pieces {text scheme host path tail : List Char}
    (h : Layout text scheme host path tail) {pieces : List (List Char)}
    (hpieces : ∀ piece ∈ pieces, IsPiece piece) :
    cut (scheme ++ authorityMark ++ (host ++ pieces.flatMap ('/' :: ·))) = .ok {
      scheme := String.ofList scheme
      host := String.ofList host
      segments := pieces.map fun piece => String.ofList (Percent.decodeChars piece)
      hasQuery := false
      hasFragment := false } := by
  obtain ⟨hchars, hhead⟩ := path_of_pieces hpieces
  rw [cut_of_layout (h.replacePath hchars hhead), segmentsOf_flatMap hpieces]

end DeepLink.Address
