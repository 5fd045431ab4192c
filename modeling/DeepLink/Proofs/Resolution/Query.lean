import DeepLink.Proofs.Query.Parameters
import DeepLink.Proofs.Registry.Reachable
import DeepLink.Proofs.Results
import DeepLink.Resolution

/-! # The query has no part in the match

The text in front of the first question mark decides alone which route a link resolves to. The
query comes in afterwards: it gives the parameters, or it is refused. -/

namespace DeepLink

open DeepLink.Text

variable {β : Type}

/-- Both links were resolved to one route, with the same values. -/
structure Resolution.SameMatch (found other : Resolution β) : Prop where
  kind : found.kind = other.kind
  key : found.key = other.key
  binding : found.binding = other.binding
  wildcards : found.wildcards = other.wildcards

namespace Registry

/-! ## The route that wins -/

/-- The first route that matches a text, with the values of its wildcards. -/
def winner? (r : Registry β) (clean : String) : Option (Entry β × Dictionary WildcardValue) :=
  (Address.parse clean).toOption.bind fun address => r.firstMatch address Kind.precedence

theorem winner?_of_parse {clean : String} {address : Address}
    (h : Address.parse clean = .ok address) (r : Registry β) :
    r.winner? clean = r.firstMatch address Kind.precedence := by
  rw [winner?, h]
  rfl

/-- Addresses that every pattern takes alike have the same first match. -/
theorem firstMatch_eq_of_align {r : Registry β} {address other : Address}
    (h : ∀ entry ∈ r.entries, entry.pattern.align other = entry.pattern.align address)
    (kinds : List Kind) : r.firstMatch other kinds = r.firstMatch address kinds := by
  have hmatch : ∀ kind, r.matchIn kind other = r.matchIn kind address := by
    intro kind
    rw [matchIn, matchIn, ← List.head?_filterMap, ← List.head?_filterMap]
    refine congrArg List.head? (List.filterMap_congr fun entry hentry => ?_)
    rw [h entry (List.mem_of_mem_filter hentry)]
  simp only [firstMatch, hmatch]

/-- A link is resolved in two steps: the text in front of its query finds a route, and then the
query is read. -/
theorem result_resolve (r : Registry β) (route : String) :
    (r.resolve route).result =
      match r.winner? (Query.split route).1, Query.parse (Query.split route).2 with
      | none, _ => .ok none
      | some _, .error piece => .error (.malformedQuery route piece)
      | some (entry, values), .ok params =>
          .ok (some ⟨route, (Query.split route).1, entry.key, entry.kind, entry.binding, values,
            params⟩) := by
  unfold resolve winner?
  generalize Query.split route = parts
  obtain ⟨clean, query⟩ := parts
  dsimp only
  cases Address.parse clean with
  | error fault => rfl
  | ok address =>
      simp only [Except.toOption, Option.bind_some]
      cases r.firstMatch address Kind.precedence with
      | none => rfl
      | some won =>
          cases Query.parse query with
          | error piece => rfl
          | ok params => rfl

variable {r : Registry β} {route : String} {clean : List Char} {query : Option (List Char)}

theorem result_eq_none_iff (h : Cuts '?' route.toList clean query) :
    (r.resolve route).result = .ok none ↔ r.winner? (String.ofList clean) = none := by
  rw [result_resolve, Query.split_eq_of_cuts h]
  split
  · rename_i hwinner
    simp [hwinner]
  · rename_i hwinner _
    simp [hwinner]
  · rename_i hwinner _
    simp [hwinner]

theorem result_eq_error_iff (h : Cuts '?' route.toList clean query) (error : RouteError) :
    (r.resolve route).result = .error error ↔
      ∃ entry values piece, r.winner? (String.ofList clean) = some (entry, values) ∧
        Query.parse (query.map String.ofList) = .error piece ∧
        error = .malformedQuery route piece := by
  rw [result_resolve, Query.split_eq_of_cuts h]
  split
  · rename_i hwinner
    simp [hwinner]
  · rename_i won piece hwinner hquery
    obtain ⟨entry, values⟩ := won
    simp [hwinner, hquery, eq_comm]
  · rename_i hwinner hquery
    simp [hwinner, hquery]

theorem result_eq_some_iff (h : Cuts '?' route.toList clean query) (found : Resolution β) :
    (r.resolve route).result = .ok (some found) ↔
      ∃ entry values params, r.winner? (String.ofList clean) = some (entry, values) ∧
        Query.parse (query.map String.ofList) = .ok params ∧
        found = ⟨route, String.ofList clean, entry.key, entry.kind, entry.binding, values,
          params⟩ := by
  rw [result_resolve, Query.split_eq_of_cuts h]
  split
  · rename_i hwinner
    simp [hwinner]
  · rename_i hwinner hquery
    simp [hwinner, hquery]
  · rename_i entry values params hwinner hquery
    simp [hwinner, hquery, eq_comm]

/-- Links with one winner are both unmatched or neither is, and have the same match. -/
theorem sameMatch_of_winner? {other : String} {clean' : List Char} {query' : Option (List Char)}
    (h : Cuts '?' route.toList clean query) (h' : Cuts '?' other.toList clean' query')
    (hwinner : r.winner? (String.ofList clean') = r.winner? (String.ofList clean)) :
    ((r.resolve other).result = .ok none ↔ (r.resolve route).result = .ok none) ∧
      ∀ {found found'}, (r.resolve route).result = .ok (some found) →
        (r.resolve other).result = .ok (some found') → found'.SameMatch found := by
  refine ⟨by rw [result_eq_none_iff h', result_eq_none_iff h, hwinner], fun hfound hfound' => ?_⟩
  obtain ⟨entry, values, _, hwon, _, rfl⟩ := (result_eq_some_iff h _).1 hfound
  obtain ⟨_, _, _, hwon', _, rfl⟩ := (result_eq_some_iff h' _).1 hfound'
  rw [hwinner, hwon] at hwon'
  obtain ⟨rfl, rfl⟩ := Prod.mk.inj (Option.some.inj hwon')
  exact ⟨rfl, rfl, rfl, rfl⟩

/-- A link without a query is resolved to its winner, without parameters. -/
theorem result_of_not_mem (h : '?' ∉ route.toList) :
    (r.resolve route).result =
      .ok ((r.winner? route).map fun (entry, values) =>
        ⟨route, route, entry.key, entry.kind, entry.binding, values, .empty⟩) := by
  rw [result_resolve, Query.split_eq_of_cuts (.whole h), String.ofList_toList]
  cases r.winner? route with
  | none => rfl
  | some won => rfl

/-! ## Links with one text in front of their queries -/

/-- The query never decides which route wins. Of two links with the same text in front of their
queries both are unmatched or neither is, and they are resolved to the same match. A link with a
match, even one whose query is refused, resolves to the same match without its query, and then there
are no parameters. -/
theorem resolve_clean (r : Registry β) (h : Cuts '?' route.toList clean query) :
    (∀ {other : String} {query' : Option (List Char)}, Cuts '?' other.toList clean query' →
      ((r.resolve other).result = .ok none ↔ (r.resolve route).result = .ok none) ∧
      ∀ {found found'}, (r.resolve route).result = .ok (some found) →
        (r.resolve other).result = .ok (some found') →
          found'.SameMatch found ∧ found'.clean = found.clean) ∧
    (∀ {found}, (r.resolve route).result = .ok (some found) →
      found.clean = String.ofList clean ∧
      (r.resolve (String.ofList clean)).result =
        .ok (some { found with route := String.ofList clean, params := .empty })) ∧
    ∀ {error}, (r.resolve route).result = .error error →
      ∃ piece entry values, error = .malformedQuery route piece ∧
        r.winner? (String.ofList clean) = some (entry, values) ∧
        (r.resolve (String.ofList clean)).result =
          .ok (some {
            route := String.ofList clean
            clean := String.ofList clean
            key := entry.key
            kind := entry.kind
            binding := entry.binding
            wildcards := values
            params := .empty }) := by
  have hclean : '?' ∉ (String.ofList clean).toList := by
    rw [String.toList_ofList]
    exact h.not_mem
  refine ⟨fun hother => ?_, fun hfound => ?_, fun {error} herror => ?_⟩
  · obtain ⟨hnone, hsame⟩ := sameMatch_of_winner? (r := r) h hother rfl
    refine ⟨hnone, fun hfound hfound' => ⟨hsame hfound hfound', ?_⟩⟩
    obtain ⟨_, _, _, _, _, rfl⟩ := (result_eq_some_iff h _).1 hfound
    obtain ⟨_, _, _, _, _, rfl⟩ := (result_eq_some_iff hother _).1 hfound'
    rfl
  · obtain ⟨entry, values, params, hwinner, _, rfl⟩ := (result_eq_some_iff h _).1 hfound
    refine ⟨rfl, ?_⟩
    rw [result_of_not_mem hclean, hwinner]
    rfl
  · obtain ⟨entry, values, piece, hwinner, _, rfl⟩ := (result_eq_error_iff h _).1 herror
    refine ⟨piece, entry, values, rfl, hwinner, ?_⟩
    rw [result_of_not_mem hclean, hwinner]
    rfl

/-- A link of an item, with a slug and a query that holds both marks once more. -/
def itemResolution : Resolution Nat where
  route := "app://h/items/042/a.b/x-1?k=v?w#f"
  clean := "app://h/items/042/a.b/x-1"
  key := itemTemplate
  kind := .composite
  binding := 7
  wildcards := ⟨[("id", .integer 42), ("file", .text "a.b")]⟩
  params := ⟨[("k", "v?w#f")]⟩

/-- The link has the same match with another query, with one that is refused, and without any. -/
theorem resolve_clean_item :
    (itemRegistry.resolve "app://h/items/042/a.b/x-1?k=v?w#f").result =
        .ok (some itemResolution) ∧
      (itemRegistry.resolve "app://h/items/042/a.b/x-1?k").result =
        .error (.malformedQuery "app://h/items/042/a.b/x-1?k" "k") ∧
      (∃ found, (itemRegistry.resolve "app://h/items/042/a.b/x-1?&q=").result = .ok (some found) ∧
        found.SameMatch itemResolution ∧ found.clean = "app://h/items/042/a.b/x-1") ∧
      (itemRegistry.resolve "app://h/items/042/a.b/x-1").result =
        .ok (some { itemResolution with route := "app://h/items/042/a.b/x-1", params := .empty }) ∧
      ∃ entry values, itemRegistry.winner? "app://h/items/042/a.b/x-1" = some (entry, values) ∧
        entry.key = itemTemplate := by
  have hmark : '?' ∉ "app://h/items/042/a.b/x-1".toList := by decide
  have hcuts : Cuts '?' "app://h/items/042/a.b/x-1?k=v?w#f".toList
      "app://h/items/042/a.b/x-1".toList _ := .parted hmark "k=v?w#f".toList
  have hrefused : Cuts '?' "app://h/items/042/a.b/x-1?k".toList
      "app://h/items/042/a.b/x-1".toList _ := .parted hmark "k".toList
  have hother : Cuts '?' "app://h/items/042/a.b/x-1?&q=".toList
      "app://h/items/042/a.b/x-1".toList _ := .parted hmark "&q=".toList
  have hfound : (itemRegistry.resolve "app://h/items/042/a.b/x-1?k=v?w#f").result =
      .ok (some itemResolution) := rfl
  have herror : (itemRegistry.resolve "app://h/items/042/a.b/x-1?k").result =
      .error (.malformedQuery "app://h/items/042/a.b/x-1?k" "k") := rfl
  obtain ⟨hsame, hclean, _⟩ := resolve_clean itemRegistry hcuts
  obtain ⟨_, _, hmatch⟩ := resolve_clean itemRegistry hrefused
  obtain ⟨_, entry, values, _, hwinner, hresult⟩ := hmatch herror
  have hresolution := (hclean hfound).2
  obtain ⟨hmatches, hkept⟩ := (hsame hother).2 hfound rfl
  refine ⟨hfound, herror, ⟨_, rfl, hmatches, hkept⟩, hresolution, entry, values, hwinner, ?_⟩
  exact congrArg Resolution.key
    (Option.some.inj (Except.ok.inj (hresult.symm.trans hresolution)))

end Registry

end DeepLink
