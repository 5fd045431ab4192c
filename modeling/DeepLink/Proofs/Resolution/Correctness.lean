import DeepLink.Proofs.Query.Parameters
import DeepLink.Proofs.Resolution.Extraction

/-! # Correctness of resolution

Resolution is compared with a declarative account: which routes match a link, which kind comes
first, and what the query says. A link resolves exactly when some route matches, to a route of the
first kind that has one, and a query is read only then. -/

namespace DeepLink

open DeepLink.Text

/-! ## Routes that match -/

/-- A route matches a text when the text is an address that its pattern fits. -/
def Entry.Matches {β : Type} (entry : Entry β) (clean : String) : Prop :=
  ∃ address taken, Address.parse clean = .ok address ∧ entry.pattern.Fits address taken

namespace Registry

variable {β : Type}

/-- The first kind, of direct, composite and action, of a route that matches. -/
def IsFirstKind (r : Registry β) (clean : String) (kind : Kind) : Prop :=
  ∃ before after, [Kind.direct, Kind.composite, Kind.action] = before ++ kind :: after ∧
    (∃ entry ∈ r.entries, entry.kind = kind ∧ entry.Matches clean) ∧
    ∀ entry ∈ r.entries, entry.kind ∈ before → ¬ entry.Matches clean

/-- A route of a kind that matches a text, with everything that a link is resolved to. -/
structure Describes (r : Registry β) (route clean : String) (pieces : List (List Char))
    (kind : Kind) (found : Resolution β) : Prop where
  route_eq : found.route = route
  clean_eq : found.clean = clean
  kind_eq : found.kind = kind
  entry : ∃ entry ∈ r.entries, entry.kind = kind ∧ entry.key = found.key ∧
    entry.binding = found.binding ∧ Pattern.compile entry.key = .ok entry.pattern ∧
    ∃ address taken, Address.parse clean = .ok address ∧ entry.pattern.Fits address taken ∧
      entry.pattern.Binds taken found.wildcards
  params : ∀ key, found.params.get? key = (pieces.filterMap Query.pair?).lookup key

/-! ## The first match -/

/-- Going through kinds in turn either finds no match, or stops at the first kind with one. -/
theorem WellFormed.firstMatch_spec {r : Registry β} (hr : r.WellFormed) (address : Address)
    (kinds : List Kind) :
    (r.firstMatch address kinds = none ∧ ∀ kind ∈ kinds, r.matchIn kind address = none) ∨
    ∃ entry taken values before after, r.firstMatch address kinds = some (entry, values) ∧
      kinds = before ++ entry.kind :: after ∧ entry ∈ r.entries ∧
      entry.pattern.Fits address taken ∧ entry.pattern.Binds taken values ∧
      ∀ kind ∈ before, r.matchIn kind address = none := by
  induction kinds with
  | nil => exact .inl ⟨rfl, by simp⟩
  | cons kind kinds ih =>
      cases hmatch : r.matchIn kind address with
      | none =>
          rw [firstMatch_cons_of_none hmatch]
          rcases ih with ⟨hnone, hall⟩ |
            ⟨entry, taken, values, before, after, hfirst, hkinds, hmem, hfits, hbinds, hbefore⟩
          · exact .inl ⟨hnone, by simpa [hmatch] using hall⟩
          · refine .inr ⟨entry, taken, values, kind :: before, after, hfirst, ?_, hmem, hfits,
              hbinds, by simpa [hmatch] using hbefore⟩
            rw [hkinds, List.cons_append]
      | some found =>
          obtain ⟨entry, taken⟩ := found
          obtain ⟨hmem, hkind, hfits⟩ := matchIn_eq_some hmatch
          obtain ⟨values, _, hbinds, hfirst⟩ := hr.firstMatch_cons_of_some hmatch kinds
          exact .inr ⟨entry, taken, values, [], kinds, hfirst, by rw [hkind, List.nil_append],
            hmem, hfits, hbinds, by simp⟩

theorem not_matches_of_matchIn_eq_none {r : Registry β} {clean : String} {address : Address}
    (hparse : Address.parse clean = .ok address) {entry : Entry β} (hmem : entry ∈ r.entries)
    (h : r.matchIn entry.kind address = none) : ¬ entry.Matches clean := by
  rintro ⟨other, taken, hother, hfits⟩
  rw [hparse] at hother
  injection hother with hother
  subst hother
  exact (matchIn_eq_none_iff r entry.kind address).1 h entry hmem rfl taken hfits

/-! ## The whole resolution -/

/-- Everything that resolving a link can come to. -/
theorem WellFormed.resolve_cases {r : Registry β} (hr : r.WellFormed) {route : String}
    {clean : List Char} {query : Option (List Char)} (hcuts : Cuts '?' route.toList clean query) :
    ((r.resolve route).result = .ok none ∧
      ∀ entry ∈ r.entries, ¬ entry.Matches (String.ofList clean)) ∨
    ∃ kind, r.IsFirstKind (String.ofList clean) kind ∧
      ((∃ piece, Query.IsFirstLoose (Query.piecesOf query) piece ∧
          (r.resolve route).result = .error (.malformedQuery route (String.ofList piece))) ∨
        (∀ piece ∈ Query.piecesOf query, '=' ∈ piece) ∧
          ∃ found, (r.resolve route).result = .ok (some found) ∧
            r.Describes route (String.ofList clean) (Query.piecesOf query) kind found) := by
  unfold resolve
  simp only [Query.split_eq_of_cuts hcuts]
  cases hparse : Address.parse (String.ofList clean) with
  | error fault =>
      refine .inl ⟨rfl, ?_⟩
      rintro entry _ ⟨address, taken, haddress, _⟩
      rw [hparse] at haddress
      cases haddress
  | ok address =>
      simp only
      rcases hr.firstMatch_spec address Kind.precedence with ⟨hnone, hall⟩ |
        ⟨entry, taken, values, before, after, hfirst, hkinds, hmem, hfits, hbinds, hbefore⟩
      · rw [hnone]
        refine .inl ⟨rfl, ?_⟩
        intro entry hmem
        exact not_matches_of_matchIn_eq_none hparse hmem (hall _ (Kind.mem_precedence _))
      · rw [hfirst]
        refine .inr ⟨entry.kind, ?_, ?_⟩
        · refine ⟨before, after, hkinds, ⟨entry, hmem, rfl, address, taken, hparse, hfits⟩, ?_⟩
          intro other hother hkind
          exact not_matches_of_matchIn_eq_none hparse hother (hbefore _ hkind)
        · simp only [Query.parse_eq_collect]
          rcases Query.exists_firstLoose_or_forall_mem (Query.piecesOf query) with
            ⟨piece, hpiece⟩ | hpaired
          · rw [(Query.collect_eq_error_iff .empty _ _).2 ⟨piece, hpiece, rfl⟩]
            exact .inl ⟨piece, hpiece, rfl⟩
          · obtain ⟨params, hparams, hget⟩ := Query.collect_eq_ok_of_forall_mem .empty hpaired
            rw [hparams]
            refine .inr ⟨hpaired, _, rfl, rfl, rfl, rfl, ?_, by simpa using hget⟩
            exact ⟨entry, hmem, rfl, rfl, rfl, hr.compiled entry hmem, address, taken, hparse,
              hfits, hbinds⟩

/-- A link is unmatched exactly when no route matches what stands in front of its query. -/
theorem WellFormed.resolve_eq_none_iff {r : Registry β} (hr : r.WellFormed) (route : String) :
    (r.resolve route).result = .ok none ↔
      ∀ entry ∈ r.entries, ¬ entry.Matches (Query.split route).1 := by
  have hcuts := cuts_cutAt '?' route.toList
  rw [Query.split_eq_of_cuts hcuts]
  rcases hr.resolve_cases hcuts with ⟨hresult, hnone⟩ |
    ⟨kind, ⟨_, _, _, ⟨entry, hmem, _, hmatches⟩, _⟩, hfound⟩
  · exact ⟨fun _ => hnone, fun _ => hresult⟩
  · refine ⟨fun hresult => ?_, fun hnone => absurd hmatches (hnone entry hmem)⟩
    rcases hfound with ⟨_, _, herror⟩ | ⟨_, _, hok, _⟩
    · rw [herror] at hresult
      cases hresult
    · rw [hok] at hresult
      cases hresult

/-- Resolution agrees with the account of it. No route is found exactly when none matches. Otherwise
the first kind with a match decides: the query is refused exactly when it has a piece without an
equals sign, and without such a piece the link resolves to a matching route of that kind. -/
theorem resolve_agrees {r : Registry β} (hr : r.Reachable) (route : String) :
    ∃ clean query, Cuts '?' route.toList clean query ∧
      ((r.resolve route).result = .ok none ↔
        ∀ entry ∈ r.entries, ¬ entry.Matches (String.ofList clean)) ∧
      ((∃ entry ∈ r.entries, entry.Matches (String.ofList clean)) →
        ∃ kind, r.IsFirstKind (String.ofList clean) kind ∧
          ((∃ error, (r.resolve route).result = .error error) ↔
            ∃ piece ∈ Query.piecesOf query, '=' ∉ piece) ∧
          (∀ piece, Query.IsFirstLoose (Query.piecesOf query) piece →
            (r.resolve route).result = .error (.malformedQuery route (String.ofList piece))) ∧
          ((∀ piece ∈ Query.piecesOf query, '=' ∈ piece) →
            ∃ found, (r.resolve route).result = .ok (some found) ∧
              r.Describes route (String.ofList clean) (Query.piecesOf query) kind found)) := by
  have hcuts := cuts_cutAt '?' route.toList
  refine ⟨_, _, hcuts, ?_, ?_⟩
  · rcases hr.wellFormed.resolve_cases hcuts with ⟨hresult, hnone⟩ |
      ⟨kind, ⟨_, _, _, ⟨entry, hmem, _, hmatches⟩, _⟩, hfound⟩
    · exact ⟨fun _ => hnone, fun _ => hresult⟩
    · constructor
      · intro hresult
        rcases hfound with ⟨_, _, herror⟩ | ⟨_, _, hok, _⟩
        · rw [herror] at hresult
          cases hresult
        · rw [hok] at hresult
          cases hresult
      · intro hnone
        exact absurd hmatches (hnone entry hmem)
  · rintro ⟨entry, hmem, hmatches⟩
    rcases hr.wellFormed.resolve_cases hcuts with ⟨_, hnone⟩ | ⟨kind, hkind, hfound⟩
    · exact absurd hmatches (hnone entry hmem)
    · refine ⟨kind, hkind, ?_⟩
      rcases hfound with ⟨piece, hpiece, herror⟩ | ⟨hpaired, found, hok, hdescribes⟩
      · refine ⟨⟨fun _ => ⟨piece, hpiece.mem, hpiece.not_mem⟩, fun _ => ⟨_, herror⟩⟩, ?_, ?_⟩
        · intro other hother
          rw [hother.unique hpiece]
          exact herror
        · intro hpaired
          exact absurd (hpaired piece hpiece.mem) hpiece.not_mem
      · refine ⟨⟨?_, ?_⟩, ?_, fun _ => ⟨found, hok, hdescribes⟩⟩
        · rintro ⟨error, herror⟩
          rw [hok] at herror
          cases herror
        · rintro ⟨piece, hmem, hloose⟩
          exact absurd (hpaired piece hmem) hloose
        · intro piece hpiece
          exact absurd (hpaired piece hpiece.mem) hpiece.not_mem

/-- A link with leading zeros, a slug, a repeated key and an empty piece. -/
theorem resolve_agrees_item :
    itemRegistry.Reachable ∧
      (∃ entry ∈ itemRegistry.entries, entry.Matches "app://h/items/042/a.b/x-1") ∧
      ∃ found, (itemRegistry.resolve "app://h/items/042/a.b/x-1?k=v&k=w&&q=").result =
          .ok (some found) ∧
        itemRegistry.Describes "app://h/items/042/a.b/x-1?k=v&k=w&&q=" "app://h/items/042/a.b/x-1"
          ["k=v".toList, "k=w".toList, "q=".toList] .composite found := by
  have haddress : Address.parse "app://h/items/042/a.b/x-1" =
      .ok ⟨"app", "h", ["items", "042", "a.b", "x-1"], false, false⟩ := rfl
  have halign : itemPattern.align ⟨"app", "h", ["items", "042", "a.b", "x-1"], false, false⟩ =
      some ["items", "042", "a.b"] := rfl
  have hmatches : ∃ entry ∈ itemRegistry.entries, entry.Matches "app://h/items/042/a.b/x-1" :=
    ⟨_, List.mem_singleton.2 rfl, _, _, haddress, (Pattern.align_eq_some_iff _ _ _).1 halign⟩
  obtain ⟨clean, query, hcuts, _, hmatched⟩ :=
    resolve_agrees reachable_itemRegistry "app://h/items/042/a.b/x-1?k=v&k=w&&q="
  have hcut : cutAt '?' "app://h/items/042/a.b/x-1?k=v&k=w&&q=".toList =
      ("app://h/items/042/a.b/x-1".toList, some "k=v&k=w&&q=".toList) := rfl
  obtain ⟨rfl, rfl⟩ := Prod.mk.inj (((cutAt_eq_iff _ _ _ _).2 hcuts).symm.trans hcut)
  obtain ⟨kind, ⟨_, _, _, ⟨entry, hmem, hkind, _⟩, _⟩, _, _, hresolved⟩ := hmatched hmatches
  have hcomposite : kind = .composite := by
    rw [← hkind, List.mem_singleton.1 hmem]
  subst hcomposite
  have hpieces : Query.piecesOf (some "k=v&k=w&&q=".toList) =
      ["k=v".toList, "k=w".toList, "q=".toList] := rfl
  rw [hpieces] at hresolved
  obtain ⟨found, hfound, hdescribes⟩ := hresolved (by decide)
  exact ⟨reachable_itemRegistry, hmatches, found, hfound, hdescribes⟩

end Registry

end DeepLink
