import DeepLink.Proofs.Dictionary
import DeepLink.Proofs.Dispatch.Decision
import DeepLink.Proofs.Resolution.Query

/-! # What a query means

The meaning of a query is given piece by piece. A piece says one key and one value, the first piece
with a key decides, and one piece without an equals sign spoils the whole query. Reading agrees with
this on every text, so that a query behind another adds exactly the keys that are new. -/

namespace DeepLink

open DeepLink.Text

namespace Query

/-! ## What a piece says -/

/-- A piece says a key, in front of its first equals sign, and a value, which is everything behind
it. Each has its escapes resolved on its own. -/
inductive Says : List Char → String → String → Prop where
  | pair {left : List Char} (h : '=' ∉ left) (right : List Char) :
      Says (left ++ '=' :: right) (String.ofList (Percent.decodeChars left))
        (String.ofList (Percent.decodeChars right))

/-- The value is said by the leftmost piece with the key. -/
def FirstSays (pieces : List (List Char)) (key value : String) : Prop :=
  ∃ before piece after, pieces = before ++ piece :: after ∧ Says piece key value ∧
    ∀ other ∈ before, ∀ value', ¬ Says other key value'

/-- The parameters that pieces stand for: every key that is said, once, with its first value. -/
structure Maps (pieces : List (List Char)) (params : Dictionary String) : Prop where
  nodup : params.keys.Nodup
  mem_keys_iff : ∀ key, key ∈ params.keys ↔ ∃ piece ∈ pieces, ∃ value, Says piece key value
  get?_eq_some_iff : ∀ key value, params.get? key = some value ↔ FirstSays pieces key value

theorem pair?_eq_some_iff (piece : List Char) (key value : String) :
    pair? piece = some (key, value) ↔ Says piece key value := by
  constructor
  · intro h
    have hcuts := cuts_cutAt '=' piece
    simp only [pair?, Option.map_eq_some_iff, Prod.mk.injEq] at h
    obtain ⟨right, hright, rfl, rfl⟩ := h
    rw [hright] at hcuts
    generalize (cutAt '=' piece).1 = left at hcuts
    cases hcuts with
    | parted hleft right => exact .pair hleft right
  · rintro ⟨hleft, right⟩
    exact pair?_append hleft right

theorem firstSays_cons_iff (first : List Char) (pieces : List (List Char)) (key value : String) :
    FirstSays (first :: pieces) key value ↔
      Says first key value ∨ (∀ value', ¬ Says first key value') ∧ FirstSays pieces key value := by
  constructor
  · rintro ⟨before, piece, after, heq, hsaid, hbefore⟩
    cases before with
    | nil =>
        obtain ⟨rfl, rfl⟩ := List.cons.inj heq
        exact .inl hsaid
    | cons other before =>
        obtain ⟨rfl, rfl⟩ := List.cons.inj heq
        obtain ⟨hfirst, hbefore⟩ := List.forall_mem_cons.1 hbefore
        exact .inr ⟨hfirst, before, piece, after, rfl, hsaid, hbefore⟩
  · rintro (hsaid | ⟨hfirst, before, piece, after, rfl, hsaid, hbefore⟩)
    · exact ⟨[], first, pieces, rfl, hsaid, by simp⟩
    · exact ⟨first :: before, piece, after, rfl, hsaid, List.forall_mem_cons.2 ⟨hfirst, hbefore⟩⟩

/-- Looking a key up among the pairs of pieces finds what the leftmost piece with the key says. -/
theorem lookup_filterMap_eq_some_iff (pieces : List (List Char)) (key value : String) :
    (pieces.filterMap pair?).lookup key = some value ↔ FirstSays pieces key value := by
  induction pieces with
  | nil => simp [FirstSays]
  | cons first pieces ih =>
      simp only [firstSays_cons_iff, ← pair?_eq_some_iff, ← ih]
      cases hpair : pair? first with
      | none => simp [hpair]
      | some pair =>
          obtain ⟨known, value'⟩ := pair
          rw [List.filterMap_cons_some hpair, List.lookup_cons]
          by_cases hkey : key = known
          · simp [hkey]
          · simp [beq_false_of_ne hkey, Ne.symm hkey]

theorem mem_keys_filterMap_iff (pieces : List (List Char)) (key : String) :
    key ∈ (pieces.filterMap pair?).map (·.1) ↔ ∃ piece ∈ pieces, ∃ value, Says piece key value := by
  simp only [List.mem_map, List.mem_filterMap, ← pair?_eq_some_iff]
  constructor
  · rintro ⟨⟨_, value⟩, ⟨piece, hpiece, hpair⟩, rfl⟩
    exact ⟨piece, hpiece, value, hpair⟩
  · rintro ⟨piece, hpiece, value, hpair⟩
    exact ⟨(key, value), ⟨piece, hpiece, hpair⟩, rfl⟩

/-! ## Reading piece after piece -/

theorem collect_cons_of_pair {piece : List Char} {key value : String}
    (h : pair? piece = some (key, value)) (params : Dictionary String)
    (pieces : List (List Char)) :
    collect params (piece :: pieces) = collect (params.insertNew key value) pieces := by
  simp only [collect, h]

theorem collect_cons_eq_ok {params last : Dictionary String} {piece : List Char}
    {pieces : List (List Char)} (h : collect params (piece :: pieces) = .ok last) :
    ∃ key value, pair? piece = some (key, value) ∧
      collect (params.insertNew key value) pieces = .ok last := by
  cases hpair : pair? piece with
  | none =>
      simp only [collect, hpair] at h
      cases h
  | some pair => exact ⟨pair.1, pair.2, rfl, collect_cons_of_pair hpair params pieces ▸ h⟩

theorem exists_collect_iff (params : Dictionary String) (pieces : List (List Char)) :
    (∃ last, collect params pieces = .ok last) ↔ ∀ piece ∈ pieces, '=' ∈ piece := by
  constructor
  · rintro ⟨last, hlast⟩
    rcases exists_firstLoose_or_forall_mem pieces with ⟨piece, hpiece⟩ | hpaired
    · rw [(collect_eq_error_iff params pieces _).2 ⟨piece, hpiece, rfl⟩] at hlast
      cases hlast
    · exact hpaired
  · intro hpaired
    obtain ⟨last, hlast, _⟩ := collect_eq_ok_of_forall_mem params hpaired
    exact ⟨last, hlast⟩

theorem nodup_keys_collect {params last : Dictionary String} {pieces : List (List Char)}
    (hparams : params.keys.Nodup) (h : collect params pieces = .ok last) : last.keys.Nodup := by
  induction pieces generalizing params with
  | nil => exact Except.ok.inj h ▸ hparams
  | cons piece pieces ih =>
      obtain ⟨key, value, _, hrest⟩ := collect_cons_eq_ok h
      exact ih (Dictionary.nodup_keys_insertNew hparams key value) hrest

theorem maps_of_collect {pieces : List (List Char)} {params : Dictionary String}
    (h : collect .empty pieces = .ok params) : Maps pieces params := by
  have hpaired := (exists_collect_iff .empty pieces).1 ⟨params, h⟩
  obtain ⟨result, hresult, hget⟩ := collect_eq_ok_of_forall_mem .empty hpaired
  obtain rfl : params = result := Except.ok.inj (h.symm.trans hresult)
  have hlookup : ∀ key, params.get? key = (pieces.filterMap pair?).lookup key := by simpa using hget
  have hempty : (Dictionary.empty : Dictionary String).keys.Nodup := List.nodup_nil
  refine ⟨nodup_keys_collect hempty h, fun key => ?_, fun key value => ?_⟩
  · rw [Dictionary.mem_keys_iff, ← mem_keys_filterMap_iff]
    simp only [hlookup]
    exact (Dictionary.mem_keys_iff ⟨pieces.filterMap pair?⟩ key).symm
  · rw [hlookup, lookup_filterMap_eq_some_iff]

/-! ## One query behind another -/

/-- Pieces that are read go on with others. -/
theorem collect_append {params next : Dictionary String} {pieces : List (List Char)}
    (h : collect params pieces = .ok next) (others : List (List Char)) :
    collect params (pieces ++ others) = collect next others := by
  induction pieces generalizing params with
  | nil =>
      obtain rfl := Except.ok.inj h
      rfl
  | cons piece pieces ih =>
      obtain ⟨key, value, hpair, hrest⟩ := collect_cons_eq_ok h
      rw [List.cons_append, collect_cons_of_pair hpair, ih hrest]

/-- What was read before only takes keys away from the pieces that follow. -/
theorem collect_extend (d : Dictionary String) {params last : Dictionary String}
    {pieces : List (List Char)} (h : collect params pieces = .ok last) :
    collect (d.extend params) pieces = .ok (d.extend last) := by
  induction pieces generalizing params with
  | nil =>
      obtain rfl := Except.ok.inj h
      rfl
  | cons piece pieces ih =>
      obtain ⟨key, value, hpair, hrest⟩ := collect_cons_eq_ok h
      rw [collect_cons_of_pair hpair, ← Dictionary.extend_insertNew, ih hrest]

theorem pieces_append (query other : String) :
    pieces (query ++ "&" ++ other) = pieces query ++ pieces other := by
  have htext : (query ++ "&" ++ other).toList = query.toList ++ '&' :: other.toList := by simp
  rw [pieces, htext, List.splitOn_append_cons_self, List.filter_append, pieces, pieces]

theorem parse_append {query other : String} {params params' : Dictionary String}
    (h : parse (some query) = .ok params) (h' : parse (some other) = .ok params') :
    parse (some (query ++ "&" ++ other)) = .ok (params.extend params') := by
  have hrest : collect (params.extend .empty) (pieces other) = .ok (params.extend params') :=
    collect_extend params h'
  rw [Dictionary.extend_empty] at hrest
  rw [parse, pieces_append, collect_append h, hrest]

/-! ## What is reported -/

/-- A refused query is reported with the whole route: its leftmost piece without an equals sign, as
it is written. -/
def Reports (route : String) (pieces : List (List Char)) (error : RouteError) : Prop :=
  ∃ piece, IsFirstLoose pieces piece ∧ error = .malformedQuery route (String.ofList piece)

theorem reports_iff (route query : String) (error : RouteError) :
    Reports route (pieces query) error ↔
      ∃ text, parse (some query) = .error text ∧ error = .malformedQuery route text := by
  simp only [parse, collect_eq_error_iff, Reports]
  constructor
  · rintro ⟨piece, hpiece, rfl⟩
    exact ⟨_, ⟨piece, hpiece, rfl⟩, rfl⟩
  · rintro ⟨_, ⟨piece, hpiece, rfl⟩, rfl⟩
    exact ⟨piece, hpiece, rfl⟩

end Query

/-- A matched link is refused for its query alone. -/
theorem Registry.result_resolve_of_winner {β : Type} {r : Registry β} {route query : String}
    {clean : List Char} (hcuts : Cuts '?' route.toList clean (some query.toList))
    (hwinner : (r.winner? (String.ofList clean)).isSome) (error : RouteError) :
    (r.resolve route).result = .error error ↔ Query.Reports route (Query.pieces query) error := by
  obtain ⟨⟨entry, values⟩, hwon⟩ := Option.isSome_iff_exists.1 hwinner
  rw [result_eq_error_iff hcuts, Query.reports_iff, hwon, Option.map_some, String.ofList_toList]
  constructor
  · rintro ⟨_, _, piece, _, hquery, herror⟩
    exact ⟨piece, hquery, herror⟩
  · rintro ⟨piece, hquery, herror⟩
    exact ⟨entry, values, piece, rfl, hquery, herror⟩

/-- A link that no route matches, and that a fallback stands in for, is refused for its query
alone. -/
theorem Dispatcher.result_dispatch_of_fallback {d : Dispatcher} {route query : String}
    {clean : List Char} (hcuts : Cuts '?' route.toList clean (some query.toList))
    (hwinner : d.registry.winner? (String.ofList clean) = none) (hfallback : d.fallback.isSome)
    (arguments : List (String × String)) (flags : Flags) (error : RouteError) :
    (d.dispatch route arguments flags).result = .error (.route error) ↔
      Query.Reports route (Query.pieces query) error := by
  have hresolve := (Registry.result_eq_none_iff hcuts).2 hwinner
  have hsplit : (Query.split route).2 = some query := by simp [Query.split_eq_of_cuts hcuts]
  -- What was chosen is the fallback, and so the query was read.
  have hread : ∀ {choice}, d.choose route = .ok choice →
      ∃ params, Query.parse (some query) = .ok params := by
    intro choice hchoice
    rcases choose_eq_ok hchoice with ⟨found, hfound⟩ | ⟨_, _, hparams⟩
    · rw [hresolve] at hfound
      cases hfound
    · rwa [hsplit] at hparams
  rw [Query.reports_iff, result_dispatch]
  have hdecides := d.verdict_decides route arguments flags
  generalize d.verdict route arguments flags = verdict at hdecides
  cases hdecides with
  | unresolved hother =>
      rw [hresolve] at hother
      cases hother
  | fallbackUnreadable _ _ hquery =>
      rw [hsplit] at hquery
      simp [Verdict.result, hquery, eq_comm]
  | unmatched _ hnone =>
      rw [hnone] at hfallback
      cases hfallback
  | repeated hchoice _ =>
      obtain ⟨params, hparams⟩ := hread hchoice
      simp [Verdict.result, hparams]
  | unpresentable hchoice _ _ =>
      obtain ⟨params, hparams⟩ := hread hchoice
      simp [Verdict.result, hparams]
  | @presented choice _ _ hchoice _ _ _ =>
      obtain ⟨params, hparams⟩ := hread hchoice
      cases choice.fallback <;> simp [Verdict.result, hparams]

namespace Query

/-- A query is read exactly. It is refused exactly when a piece has no equals sign; the leftmost one
is the fault, and whoever needed the query reports it with the whole route: a link that matches, or
one that the fallback stands in for. Otherwise the parameters are the keys that the pieces say, each
with the value of the leftmost piece that says it. Of two queries that are read, the second adds to
the first the keys that are new. -/
theorem parse_exact (query : String) :
    ∃ pieces, Splits '&' query.toList pieces ∧
      ((∃ text, parse (some query) = .error text) ↔ ∃ piece ∈ pieces, '=' ∉ piece) ∧
      (∀ text, parse (some query) = .error text ↔
        ∃ piece, IsFirstLoose pieces piece ∧ text = String.ofList piece) ∧
      (∀ (route : String) (clean : List Char), Cuts '?' route.toList clean (some query.toList) →
        (∀ (β : Type) (r : Registry β), (r.winner? (String.ofList clean)).isSome → ∀ error,
          (r.resolve route).result = .error error ↔ Reports route pieces error) ∧
        ∀ d : Dispatcher, d.registry.winner? (String.ofList clean) = none → d.fallback.isSome →
          ∀ arguments flags error, (d.dispatch route arguments flags).result =
            .error (.route error) ↔ Reports route pieces error) ∧
      ((∀ piece ∈ pieces, '=' ∈ piece) →
        ∃ params, parse (some query) = .ok params ∧ Maps pieces params) ∧
      ∀ other params params', parse (some query) = .ok params → parse (some other) = .ok params' →
        parse (some (query ++ "&" ++ other)) = .ok (params.extend params') := by
  have hfault := collect_eq_error_iff .empty (pieces query)
  refine ⟨pieces query, (splits_iff _ _ _).2 rfl, ?_, hfault, ?_, ?_, ?_⟩
  · constructor
    · rintro ⟨text, htext⟩
      obtain ⟨piece, hpiece, _⟩ := (hfault text).1 htext
      exact ⟨piece, hpiece.mem, hpiece.not_mem⟩
    · rintro ⟨piece, hmem, hloose⟩
      rcases exists_firstLoose_or_forall_mem (pieces query) with ⟨first, hfirst⟩ | hpaired
      · exact ⟨_, (hfault _).2 ⟨first, hfirst, rfl⟩⟩
      · exact absurd (hpaired piece hmem) hloose
  · intro route clean hcuts
    exact ⟨fun β r hwinner => r.result_resolve_of_winner hcuts hwinner,
      fun d hwinner hfallback => d.result_dispatch_of_fallback hcuts hwinner hfallback⟩
  · intro hpaired
    obtain ⟨params, hparams⟩ := (exists_collect_iff .empty (pieces query)).2 hpaired
    exact ⟨params, hparams, maps_of_collect hparams⟩
  · intro other params params' hparams hparams'
    exact parse_append hparams hparams'

/-- One key written in three ways, with an equals sign in its value; a second query adds a key whose
value is empty. -/
theorem parse_exact_escaped :
    parse (some "a%20b=x=y&a b=z") = .ok ⟨[("a b", "x=y")]⟩ ∧
      parse (some "c=&&%61 b=2") = .ok ⟨[("c", ""), ("a b", "2")]⟩ ∧
      parse (some ("a%20b=x=y&a b=z" ++ "&" ++ "c=&&%61 b=2")) =
        .ok ⟨[("a b", "x=y"), ("c", "")]⟩ := by
  have hfirst : parse (some "a%20b=x=y&a b=z") = .ok ⟨[("a b", "x=y")]⟩ := rfl
  have hsecond : parse (some "c=&&%61 b=2") = .ok ⟨[("c", ""), ("a b", "2")]⟩ := rfl
  obtain ⟨_, _, _, _, _, _, hjoined⟩ := parse_exact "a%20b=x=y&a b=z"
  exact ⟨hfirst, hsecond, hjoined _ _ _ hfirst hsecond⟩

end Query

end DeepLink
