import DeepLink.Proofs.Text.Cutting
import DeepLink.Query

/-! # What a query says

The pieces of a query are read from the left. The first piece without `=` is the error; when there
is none, every key has the value of its first piece. -/

namespace DeepLink.Query

open DeepLink.Text

/-- The pieces between the ampersands of a query, empty ones left out. Without a query there are
none. -/
def piecesOf (query : Option (List Char)) : List (List Char) :=
  ((query.getD []).splitOn '&').filter (!·.isEmpty)

/-- The piece is the leftmost one without an equals sign. -/
def IsFirstLoose (pieces : List (List Char)) (piece : List Char) : Prop :=
  ∃ before after, pieces = before ++ piece :: after ∧ '=' ∉ piece ∧ ∀ other ∈ before, '=' ∈ other

theorem IsFirstLoose.mem {pieces : List (List Char)} {piece : List Char}
    (h : IsFirstLoose pieces piece) : piece ∈ pieces := by
  obtain ⟨before, after, rfl, _, _⟩ := h
  simp

theorem IsFirstLoose.not_mem {pieces : List (List Char)} {piece : List Char}
    (h : IsFirstLoose pieces piece) : '=' ∉ piece := by
  obtain ⟨_, _, _, hloose, _⟩ := h
  exact hloose

/-! ## Dividing a route -/

theorem split_eq_of_cuts {route : String} {clean : List Char} {query : Option (List Char)}
    (h : Cuts '?' route.toList clean query) :
    split route = (String.ofList clean, query.map String.ofList) := by
  rw [split, (cutAt_eq_iff _ _ _ _).2 h]

theorem parse_eq_collect (query : Option (List Char)) :
    parse (query.map String.ofList) = collect .empty (piecesOf query) := by
  cases query with
  | none => rfl
  | some text => simp [parse, pieces, piecesOf]

/-! ## One piece -/

theorem pair?_eq_none_iff (piece : List Char) : pair? piece = none ↔ '=' ∉ piece := by
  have hcuts := cuts_cutAt '=' piece
  simp only [pair?, Option.map_eq_none_iff]
  constructor
  · intro h
    rw [← cutAt_eq_of_none h]
    exact not_mem_cutAt_fst '=' piece
  · intro h
    rw [cutAt_of_not_mem h]

theorem pair?_append {key : List Char} (h : '=' ∉ key) (value : List Char) :
    pair? (key ++ '=' :: value) = some
      (String.ofList (Percent.decodeChars key), String.ofList (Percent.decodeChars value)) := by
  simp only [pair?, cutAt_append h, Option.map_some]

theorem mem_of_pair?_eq_some {piece : List Char} {pair : String × String}
    (h : pair? piece = some pair) : '=' ∈ piece := by
  apply Decidable.of_not_not
  intro hloose
  rw [(pair?_eq_none_iff piece).2 hloose] at h
  cases h

/-! ## All pieces -/

/-- The leftmost loose piece is the first one, or the leftmost among the others. -/
theorem isFirstLoose_cons_iff (first : List Char) (pieces : List (List Char)) (piece : List Char) :
    IsFirstLoose (first :: pieces) piece ↔
      ('=' ∉ first ∧ piece = first) ∨ ('=' ∈ first ∧ IsFirstLoose pieces piece) := by
  constructor
  · rintro ⟨before, after, heq, hloose, hbefore⟩
    cases before with
    | nil =>
        injection heq with hfirst _
        subst hfirst
        exact .inl ⟨hloose, rfl⟩
    | cons other before =>
        injection heq with hfirst hpieces
        subst hfirst
        exact .inr ⟨hbefore first (by simp),
          before, after, hpieces, hloose, fun p hp => hbefore p (by simp [hp])⟩
  · rintro (⟨hloose, rfl⟩ | ⟨hpaired, before, after, rfl, hloose, hbefore⟩)
    · exact ⟨[], pieces, rfl, hloose, by simp⟩
    · refine ⟨first :: before, after, rfl, hloose, ?_⟩
      intro other hother
      rcases List.mem_cons.1 hother with rfl | hother
      · exact hpaired
      · exact hbefore other hother

theorem exists_firstLoose_or_forall_mem (pieces : List (List Char)) :
    (∃ piece, IsFirstLoose pieces piece) ∨ ∀ piece ∈ pieces, '=' ∈ piece := by
  induction pieces with
  | nil => exact .inr (by simp)
  | cons first pieces ih =>
      by_cases hfirst : '=' ∈ first
      · rcases ih with ⟨piece, hpiece⟩ | hall
        · exact .inl ⟨piece, (isFirstLoose_cons_iff first pieces piece).2 (.inr ⟨hfirst, hpiece⟩)⟩
        · exact .inr (by simpa [hfirst] using hall)
      · exact .inl ⟨first, (isFirstLoose_cons_iff first pieces first).2 (.inl ⟨hfirst, rfl⟩)⟩

theorem collect_eq_error_iff (params : Dictionary String) (pieces : List (List Char))
    (text : String) :
    collect params pieces = .error text ↔
      ∃ piece, IsFirstLoose pieces piece ∧ text = String.ofList piece := by
  induction pieces generalizing params with
  | nil => simp [collect, IsFirstLoose]
  | cons first pieces ih =>
      simp only [isFirstLoose_cons_iff]
      unfold collect
      split
      · rename_i hpair
        have hloose := (pair?_eq_none_iff first).1 hpair
        simp [hloose, eq_comm]
      · rename_i key value hpair
        have hpaired := mem_of_pair?_eq_some hpair
        rw [ih]
        simp [hpaired]

/-- There is only one leftmost loose piece. -/
theorem IsFirstLoose.unique {pieces : List (List Char)} {piece other : List Char}
    (h : IsFirstLoose pieces piece) (h' : IsFirstLoose pieces other) : piece = other := by
  have herror := (collect_eq_error_iff .empty pieces _).2 ⟨piece, h, rfl⟩
  have herror' := (collect_eq_error_iff .empty pieces _).2 ⟨other, h', rfl⟩
  exact String.ofList_injective (Except.error.inj (herror.symm.trans herror'))

/-- Where every piece has an equals sign the parameters exist, and the first value of a key
counts. -/
theorem collect_eq_ok_of_forall_mem (params : Dictionary String) {pieces : List (List Char)}
    (h : ∀ piece ∈ pieces, '=' ∈ piece) :
    ∃ result, collect params pieces = .ok result ∧
      ∀ key, result.get? key = (params.get? key).or ((pieces.filterMap pair?).lookup key) := by
  induction pieces generalizing params with
  | nil => exact ⟨params, rfl, by simp⟩
  | cons piece pieces ih =>
      obtain ⟨⟨key, value⟩, hpair⟩ : ∃ pair, pair? piece = some pair := by
        cases hpair : pair? piece with
        | none => exact absurd (h piece (by simp)) ((pair?_eq_none_iff piece).1 hpair)
        | some pair => exact ⟨pair, rfl⟩
      obtain ⟨result, hresult, hget⟩ :=
        ih (params.insertNew key value) fun p hp => h p (by simp [hp])
      refine ⟨result, ?_, ?_⟩
      · rw [collect, hpair]
        exact hresult
      · intro other
        rw [hget, Dictionary.get?_insertNew, List.filterMap_cons_some hpair, List.lookup_cons]
        by_cases hother : other = key
        · subst hother
          cases hknown : params.get? other with
          | none => simp
          | some known => simp
        · rw [if_neg hother, beq_false_of_ne hother]

end DeepLink.Query
