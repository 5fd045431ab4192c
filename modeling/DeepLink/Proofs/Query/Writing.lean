import DeepLink.Proofs.Query.Parameters
import DeepLink.Proofs.Text.Spelling
import Mathlib.Data.List.Forall2

/-! # Writing a query

Pairs are written as `key=value` with ampersands between them. A key escapes the equals sign as
well, a value need not. The pieces of such a query are read back as the pairs. -/

namespace DeepLink.Query

open DeepLink.Text

/-- The characters that a key cannot hold unescaped. -/
def keyReserved : List Char := ['%', '&', '=']

/-- The characters that a value cannot hold unescaped. -/
def valueReserved : List Char := ['%', '&']

/-- The pieces that write a pair. -/
inductive WritesPair : String × String → List Char → Prop where
  | joined {key value : String} {left right : List Char}
      (hkey : Spelling keyReserved key.toList left)
      (hvalue : Spelling valueReserved value.toList right) :
      WritesPair (key, value) (left ++ '=' :: right)

/-- The queries that write a list of pairs. -/
inductive Writes (pairs : List (String × String)) : List Char → Prop where
  | joined {pieces} (h : List.Forall₂ WritesPair pairs pieces) :
      Writes pairs (['&'].intercalate pieces)

/-! ## One pair -/

theorem WritesPair.pair?_eq {pair : String × String} {piece : List Char}
    (h : WritesPair pair piece) : pair? piece = some pair := by
  cases h with
  | joined hkey hvalue =>
      have hequals : '=' ∉ _ := hkey.not_mem (by decide) (by decide) rfl
      rw [pair?_append hequals, decodeChars_spelling (by decide) hkey,
        decodeChars_spelling (by decide) hvalue, String.ofList_toList, String.ofList_toList]

theorem WritesPair.not_mem {pair : String × String} {piece : List Char}
    (h : WritesPair pair piece) : '&' ∉ piece := by
  cases h with
  | joined hkey hvalue =>
      have hleft : '&' ∉ _ := hkey.not_mem (by decide) (by decide) rfl
      have hright : '&' ∉ _ := hvalue.not_mem (by decide) (by decide) rfl
      simp [hleft, hright]

/-! ## All pairs -/

theorem piecesOf_intercalate {pieces : List (List Char)}
    (h : ∀ piece ∈ pieces, '&' ∉ piece ∧ piece ≠ []) :
    piecesOf (some (['&'].intercalate pieces)) = pieces := by
  by_cases hnil : pieces = []
  · subst hnil
    rfl
  · have hkept : pieces.filter (!·.isEmpty) = pieces := by
      rw [List.filter_eq_self]
      intro piece hpiece
      simpa using (h piece hpiece).2
    rw [piecesOf, Option.getD_some,
      List.splitOn_intercalate '&' (fun piece hpiece => (h piece hpiece).1) hnil, hkept]

/-- A written query has an equals sign in every piece, and its pieces say the pairs. -/
theorem Writes.pieces_spec {pairs : List (String × String)} {query : List Char}
    (h : Writes pairs query) :
    (∀ piece ∈ piecesOf (some query), '=' ∈ piece) ∧
      (piecesOf (some query)).filterMap pair? = pairs := by
  obtain ⟨hpieces⟩ := h
  rename_i pieces
  have hread : (∀ piece ∈ pieces, '&' ∉ piece ∧ '=' ∈ piece) ∧ pieces.filterMap pair? = pairs := by
    induction hpieces with
    | nil => simp
    | @cons pair piece pairs pieces hpair _ ih =>
        obtain ⟨hmarks, hpairs⟩ := ih
        refine ⟨?_, by rw [List.filterMap_cons_some hpair.pair?_eq, hpairs]⟩
        intro other hother
        rcases List.mem_cons.1 hother with rfl | hother
        · exact ⟨hpair.not_mem, mem_of_pair?_eq_some hpair.pair?_eq⟩
        · exact hmarks other hother
  have hsplit : piecesOf (some (['&'].intercalate pieces)) = pieces := by
    apply piecesOf_intercalate
    intro piece hpiece
    obtain ⟨hamp, hequals⟩ := hread.1 piece hpiece
    exact ⟨hamp, List.ne_nil_of_mem hequals⟩
  rw [hsplit]
  exact ⟨fun piece hpiece => (hread.1 piece hpiece).2, hread.2⟩

end DeepLink.Query
