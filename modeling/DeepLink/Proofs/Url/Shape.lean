import DeepLink.Proofs.Address.Layout
import DeepLink.Proofs.Results

/-! # The shape of a path

Whether the path of a URL is hierarchical is settled by what stands up to the first `://`. Two
texts that agree so far, and that both pass the syntax check, have paths of one shape. -/

namespace DeepLink.Url

open DeepLink.Text

/-! ## What the check ignores -/

/-- Whether a character is ignored at the two ends of a text. -/
def isEdge (c : Char) : Bool := decide (c.toNat ≤ 0x20)

/-- Whether a character is kept within a text. -/
def isKept (c : Char) : Bool := c ≠ '\t' && c ≠ '\n' && c ≠ '\r'

theorem significant_eq (text : List Char) :
    significant text =
      ((text.dropWhile isEdge).reverse.dropWhile isEdge).reverse.filter isKept := rfl

theorem isKept_of_not_isEdge {c : Char} (hc : isEdge c = false) : isKept c = true := by
  simp only [isKept, ne_eq, Bool.and_eq_true, decide_eq_true_eq]
  refine ⟨⟨?_, ?_⟩, ?_⟩
  · rintro rfl
    exact absurd hc (by decide)
  · rintro rfl
    exact absurd hc (by decide)
  · rintro rfl
    exact absurd hc (by decide)

/-- Up to a character that is not ignored, what follows has no part in what is ignored. -/
theorem significant_append {c : Char} (hc : isEdge c = false) (front rest : List Char) :
    ∃ tail, significant (front ++ [c] ++ rest) =
      (front.dropWhile isEdge).filter isKept ++ [c] ++ tail := by
  have hkept := isKept_of_not_isEdge hc
  have hfront : (front ++ [c]).dropWhile isEdge = front.dropWhile isEdge ++ [c] := by
    rw [List.dropWhile_append]
    split
    · rename_i hempty
      rw [List.isEmpty_iff.1 hempty, List.dropWhile_cons_of_neg (by simp [hc]), List.nil_append]
    · rfl
  have hwhole : (front ++ [c] ++ rest).dropWhile isEdge =
      front.dropWhile isEdge ++ [c] ++ rest := by
    rw [List.dropWhile_append, hfront, if_neg (by simp)]
  have hback : (front.dropWhile isEdge ++ [c] ++ rest).reverse.dropWhile isEdge =
      rest.reverse.dropWhile isEdge ++ c :: (front.dropWhile isEdge).reverse := by
    rw [List.append_assoc, List.reverse_append, List.reverse_append, List.reverse_singleton,
      List.append_assoc, List.dropWhile_append]
    split
    · rename_i hempty
      rw [List.isEmpty_iff.1 hempty, List.singleton_append,
        List.dropWhile_cons_of_neg (by simp [hc]), List.nil_append]
    · rfl
  refine ⟨(rest.reverse.dropWhile isEdge).reverse.filter isKept, ?_⟩
  rw [significant_eq, hwhole, hback]
  simp [hkept]

/-! ## The scheme -/

/-- Once a character ends the scheme, what follows goes to the text behind it. -/
theorem scheme?_append {front : List Char} (h : front.dropWhile isSchemeChar ≠ [])
    (rest : List Char) :
    scheme? (front ++ rest) =
      (scheme? front).map fun (scheme, behind) => (scheme, behind ++ rest) := by
  have htake : (front ++ rest).takeWhile isSchemeChar = front.takeWhile isSchemeChar := by
    rw [List.takeWhile_append, if_neg]
    intro hlength
    have hparts := congrArg List.length
      (List.takeWhile_append_dropWhile (p := isSchemeChar) (l := front))
    rw [List.length_append] at hparts
    have hzero : (front.dropWhile isSchemeChar).length = 0 := by omega
    exact h (List.length_eq_zero_iff.1 hzero)
  have hdrop : (front ++ rest).dropWhile isSchemeChar = front.dropWhile isSchemeChar ++ rest := by
    rw [List.dropWhile_append, if_neg (by simpa using h)]
  unfold scheme?
  rw [htake, hdrop]
  cases front.takeWhile isSchemeChar with
  | nil => simp
  | cons c name =>
      cases hbehind : front.dropWhile isSchemeChar with
      | nil => exact absurd hbehind h
      | cons mark behind =>
          by_cases hmark : mark = ':'
          · subst hmark
            by_cases hc : c.isAlpha
            · simp [hc]
            · simp [hc]
          · simp [hmark]

/-- The scheme is followed by its colon. -/
theorem eq_append_of_scheme? {text scheme behind : List Char}
    (h : scheme? text = some (scheme, behind)) :
    text = text.takeWhile isSchemeChar ++ ':' :: behind := by
  unfold scheme? at h
  have hparts := List.takeWhile_append_dropWhile (p := isSchemeChar) (l := text)
  generalize text.takeWhile isSchemeChar = name at h hparts ⊢
  generalize text.dropWhile isSchemeChar = rest at h hparts
  subst hparts
  dsimp only at h
  split at h
  · split at h
    · injection h with h
      injection h with _ hbehind
      rw [hbehind]
    · cases h
  · cases h

/-! ## The shape -/

/-- The path is one opaque text when an ordinary scheme is not followed by a slash. -/
theorem shape_of_check {text : List Char} {shape : Shape} (h : check text = .ok shape) :
    ∃ scheme behind, scheme? (significant text) = some (scheme, behind) ∧
      (shape = .rootless ↔ SchemeClass.of scheme = .ordinary ∧ behind.head? ≠ some '/') := by
  unfold check at h
  split at h
  · cases h
  · rename_i scheme behind hscheme
    refine ⟨scheme, behind, hscheme, ?_⟩
    split at h
    · rename_i hclass
      obtain ⟨_, _, rfl⟩ := map_eq_ok h
      simp [hclass]
    · rename_i hclass
      obtain ⟨_, _, rfl⟩ := map_eq_ok h
      simp [hclass]
    · rename_i hclass
      obtain ⟨_, _, rfl⟩ := map_eq_ok h
      simp [hclass]
    · injection h with h
      subst h
      simp
    · rename_i hclass _ hslash
      injection h with h
      subst h
      refine ⟨fun _ => ⟨hclass, ?_⟩, fun _ => rfl⟩
      intro hhead
      obtain ⟨rest, rfl⟩ := List.head?_eq_some_iff.1 hhead
      exact hslash rest rfl

/-- In front of the first colon of a URL stand scheme characters, and what the check ignores. -/
theorem schemeChar_of_check {front rest : List Char} {shape : Shape}
    (h : check (front ++ ':' :: rest) = .ok shape) (hcolon : ':' ∉ front) {c : Char}
    (hc : c ∈ front) : isEdge c ∨ isSchemeChar c := by
  obtain ⟨scheme, behind, hscheme, _⟩ := shape_of_check h
  have hedge : isEdge ':' = false := rfl
  obtain ⟨tail, hsignificant⟩ := significant_append hedge front rest
  simp only [List.append_assoc, List.singleton_append] at hsignificant
  have hbegin := eq_append_of_scheme? hscheme
  rw [hsignificant] at hbegin
  -- Both sides are cut at their first colon, so the kept part of the front is the scheme.
  have hkept : ':' ∉ (front.dropWhile isEdge).filter isKept := fun hmem =>
    hcolon ((List.dropWhile_sublist _).subset (List.mem_filter.1 hmem).1)
  have hname : ∀ text : List Char, ':' ∉ text.takeWhile isSchemeChar := by
    intro text hmem
    exact absurd (List.all_eq_true.1 List.all_takeWhile _ hmem) (by decide)
  have hcut := congrArg (fun text => (cutAt ':' text).1) hbegin
  simp only [cutAt_append hkept, cutAt_append (hname _)] at hcut
  by_cases hignored : isEdge c = true
  · exact .inl hignored
  · have hcedge : isEdge c = false := by simpa using hignored
    have hrest : c ∈ front.dropWhile isEdge := by
      have hparts := List.takeWhile_append_dropWhile (p := isEdge) (l := front)
      rw [← hparts, List.mem_append] at hc
      rcases hc with hc | hc
      · exact absurd (List.all_eq_true.1 List.all_takeWhile c hc) hignored
      · exact hc
    have hmem := List.mem_filter.2 ⟨hrest, isKept_of_not_isEdge hcedge⟩
    rw [hcut] at hmem
    exact .inr (List.all_eq_true.1 List.all_takeWhile c hmem)

/-- Texts that agree up to the first `://` have paths of the same shape. -/
theorem shape_eq_of_check {front rest other : List Char} {shape shape' : Shape}
    (h : check (front ++ Address.authorityMark ++ rest) = .ok shape)
    (h' : check (front ++ Address.authorityMark ++ other) = .ok shape') : shape = shape' := by
  have hmark : front ++ Address.authorityMark = front ++ [':', '/'] ++ ['/'] := by
    simp [Address.authorityMark]
  rw [hmark] at h h'
  have hslash : isEdge '/' = false := rfl
  obtain ⟨tail, hsignificant⟩ := significant_append hslash (front ++ [':', '/']) rest
  obtain ⟨tail', hsignificant'⟩ := significant_append hslash (front ++ [':', '/']) other
  obtain ⟨scheme, behind, hscheme, hshape⟩ := shape_of_check h
  obtain ⟨scheme', behind', hscheme', hshape'⟩ := shape_of_check h'
  generalize ((front ++ [':', '/']).dropWhile isEdge).filter isKept = shared at *
  have hends : (shared ++ ['/']).dropWhile isSchemeChar ≠ [] := by
    rw [List.dropWhile_append]
    split
    · decide
    · simp
  rw [hsignificant, scheme?_append hends] at hscheme
  rw [hsignificant', scheme?_append hends] at hscheme'
  obtain ⟨⟨name, colon⟩, hname, heq⟩ := Option.map_eq_some_iff.1 hscheme
  rw [hname] at hscheme'
  injection heq with hn hb
  injection hscheme' with heq'
  injection heq' with hn' hb'
  subst hn hb hb' hn'
  -- The shared part ends in a slash, so something of it stands behind the colon of the scheme.
  have hcolon : colon ≠ [] := by
    rintro rfl
    have hlast := congrArg List.getLast? (eq_append_of_scheme? hname)
    simp at hlast
  obtain ⟨c, colon, rfl⟩ := List.exists_cons_of_ne_nil hcolon
  have hiff : shape = .rootless ↔ shape' = .rootless := by
    rw [hshape, hshape']
    simp
  cases shape with
  | hierarchical =>
      cases shape' with
      | hierarchical => rfl
      | rootless => exact absurd (hiff.2 rfl) (by decide)
  | rootless => exact (hiff.1 rfl).symm

end DeepLink.Url
