/-! # Cutting text at a mark

The first occurrence of a mark divides a text in two. The lemmas say that nothing but the mark is
lost, and that the part before a one-character mark does not hold it. -/

namespace DeepLink.Text

/-- The text before the first `mark`, and the text after it when there is one. -/
def cutAt (mark : Char) (text : List Char) : List Char × Option (List Char) :=
  (text.takeWhile (· != mark), (text.dropWhile (· != mark)).tail?)

theorem not_mem_cutAt_fst (mark : Char) (text : List Char) : mark ∉ (cutAt mark text).1 := by
  induction text with
  | nil => simp [cutAt]
  | cons c rest ih =>
      by_cases h : c = mark
      · simp [cutAt, h]
      · have hne : mark ≠ c := fun e => h e.symm
        simpa [cutAt, h, hne] using ih

/-- Without the mark there is nothing to cut off. -/
theorem cutAt_eq_of_none {mark : Char} {text : List Char} (h : (cutAt mark text).2 = none) :
    (cutAt mark text).1 = text := by
  induction text with
  | nil => rfl
  | cons c rest ih =>
      by_cases hc : c = mark
      · simp [cutAt, hc] at h
      · simp only [cutAt, bne_iff_ne, ne_eq, hc, not_false_eq_true, List.takeWhile_cons_of_pos,
          List.dropWhile_cons_of_pos] at h ⊢
        exact congrArg (List.cons c) (ih h)

/-- The two parts and the mark between them make up the text. -/
theorem eq_append_of_cutAt {mark : Char} {text after : List Char}
    (h : (cutAt mark text).2 = some after) : text = (cutAt mark text).1 ++ mark :: after := by
  induction text with
  | nil => simp [cutAt] at h
  | cons c rest ih =>
      by_cases hc : c = mark
      · simp [cutAt, hc] at h ⊢
        exact h
      · simp only [cutAt, bne_iff_ne, ne_eq, hc, not_false_eq_true, List.takeWhile_cons_of_pos,
          List.dropWhile_cons_of_pos] at h ⊢
        exact congrArg (List.cons c) (ih h)

/-- The text before the first occurrence of a word, and the text after it. -/
def cutAtWord (word : List Char) : List Char → Option (List Char × List Char)
  | [] => if word.isEmpty then some ([], []) else none
  | c :: rest =>
      if word.isPrefixOf (c :: rest) then some ([], (c :: rest).drop word.length)
      else (cutAtWord word rest).map fun (before, after) => (c :: before, after)

/-- The two parts and the word between them make up the text. -/
theorem eq_append_of_cutAtWord {word text before after : List Char}
    (h : cutAtWord word text = some (before, after)) : text = before ++ word ++ after := by
  induction text generalizing before with
  | nil =>
      simp only [cutAtWord, List.isEmpty_iff] at h
      split at h
      · rename_i hw
        simp at h
        simp [h, hw]
      · cases h
  | cons c rest ih =>
      rw [cutAtWord] at h
      split at h
      · rename_i hp
        injection h with h
        injection h with hb ha
        subst hb ha
        obtain ⟨tail, htail⟩ := List.isPrefixOf_iff_prefix.1 hp
        rw [← htail]
        simp
      · obtain ⟨⟨b, a⟩, hcut, heq⟩ := Option.map_eq_some_iff.1 h
        injection heq with hb ha
        subst hb ha
        simpa using ih hcut

end DeepLink.Text
