import DeepLink.Text.Cut

/-! # Where a text is cut

A declarative account of cutting at the first mark, and the cuts of texts that were put together:
the part in front decides where the first mark stands, whatever comes after it. -/

namespace DeepLink.Text

/-! ## The first mark -/

/-- The parts of a text before and after its first `mark`. -/
inductive Cuts (mark : Char) : List Char → List Char → Option (List Char) → Prop where
  | whole {text} (h : mark ∉ text) : Cuts mark text text none
  | parted {before} (h : mark ∉ before) (after) :
      Cuts mark (before ++ mark :: after) before (some after)

theorem Cuts.not_mem {mark : Char} {text before : List Char} {after : Option (List Char)}
    (h : Cuts mark text before after) : mark ∉ before := by
  cases h with
  | whole h => exact h
  | parted h after => exact h

theorem head?_all_append {p : Char → Bool} {front back : List Char} (hfront : front.head?.all p)
    (hback : back.head?.all p) : (front ++ back).head?.all p := by
  cases front with
  | nil => exact hback
  | cons c front => exact hfront

theorem head?_all_mono {p q : Char → Bool} (hpq : ∀ c, p c → q c) {text : List Char}
    (h : text.head?.all p) : text.head?.all q := by
  cases text with
  | nil => rfl
  | cons c text => exact hpq c h

/-- A part whose characters are all kept ends where one that is not, or nothing, follows. -/
theorem takeWhile_append_of_head {kept : Char → Bool} {before : List Char}
    (h : ∀ c ∈ before, kept c) (after : List Char) (hafter : after.head?.all (!kept ·)) :
    (before ++ after).takeWhile kept = before ∧ (before ++ after).dropWhile kept = after := by
  rw [List.takeWhile_append_of_pos h, List.dropWhile_append_of_pos h]
  cases after with
  | nil => simp
  | cons c after =>
      have hc : kept c = false := by simpa using hafter
      simp [hc]

/-- A part without the mark ends where the mark, or nothing, follows. -/
theorem takeWhile_append_mark {mark : Char} {before : List Char} (h : mark ∉ before)
    (after : List Char) (hafter : after.head?.all (· == mark)) :
    (before ++ after).takeWhile (· != mark) = before ∧
      (before ++ after).dropWhile (· != mark) = after := by
  refine takeWhile_append_of_head ?_ after (by simpa [bne] using hafter)
  intro c hc
  rw [bne_iff_ne]
  rintro rfl
  exact h hc

theorem cutAt_of_not_mem {mark : Char} {text : List Char} (h : mark ∉ text) :
    cutAt mark text = (text, none) := by
  obtain ⟨htake, hdrop⟩ := takeWhile_append_mark h [] rfl
  rw [List.append_nil] at htake hdrop
  rw [cutAt, htake, hdrop]
  rfl

theorem cutAt_append {mark : Char} {before : List Char} (h : mark ∉ before) (after : List Char) :
    cutAt mark (before ++ mark :: after) = (before, some after) := by
  obtain ⟨htake, hdrop⟩ := takeWhile_append_mark h (mark :: after) (by simp)
  rw [cutAt, htake, hdrop]
  rfl

theorem Cuts.cutAt_eq {mark : Char} {text before : List Char} {after : Option (List Char)}
    (h : Cuts mark text before after) : cutAt mark text = (before, after) := by
  cases h with
  | whole h => exact cutAt_of_not_mem h
  | parted h after => exact cutAt_append h after

theorem cuts_cutAt (mark : Char) (text : List Char) :
    Cuts mark text (cutAt mark text).1 (cutAt mark text).2 := by
  have hbefore := not_mem_cutAt_fst mark text
  cases hafter : (cutAt mark text).2 with
  | none =>
      rw [cutAt_eq_of_none hafter] at hbefore ⊢
      exact .whole hbefore
  | some after =>
      have htext := eq_append_of_cutAt hafter
      generalize (cutAt mark text).1 = before at hbefore htext ⊢
      rw [htext]
      exact .parted hbefore after

/-- What is put in front of a text without a mark goes to the part before the mark. -/
theorem Cuts.append_left {mark : Char} {text before : List Char} {after : Option (List Char)}
    (h : Cuts mark text before after) {front : List Char} (hfront : mark ∉ front) :
    Cuts mark (front ++ text) (front ++ before) after := by
  cases h with
  | whole h => exact .whole (by simp [hfront, h])
  | parted h after =>
      rw [← List.append_assoc]
      exact .parted (by simp [hfront, h]) after

/-- What stands at the front of a text without the mark stands in front of the mark. -/
theorem prefix_of_append_eq {mark : Char} {front rest before after : List Char}
    (hfront : mark ∉ front) (h : front ++ rest = before ++ mark :: after) : front <+: before := by
  have hbefore : before <+: front ++ rest := ⟨mark :: after, h.symm⟩
  rcases List.prefix_or_prefix_of_prefix (List.prefix_append front rest) hbefore with
    hshort | ⟨more, rfl⟩
  · exact hshort
  · rw [List.append_assoc, List.append_cancel_left_eq] at h
    cases more with
    | nil => simp
    | cons c more =>
        rw [List.cons_append] at h
        injection h with hc _
        subst hc
        exact absurd (by simp) hfront

/-- Cutting finds the first mark, and nothing else counts as the first mark. -/
theorem cutAt_eq_iff (mark : Char) (text before : List Char) (after : Option (List Char)) :
    cutAt mark text = (before, after) ↔ Cuts mark text before after := by
  refine ⟨?_, Cuts.cutAt_eq⟩
  intro h
  simpa only [h] using cuts_cutAt mark text

/-- A text is cut in one way. -/
theorem Cuts.unique {mark : Char} {text before before' : List Char}
    {after after' : Option (List Char)} (h : Cuts mark text before after)
    (h' : Cuts mark text before' after') : before = before' ∧ after = after' := by
  rw [← cutAt_eq_iff] at h h'
  exact Prod.mk.inj (h.symm.trans h')

/-- What is left once the part without the mark is dropped starts with the mark, if it is not
empty. -/
theorem head?_dropWhile_mark (mark : Char) (text : List Char) :
    (text.dropWhile (· != mark)).head?.all (· == mark) := by
  have hhead := List.head?_dropWhile_not (fun c => c != mark) text
  cases hrest : text.dropWhile (· != mark) with
  | nil => rfl
  | cons c rest =>
      rw [hrest] at hhead
      simpa using hhead

/-! ## The first word -/

/-- A word is found exactly when it stands somewhere in the text. -/
theorem cutAtWord_eq_none_iff (word text : List Char) :
    cutAtWord word text = none ↔ ¬ word <:+: text := by
  induction text with
  | nil =>
      rw [List.infix_nil, cutAtWord]
      split
      · rename_i hword
        simp [List.isEmpty_iff.1 hword]
      · rename_i hword
        simpa using hword
  | cons c rest ih =>
      rw [cutAtWord, List.infix_cons_iff, ← List.isPrefixOf_iff_prefix]
      split
      · rename_i hfront
        simp [hfront]
      · rename_i hfront
        simp [hfront, ih]

/-- What follows the first occurrence of a word does not move it. -/
theorem cutAtWord_append {word text before after : List Char} (hword : word ≠ [])
    (h : cutAtWord word text = some (before, after)) (other : List Char) :
    cutAtWord word (before ++ word ++ other) = some (before, other) := by
  induction text generalizing before with
  | nil =>
      cases word with
      | nil => exact absurd rfl hword
      | cons w ws => simp [cutAtWord] at h
  | cons c rest ih =>
      rw [cutAtWord] at h
      split at h
      · injection h with h
        injection h with hbefore _
        subst hbefore
        cases word with
        | nil => exact absurd rfl hword
        | cons w ws => simp [cutAtWord]
      · rename_i hnot
        obtain ⟨⟨b, a⟩, hcut, heq⟩ := Option.map_eq_some_iff.1 h
        injection heq with hbefore hafter
        subst hbefore hafter
        have hrest : c :: rest = (c :: b ++ word) ++ a := by
          rw [eq_append_of_cutAtWord hcut]
          simp
        -- An occurrence at the front would lie within the part that both texts share.
        have hfront : ¬ word.isPrefixOf ((c :: b ++ word) ++ other) := by
          intro hprefix
          apply hnot
          rw [List.isPrefixOf_iff_prefix] at hprefix ⊢
          have hshared : word <+: c :: b ++ word :=
            List.prefix_of_prefix_length_le hprefix (List.prefix_append _ _) (by simp; omega)
          rw [hrest]
          exact hshared.trans (List.prefix_append _ _)
        simp only [List.cons_append] at hfront ⊢
        rw [cutAtWord, if_neg hfront, ih hcut]
        rfl

/-- A word is found where its first character comes first. -/
theorem cutAtWord_of_not_mem {mark : Char} {before : List Char} (h : mark ∉ before)
    (word after : List Char) :
    cutAtWord (mark :: word) (before ++ mark :: word ++ after) = some (before, after) := by
  induction before with
  | nil => simp [cutAtWord]
  | cons c before ih =>
      have hc : mark ≠ c := fun heq => h (heq ▸ List.mem_cons_self)
      have hrest := ih fun hmem => h (List.mem_cons_of_mem c hmem)
      have hfront : ¬ (mark :: word).isPrefixOf (c :: (before ++ mark :: word ++ after)) := by
        simp [hc]
      rw [List.cons_append, List.cons_append, cutAtWord, if_neg hfront, hrest]
      rfl

/-- No occurrence of a word starts in front of the first one. -/
theorem length_le_of_first {word before after front rest : List Char} (hword : word ≠ [])
    (hfirst : ¬ word <:+: before ++ word.dropLast)
    (h : before ++ word ++ after = front ++ word ++ rest) : before.length ≤ front.length := by
  refine Nat.le_of_not_lt fun hshort => hfirst ?_
  have hlong : before ++ word.dropLast <+: before ++ word ++ after :=
    ((List.prefix_append_right_inj before).2 (List.dropLast_prefix word)).trans
      (List.prefix_append _ _)
  have hother : front ++ word <+: before ++ word ++ after := ⟨rest, h.symm⟩
  have hpos : 0 < word.length := List.length_pos_iff.2 hword
  have hwithin : front ++ word <+: before ++ word.dropLast :=
    List.prefix_of_prefix_length_le hother hlong (by simp; omega)
  exact (List.suffix_append front word).isInfix.trans hwithin.isInfix

theorem exists_cutAtWord {word text : List Char} (h : word <:+: text) :
    ∃ before after, cutAtWord word text = some (before, after) := by
  have hsome : cutAtWord word text ≠ none := fun hnone => (cutAtWord_eq_none_iff _ _).1 hnone h
  obtain ⟨⟨before, after⟩, hcut⟩ := Option.ne_none_iff_exists'.1 hsome
  exact ⟨before, after, hcut⟩

/-- No occurrence of a word ends in front of the end of the one that is found. -/
theorem not_infix_of_cutAtWord {word text before after : List Char} (hword : word ≠ [])
    (h : cutAtWord word text = some (before, after)) : ¬ word <:+: before ++ word.dropLast := by
  intro hinfix
  obtain ⟨front, rest, hcut⟩ := exists_cutAtWord hinfix
  have hearlier := eq_append_of_cutAtWord hcut
  have htext : text = front ++ word ++ (rest ++ [word.getLast hword] ++ after) :=
    calc text = before ++ word ++ after := eq_append_of_cutAtWord h
      _ = before ++ (word.dropLast ++ [word.getLast hword]) ++ after := by
        rw [List.dropLast_concat_getLast]
      _ = (before ++ word.dropLast) ++ [word.getLast hword] ++ after := by
        simp only [List.append_assoc]
      _ = front ++ word ++ (rest ++ [word.getLast hword] ++ after) := by
        rw [hearlier]
        simp only [List.append_assoc]
  -- The earlier occurrence would be found in the whole text as well.
  have hfound := cutAtWord_append hword hcut (rest ++ [word.getLast hword] ++ after)
  rw [← htext, h] at hfound
  obtain ⟨rfl, -⟩ := Prod.mk.inj (Option.some.inj hfound)
  have hpos : 0 < word.length := List.length_pos_iff.2 hword
  have hlength := congrArg List.length hearlier
  simp only [List.length_append, List.length_dropLast] at hlength
  omega

/-- Cutting finds the first occurrence of a word, and nothing else counts as the first one. -/
theorem cutAtWord_eq_some_iff {word : List Char} (hword : word ≠ [])
    (text before after : List Char) :
    cutAtWord word text = some (before, after) ↔
      text = before ++ word ++ after ∧ ¬ word <:+: before ++ word.dropLast := by
  constructor
  · intro h
    exact ⟨eq_append_of_cutAtWord h, not_infix_of_cutAtWord hword h⟩
  · rintro ⟨htext, hfirst⟩
    obtain ⟨front, rest, hcut⟩ := exists_cutAtWord ⟨before, after, htext.symm⟩
    have heq := htext.symm.trans (eq_append_of_cutAtWord hcut)
    have hlength : before.length = front.length :=
      Nat.le_antisymm (length_le_of_first hword hfirst heq)
        (length_le_of_first hword (not_infix_of_cutAtWord hword hcut) heq.symm)
    rw [List.append_assoc, List.append_assoc] at heq
    obtain ⟨rfl, hrest⟩ := List.append_inj heq hlength
    rw [hcut, List.append_cancel_left hrest]

/-! ## Pieces between marks -/

theorem splitOn_append_flatMap {mark : Char} {pieces : List (List Char)}
    (h : ∀ piece ∈ pieces, mark ∉ piece) (front : List Char) (hfront : mark ∉ front) :
    (front ++ pieces.flatMap (mark :: ·)).splitOn mark = front :: pieces := by
  induction pieces generalizing front with
  | nil => simpa using List.splitOn_eq_singleton hfront
  | cons piece pieces ih =>
      rw [List.flatMap_cons, List.cons_append, List.splitOn_append_cons_self_of_not_mem hfront,
        ih (fun p hp => h p (by simp [hp])) piece (h piece (by simp))]

/-- Pieces with a mark in front of each are found again behind an empty one. -/
theorem splitOn_flatMap {mark : Char} {pieces : List (List Char)}
    (h : ∀ piece ∈ pieces, mark ∉ piece) :
    (pieces.flatMap (mark :: ·)).splitOn mark = [] :: pieces := by
  simpa using splitOn_append_flatMap h [] (by simp)

/-- The pieces of a text: the parts between its marks, the empty ones left out. -/
inductive Splits (mark : Char) : List Char → List (List Char) → Prop where
  | joined {parts : List (List Char)} (hne : parts ≠ []) (h : ∀ part ∈ parts, mark ∉ part) :
      Splits mark ([mark].intercalate parts) (parts.filter (!·.isEmpty))

/-- The parts of a text hold its characters, all but the marks. -/
theorem flatten_splitOn (mark : Char) (text : List Char) :
    (text.splitOn mark).flatten = text.filter (· != mark) := by
  induction text with
  | nil => rfl
  | cons c text ih =>
      rw [List.splitOn_cons_eq_if_modifyHead]
      by_cases hc : c = mark
      · simp [hc, ih]
      · obtain ⟨first, rest, hsplit⟩ := List.exists_cons_of_ne_nil (List.splitOn_ne_nil mark text)
        rw [hsplit, List.flatten_cons] at ih
        simp [hc, hsplit, ih]

theorem exists_mem_splitOn_iff (mark : Char) (text : List Char) (c : Char) :
    (∃ part ∈ text.splitOn mark, c ∈ part) ↔ c ∈ text ∧ c ≠ mark := by
  rw [← List.mem_flatten, flatten_splitOn]
  simp

theorem not_mem_of_mem_splitOn {mark : Char} (text : List Char) {part : List Char}
    (h : part ∈ text.splitOn mark) : mark ∉ part := by
  intro hmark
  obtain ⟨_, hne⟩ := (exists_mem_splitOn_iff mark text mark).1 ⟨part, h, hmark⟩
  exact hne rfl

theorem two_le_length_splitOn_iff (mark : Char) (text : List Char) :
    2 ≤ (text.splitOn mark).length ↔ mark ∈ text := by
  by_cases hmark : mark ∈ text
  · refine iff_of_true ?_ hmark
    obtain ⟨before, after, rfl⟩ := List.append_of_mem hmark
    have hbefore := List.length_pos_iff.2 (List.splitOn_ne_nil mark before)
    have hafter := List.length_pos_iff.2 (List.splitOn_ne_nil mark after)
    rw [List.splitOn_append_cons_self, List.length_append]
    omega
  · rw [List.splitOn_eq_singleton hmark]
    exact iff_of_false (by simp) hmark

/-! An empty part stands in front of a mark at the start, behind one at the end, or between two
marks. The first part is taken apart from the others, for a character in front of the text changes
that one alone. -/

theorem mem_splitOn_iff (mark : Char) (text part : List Char) :
    part ∈ text.splitOn mark ↔
      (text.splitOn mark).head? = some part ∨ part ∈ (text.splitOn mark).tail := by
  cases text.splitOn mark with
  | nil => simp
  | cons first rest => simp [eq_comm]

theorem head?_splitOn_eq_nil_iff (mark : Char) (text : List Char) :
    (text.splitOn mark).head? = some [] ↔ text = [] ∨ [mark] <+: text := by
  cases text with
  | nil => simp
  | cons c text =>
      rw [List.splitOn_cons_eq_if_modifyHead]
      by_cases hc : c = mark
      · simp [hc]
      · obtain ⟨first, rest, hsplit⟩ := List.exists_cons_of_ne_nil (List.splitOn_ne_nil mark text)
        simp [hc, hsplit, Ne.symm hc]

theorem nil_mem_tail_splitOn_iff (mark : Char) (text : List Char) :
    [] ∈ (text.splitOn mark).tail ↔ [mark] <:+ text ∨ [mark, mark] <:+: text := by
  induction text with
  | nil => simp
  | cons c text ih =>
      rw [List.splitOn_cons_eq_if_modifyHead, List.suffix_cons_iff, List.infix_cons_iff]
      by_cases hc : c = mark
      · subst hc
        rw [if_pos (beq_self_eq_true c), List.tail_cons, mem_splitOn_iff,
          head?_splitOn_eq_nil_iff, ih, List.prefix_cons_inj, List.cons_inj_right,
          eq_comm (a := ([] : List Char))]
        exact or_or_or_comm
      · rw [if_neg (by simpa using hc), List.tail_modifyHead, ih]
        simp [Ne.symm hc]

theorem nil_mem_splitOn_iff (mark : Char) (text : List Char) :
    [] ∈ text.splitOn mark ↔
      text = [] ∨ [mark] <+: text ∨ [mark] <:+ text ∨ [mark, mark] <:+: text := by
  rw [mem_splitOn_iff, head?_splitOn_eq_nil_iff, nil_mem_tail_splitOn_iff, or_assoc]

/-- Every text has its pieces, and no others. -/
theorem splits_iff (mark : Char) (text : List Char) (pieces : List (List Char)) :
    Splits mark text pieces ↔ pieces = (text.splitOn mark).filter (!·.isEmpty) := by
  constructor
  · rintro ⟨hne, h⟩
    rw [List.splitOn_intercalate mark h hne]
  · rintro rfl
    have hjoined : [mark].intercalate (text.splitOn mark) = text := List.intercalate_splitOn mark
    have hsplits := Splits.joined (List.splitOn_ne_nil mark text)
      fun part hpart => not_mem_of_mem_splitOn text hpart
    rwa [hjoined] at hsplits

end DeepLink.Text
