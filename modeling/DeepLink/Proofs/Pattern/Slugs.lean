import DeepLink.Proofs.Pattern.Matching

/-! # Slugs against wildcards

A slug is a word and never an integer. So a pattern that leaves out a slug shares the address with
the same pattern and one wildcard more exactly when the wildcard is one for words. -/

namespace DeepLink

namespace Segment

theorem toNat_lt_of_isAlphanum {c : Char} (h : c.isAlphanum) : c.toNat < 128 := by
  have hclasses : c.isAlphanum = (decide (65 ≤ c.val ∧ c.val ≤ 90) ||
      decide (97 ≤ c.val) && decide (c.val ≤ 122) ||
      decide (48 ≤ c.val) && decide (c.val ≤ 57)) := rfl
  have hranges : (65 ≤ c.toNat ∧ c.toNat ≤ 90 ∨ 97 ≤ c.toNat ∧ c.toNat ≤ 122) ∨
      48 ≤ c.toNat ∧ c.toNat ≤ 57 := by
    simpa [hclasses, UInt32.le_iff_toNat_le, ← Char.toNat_val] using h
  omega

/-- A slug keeps to ASCII, and has neither of the other two marks that a word may have. -/
theorem HyphensApart.plain {text : List Char} (h : HyphensApart text) {c : Char} (hc : c ∈ text) :
    c.toNat < 128 ∧ c ≠ '.' ∧ c ≠ '_' := by
  rcases h.chars c hc with halphanum | rfl
  · refine ⟨toNat_lt_of_isAlphanum halphanum, ?_, ?_⟩
    · rintro rfl
      exact absurd halphanum (by decide)
    · rintro rfl
      exact absurd halphanum (by decide)
  · decide

theorem IsHyphenated.isWordText {segment : String} (h : IsHyphenated segment) :
    IsWordText segment where
  ne_nil := h.ne_nil
  chars := by
    intro c hc
    rcases h.hyphensApart.chars c hc with halphanum | hhyphen
    · exact .inl halphanum
    · exact .inr (.inr (.inr hhyphen))

/-- A hyphen is no digit. -/
theorem IsHyphenated.not_denotes {segment : String} (h : IsHyphenated segment) (n : Nat) :
    ¬ Denotes segment n := by
  intro hn
  exact absurd (hn.digits '-' h.hyphensApart.hyphen) (by decide)

/-- The groups of joined slugs are those of the first and then those of the second. -/
theorem isSlug_join {first second : String} (hfirst : isSlug first) (hsecond : isSlug second) :
    isSlug (first ++ "-" ++ second) := by
  obtain ⟨hlength, hgroups⟩ := (isSlug_iff_splitOn first).1 hfirst
  obtain ⟨_, hgroups'⟩ := (isSlug_iff_splitOn second).1 hsecond
  have hsplit : (first ++ "-" ++ second).toList.splitOn '-' =
      first.toList.splitOn '-' ++ second.toList.splitOn '-' := by
    rw [← List.splitOn_append_cons_self]
    simp
  rw [isSlug_iff_splitOn, hsplit, List.length_append, List.forall_mem_append]
  exact ⟨by omega, hgroups, hgroups'⟩

end Segment

/-- A slug is met by its own text and by the wildcards for words, and by no other slot. -/
theorem Slot.admits_slug_iff {slug : String} (h : Segment.IsHyphenated slug) (slot : Slot) :
    slot.Admits slug ↔ slot = .literal slug ∨ ∃ name, slot = .wildcard name .word := by
  constructor
  · intro hadmits
    cases hadmits with
    | literal => exact .inl rfl
    | integer hn _ => exact absurd hn (h.not_denotes _)
    | word _ => exact .inr ⟨_, rfl⟩
  · rintro (rfl | ⟨name, rfl⟩)
    · exact .literal slug
    · exact .word h.isWordText

/-- Where a pattern leaves out a slug, the same pattern with one slot more matches as well exactly
when the slot is a wildcard for words, or the slug's own text. -/
theorem Pattern.isMatch_snoc_iff {pattern : Pattern} {address : Address} {taken : List String}
    {slug : String} (hslug : Segment.IsHyphenated slug)
    (hsegments : address.segments = taken ++ [slug]) (halign : pattern.align address = some taken)
    (slot : Slot) :
    ({ pattern with slots := pattern.slots ++ [slot] } : Pattern).isMatch address ↔
      slot = .literal slug ∨ ∃ name, slot = .wildcard name .word := by
  have hfits := (align_eq_some_iff pattern address taken).1 halign
  have hlength := hfits.admits.length_eq
  rw [isMatch, Option.isSome_iff_exists, ← Slot.admits_slug_iff hslug]
  simp only [align_eq_some_iff]
  constructor
  · rintro ⟨all, hall⟩
    have hlength' := hall.admits.length_eq
    have htaken : all = taken ++ [slug] := by
      rcases hall.segments with hwhole | ⟨other, _, hrest⟩
      · exact hwhole.symm.trans hsegments
      · -- Leaving out a segment itself, the longer pattern would ask for one more than there are.
        have hrest' := congrArg List.length (hsegments.symm.trans hrest)
        simp only [List.length_append, List.length_singleton] at hrest' hlength'
        omega
    have hlast := List.forall₂_drop_append _ _ _ (htaken ▸ hall.admits)
    rw [← hlength, List.drop_left] at hlast
    exact (List.forall₂_cons.1 hlast).1
  · intro hadmits
    refine ⟨taken ++ [slug], hfits.scheme, hfits.host, .inl hsegments, ?_⟩
    exact List.rel_append hfits.admits (.cons hadmits .nil)

namespace Segment

/-- Slugs are recognised exactly. A segment is taken for a slug when it is made of two or more
groups of ASCII letters and digits, joined by single hyphens; in other words, when these are its
characters and its hyphens stand neither at an end nor side by side. No character of a slug is a
dot, an underscore or beyond ASCII, every wildcard for words accepts it, none for integers does,
and with a hyphen and another slug behind it, it is a slug again. -/
theorem slugs_exact (segment : String) :
    (isSlug segment ↔ IsHyphenated segment) ∧
    (isSlug segment ↔ HyphensApart segment.toList) ∧
    (isSlug segment →
      (∀ c ∈ segment.toList, c.toNat < 128 ∧ c ≠ '.' ∧ c ≠ '_') ∧
      (∀ name, (Slot.wildcard name .word).accepts segment) ∧
      (∀ name, ¬ (Slot.wildcard name .integer).accepts segment) ∧
      ∀ other, isSlug other → isSlug (segment ++ "-" ++ other)) := by
  refine ⟨isSlug_iff segment, isSlug_iff_hyphensApart segment, fun hslug => ?_⟩
  have h : IsHyphenated segment := (isSlug_iff segment).1 hslug
  refine ⟨fun c hc => h.hyphensApart.plain hc, ?_, ?_, fun other => isSlug_join hslug⟩
  · intro name
    rw [Slot.accepts_iff, Slot.admits_slug_iff h]
    exact .inr ⟨name, rfl⟩
  · intro name
    rw [Slot.accepts_iff, Slot.admits_slug_iff h]
    simp

/-- A title with a number joined to it, and two segments that are no slugs. -/
theorem slugs_exact_title :
    isSlug "some-readable-title" ∧
    (Slot.wildcard "id" .word).accepts "some-readable-title" ∧
    ¬ (Slot.wildcard "id" .integer).accepts "some-readable-title" ∧
    isSlug ("some-readable-title" ++ "-" ++ "a-1") ∧
    ¬ isSlug "a--b" ∧ ¬ isSlug "report.pdf-x" := by
  have hslug : isSlug "some-readable-title" := rfl
  obtain ⟨_, hword, hinteger, hjoin⟩ := (slugs_exact "some-readable-title").2.2 hslug
  refine ⟨hslug, hword "id", hinteger "id", hjoin "a-1" rfl, ?_, ?_⟩
  · intro hdoubled
    exact ((slugs_exact "a--b").2.1.1 hdoubled).not_doubled ⟨['a'], ['b'], rfl⟩
  · intro hdotted
    have hdot := ((slugs_exact "report.pdf-x").2.2 hdotted).1 '.' (by decide)
    exact hdot.2.1 rfl

end Segment

end DeepLink
