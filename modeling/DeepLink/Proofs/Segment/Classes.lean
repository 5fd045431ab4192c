import DeepLink.Proofs.Text.Cutting
import DeepLink.Segment

/-! # The classes of segments

Each class is described by the form of its members, and the function that recognises it accepts
exactly these. -/

namespace DeepLink.Segment

open DeepLink.Text

/-! ## Integers -/

/-- The number that a text of ASCII digits writes in base ten. Leading zeros change nothing. -/
structure Denotes (segment : String) (n : Nat) : Prop where
  ne_nil : segment.toList ≠ []
  digits : ∀ c ∈ segment.toList, c.isDigit
  value : Nat.ofDigitChars 10 segment.toList 0 = n

/-- A checked product is the product of the numbers, never the rest of a larger one. -/
theorem checkedMul_eq_some_iff (a b product : UInt64) :
    checkedMul a b = some product ↔ product.toNat = a.toNat * b.toNat := by
  have hlt : product.toNat < integerBound := product.toNat_lt
  unfold checkedMul
  split
  · rename_i hfits
    have hproduct : (a * b).toNat = a.toNat * b.toNat := by
      rw [UInt64.toNat_mul]
      exact Nat.mod_eq_of_lt hfits
    rw [Option.some.injEq, ← UInt64.toNat_inj, hproduct, eq_comm]
  · rename_i hlarge
    exact iff_of_false (by simp) (by omega)

/-- A checked sum is the sum of the numbers, never the rest of a larger one. -/
theorem checkedAdd_eq_some_iff (a b sum : UInt64) :
    checkedAdd a b = some sum ↔ sum.toNat = a.toNat + b.toNat := by
  have hlt : sum.toNat < integerBound := sum.toNat_lt
  unfold checkedAdd
  split
  · rename_i hfits
    have hsum : (a + b).toNat = a.toNat + b.toNat := by
      rw [UInt64.toNat_add]
      exact Nat.mod_eq_of_lt hfits
    rw [Option.some.injEq, ← UInt64.toNat_inj, hsum, eq_comm]
  · rename_i hlarge
    exact iff_of_false (by simp) (by omega)

theorem exists_toNat_eq {n : Nat} (h : n < integerBound) : ∃ word : UInt64, word.toNat = n :=
  ⟨UInt64.ofNat n, UInt64.toNat_ofNat_of_lt' h⟩

theorem toNat_digit (c : Char) (h : c.isDigit) :
    (UInt64.ofNat (c.toNat - 48)).toNat = c.toNat - '0'.toNat := by
  have hc : c.toNat ≤ 57 := by
    simp only [Char.isDigit, Bool.and_eq_true, decide_eq_true_eq, UInt32.le_iff_toNat_le] at h
    exact h.2
  have hlt : c.toNat - 48 < UInt64.size := by
    have hsize : (57 : Nat) < UInt64.size := by decide
    omega
  exact UInt64.toNat_ofNat_of_lt' hlt

/-- One more digit is read exactly when the number that it makes is not too large. -/
theorem pushDigit?_eq_some_iff (value : UInt64) (c : Char) (next : UInt64) :
    pushDigit? value c = some next ↔
      c.isDigit ∧ next.toNat = 10 * value.toNat + (c.toNat - '0'.toNat) := by
  unfold pushDigit?
  split
  · rename_i hdigit
    simp only [Option.bind_eq_some_iff, checkedMul_eq_some_iff, checkedAdd_eq_some_iff,
      toNat_digit c hdigit, hdigit, true_and]
    constructor
    · rintro ⟨tens, htens, hnext⟩
      rw [hnext, htens, Nat.mul_comm]
      rfl
    · intro hnext
      have hlt : next.toNat < integerBound := next.toNat_lt
      obtain ⟨tens, htens⟩ := exists_toNat_eq (show value.toNat * 10 < integerBound by omega)
      exact ⟨tens, htens, by omega⟩
  · rename_i hdigit
    simp [hdigit]

theorem le_ofDigitChars (digits : List Char) (n : Nat) : n ≤ Nat.ofDigitChars 10 digits n := by
  induction digits generalizing n with
  | nil => simp
  | cons c digits ih =>
      rw [Nat.ofDigitChars_cons]
      have hrest := ih (10 * n + (c.toNat - '0'.toNat))
      omega

/-- Reading digits behind a number gives the number that all of them write together. The reading
stops early only where that number is too large, for it never falls below what was read so far. -/
theorem foldlM_pushDigit?_eq_some_iff (digits : List Char) (value result : UInt64) :
    digits.foldlM pushDigit? value = some result ↔
      (∀ c ∈ digits, c.isDigit) ∧ result.toNat = Nat.ofDigitChars 10 digits value.toNat := by
  induction digits generalizing value with
  | nil =>
      rw [List.foldlM_nil, Nat.ofDigitChars_nil, UInt64.toNat_inj, eq_comm (a := result)]
      simp [pure]
  | cons c digits ih =>
      rw [List.foldlM_cons, Nat.ofDigitChars_cons, List.forall_mem_cons, and_assoc]
      simp only [bind, Option.bind_eq_some_iff, pushDigit?_eq_some_iff, ih]
      constructor
      · rintro ⟨next, ⟨hdigit, hnext⟩, hdigits, hresult⟩
        exact ⟨hdigit, hdigits, hnext ▸ hresult⟩
      · rintro ⟨hdigit, hdigits, hresult⟩
        have hlt : result.toNat < integerBound := result.toNat_lt
        have hgrows := le_ofDigitChars digits (10 * value.toNat + (c.toNat - '0'.toNat))
        obtain ⟨next, hnext⟩ := exists_toNat_eq (n := 10 * value.toNat + (c.toNat - '0'.toNat))
          (by omega)
        exact ⟨next, ⟨hdigit, hnext⟩, hdigits, hnext ▸ hresult⟩

theorem unsigned?_eq_some_iff (segment : String) (n : Nat) :
    unsigned? segment.toList = some n ↔ Denotes segment n ∧ n < integerBound := by
  unfold unsigned?
  split
  · rename_i hnil
    refine iff_of_false (by simp) ?_
    rintro ⟨hn, _⟩
    exact hn.ne_nil (List.isEmpty_iff.1 hnil)
  · rename_i hne
    simp only [Option.map_eq_some_iff, foldlM_pushDigit?_eq_some_iff]
    constructor
    · rintro ⟨word, ⟨hdigits, hvalue⟩, rfl⟩
      exact ⟨⟨by simpa using hne, hdigits, hvalue.symm⟩, word.toNat_lt⟩
    · rintro ⟨hn, hlt⟩
      obtain ⟨word, hword⟩ := exists_toNat_eq hlt
      exact ⟨word, ⟨hn.digits, hword.trans hn.value.symm⟩, hword⟩

theorem not_denotes_plus (digits : String) (n : Nat) : ¬ Denotes ("+" ++ digits) n := by
  intro h
  exact absurd (h.digits '+' (by simp)) (by decide)

/-- A text is read as an integer when it writes one, or a plus sign and then one. -/
theorem integer?_eq_some_iff (text : String) (n : Nat) :
    integer? text = some n ↔
      ∃ digits, (text = digits ∨ text = "+" ++ digits) ∧ Denotes digits n ∧ n < integerBound := by
  unfold integer?
  split
  · rename_i digits hplus
    obtain rfl : text = "+" ++ String.ofList digits := by
      simp [← String.toList_inj, hplus]
    rw [← String.toList_ofList (l := digits), unsigned?_eq_some_iff]
    constructor
    · intro h
      exact ⟨_, .inr (by simp), h⟩
    · rintro ⟨other, rfl | hother, hn, hlt⟩
      · exact absurd hn (not_denotes_plus _ n)
      · obtain rfl : String.ofList digits = other := by simpa using hother
        exact ⟨hn, hlt⟩
  · rename_i hno
    rw [unsigned?_eq_some_iff]
    constructor
    · intro h
      exact ⟨text, .inl rfl, h⟩
    · rintro ⟨digits, rfl | rfl, h⟩
      · exact h
      · exact absurd (by simp) (hno digits.toList)

/-- A sign is no digit, so reading with an optional sign agrees on integers. -/
theorem integer?_of_denotes {segment : String} {n : Nat} (h : Denotes segment n)
    (hn : n < integerBound) : integer? segment = some n :=
  (integer?_eq_some_iff segment n).2 ⟨segment, .inl rfl, h, hn⟩

theorem isInteger_iff (segment : String) :
    isInteger segment ↔ ∃ n, Denotes segment n ∧ n < integerBound := by
  simp only [isInteger, Bool.and_eq_true, Bool.not_eq_true', List.all_eq_true,
    Option.isSome_iff_exists, integer?_eq_some_iff]
  constructor
  · rintro ⟨⟨_, hdigits⟩, n, digits, rfl | rfl, hn, hlt⟩
    · exact ⟨n, hn, hlt⟩
    · exact absurd (hdigits '+' (by simp)) (by decide)
  · rintro ⟨n, hn, hlt⟩
    have hne := hn.ne_nil
    exact ⟨⟨by simpa using hne, hn.digits⟩, n, segment, .inl rfl, hn, hlt⟩

/-- The decimal digits of a number denote it, with any number of zeros in front. -/
theorem denotes_toDigits (zeros n : Nat) :
    Denotes (String.ofList (List.replicate zeros '0' ++ Nat.toDigits 10 n)) n where
  ne_nil := by simp
  digits := by
    intro c hc
    rw [String.toList_ofList, List.mem_append] at hc
    rcases hc with hc | hc
    · rw [List.eq_of_mem_replicate hc]
      decide
    · exact Nat.isDigit_of_mem_toDigits (by decide) (by decide) hc
  value := by
    rw [String.toList_ofList, Nat.ofDigitChars_append, Nat.ofDigitChars_replicate_zero,
      Nat.mul_zero, Nat.ofDigitChars_ten_toDigits]

/-! ## Words -/

/-- A text of ASCII letters and digits, underscores, dots and hyphens that is not empty. -/
structure IsWordText (segment : String) : Prop where
  ne_nil : segment.toList ≠ []
  chars : ∀ c ∈ segment.toList, c.isAlphanum ∨ c = '_' ∨ c = '.' ∨ c = '-'

theorem isWord_iff (segment : String) : isWord segment ↔ IsWordText segment := by
  simp only [isWord, isWordChar, Bool.and_eq_true, Bool.not_eq_true', List.all_eq_true,
    Bool.or_eq_true, decide_eq_true_eq, or_assoc, String.isEmpty_eq_false_iff]
  constructor
  · rintro ⟨hne, hchars⟩
    exact ⟨by simpa using hne, hchars⟩
  · rintro ⟨hne, hchars⟩
    exact ⟨by simpa using hne, hchars⟩

/-! ## Slugs -/

/-- Two or more groups of ASCII letters and digits, joined by single hyphens. -/
def IsHyphenated (segment : String) : Prop :=
  ∃ groups : List (List Char), 2 ≤ groups.length ∧
    (∀ group ∈ groups, group ≠ [] ∧ ∀ c ∈ group, c.isAlphanum) ∧
    segment.toList = ['-'].intercalate groups

theorem isSlug_iff_splitOn (segment : String) :
    isSlug segment ↔ 2 ≤ (segment.toList.splitOn '-').length ∧
      ∀ group ∈ segment.toList.splitOn '-', group ≠ [] ∧ ∀ c ∈ group, c.isAlphanum := by
  simp only [isSlug, Bool.and_eq_true, decide_eq_true_eq, List.all_eq_true, Bool.not_eq_true',
    List.isEmpty_eq_false_iff]

theorem isSlug_iff (segment : String) : isSlug segment ↔ IsHyphenated segment := by
  rw [isSlug_iff_splitOn]
  constructor
  · rintro ⟨hlength, hgroups⟩
    exact ⟨_, hlength, hgroups, (List.intercalate_splitOn '-').symm⟩
  · rintro ⟨groups, hlength, hgroups, htext⟩
    have hhyphen : ∀ group ∈ groups, '-' ∉ group := by
      intro group hgroup hmem
      exact absurd ((hgroups group hgroup).2 '-' hmem) (by decide)
    have hne : groups ≠ [] := by
      rintro rfl
      simp at hlength
    rw [htext, List.splitOn_intercalate '-' hhyphen hne]
    exact ⟨hlength, hgroups⟩

/-- A slug's characters, without its groups: ASCII letters and digits, and at least one hyphen,
where no hyphen comes first, last, or behind another. -/
structure HyphensApart (text : List Char) : Prop where
  chars : ∀ c ∈ text, c.isAlphanum ∨ c = '-'
  hyphen : '-' ∈ text
  not_leading : ¬ ['-'] <+: text
  not_trailing : ¬ ['-'] <:+ text
  not_doubled : ¬ ['-', '-'] <:+: text

theorem HyphensApart.nil_not_mem_splitOn {text : List Char} (h : HyphensApart text) :
    [] ∉ text.splitOn '-' := by
  rw [nil_mem_splitOn_iff]
  rintro (hnil | hleading | htrailing | hdoubled)
  · exact absurd h.hyphen (by simp [hnil])
  · exact h.not_leading hleading
  · exact h.not_trailing htrailing
  · exact h.not_doubled hdoubled

theorem isSlug_iff_hyphensApart (segment : String) :
    isSlug segment ↔ HyphensApart segment.toList := by
  rw [isSlug_iff_splitOn, two_le_length_splitOn_iff]
  constructor
  · rintro ⟨hhyphen, hgroups⟩
    have hempty : [] ∉ segment.toList.splitOn '-' := fun hmem => (hgroups [] hmem).1 rfl
    simp only [nil_mem_splitOn_iff, not_or] at hempty
    obtain ⟨_, hleading, htrailing, hdoubled⟩ := hempty
    refine ⟨?_, hhyphen, hleading, htrailing, hdoubled⟩
    intro c hc
    by_cases heq : c = '-'
    · exact .inr heq
    · obtain ⟨group, hgroup, hmem⟩ := (exists_mem_splitOn_iff '-' _ c).2 ⟨hc, heq⟩
      exact .inl ((hgroups group hgroup).2 c hmem)
  · intro h
    refine ⟨h.hyphen, fun group hgroup => ⟨?_, ?_⟩⟩
    · rintro rfl
      exact h.nil_not_mem_splitOn hgroup
    · intro c hc
      obtain ⟨hmem, hne⟩ := (exists_mem_splitOn_iff '-' _ c).1 ⟨group, hgroup, hc⟩
      exact (h.chars c hmem).resolve_right hne

theorem IsHyphenated.hyphensApart {segment : String} (h : IsHyphenated segment) :
    HyphensApart segment.toList :=
  (isSlug_iff_hyphensApart segment).1 ((isSlug_iff segment).2 h)

theorem IsHyphenated.ne_nil {segment : String} (h : IsHyphenated segment) :
    segment.toList ≠ [] :=
  List.ne_nil_of_mem h.hyphensApart.hyphen

end DeepLink.Segment
