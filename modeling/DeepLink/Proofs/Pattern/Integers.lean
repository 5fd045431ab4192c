import DeepLink.Proofs.Pattern.Matching
import Mathlib.Data.Nat.Digits.Defs

/-! # Integers of 64 bits

The number of a text is given by the places of its digits. A segment is an integer when its number
takes no more than 64 bits, however many digits it has; the reading from the left, which stops at
the digit that makes the number too large, finds exactly these numbers. A segment that was not
checked before may have a plus sign as well, and nothing else. -/

namespace DeepLink

namespace Segment

/-! ## Digits and their places -/

/-- The number that digits write: each counts ten times as much as the one behind it. -/
def number (digits : List Char) : Nat :=
  Nat.ofDigits 10 (digits.reverse.map fun c => c.toNat - '0'.toNat)

theorem number_cons (c : Char) (digits : List Char) :
    number (c :: digits) = number digits + 10 ^ digits.length * (c.toNat - '0'.toNat) := by
  rw [number, List.reverse_cons, List.map_append, Nat.ofDigits_append, List.length_map,
    List.length_reverse]
  simp [number]

/-- Digits behind a number move it up by their places. -/
theorem ofDigitChars_eq (digits : List Char) (n : Nat) :
    Nat.ofDigitChars 10 digits n = number digits + 10 ^ digits.length * n := by
  induction digits generalizing n with
  | nil => simp [number]
  | cons c digits ih =>
      rw [Nat.ofDigitChars_cons, ih, number_cons, List.length_cons]
      ring

/-- Digits alone, at least one, whose number takes no more than 64 bits. -/
structure IsNumeral (text : String) : Prop where
  ne_nil : text.toList ≠ []
  digits : ∀ c ∈ text.toList, c.isDigit
  fits : number text.toList ≤ 18446744073709551615

theorem isNumeral_iff (text : String) (n : Nat) :
    Denotes text n ∧ n < integerBound ↔ IsNumeral text ∧ n = number text.toList := by
  have hbound : integerBound = 18446744073709551615 + 1 := rfl
  have hvalue : Nat.ofDigitChars 10 text.toList 0 = number text.toList := by
    rw [ofDigitChars_eq, Nat.mul_zero, Nat.add_zero]
  constructor
  · rintro ⟨hn, hlt⟩
    have hnumber : n = number text.toList := hn.value.symm.trans hvalue
    exact ⟨⟨hn.ne_nil, hn.digits, by omega⟩, hnumber⟩
  · rintro ⟨htext, rfl⟩
    have hfits := htext.fits
    exact ⟨⟨htext.ne_nil, htext.digits, hvalue⟩, by omega⟩

theorem isInteger_iff_isNumeral (segment : String) : isInteger segment ↔ IsNumeral segment := by
  simp only [isInteger_iff, isNumeral_iff]
  exact ⟨fun ⟨_, h, _⟩ => h, fun h => ⟨_, h, rfl⟩⟩

theorem number_zeros (zeros : Nat) (digits : List Char) :
    number (List.replicate zeros '0' ++ digits) = number digits := by
  induction zeros with
  | zero => rfl
  | succ zeros ih =>
      rw [List.replicate_succ, List.cons_append, number_cons, ih, Nat.sub_self, Nat.mul_zero,
        Nat.add_zero]

/-- Zeros in front change nothing. -/
theorem isNumeral_zeros (zeros : Nat) {text : String} (hne : text.toList ≠ []) :
    IsNumeral (String.ofList (List.replicate zeros '0') ++ text) ↔ IsNumeral text := by
  have htext : (String.ofList (List.replicate zeros '0') ++ text).toList =
      List.replicate zeros '0' ++ text.toList := by
    rw [String.toList_append, String.toList_ofList]
  constructor
  · rintro ⟨_, hdigits, hfits⟩
    rw [htext] at hdigits hfits
    rw [number_zeros] at hfits
    exact ⟨hne, fun c hc => hdigits c (List.mem_append_right _ hc), hfits⟩
  · rintro ⟨_, hdigits, hfits⟩
    refine ⟨by rw [htext]; simp [hne], ?_, by rw [htext, number_zeros]; exact hfits⟩
    intro c hc
    rw [htext] at hc
    rcases List.mem_append.1 hc with hc | hc
    · rw [List.eq_of_mem_replicate hc]
      decide
    · exact hdigits c hc

/-- A numeral and its number, with or without a plus sign in front. -/
inductive Signed : String → Nat → Prop where
  | plain {digits} (h : IsNumeral digits) : Signed digits (number digits.toList)
  | plus {digits} (h : IsNumeral digits) : Signed ("+" ++ digits) (number digits.toList)

theorem integer?_eq_some_iff_signed (text : String) (n : Nat) :
    integer? text = some n ↔ Signed text n := by
  simp only [integer?_eq_some_iff, isNumeral_iff]
  constructor
  · rintro ⟨digits, rfl | rfl, h, rfl⟩
    · exact .plain h
    · exact .plus h
  · rintro (⟨h⟩ | ⟨h⟩)
    · exact ⟨_, .inl rfl, h, rfl⟩
    · exact ⟨_, .inr rfl, h, rfl⟩

end Segment

namespace Pattern

/-! ## Segments that were not checked -/

theorem valueOf?_integer_eq_some_iff (segment : String) (value : WildcardValue) :
    valueOf? .integer segment = some value ↔
      ∃ n, Segment.Signed segment n ∧ value = .integer n := by
  simp only [valueOf?, Option.map_eq_some_iff, Segment.integer?_eq_some_iff_signed]
  exact exists_congr fun n => and_congr_right fun _ => eq_comm

theorem valueOf?_eq_none_iff (type : WildcardType) (segment : String) :
    valueOf? type segment = none ↔ type = .integer ∧ ∀ n, ¬ Segment.Signed segment n := by
  cases type with
  | word => simp [valueOf?]
  | integer =>
      rw [Option.eq_none_iff_forall_ne_some]
      constructor
      · intro h
        exact ⟨rfl, fun n hn => h _ ((valueOf?_integer_eq_some_iff segment _).2 ⟨n, hn, rfl⟩)⟩
      · rintro ⟨_, hno⟩ value hvalue
        obtain ⟨n, hn, _⟩ := (valueOf?_integer_eq_some_iff segment value).1 hvalue
        exact hno n hn

/-- Reading the wildcards fails exactly where one of them has no value. -/
theorem extractFrom_eq_none_iff (known : Dictionary WildcardValue) (pairs : List (Slot × String)) :
    extractFrom known pairs = none ↔
      ∃ name type segment, (Slot.wildcard name type, segment) ∈ pairs ∧
        valueOf? type segment = none := by
  induction pairs generalizing known with
  | nil => simp [extractFrom]
  | cons pair pairs ih =>
      obtain ⟨slot, segment⟩ := pair
      cases slot with
      | literal text => simp [extractFrom, ih]
      | wildcard name type =>
          rw [extractFrom]
          split
          · rename_i hnone
            exact iff_of_true rfl ⟨name, type, segment, by simp, hnone⟩
          · rename_i value hvalue
            rw [ih]
            constructor
            · rintro ⟨name', type', segment', hmem, hnone⟩
              exact ⟨name', type', segment', List.mem_cons_of_mem _ hmem, hnone⟩
            · rintro ⟨name', type', segment', hmem, hnone⟩
              rcases List.mem_cons.1 hmem with heq | hmem
              · cases heq
                rw [hvalue] at hnone
                cases hnone
              · exact ⟨name', type', segment', hmem, hnone⟩

/-- Slots with other names leave the value of a name alone. -/
theorem get?_extractFrom_of_not_named {known values : Dictionary WildcardValue}
    {pairs : List (Slot × String)} {name : String} (hother : ∀ p ∈ pairs, p.1.name? ≠ some name)
    (h : extractFrom known pairs = some values) : values.get? name = known.get? name := by
  induction pairs generalizing known with
  | nil =>
      injection h with h
      rw [h]
  | cons pair pairs ih =>
      obtain ⟨slot, segment⟩ := pair
      obtain ⟨hfirst, hrest⟩ := List.forall_mem_cons.1 hother
      cases slot with
      | literal text => exact ih hrest h
      | wildcard name' type =>
          rw [extractFrom] at h
          split at h
          · cases h
          · have hne : name ≠ name' := fun heq => hfirst (congrArg some heq.symm)
            rw [ih hrest h, Dictionary.get?_insert, if_neg hne]

/-- The last wildcard of a name decides its value. -/
theorem get?_extractFrom_of_last {known values : Dictionary WildcardValue}
    {front rest : List (Slot × String)} {name segment : String} {type : WildcardType}
    (hlast : ∀ p ∈ rest, p.1.name? ≠ some name)
    (h : extractFrom known (front ++ (.wildcard name type, segment) :: rest) = some values) :
    ∃ value, valueOf? type segment = some value ∧ values.get? name = some value := by
  induction front generalizing known with
  | nil =>
      rw [List.nil_append, extractFrom] at h
      split at h
      · cases h
      · rename_i value hvalue
        refine ⟨value, hvalue, ?_⟩
        rw [get?_extractFrom_of_not_named hlast h, Dictionary.get?_insert, if_pos rfl]
  | cons pair front ih =>
      obtain ⟨slot, other⟩ := pair
      rw [List.cons_append] at h
      cases slot with
      | literal text => exact ih h
      | wildcard name' type' =>
          rw [extractFrom] at h
          split at h
          · cases h
          · exact ih h

/-- A slot and the segment in its place, with what stands behind them. -/
theorem exists_split_of_getElem? {slots : List Slot} {segments : List String} {i : Nat}
    {slot : Slot} {segment : String} (hslot : slots[i]? = some slot)
    (hsegment : segments[i]? = some segment) :
    ∃ front rest, slots.zip segments = front ++ (slot, segment) :: rest ∧
      ∀ p ∈ rest, ∃ j, i < j ∧ slots[j]? = some p.1 := by
  have hpair : (slots.zip segments)[i]? = some (slot, segment) :=
    List.getElem?_zip_eq_some.2 ⟨hslot, hsegment⟩
  obtain ⟨hlt, hget⟩ := List.getElem?_eq_some_iff.1 hpair
  refine ⟨(slots.zip segments).take i, (slots.zip segments).drop (i + 1), ?_, ?_⟩
  · rw [← hget, ← List.drop_eq_getElem_cons hlt, List.take_append_drop]
  · intro p hp
    obtain ⟨k, hk⟩ := List.mem_iff_getElem?.1 hp
    rw [List.getElem?_drop] at hk
    exact ⟨i + 1 + k, by omega, (List.getElem?_zip_eq_some.1 hk).1⟩

theorem extract_eq_none_iff (pattern : Pattern) (segments : List String) :
    pattern.extract segments = none ↔
      ∃ (i : Nat) (name segment : String), pattern.slots[i]? = some (.wildcard name .integer) ∧
        segments[i]? = some segment ∧ ∀ n, ¬ Segment.Signed segment n := by
  simp only [extract, extractFrom_eq_none_iff, valueOf?_eq_none_iff]
  constructor
  · rintro ⟨name, _, segment, hmem, rfl, hno⟩
    obtain ⟨i, hi⟩ := List.mem_iff_getElem?.1 hmem
    obtain ⟨hslot, hsegment⟩ := List.getElem?_zip_eq_some.1 hi
    exact ⟨i, name, segment, hslot, hsegment, hno⟩
  · rintro ⟨i, name, segment, hslot, hsegment, hno⟩
    have hpair : (pattern.slots.zip segments)[i]? = some (.wildcard name .integer, segment) :=
      List.getElem?_zip_eq_some.2 ⟨hslot, hsegment⟩
    exact ⟨name, .integer, segment, List.mem_of_getElem? hpair, rfl, hno⟩

theorem get?_extract_of_last {pattern : Pattern} {segments : List String}
    {values : Dictionary WildcardValue} (h : pattern.extract segments = some values) {i : Nat}
    {name segment : String} (hslot : pattern.slots[i]? = some (.wildcard name .integer))
    (hsegment : segments[i]? = some segment)
    (hlast : ∀ j type, i < j → pattern.slots[j]? ≠ some (.wildcard name type)) :
    ∃ n, Segment.Signed segment n ∧ values.get? name = some (.integer n) := by
  obtain ⟨front, rest, hsplit, hbehind⟩ := exists_split_of_getElem? hslot hsegment
  have hother : ∀ p ∈ rest, p.1.name? ≠ some name := by
    rintro ⟨slot, other⟩ hp hname
    obtain ⟨j, hj, hget⟩ := hbehind _ hp
    cases slot with
    | literal text => cases hname
    | wildcard name' type =>
        injection hname with hname
        subst hname
        exact hlast j type hj hget
  rw [extract, hsplit] at h
  obtain ⟨value, hvalue, hget⟩ := get?_extractFrom_of_last hother h
  obtain ⟨n, hn, rfl⟩ := (valueOf?_integer_eq_some_iff segment value).1 hvalue
  exact ⟨n, hn, hget⟩

/-- Integers are exact up to the largest number of 64 bits. A segment is in the class of integers
exactly when it is made of digits whose number is no larger, and its value is that number, however
many zeros stand in front. On segments that were not checked, the values of the wildcards are
refused exactly when one that should be an integer is neither such a text nor a plus sign with one
behind it, and otherwise each integer has the number that its digits write. -/
theorem integers_exact :
    (∀ segment : String, Segment.isInteger segment ↔ Segment.IsNumeral segment) ∧
    (∀ segment : String, Segment.IsNumeral segment →
      valueOf? .integer segment = some (.integer (Segment.number segment.toList))) ∧
    (∀ (zeros : Nat) (segment : String), segment.toList ≠ [] →
      (Segment.isInteger (String.ofList (List.replicate zeros '0') ++ segment) ↔
        Segment.isInteger segment) ∧
      Segment.number (String.ofList (List.replicate zeros '0') ++ segment).toList =
        Segment.number segment.toList) ∧
    ∀ (pattern : Pattern) (segments : List String),
      (pattern.extract segments = none ↔
        ∃ (i : Nat) (name segment : String), pattern.slots[i]? = some (.wildcard name .integer) ∧
          segments[i]? = some segment ∧ ∀ n, ¬ Segment.Signed segment n) ∧
      ∀ {values : Dictionary WildcardValue}, pattern.extract segments = some values →
        ∀ {i : Nat} {name segment : String},
          pattern.slots[i]? = some (.wildcard name .integer) → segments[i]? = some segment →
          (∀ j type, i < j → pattern.slots[j]? ≠ some (.wildcard name type)) →
            ∃ n, Segment.Signed segment n ∧ values.get? name = some (.integer n) := by
  refine ⟨Segment.isInteger_iff_isNumeral, ?_, ?_, ?_⟩
  · intro segment h
    exact (valueOf?_integer_eq_some_iff segment _).2 ⟨_, .plain h, rfl⟩
  · intro zeros segment hne
    have hnumber := Segment.number_zeros zeros segment.toList
    rw [Segment.isInteger_iff_isNumeral, Segment.isInteger_iff_isNumeral]
    refine ⟨Segment.isNumeral_zeros zeros hne, ?_⟩
    rw [String.toList_append, String.toList_ofList, hnumber]
  · intro pattern segments
    exact ⟨extract_eq_none_iff pattern segments, get?_extract_of_last⟩

/-- The largest integer with zeros in front, and a plus sign in a segment that was not checked. -/
theorem integers_exact_largest :
    Segment.IsNumeral "18446744073709551615" ∧
    valueOf? .integer "18446744073709551615" = some (.integer 18446744073709551615) ∧
    Segment.isInteger "0018446744073709551615" ∧
    ¬ Segment.isInteger "18446744073709551616" ∧
    ∃ values, (⟨"app", "h", [.wildcard "id" .integer]⟩ : Pattern).extract ["+7"] = some values ∧
      ∃ n, Segment.Signed "+7" n ∧ values.get? "id" = some (.integer n) := by
  obtain ⟨hclass, hvalue, hzeros, hextract⟩ := integers_exact
  have hnumber : Segment.number "18446744073709551615".toList = 18446744073709551615 := rfl
  have hlarger : Segment.number "18446744073709551616".toList = 18446744073709551616 := rfl
  have hdigits : "18446744073709551615".toList.all Char.isDigit := rfl
  have hfits : Segment.IsNumeral "18446744073709551615" :=
    ⟨by decide, List.all_eq_true.1 hdigits, hnumber.le⟩
  have hread : (⟨"app", "h", [.wildcard "id" .integer]⟩ : Pattern).extract ["+7"] =
      some ⟨[("id", .integer 7)]⟩ := rfl
  refine ⟨hfits, ?_, ?_, ?_, _, hread, ?_⟩
  · rw [hvalue _ hfits, hnumber]
  · exact (hzeros 2 "18446744073709551615" hfits.ne_nil).1.2 ((hclass _).2 hfits)
  · intro hinteger
    have hlimit := ((hclass _).1 hinteger).fits
    omega
  · refine (hextract ⟨"app", "h", [.wildcard "id" .integer]⟩ ["+7"]).2 hread (i := 0) rfl rfl ?_
    intro j type hj
    rw [List.getElem?_eq_none (Nat.succ_le_of_lt hj)]
    simp

end Pattern

end DeepLink
