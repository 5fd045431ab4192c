import DeepLink.Pattern.Alignment
import DeepLink.Proofs.Dictionary
import DeepLink.Proofs.Segment.Classes
import Mathlib.Data.List.Forall2

/-! # When a pattern matches

The matching rule is stated slot by slot, without reference to the walk that decides it, and the
walk is shown to accept exactly the addresses that the rule allows. A second walk reads the values
of the wildcards; it succeeds on everything that the first one accepts. -/

namespace DeepLink

/-! ## The matching rule -/

/-- What a slot asks of a segment. -/
inductive Slot.Admits : Slot → String → Prop where
  | literal (text) : Admits (.literal text) text
  | integer {name segment n} (h : Segment.Denotes segment n) (hn : n < Segment.integerBound) :
      Admits (.wildcard name .integer) segment
  | word {name segment} (h : Segment.IsWordText segment) : Admits (.wildcard name .word) segment

/-- A pattern fits an address of the same scheme and host whose segments, except perhaps for a slug
at the end, are admitted by the slots one for one. The segments taken leave that slug out. -/
structure Pattern.Fits (pattern : Pattern) (address : Address) (taken : List String) : Prop where
  scheme : pattern.scheme = address.scheme
  host : pattern.host = address.host
  segments : address.segments = taken ∨
    ∃ slug, Segment.IsHyphenated slug ∧ address.segments = taken ++ [slug]
  admits : List.Forall₂ Slot.Admits pattern.slots taken

theorem Slot.accepts_iff (slot : Slot) (segment : String) :
    slot.accepts segment ↔ slot.Admits segment := by
  constructor
  · intro h
    cases slot with
    | literal text =>
        have heq : text = segment := by simpa [Slot.accepts] using h
        subst heq
        exact .literal text
    | wildcard name type =>
        cases type with
        | integer =>
            obtain ⟨n, hdenotes, hn⟩ := (Segment.isInteger_iff segment).1 h
            exact .integer hdenotes hn
        | word => exact .word ((Segment.isWord_iff segment).1 h)
  · intro h
    cases h with
    | literal => simp [Slot.accepts]
    | integer hdenotes hn => exact (Segment.isInteger_iff segment).2 ⟨_, hdenotes, hn⟩
    | word hword => exact (Segment.isWord_iff segment).2 hword

namespace Pattern

theorem facing?_eq_some_iff (pattern : Pattern) (segments taken : List String) :
    pattern.facing? segments = some taken ↔
      taken.length = pattern.slots.length ∧
        (segments = taken ∨ ∃ slug, Segment.IsHyphenated slug ∧ segments = taken ++ [slug]) := by
  unfold facing?
  dsimp only
  constructor
  · intro h
    split at h
    · rename_i hlength
      injection h with h
      subst h
      exact ⟨hlength, .inl rfl⟩
    · split at h
      · rename_i hslug
        obtain ⟨hlength, hany⟩ := hslug
        injection h with h
        subst h
        obtain ⟨slug, hlast, hslug⟩ := (Option.any_eq_true _ _).1 hany
        refine ⟨by simp [hlength], .inr ⟨slug, (Segment.isSlug_iff slug).1 hslug, ?_⟩⟩
        obtain ⟨front, rfl⟩ := List.getLast?_eq_some_iff.1 hlast
        have hfront : pattern.slots.length = front.length := by simpa using hlength.symm
        simp [hfront]
      · cases h
  · rintro ⟨hlength, rfl | ⟨slug, hslug, rfl⟩⟩
    · rw [if_pos hlength]
    · have hlong : (taken ++ [slug]).length = pattern.slots.length + 1 := by simp [hlength]
      rw [if_neg (by omega), if_pos ⟨hlong, by simpa using (Segment.isSlug_iff slug).2 hslug⟩,
        ← hlength]
      simp

/-- Segments are accepted one for one exactly when the slots admit them. -/
theorem all_accepts_iff {slots : List Slot} {taken : List String}
    (hlength : taken.length = slots.length) :
    ((slots.zip taken).all fun (slot, segment) => slot.accepts segment) ↔
      List.Forall₂ Slot.Admits slots taken := by
  rw [List.forall₂_iff_zip, List.all_eq_true]
  constructor
  · intro h
    refine ⟨hlength.symm, ?_⟩
    intro slot segment hmem
    exact (Slot.accepts_iff slot segment).1 (h (slot, segment) hmem)
  · rintro ⟨_, h⟩ ⟨slot, segment⟩ hmem
    exact (Slot.accepts_iff slot segment).2 (h hmem)

/-- Laying a route along a pattern decides the matching rule, and takes the segments that the rule
takes. -/
theorem align_eq_some_iff (pattern : Pattern) (address : Address) (taken : List String) :
    pattern.align address = some taken ↔ pattern.Fits address taken := by
  unfold align
  constructor
  · intro h
    split at h
    · rename_i hauthority
      split at h
      · cases h
      · rename_i segments hfacing
        split at h
        · rename_i hall
          injection h with h
          subst h
          obtain ⟨hlength, hsegments⟩ := (facing?_eq_some_iff pattern _ _).1 hfacing
          exact ⟨hauthority.1, hauthority.2, hsegments, (all_accepts_iff hlength).1 hall⟩
        · cases h
    · cases h
  · intro h
    have hlength : taken.length = pattern.slots.length := h.admits.length_eq.symm
    have hfacing := (facing?_eq_some_iff pattern _ _).2 ⟨hlength, h.segments⟩
    rw [if_pos ⟨h.scheme, h.host⟩, hfacing]
    simp only
    rw [if_pos ((all_accepts_iff hlength).2 h.admits)]

end Pattern

/-! ## The values of wildcards -/

/-- The value that a segment gives to a wildcard of a type. -/
inductive WildcardType.Reads : WildcardType → String → WildcardValue → Prop where
  | integer {segment n} (h : Segment.Denotes segment n) (hn : n < Segment.integerBound) :
      Reads .integer segment (.integer n)
  | word (segment) : Reads .word segment (.text segment)

/-- The names of the wildcards among slots, each with the value that its segment gives. -/
inductive Pattern.Readings : List Slot → List String → List (String × WildcardValue) → Prop where
  | nil : Readings [] [] []
  | literal {text segment slots segments pairs} :
      Readings slots segments pairs →
      Readings (.literal text :: slots) (segment :: segments) pairs
  | wildcard {name type segment value slots segments pairs} (h : type.Reads segment value) :
      Readings slots segments pairs →
      Readings (.wildcard name type :: slots) (segment :: segments) ((name, value) :: pairs)

theorem WildcardType.Reads.valueOf?_eq {type : WildcardType} {segment : String}
    {value : WildcardValue} (h : type.Reads segment value) :
    Pattern.valueOf? type segment = some value := by
  cases h with
  | integer hdenotes hn => simp [Pattern.valueOf?, Segment.integer?_of_denotes hdenotes hn]
  | word => rfl

theorem Slot.Admits.exists_reads {name : String} {type : WildcardType} {segment : String}
    (h : (Slot.wildcard name type).Admits segment) : ∃ value, type.Reads segment value := by
  cases h with
  | integer hdenotes hn => exact ⟨_, .integer hdenotes hn⟩
  | word => exact ⟨_, .word segment⟩

namespace Pattern

theorem exists_readings {slots : List Slot} {segments : List String}
    (h : List.Forall₂ Slot.Admits slots segments) : ∃ pairs, Readings slots segments pairs := by
  induction h with
  | nil => exact ⟨[], .nil⟩
  | @cons slot segment slots segments hadmits _ ih =>
      obtain ⟨pairs, hpairs⟩ := ih
      cases slot with
      | literal text => exact ⟨pairs, .literal hpairs⟩
      | wildcard name type =>
          obtain ⟨value, hvalue⟩ := hadmits.exists_reads
          exact ⟨(name, value) :: pairs, .wildcard hvalue hpairs⟩

theorem Readings.names_eq {slots : List Slot} {segments : List String}
    {pairs : List (String × WildcardValue)} (h : Readings slots segments pairs) :
    pairs.map (·.1) = slots.filterMap Slot.name? := by
  induction h with
  | nil => rfl
  | literal _ ih => rw [List.filterMap_cons_none rfl, ih]
  | wildcard _ _ ih => simpa [Slot.name?] using ih

theorem Readings.mem_of_getElem? {slots : List Slot} {segments : List String}
    {pairs : List (String × WildcardValue)} (h : Readings slots segments pairs) {i : Nat}
    {name : String} {type : WildcardType} {segment : String}
    (hslot : slots[i]? = some (.wildcard name type)) (hsegment : segments[i]? = some segment) :
    ∃ value, (name, value) ∈ pairs ∧ type.Reads segment value := by
  induction h generalizing i with
  | nil => simp at hslot
  | literal _ ih =>
      cases i with
      | zero => simp at hslot
      | succ i => exact ih hslot hsegment
  | @wildcard name' type' segment' value slots segments pairs hvalue _ ih =>
      cases i with
      | zero =>
          simp only [List.getElem?_cons_zero, Option.some.injEq, Slot.wildcard.injEq] at hslot
          simp only [List.getElem?_cons_zero, Option.some.injEq] at hsegment
          obtain ⟨rfl, rfl⟩ := hslot
          subst hsegment
          exact ⟨value, by simp, hvalue⟩
      | succ i =>
          obtain ⟨v, hmem, hreads⟩ := ih hslot hsegment
          exact ⟨v, List.mem_cons_of_mem _ hmem, hreads⟩

/-- Reading the wildcards from the left adds their values in the order of the slots, as long as no
name comes twice. -/
theorem extractFrom_of_readings {slots : List Slot} {segments : List String}
    {pairs : List (String × WildcardValue)} (h : Readings slots segments pairs)
    (known : Dictionary WildcardValue) (hnodup : (known.keys ++ pairs.map (·.1)).Nodup) :
    extractFrom known (slots.zip segments) = some ⟨known.pairs ++ pairs⟩ := by
  induction h generalizing known with
  | nil => simp [extractFrom]
  | literal _ ih =>
      rw [List.zip_cons_cons, extractFrom]
      exact ih known hnodup
  | @wildcard name type segment value slots segments pairs hvalue _ ih =>
      rw [List.map_cons] at hnodup
      have hnew : name ∉ known.keys := fun hmem =>
        (List.nodup_append.1 hnodup).2.2 name hmem name (by simp) rfl
      rw [List.zip_cons_cons, extractFrom, hvalue.valueOf?_eq]
      simp only
      rw [Dictionary.insert_of_not_mem hnew, ih]
      · simp
      · simpa [Dictionary.keys] using hnodup

theorem extract_of_readings {pattern : Pattern} {segments : List String}
    {pairs : List (String × WildcardValue)} (h : Readings pattern.slots segments pairs)
    (hnodup : pattern.names.Nodup) : pattern.extract segments = some ⟨pairs⟩ := by
  have hkeys : ((Dictionary.empty : Dictionary WildcardValue).keys ++ pairs.map (·.1)).Nodup := by
    rw [h.names_eq]
    exact hnodup
  exact extractFrom_of_readings h .empty hkeys

end Pattern

end DeepLink
