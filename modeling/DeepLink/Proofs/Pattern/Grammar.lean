import DeepLink.Pattern
import DeepLink.Proofs.Results
import Mathlib.Data.List.Forall2
import Mathlib.Data.List.Induction

/-! # The grammar of segments

A segment of a template is a literal when it holds no brace, and otherwise it has to be a wildcard
marker. The grammar says which slot a segment denotes, and what is wrong with it when it denotes
none. Segments are read from the left, up to the first that is at fault or repeats a name. -/

namespace DeepLink

namespace Slot

/-! ## One segment -/

/-- Whether a text holds a brace. -/
def HoldsBrace (text : List Char) : Prop := '\x7b' ∈ text ∨ '\x7d' ∈ text

/-- A name is made of ASCII letters, digits and underscores, and not empty. -/
def IsName (name : List Char) : Prop := name ≠ [] ∧ ∀ c ∈ name, c.isAlphanum ∨ c = '_'

/-- A wildcard marker: the letter of the type, a colon, and a text in braces. -/
def marker (type : WildcardType) (name : List Char) : List Char :=
  type.tag :: ':' :: ('\x7b' :: name ++ ['\x7d'])

/-- The slots that segments denote. -/
inductive Denotes : String → Slot → Prop where
  | literal {segment} (h : ¬ HoldsBrace segment.toList) : Denotes segment (.literal segment)
  | wildcard {segment name type} (hsegment : segment.toList = marker type name.toList)
      (hname : IsName name.toList) : Denotes segment (.wildcard name type)

/-- The faults of segments with a brace that denote no slot: the marker of no type stands in front,
what follows it is not between braces, or what stands between them is no name. -/
inductive Offends : String → Fault → Prop where
  | unknownMarker {segment} (hbrace : HoldsBrace segment.toList)
      (hmarker : ∀ (type : WildcardType) (rest), segment.toList ≠ type.tag :: ':' :: rest) :
      Offends segment (.unknownMarker segment)
  | unbalancedBraces {segment rest} {type : WildcardType} (hbrace : HoldsBrace segment.toList)
      (hsegment : segment.toList = type.tag :: ':' :: rest)
      (hbraces : ∀ name, rest ≠ '\x7b' :: name ++ ['\x7d']) :
      Offends segment (.unbalancedBraces segment)
  | invalidName {segment type name} (hsegment : segment.toList = marker type name)
      (hname : ¬ IsName name) : Offends segment (.invalidName (String.ofList name))

theorem any_isBrace_iff (text : List Char) : text.any isBrace ↔ HoldsBrace text := by
  simp only [List.any_eq_true, isBrace, Bool.or_eq_true, decide_eq_true_eq, HoldsBrace]
  constructor
  · rintro ⟨c, hc, rfl | rfl⟩
    · exact .inl hc
    · exact .inr hc
  · rintro (hmem | hmem)
    · exact ⟨_, hmem, .inl rfl⟩
    · exact ⟨_, hmem, .inr rfl⟩

theorem holdsBrace_marker (type : WildcardType) (name : List Char) :
    HoldsBrace (marker type name) := by
  simp [HoldsBrace, marker]

theorem isName_iff (name : List Char) :
    (name.isEmpty || !name.all Segment.isWordChar) = false ↔ IsName name := by
  simp [IsName, Segment.isWordChar]

theorem betweenBraces?_eq_some_iff (text name : List Char) :
    betweenBraces? text = some name ↔ text = '\x7b' :: name ++ ['\x7d'] := by
  constructor
  · intro h
    unfold betweenBraces? at h
    split at h
    · rename_i rest
      split at h
      · rename_i hlast
        obtain ⟨front, rfl⟩ := List.getLast?_eq_some_iff.1 hlast
        rw [List.dropLast_concat] at h
        injection h with h
        rw [h, List.cons_append]
      · cases h
    · cases h
  · rintro rfl
    simp [betweenBraces?]

/-! ### The reader of segments -/

theorem parse_of_not_holdsBrace {segment : String} (h : ¬ HoldsBrace segment.toList) :
    parse segment = .ok (.literal segment) := by
  rw [← any_isBrace_iff] at h
  simp [parse, h]

/-- Behind the marker of a type the text between the braces is read. -/
theorem parse_of_marker {segment : String} {type : WildcardType} {rest : List Char}
    (hbrace : HoldsBrace segment.toList) (h : segment.toList = type.tag :: ':' :: rest) :
    parse segment = parseWildcard segment type rest := by
  rw [← any_isBrace_iff] at hbrace
  unfold parse
  dsimp only
  rw [hbrace, h]
  cases type with
  | integer => rfl
  | word => rfl

theorem parse_of_no_marker {segment : String} (hbrace : HoldsBrace segment.toList)
    (h : ∀ (type : WildcardType) (rest), segment.toList ≠ type.tag :: ':' :: rest) :
    parse segment = .error (.unknownMarker segment) := by
  rw [← any_isBrace_iff] at hbrace
  unfold parse
  dsimp only
  rw [hbrace, Bool.not_true, if_neg (by simp)]
  split
  · rename_i rest htext
    exact absurd htext (h .integer rest)
  · rename_i rest htext
    exact absurd htext (h .word rest)
  · rfl

theorem parseWildcard_of_isName {segment : String} {type : WildcardType} {name : List Char}
    (h : IsName name) :
    parseWildcard segment type ('\x7b' :: name ++ ['\x7d']) =
      .ok (.wildcard (String.ofList name) type) := by
  simp only [parseWildcard, (betweenBraces?_eq_some_iff _ name).2 rfl]
  rw [(isName_iff name).2 h]
  rfl

theorem parseWildcard_of_not_isName {segment : String} {type : WildcardType} {name : List Char}
    (h : ¬ IsName name) :
    parseWildcard segment type ('\x7b' :: name ++ ['\x7d']) =
      .error (.invalidName (String.ofList name)) := by
  simp only [parseWildcard, (betweenBraces?_eq_some_iff _ name).2 rfl]
  rw [← isName_iff, Bool.not_eq_false] at h
  rw [h]
  rfl

theorem parseWildcard_of_no_braces {segment : String} {type : WildcardType} {rest : List Char}
    (h : ∀ name, rest ≠ '\x7b' :: name ++ ['\x7d']) :
    parseWildcard segment type rest = .error (.unbalancedBraces segment) := by
  have hnone : betweenBraces? rest = none :=
    Option.eq_none_iff_forall_ne_some.2 fun name hname =>
      h name ((betweenBraces?_eq_some_iff rest name).1 hname)
  simp only [parseWildcard, hnone]

theorem Denotes.parse_eq {segment : String} {slot : Slot} (h : Denotes segment slot) :
    parse segment = .ok slot := by
  cases h with
  | literal h => exact parse_of_not_holdsBrace h
  | @wildcard name type hsegment hname =>
      have hbrace : HoldsBrace segment.toList := hsegment ▸ holdsBrace_marker type name.toList
      rw [parse_of_marker hbrace hsegment, parseWildcard_of_isName hname, String.ofList_toList]

theorem Offends.parse_eq {segment : String} {fault : Fault} (h : Offends segment fault) :
    parse segment = .error fault := by
  cases h with
  | unknownMarker hbrace hmarker => exact parse_of_no_marker hbrace hmarker
  | unbalancedBraces hbrace hsegment hbraces =>
      rw [parse_of_marker hbrace hsegment, parseWildcard_of_no_braces hbraces]
  | @invalidName type name hsegment hname =>
      have hbrace : HoldsBrace segment.toList := hsegment ▸ holdsBrace_marker type name
      rw [parse_of_marker hbrace hsegment, parseWildcard_of_not_isName hname]

/-- A segment denotes a slot, or something is wrong with it. -/
theorem denotes_or_offends (segment : String) :
    (∃ slot, Denotes segment slot) ∨ ∃ fault, Offends segment fault := by
  by_cases hbrace : HoldsBrace segment.toList
  · by_cases hmarker : ∃ (type : WildcardType) (rest : List Char),
        segment.toList = type.tag :: ':' :: rest
    · obtain ⟨type, rest, hsegment⟩ := hmarker
      by_cases hbraces : ∃ name, rest = '\x7b' :: name ++ ['\x7d']
      · obtain ⟨name, rfl⟩ := hbraces
        by_cases hname : IsName name
        · rw [← String.toList_ofList (l := name)] at hsegment hname
          exact .inl ⟨_, .wildcard hsegment hname⟩
        · exact .inr ⟨_, .invalidName hsegment hname⟩
      · exact .inr ⟨_, .unbalancedBraces hbrace hsegment (not_exists.1 hbraces)⟩
    · exact .inr ⟨_, .unknownMarker hbrace fun type rest h => hmarker ⟨type, rest, h⟩⟩
  · exact .inl ⟨_, .literal hbrace⟩

/-- A segment is read as the slot it denotes, or refused for what is wrong with it. -/
theorem parse_eq_iff (segment : String) :
    (∀ slot, parse segment = .ok slot ↔ Denotes segment slot) ∧
      ∀ fault, parse segment = .error fault ↔ Offends segment fault :=
  eq_iff_of_or Denotes.parse_eq Offends.parse_eq (denotes_or_offends segment)

/-- A segment denotes one slot at most. -/
theorem Denotes.unique {segment : String} {slot other : Slot} (h : Denotes segment slot)
    (h' : Denotes segment other) : slot = other := by
  obtain ⟨hok, _⟩ := parse_eq_iff segment
  rw [← hok] at h h'
  exact Except.ok.inj (h.symm.trans h')

theorem Denotes.not_offends {segment : String} {slot : Slot} {fault : Fault}
    (h : Denotes segment slot) : ¬ Offends segment fault := by
  obtain ⟨hok, herror⟩ := parse_eq_iff segment
  rw [← hok] at h
  rw [← herror, h]
  simp

/-- A segment denotes a slot when it holds no brace, or is a marker around a name. -/
theorem exists_denotes_iff (segment : String) :
    (∃ slot, Denotes segment slot) ↔ ¬ HoldsBrace segment.toList ∨
      ∃ type name, IsName name ∧ segment.toList = marker type name := by
  constructor
  · rintro ⟨slot, hslot⟩
    cases hslot with
    | literal h => exact .inl h
    | @wildcard name type hsegment hname => exact .inr ⟨type, name.toList, hname, hsegment⟩
  · rintro (h | ⟨type, name, hname, hsegment⟩)
    · exact ⟨_, .literal h⟩
    · rw [← String.toList_ofList (l := name)] at hsegment hname
      exact ⟨_, .wildcard hsegment hname⟩

/-- A segment is the written form of the slot it denotes. -/
theorem Denotes.render_eq {segment : String} {slot : Slot} (h : Denotes segment slot) :
    slot.render = segment := by
  cases h with
  | literal => rfl
  | @wildcard name type hsegment =>
      rw [← String.ofList_toList (s := segment), hsegment]
      rfl

end Slot

/-- What stands in one of two lists that correspond has its counterpart in the other. -/
theorem exists_rel_of_mem {α β : Type} {R : α → β → Prop} {as : List α} {bs : List β}
    (h : List.Forall₂ R as bs) {b : β} (hb : b ∈ bs) : ∃ a ∈ as, R a b := by
  induction h with
  | nil => cases hb
  | @cons a b' as bs hrel _ ih =>
      rcases List.mem_cons.1 hb with rfl | hb
      · exact ⟨a, List.mem_cons_self, hrel⟩
      · obtain ⟨a', ha', hrel'⟩ := ih hb
        exact ⟨a', List.mem_cons_of_mem a ha', hrel'⟩

namespace Pattern

/-! ## All segments -/

@[simp]
theorem names_cons_literal (text : String) (slots : List Slot) :
    (Slot.literal text :: slots).filterMap Slot.name? = slots.filterMap Slot.name? := rfl

@[simp]
theorem names_cons_wildcard (name : String) (type : WildcardType) (slots : List Slot) :
    (Slot.wildcard name type :: slots).filterMap Slot.name? =
      name :: slots.filterMap Slot.name? := rfl

/-- Segments that denote slots one for one, with names that differ. -/
structure Declares (segments : List String) (slots : List Slot) : Prop where
  denotes : List.Forall₂ Slot.Denotes segments slots
  nodup : (slots.filterMap Slot.name?).Nodup

/-- The fault of the first segment from the left that is at fault: it denotes no slot, or a wildcard
whose name has been declared. -/
inductive FirstOffence (segments : List String) : Fault → Prop where
  | slot {before segment after slots fault} (hsegments : segments = before ++ segment :: after)
      (hbefore : Declares before slots) (h : Slot.Offends segment fault) :
      FirstOffence segments (.slot fault)
  | repeatedName {before segment after slots name type}
      (hsegments : segments = before ++ segment :: after) (hbefore : Declares before slots)
      (h : Slot.Denotes segment (.wildcard name type)) (hname : name ∈ slots.filterMap Slot.name?) :
      FirstOffence segments (.repeatedName name)

theorem Declares.snoc_literal {segments : List String} {slots : List Slot} {segment text : String}
    (h : Declares segments slots) (hsegment : Slot.Denotes segment (.literal text)) :
    Declares (segments ++ [segment]) (slots ++ [.literal text]) where
  denotes := List.rel_append h.denotes (.cons hsegment .nil)
  nodup := by simpa using h.nodup

theorem Declares.snoc_wildcard {segments : List String} {slots : List Slot} {segment name : String}
    {type : WildcardType} (h : Declares segments slots)
    (hsegment : Slot.Denotes segment (.wildcard name type))
    (hname : name ∉ slots.filterMap Slot.name?) :
    Declares (segments ++ [segment]) (slots ++ [.wildcard name type]) where
  denotes := List.rel_append h.denotes (.cons hsegment .nil)
  nodup := by
    rw [List.filterMap_append, names_cons_wildcard, List.filterMap_nil, List.nodup_append]
    refine ⟨h.nodup, by simp, ?_⟩
    intro a ha b hb hab
    obtain rfl := List.mem_singleton.1 hb
    exact hname (hab ▸ ha)

/-- Segments are the written forms of the slots they denote. -/
theorem map_render_of_denotes {segments : List String} {slots : List Slot}
    (h : List.Forall₂ Slot.Denotes segments slots) : slots.map Slot.render = segments := by
  induction h with
  | nil => rfl
  | cons hsegment _ ih => rw [List.map_cons, hsegment.render_eq, ih]

/-- What follows the first offence does not change it. -/
theorem FirstOffence.append {segments : List String} {fault : Fault}
    (h : FirstOffence segments fault) (more : List String) :
    FirstOffence (segments ++ more) fault := by
  cases h with
  | slot hsegments hbefore h =>
      subst hsegments
      exact .slot (by rw [List.append_assoc, List.cons_append]) hbefore h
  | repeatedName hsegments hbefore h hname =>
      subst hsegments
      exact .repeatedName (by rw [List.append_assoc, List.cons_append]) hbefore h hname

/-- Segments declare slots, or one of them is the first at fault. -/
theorem declares_or_firstOffence (segments : List String) :
    (∃ slots, Declares segments slots) ∨ ∃ fault, FirstOffence segments fault := by
  -- From the right: the last segment counts only if all before it declare slots.
  induction segments using List.reverseRecOn with
  | nil => exact .inl ⟨[], .nil, List.nodup_nil⟩
  | append_singleton segments segment ih =>
      rcases ih with ⟨slots, hslots⟩ | ⟨fault, hfault⟩
      · rcases Slot.denotes_or_offends segment with ⟨slot, hslot⟩ | ⟨fault, hfault⟩
        · cases slot with
          | literal text => exact .inl ⟨_, hslots.snoc_literal hslot⟩
          | wildcard name type =>
              by_cases hname : name ∈ slots.filterMap Slot.name?
              · exact .inr ⟨_, .repeatedName rfl hslots hslot hname⟩
              · exact .inl ⟨_, hslots.snoc_wildcard hslot hname⟩
        · exact .inr ⟨_, .slot rfl hslots hfault⟩
      · exact .inr ⟨fault, hfault.append [segment]⟩

/-- The names that slots have are those that the segments declare. -/
theorem mem_names_iff {segments : List String} {slots : List Slot}
    (h : List.Forall₂ Slot.Denotes segments slots) (name : String) :
    name ∈ slots.filterMap Slot.name? ↔
      ∃ segment ∈ segments, ∃ type, Slot.Denotes segment (.wildcard name type) := by
  induction h with
  | nil => simp
  | @cons segment slot segments slots hsegment _ ih =>
      simp only [List.mem_cons, exists_eq_or_imp, ← ih]
      cases slot with
      | literal text =>
          rw [names_cons_literal]
          refine ⟨.inr, fun hmem => hmem.resolve_left ?_⟩
          rintro ⟨type, hother⟩
          cases hsegment.unique hother
      | wildcard first type =>
          rw [names_cons_wildcard, List.mem_cons]
          refine or_congr_left ⟨?_, ?_⟩
          · rintro rfl
            exact ⟨type, hsegment⟩
          · rintro ⟨type', hother⟩
            cases hsegment.unique hother
            rfl

/-- No name is declared by two of the segments. -/
def NamesDiffer (segments : List String) : Prop :=
  segments.Pairwise fun segment later => ∀ name type type',
    Slot.Denotes segment (.wildcard name type) → ¬ Slot.Denotes later (.wildcard name type')

theorem Declares.namesDiffer {segments : List String} {slots : List Slot}
    (h : Declares segments slots) : NamesDiffer segments := by
  obtain ⟨hdenotes, hnodup⟩ := h
  induction hdenotes with
  | nil => exact .nil
  | @cons segment slot segments slots hsegment hrest ih =>
      have htail : (slots.filterMap Slot.name?).Nodup :=
        hnodup.sublist ((List.sublist_cons_self slot slots).filterMap Slot.name?)
      refine List.pairwise_cons.2 ⟨?_, ih htail⟩
      intro later hlater name type type' hfirst hsecond
      obtain rfl := hsegment.unique hfirst
      have hmem := (mem_names_iff hrest name).2 ⟨later, hlater, type', hsecond⟩
      rw [names_cons_wildcard] at hnodup
      exact (List.nodup_cons.1 hnodup).1 hmem

/-- Segments declare slots exactly when each denotes one, and their names differ. -/
theorem exists_declares_iff (segments : List String) :
    (∃ slots, Declares segments slots) ↔
      (∀ segment ∈ segments, ∃ slot, Slot.Denotes segment slot) ∧ NamesDiffer segments := by
  constructor
  · rintro ⟨slots, h⟩
    refine ⟨fun segment hsegment => ?_, h.namesDiffer⟩
    obtain ⟨slot, _, hslot⟩ := exists_rel_of_mem h.denotes.flip hsegment
    exact ⟨slot, hslot⟩
  · rintro ⟨hall, hdiffer⟩
    rcases declares_or_firstOffence segments with hdeclares | ⟨fault, hoffence⟩
    · exact hdeclares
    · exfalso
      cases hoffence with
      | @slot before segment after _ _ hsegments _ hoffends =>
          obtain ⟨slot, hslot⟩ := hall segment (by rw [hsegments]; simp)
          exact hslot.not_offends hoffends
      | repeatedName hsegments hbefore hsegment hname =>
          obtain ⟨earlier, hearlier, type, hdeclared⟩ :=
            (mem_names_iff hbefore.denotes _).1 hname
          rw [hsegments] at hdiffer
          obtain ⟨_, _, hcross⟩ := List.pairwise_append.1 hdiffer
          exact hcross earlier hearlier _ (by simp) _ _ _ hdeclared hsegment

/-! ### The reader of all segments -/

/-- Segments in front that denote slots, with names that are new, are read one for one, and their
names are declared for the segments behind them. -/
theorem slotsOf_append {declared before : List String} {slots : List Slot}
    (hdenotes : List.Forall₂ Slot.Denotes before slots)
    (hnodup : (slots.filterMap Slot.name?).Nodup)
    (hnew : ∀ name ∈ slots.filterMap Slot.name?, name ∉ declared) (rest : List String) :
    slotsOf declared (before ++ rest) =
      (slotsOf ((slots.filterMap Slot.name?).reverse ++ declared) rest).map (slots ++ ·) := by
  induction hdenotes generalizing declared with
  | nil =>
      simp only [List.nil_append, List.filterMap_nil, List.reverse_nil]
      cases slotsOf declared rest <;> rfl
  | @cons segment slot before slots hsegment _ ih =>
      rw [List.cons_append, slotsOf, ((Slot.parse_eq_iff segment).1 slot).2 hsegment]
      cases slot with
      | literal text =>
          rw [names_cons_literal] at hnodup hnew ⊢
          dsimp only
          rw [ih hnodup hnew]
          cases slotsOf ((slots.filterMap Slot.name?).reverse ++ declared) rest <;> rfl
      | wildcard name type =>
          rw [names_cons_wildcard] at hnodup hnew ⊢
          obtain ⟨hfirst, hnodup⟩ := List.nodup_cons.1 hnodup
          have hname : ¬ declared.contains name := by simpa using hnew name (by simp)
          have hlater : ∀ other ∈ slots.filterMap Slot.name?, other ∉ name :: declared := by
            intro other hother hmem
            rcases List.mem_cons.1 hmem with rfl | hmem
            · exact hfirst hother
            · exact hnew other (by simp [hother]) hmem
          dsimp only
          rw [if_neg hname, ih hnodup hlater, List.reverse_cons, List.append_assoc,
            List.singleton_append]
          cases slotsOf ((slots.filterMap Slot.name?).reverse ++ name :: declared) rest <;> rfl

theorem Declares.slotsOf_append {before : List String} {slots : List Slot}
    (h : Declares before slots) (rest : List String) :
    slotsOf [] (before ++ rest) =
      (slotsOf (slots.filterMap Slot.name?).reverse rest).map (slots ++ ·) := by
  rw [Pattern.slotsOf_append h.denotes h.nodup (by simp), List.append_nil]

theorem Declares.slotsOf_eq {segments : List String} {slots : List Slot}
    (h : Declares segments slots) : slotsOf [] segments = .ok slots := by
  have hwhole := h.slotsOf_append []
  rw [List.append_nil] at hwhole
  rw [hwhole, slotsOf, Except.map, List.append_nil]

theorem FirstOffence.slotsOf_eq {segments : List String} {fault : Fault}
    (h : FirstOffence segments fault) : slotsOf [] segments = .error fault := by
  cases h with
  | slot hsegments hbefore h =>
      rw [hsegments, hbefore.slotsOf_append, slotsOf, ((Slot.parse_eq_iff _).2 _).2 h]
      rfl
  | repeatedName hsegments hbefore h hname =>
      rw [hsegments, hbefore.slotsOf_append, slotsOf, ((Slot.parse_eq_iff _).1 _).2 h]
      dsimp only
      rw [if_pos (by simpa using hname)]
      rfl

/-- Segments are read as the slots they declare, or refused for the first at fault. -/
theorem slotsOf_eq_iff (segments : List String) :
    (∀ slots, slotsOf [] segments = .ok slots ↔ Declares segments slots) ∧
      ∀ fault, slotsOf [] segments = .error fault ↔ FirstOffence segments fault :=
  eq_iff_of_or Declares.slotsOf_eq FirstOffence.slotsOf_eq (declares_or_firstOffence segments)

end Pattern

end DeepLink
