import DeepLink.Proofs.Address.Layout
import DeepLink.Proofs.Pattern.Compilation
import DeepLink.Proofs.Pattern.Matching
import DeepLink.Proofs.Url.Shape

/-! # Writing an address from a pattern

Values for the wildcards turn a pattern into a text. Integers may have zeros in front, a slug may
follow, and every segment may be spelled with escapes. Such a text is read as an address that the
pattern fits, with the values it was written from. -/

namespace DeepLink

open DeepLink.Text

/-! ## What is written -/

/-- The characters that a segment cannot hold unescaped. -/
def Segment.reserved : List Char := ['/', '?', '#', '%']

/-- The ways of writing a segment in a path. -/
def Segment.Spells (text : String) (piece : List Char) : Prop :=
  Spelling reserved text.toList piece

/-- The texts that write a slot, given a value for every name. -/
inductive Slot.Writes (value : String → WildcardValue) : Slot → String → Prop where
  | literal (text) : Writes value (.literal text) text
  | integer {name n} (h : value name = .integer n) (hn : n < Segment.integerBound) (zeros) :
      Writes value (.wildcard name .integer)
        (String.ofList (List.replicate zeros '0' ++ Nat.toDigits 10 n))
  | word {name text} (h : value name = .text text) (htext : Segment.IsWordText text) :
      Writes value (.wildcard name .word) text

/-- A pattern is written with its scheme and host as they are, and behind them every segment,
spelled, and the slug if there is one, each behind a slash. -/
inductive Pattern.Writes (pattern : Pattern) (value : String → WildcardValue)
    (slug : Option String) : List Char → Prop where
  | joined {texts spelled} (htexts : List.Forall₂ (Slot.Writes value) pattern.slots texts)
      (hslug : ∀ text ∈ slug, Segment.IsHyphenated text)
      (hspelled : List.Forall₂ Segment.Spells (texts ++ slug.toList) spelled) :
      Writes pattern value slug (pattern.scheme.toList ++ Address.authorityMark ++
        (pattern.host.toList ++ spelled.flatMap ('/' :: ·)))

/-! ## One slot -/

theorem Slot.Writes.admits {value : String → WildcardValue} {slot : Slot} {text : String}
    (h : slot.Writes value text) : slot.Admits text := by
  cases h with
  | literal => exact .literal text
  | @integer name n _ hn zeros => exact .integer (Segment.denotes_toDigits zeros n) hn
  | word _ htext => exact .word htext

/-- What is written for a wildcard is read as its value. -/
theorem Slot.Writes.reads {value : String → WildcardValue} {name : String} {type : WildcardType}
    {text : String} (h : (Slot.wildcard name type).Writes value text) :
    type.Reads text (value name) := by
  cases h with
  | @integer _ n hvalue hn zeros =>
      rw [hvalue]
      exact .integer (Segment.denotes_toDigits zeros n) hn
  | word hvalue =>
      rw [hvalue]
      exact .word text

theorem Slot.Writes.ne_nil {value : String → WildcardValue} {slot : Slot} {text : String}
    (h : slot.Writes value text) (hliteral : ∀ t, slot = .literal t → t.toList ≠ []) :
    text.toList ≠ [] := by
  cases h with
  | literal => exact hliteral text rfl
  | integer => simp
  | word _ htext => exact htext.ne_nil

/-! ## All slots -/

theorem Pattern.readings_of_writes {value : String → WildcardValue} {slots : List Slot}
    {texts : List String} (h : List.Forall₂ (Slot.Writes value) slots texts) :
    Pattern.Readings slots texts
      ((slots.filterMap Slot.name?).map fun name => (name, value name)) := by
  induction h with
  | nil => exact .nil
  | @cons slot text slots texts hwrites _ ih =>
      cases slot with
      | literal => exact .literal ih
      | wildcard => exact .wildcard hwrites.reads ih

/-- No segment of a text written from a compiled pattern is empty, and the slug is not. -/
theorem Pattern.ne_nil_of_writes {value : String → WildcardValue} {template : String}
    {pattern : Pattern} {texts : List String} {slug : Option String}
    (hcompile : compile template = .ok pattern)
    (h : List.Forall₂ (Slot.Writes value) pattern.slots texts)
    (hslug : ∀ text ∈ slug, Segment.IsHyphenated text) :
    ∀ text ∈ texts ++ slug.toList, text.toList ≠ [] := by
  intro text hmem
  rcases List.mem_append.1 hmem with hmem | hmem
  · obtain ⟨slot, hslot, hwrites⟩ := exists_rel_of_mem h hmem
    apply hwrites.ne_nil
    rintro literal rfl
    exact literal_ne_nil_of_compile hcompile hslot
  · exact (hslug text (by simpa using hmem)).ne_nil

/-! ## Spelled segments -/

/-- A spelled segment holds no mark that an address is cut at. -/
theorem Segment.Spells.not_mem {text : String} {piece : List Char} (h : Segment.Spells text piece) :
    '/' ∉ piece ∧ '?' ∉ piece ∧ '#' ∉ piece :=
  ⟨Spelling.not_mem h (by decide) (by decide) rfl, Spelling.not_mem h (by decide) (by decide) rfl,
    Spelling.not_mem h (by decide) (by decide) rfl⟩

theorem Segment.Spells.isPiece {text : String} {piece : List Char} (h : Segment.Spells text piece)
    (hne : text.toList ≠ []) : Address.IsPiece piece :=
  let ⟨hslash, hquery, hfragment⟩ := h.not_mem
  ⟨Spelling.ne_nil h hne, hslash, hquery, hfragment⟩

theorem Segment.Spells.decode {text : String} {piece : List Char} (h : Segment.Spells text piece) :
    String.ofList (Percent.decodeChars piece) = text := by
  rw [decodeChars_spelling (by decide) h, String.ofList_toList]

/-- Spelled segments may be put together to a path, and are read as the segments. -/
theorem Address.pieces_of_spelled {texts : List String} {spelled : List (List Char)}
    (h : List.Forall₂ Segment.Spells texts spelled) (hne : ∀ text ∈ texts, text.toList ≠ []) :
    (∀ piece ∈ spelled, IsPiece piece) ∧
      spelled.map (fun piece => String.ofList (Percent.decodeChars piece)) = texts := by
  induction h with
  | nil => simp
  | @cons text piece texts spelled hspells _ ih =>
      obtain ⟨hpieces, hdecode⟩ := ih fun t ht => hne t (by simp [ht])
      refine ⟨?_, by rw [List.map_cons, hspells.decode, hdecode]⟩
      intro other hother
      rcases List.mem_cons.1 hother with rfl | hother
      · exact hspells.isPiece (hne text (by simp))
      · exact hpieces other hother

/-! ## The address -/

namespace Pattern

/-- A text written from a pattern is read as an address that the pattern fits, and the values that
the address gives are those it was written from. -/
theorem Writes.parse_eq {template : String} {pattern : Pattern} {value : String → WildcardValue}
    {slug : Option String} {clean : List Char} {shape : Url.Shape}
    (h : pattern.Writes value slug clean) (hcompile : compile template = .ok pattern)
    (hcheck : Url.check clean = .ok shape) :
    ∃ address taken, Address.parse (String.ofList clean) = .ok address ∧
      pattern.align address = some taken ∧
      pattern.extract taken = some ⟨pattern.names.map fun name => (name, value name)⟩ := by
  obtain ⟨hshape, _, _, hlayout, _⟩ := exists_layout_of_compile hcompile
  cases h with
  | @joined texts spelled htexts hslug hspelled =>
      have htemplate := eq_append_of_cutAtWord hlayout.authority
      rw [htemplate] at hshape
      have hhierarchical : shape = .hierarchical := Url.shape_eq_of_check hcheck hshape
      obtain ⟨hpieces, hread⟩ :=
        Address.pieces_of_spelled hspelled (ne_nil_of_writes hcompile htexts hslug)
      have haddress := hlayout.cut_of_pieces hpieces
      rw [hread, String.ofList_toList, String.ofList_toList] at haddress
      have hfits : pattern.Fits ⟨pattern.scheme, pattern.host, texts ++ slug.toList, false, false⟩
          texts := by
        refine ⟨rfl, rfl, ?_, htexts.imp fun _ _ hwrites => hwrites.admits⟩
        cases slug with
        | none => exact .inl (List.append_nil texts)
        | some text => exact .inr ⟨text, hslug text rfl, rfl⟩
      refine ⟨_, texts, (Address.parse_eq_ok_iff _ _).2 ⟨?_, ?_⟩, (align_eq_some_iff _ _ _).2 hfits,
        extract_of_readings (readings_of_writes htexts) (nodup_names_of_compile hcompile)⟩
      · rw [String.toList_ofList, hcheck, hhierarchical]
      · rw [String.toList_ofList]
        exact haddress

/-- The part in front of a query holds no mark of a query itself. -/
theorem Writes.not_mem {template : String} {pattern : Pattern} {value : String → WildcardValue}
    {slug : Option String} {clean : List Char} (h : pattern.Writes value slug clean)
    (hcompile : compile template = .ok pattern) (hscheme : '?' ∉ pattern.scheme.toList) :
    '?' ∉ clean := by
  obtain ⟨_, _, _, hlayout, _⟩ := exists_layout_of_compile hcompile
  cases h with
  | joined htexts hslug hspelled =>
      have hhost := hlayout.host_chars.2.1
      obtain ⟨hpieces, _⟩ :=
        Address.pieces_of_spelled hspelled (ne_nil_of_writes hcompile htexts hslug)
      have hpath := (Address.path_of_pieces hpieces).1.1
      simp only [List.mem_append, not_or]
      exact ⟨⟨hscheme, by decide⟩, hhost, hpath⟩

end Pattern

end DeepLink
