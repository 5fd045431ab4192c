import DeepLink.Proofs.Pattern.Writing

/-! # Printed patterns

A pattern is printed with its scheme and host as they are, and every slot behind a slash. Empty
segments of the template are gone, and escapes are resolved. As long as no literal reads differently
in a path, the printed text is a template of the same pattern: it is the normal form of all
templates of the pattern. -/

namespace DeepLink

open DeepLink.Text

/-! ## Texts that stand for themselves -/

/-- A text that is a segment just as it is: it holds no mark that an address is cut at, and
resolving escapes does not change it. -/
structure Segment.Verbatim (text : String) : Prop where
  marks : '/' ∉ text.toList ∧ '?' ∉ text.toList ∧ '#' ∉ text.toList
  decode : Percent.decode text = text

theorem Segment.Verbatim.isPiece {text : String} (h : Verbatim text) (hne : text.toList ≠ []) :
    Address.IsPiece text.toList :=
  ⟨hne, h.marks.1, h.marks.2.1, h.marks.2.2⟩

/-- A text that may be written without escapes stands for itself. -/
theorem Segment.Spells.verbatim {text : String} (h : Segment.Spells text text.toList) :
    Verbatim text :=
  ⟨h.not_mem, h.decode⟩

/-- A wildcard marker stands for itself, whatever its name. -/
theorem Slot.verbatim_of_marker {segment : String} {type : WildcardType} {name : List Char}
    (h : segment.toList = marker type name) (hname : IsName name) :
    Segment.Verbatim segment := by
  have hreserved : ∀ c ∈ name, c ∉ Segment.reserved := by
    intro c hc
    have hchar := hname.2 c hc
    simp only [Segment.reserved, List.mem_cons, List.not_mem_nil, or_false, not_or]
    refine ⟨?_, ?_, ?_, ?_⟩ <;> rintro rfl <;> exact absurd hchar (by decide)
  have hplain : segment.toList.all (!Segment.reserved.contains ·) := by
    rw [h]
    cases type <;> simpa [marker, WildcardType.tag, Segment.reserved] using hreserved
  exact Segment.Spells.verbatim (Spelling.self hplain)

/-- A segment stands for itself when it does as a literal. -/
theorem Slot.Denotes.verbatim {segment : String} {slot : Slot} (h : Slot.Denotes segment slot)
    (hliteral : ∀ text, slot = .literal text → Segment.Verbatim text) :
    Segment.Verbatim segment := by
  cases h with
  | literal => exact hliteral segment rfl
  | wildcard hsegment hname => exact verbatim_of_marker hsegment hname

namespace Pattern

/-! ## The printed text -/

/-- A pattern whose literals all stand for themselves. -/
def Verbatim (pattern : Pattern) : Prop :=
  ∀ text, .literal text ∈ pattern.slots → Segment.Verbatim text

theorem toList_foldl_render (slots : List Slot) (front : String) :
    (slots.foldl (fun text slot => text ++ "/" ++ slot.render) front).toList =
      front.toList ++ (slots.map (·.render.toList)).flatMap ('/' :: ·) := by
  induction slots generalizing front with
  | nil => simp
  | cons slot slots ih =>
      rw [List.foldl_cons, ih, List.map_cons, List.flatMap_cons]
      simp

theorem toList_render (pattern : Pattern) :
    pattern.render.toList = pattern.scheme.toList ++ Address.authorityMark ++
      (pattern.host.toList ++ (pattern.slots.map (·.render.toList)).flatMap ('/' :: ·)) := by
  rw [render, toList_foldl_render, Address.authorityMark]
  simp

/-- The slots of a compiled pattern are those of their written forms. -/
theorem declares_render_of_compile {template : String} {pattern : Pattern}
    (h : compile template = .ok pattern) :
    Declares (pattern.slots.map Slot.render) pattern.slots := by
  obtain ⟨_, _, _, _, hdeclares⟩ := exists_layout_of_compile h
  rwa [map_render_of_denotes hdeclares.denotes]

/-- The written slots of a compiled pattern stand for themselves when its literals do. -/
theorem verbatim_render_of_compile {template : String} {pattern : Pattern}
    (h : compile template = .ok pattern) (hverbatim : pattern.Verbatim) {slot : Slot}
    (hslot : slot ∈ pattern.slots) : Segment.Verbatim slot.render := by
  obtain ⟨segment, _, hdenotes⟩ :=
    exists_rel_of_mem (declares_render_of_compile h).denotes hslot
  rw [hdenotes.render_eq]
  exact hdenotes.verbatim fun text htext => hverbatim text (htext ▸ hslot)

/-- The printed text is cut into the scheme, the host and the written slots. -/
theorem cut_render {template : String} {pattern : Pattern} (h : compile template = .ok pattern)
    (hverbatim : pattern.Verbatim) :
    Address.cut pattern.render.toList =
      .ok ⟨pattern.scheme, pattern.host, pattern.slots.map Slot.render, false, false⟩ := by
  obtain ⟨_, _, _, hlayout, _⟩ := exists_layout_of_compile h
  have hpieces : ∀ piece ∈ pattern.slots.map (·.render.toList), Address.IsPiece piece := by
    intro piece hpiece
    obtain ⟨slot, hslot, rfl⟩ := List.mem_map.1 hpiece
    exact (verbatim_render_of_compile h hverbatim hslot).isPiece (render_ne_nil_of_compile h hslot)
  have hread : (pattern.slots.map (·.render.toList)).map
      (fun piece => String.ofList (Percent.decodeChars piece)) = pattern.slots.map Slot.render := by
    rw [List.map_map]
    exact List.map_congr_left fun slot hslot =>
      (verbatim_render_of_compile h hverbatim hslot).decode
  rw [toList_render, hlayout.cut_of_pieces hpieces, hread, String.ofList_toList,
    String.ofList_toList]

/-! ## Compiling the printed text -/

/-- A printed pattern that is a URL has a hierarchical path, as its template has. -/
theorem check_render {template : String} {pattern : Pattern} {shape : Url.Shape}
    (h : compile template = .ok pattern) (hcheck : Url.check pattern.render.toList = .ok shape) :
    Url.check pattern.render.toList = .ok .hierarchical := by
  obtain ⟨htemplate, _, _, hlayout, _⟩ := exists_layout_of_compile h
  rw [eq_append_of_cutAtWord hlayout.authority] at htemplate
  rw [toList_render] at hcheck ⊢
  rw [hcheck, Url.shape_eq_of_check hcheck htemplate]

theorem compile_render {template : String} {pattern : Pattern} {shape : Url.Shape}
    (h : compile template = .ok pattern) (hverbatim : pattern.Verbatim)
    (hcheck : Url.check pattern.render.toList = .ok shape) :
    compile pattern.render = .ok pattern := by
  rw [compile_eq_ok_iff]
  exact ⟨_, (Address.parse_eq_ok_iff _ _).2 ⟨check_render h hcheck, cut_render h hverbatim⟩,
    rfl, rfl, rfl, rfl, declares_render_of_compile h⟩

/-- Patterns that are printed alike are the same. -/
theorem eq_of_render_eq {template template' : String} {pattern other : Pattern}
    (h : compile template = .ok pattern) (hverbatim : pattern.Verbatim)
    (h' : compile template' = .ok other) (hverbatim' : other.Verbatim)
    (hrender : pattern.render = other.render) : pattern = other := by
  have hcut := cut_render h hverbatim
  rw [hrender, cut_render h' hverbatim'] at hcut
  injection hcut with haddress
  injection haddress with hscheme hhost hsegments _ _
  have hslots := (declares_render_of_compile h).slotsOf_eq
  rw [← hsegments, (declares_render_of_compile h').slotsOf_eq] at hslots
  injection hslots with hslots
  obtain ⟨scheme, host, slots⟩ := pattern
  subst hscheme hhost hslots
  rfl

/-- A compiled pattern whose literals stand for themselves is printed in normal form: if the printed
text is a URL, it compiles to the same pattern, so that printing what it compiles to changes
nothing. Two such patterns are the same exactly when they are printed alike. -/
theorem compile_render_agrees {template : String} {pattern : Pattern}
    (h : compile template = .ok pattern) (hverbatim : pattern.Verbatim) :
    (∀ shape, Url.check pattern.render.toList = .ok shape →
      compile pattern.render = .ok pattern ∧
        (compile pattern.render).map render = .ok pattern.render) ∧
    ∀ template' other, compile template' = .ok other → other.Verbatim →
      (pattern = other ↔ pattern.render = other.render) := by
  refine ⟨fun shape hcheck => ?_, fun template' other h' hverbatim' => ⟨congrArg render, ?_⟩⟩
  · have hcompile := compile_render h hverbatim hcheck
    exact ⟨hcompile, by rw [hcompile]; rfl⟩
  · exact eq_of_render_eq h hverbatim h' hverbatim'

/-- A template with empty segments and with escapes, one of them of a percent sign. -/
def escapedTemplate : String := "app://h/%69tems//%69:\x7bid%7D/100%25/"

/-- The template in normal form. -/
def plainTemplate : String := "app://h/items/i:\x7bid\x7d/100%"

/-- What both templates compile to. -/
def plainPattern : Pattern :=
  ⟨"app", "h", [.literal "items", .wildcard "id" .integer, .literal "100%"]⟩

/-- A template with escapes is brought to its normal form. The pattern of another template is
printed differently. -/
theorem compile_render_agrees_escaped :
    compile escapedTemplate = .ok plainPattern ∧ plainPattern.Verbatim ∧
      Url.check plainPattern.render.toList = .ok .hierarchical ∧
      plainPattern.render = plainTemplate ∧ compile plainTemplate = .ok plainPattern ∧
      compile "app://h/items/" = .ok ⟨"app", "h", [.literal "items"]⟩ ∧
      plainPattern.render ≠ (⟨"app", "h", [.literal "items"]⟩ : Pattern).render := by
  have hcompile : compile escapedTemplate = .ok plainPattern := rfl
  have hother : compile "app://h/items/" = .ok ⟨"app", "h", [.literal "items"]⟩ := rfl
  have hitems : Segment.Verbatim "items" := ⟨by decide, rfl⟩
  have hpercent : Segment.Verbatim "100%" := ⟨by decide, rfl⟩
  have hverbatim : plainPattern.Verbatim := by
    intro text hmem
    simp only [plainPattern, List.mem_cons, Slot.literal.injEq, reduceCtorEq, List.not_mem_nil,
      or_false, false_or] at hmem
    rcases hmem with rfl | rfl
    · exact hitems
    · exact hpercent
  have hverbatim' : Pattern.Verbatim ⟨"app", "h", [.literal "items"]⟩ := by
    intro text hmem
    obtain rfl : text = "items" := by simpa using hmem
    exact hitems
  have hcheck : Url.check plainPattern.render.toList = .ok .hierarchical := rfl
  have hrender : plainPattern.render = plainTemplate := rfl
  obtain ⟨hnormal, hequal⟩ := compile_render_agrees hcompile hverbatim
  refine ⟨hcompile, hverbatim, hcheck, hrender, ?_, hother, ?_⟩
  · exact hrender ▸ (hnormal _ hcheck).1
  · intro hsame
    exact absurd ((hequal _ _ hother hverbatim').2 hsame) (by decide)

end Pattern

end DeepLink
