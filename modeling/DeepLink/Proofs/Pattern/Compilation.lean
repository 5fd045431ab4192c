import DeepLink.Proofs.Address.Layout
import DeepLink.Proofs.Pattern.Grammar
import DeepLink.Registry

/-! # What compilation guarantees

A compiled pattern has the scheme and the host of its template and one slot for each segment. No
wildcard name comes twice, and no literal is empty. A template with a segment at fault is refused
for the first such segment. -/

namespace DeepLink.Pattern

open DeepLink.Text

/-! ## The compiled pattern -/

/-- A pattern has the scheme and the host of an address as they are, and the slots that its segments
declare. The address has neither a query nor a fragment. -/
structure CompiledFrom (pattern : Pattern) (address : Address) : Prop where
  no_query : address.hasQuery = false
  no_fragment : address.hasFragment = false
  scheme : pattern.scheme = address.scheme
  host : pattern.host = address.host
  declares : Declares address.segments pattern.slots

theorem compile_of_parse {template : String} {address : Address}
    (h : Address.parse template = .ok address) (hquery : address.hasQuery = false)
    (hfragment : address.hasFragment = false) :
    compile template = (slotsOf [] address.segments).map fun slots =>
      ⟨address.scheme, address.host, slots⟩ := by
  simp only [compile, h, hquery, hfragment, Bool.or_self, Bool.false_eq_true, if_false]

theorem compile_eq_ok_iff (template : String) (pattern : Pattern) :
    compile template = .ok pattern ↔
      ∃ address, Address.parse template = .ok address ∧ pattern.CompiledFrom address := by
  constructor
  · intro h
    unfold compile at h
    split at h
    · cases h
    · rename_i address haddress
      split at h
      · cases h
      · rename_i htail
        obtain ⟨hquery, hfragment⟩ : address.hasQuery = false ∧ address.hasFragment = false := by
          simpa using htail
        obtain ⟨slots, hslots, rfl⟩ := map_eq_ok h
        have hdeclares := ((slotsOf_eq_iff address.segments).1 slots).1 hslots
        exact ⟨address, haddress, hquery, hfragment, rfl, rfl, hdeclares⟩
  · rintro ⟨address, haddress, hquery, hfragment, hscheme, hhost, hdeclares⟩
    obtain ⟨scheme, host, slots⟩ := pattern
    subst hscheme hhost
    rw [compile_of_parse haddress hquery hfragment, hdeclares.slotsOf_eq]
    rfl

/-- A compiled template is laid out as the pattern says. -/
theorem exists_layout_of_compile {template : String} {pattern : Pattern}
    (h : compile template = .ok pattern) :
    Url.check template.toList = .ok .hierarchical ∧
      ∃ path tail,
        Address.Layout template.toList pattern.scheme.toList pattern.host.toList path tail ∧
          Declares (Address.segmentsOf path) pattern.slots := by
  obtain ⟨address, haddress, hpattern⟩ := (compile_eq_ok_iff template pattern).1 h
  obtain ⟨hcheck, hcut⟩ := (Address.parse_eq_ok_iff template address).1 haddress
  obtain ⟨path, tail, hlayout, hsegments⟩ := Address.exists_layout_of_cut hcut
  rw [← hpattern.scheme, ← hpattern.host] at hlayout
  exact ⟨hcheck, path, tail, hlayout, hsegments ▸ hpattern.declares⟩

theorem nodup_names_of_compile {template : String} {pattern : Pattern}
    (h : compile template = .ok pattern) : pattern.names.Nodup := by
  obtain ⟨address, _, hpattern⟩ := (compile_eq_ok_iff template pattern).1 h
  exact hpattern.declares.nodup

/-- No slot of a compiled pattern is written as the empty text. -/
theorem render_ne_nil_of_compile {template : String} {pattern : Pattern} {slot : Slot}
    (h : compile template = .ok pattern) (hmem : slot ∈ pattern.slots) :
    slot.render.toList ≠ [] := by
  obtain ⟨_, path, _, _, hdeclares⟩ := exists_layout_of_compile h
  have hsegment : slot.render ∈ Address.segmentsOf path :=
    map_render_of_denotes hdeclares.denotes ▸ List.mem_map_of_mem hmem
  exact Address.ne_nil_of_mem_segmentsOf hsegment

theorem literal_ne_nil_of_compile {template text : String} {pattern : Pattern}
    (h : compile template = .ok pattern) (hmem : .literal text ∈ pattern.slots) :
    text.toList ≠ [] :=
  render_ne_nil_of_compile h hmem

/-! ## Compilation against the grammar -/

/-- A template that is an address without a query and a fragment is compiled exactly when each of
its segments is free of braces or a marker around a name, and no name comes twice. The pattern has
its scheme and host, and the slots that the segments denote one for one. Any other such template is
refused for the first segment from the left that is at fault, and no registry takes it. -/
theorem compile_agrees {β : Type} {template : String} {address : Address}
    (haddress : Address.parse template = .ok address) (hquery : address.hasQuery = false)
    (hfragment : address.hasFragment = false) :
    ((∃ pattern, compile template = .ok pattern) ↔
      (∀ segment ∈ address.segments, ¬ Slot.HoldsBrace segment.toList ∨
        ∃ type name, Slot.IsName name ∧ segment.toList = Slot.marker type name) ∧
      NamesDiffer address.segments) ∧
    (∀ pattern, compile template = .ok pattern ↔
      pattern.scheme = address.scheme ∧ pattern.host = address.host ∧
        List.Forall₂ Slot.Denotes address.segments pattern.slots ∧ pattern.names.Nodup) ∧
    (∀ fault, compile template = .error fault ↔ FirstOffence address.segments fault) ∧
    ∀ fault, compile template = .error fault →
      ∀ (r : Registry β) (kind : Kind) (binding : β), r.kindOf? template = none →
        (r.register kind template binding).result = .error (.malformedPattern template fault) := by
  have hok : ∀ pattern, compile template = .ok pattern ↔
      pattern.scheme = address.scheme ∧ pattern.host = address.host ∧
        Declares address.segments pattern.slots := by
    intro pattern
    rw [compile_eq_ok_iff]
    constructor
    · rintro ⟨other, hother, hpattern⟩
      obtain rfl := Except.ok.inj (haddress.symm.trans hother)
      exact ⟨hpattern.scheme, hpattern.host, hpattern.declares⟩
    · rintro ⟨hscheme, hhost, hdeclares⟩
      exact ⟨address, haddress, hquery, hfragment, hscheme, hhost, hdeclares⟩
  refine ⟨?_, ?_, ?_, ?_⟩
  · simp only [← Slot.exists_denotes_iff]
    rw [← exists_declares_iff]
    constructor
    · rintro ⟨pattern, hpattern⟩
      exact ⟨pattern.slots, ((hok pattern).1 hpattern).2.2⟩
    · rintro ⟨slots, hslots⟩
      exact ⟨⟨address.scheme, address.host, slots⟩, (hok _).2 ⟨rfl, rfl, hslots⟩⟩
  · intro pattern
    rw [hok]
    constructor
    · rintro ⟨hscheme, hhost, hdeclares⟩
      exact ⟨hscheme, hhost, hdeclares.denotes, hdeclares.nodup⟩
    · rintro ⟨hscheme, hhost, hdenotes, hnodup⟩
      exact ⟨hscheme, hhost, hdenotes, hnodup⟩
  · intro fault
    rw [compile_of_parse haddress hquery hfragment, map_eq_error_iff]
    exact (slotsOf_eq_iff address.segments).2 fault
  · intro fault hfault r kind binding hkind
    simp only [Registry.register, hkind, hfault]

/-- A template that repeats a name, with a lone brace behind. -/
def repeatingTemplate : String := "app://h/i:\x7bn\x7d/x/s:\x7bn\x7d/\x7b"

/-- The template, read as an address. -/
def repeatingAddress : Address :=
  ⟨"app", "h", ["i:\x7bn\x7d", "x", "s:\x7bn\x7d", "\x7b"], false, false⟩

/-- The repeated name is at fault before the lone brace. A marker may be written with escapes. -/
theorem compile_agrees_repeated :
    Address.parse repeatingTemplate = .ok repeatingAddress ∧
      FirstOffence repeatingAddress.segments (.repeatedName "n") ∧
      ((Registry.empty : Registry Nat).register .direct repeatingTemplate 7).result =
        .error (.malformedPattern repeatingTemplate (.repeatedName "n")) ∧
      Address.parse "app://h/%73:%7bm\x7d" =
        .ok ⟨"app", "h", ["s:\x7bm\x7d"], false, false⟩ ∧
      List.Forall₂ Slot.Denotes ["s:\x7bm\x7d"] [.wildcard "m" .word] := by
  have haddress : Address.parse repeatingTemplate = .ok repeatingAddress := rfl
  have hfault : compile repeatingTemplate = .error (.repeatedName "n") := rfl
  have hescaped : Address.parse "app://h/%73:%7bm\x7d" =
      .ok ⟨"app", "h", ["s:\x7bm\x7d"], false, false⟩ := rfl
  obtain ⟨_, _, herror, hregister⟩ := compile_agrees (β := Nat) haddress rfl rfl
  obtain ⟨_, hok, _⟩ := compile_agrees (β := Nat) hescaped rfl rfl
  obtain ⟨_, _, hdenotes, _⟩ := (hok ⟨"app", "h", [.wildcard "m" .word]⟩).1 rfl
  exact ⟨haddress, (herror _).1 hfault, hregister _ hfault .empty .direct 7 rfl, hescaped,
    hdenotes⟩

end DeepLink.Pattern
