import DeepLink.Proofs.Text.Utf8
import DeepLink.Text.Percent

/-! # Spellings of a text

A text may be spelled with escapes: each character stands for itself or for its octets, each written
as `%` and two hexadecimal digits in either case. Reserved characters have to be escaped. Whatever
the choice, a spelling is read back as its text, and it holds no reserved mark. -/

namespace DeepLink.Text

/-! ## The spellings -/

/-- Octets written as escapes. -/
inductive Escape : List UInt8 → List Char → Prop where
  | nil : Escape [] []
  | cons {octet octets high low rest} (hhigh : hexDigit? high = some (octet.toNat / 16))
      (hlow : hexDigit? low = some (octet.toNat % 16)) :
      Escape octets rest → Escape (octet :: octets) ('%' :: high :: low :: rest)

/-- The ways of writing a text when some characters are reserved. -/
inductive Spelling (reserved : List Char) : List Char → List Char → Prop where
  | nil : Spelling reserved [] []
  | plain {c text spelled} (h : c ∉ reserved) :
      Spelling reserved text spelled → Spelling reserved (c :: text) (c :: spelled)
  | escaped {c text escape spelled} (h : Escape (Utf8.encodeChar c) escape) :
      Spelling reserved text spelled → Spelling reserved (c :: text) (escape ++ spelled)

/-- A text without reserved characters is one of its own spellings. -/
theorem Spelling.self {reserved text : List Char} (h : text.all (!reserved.contains ·)) :
    Spelling reserved text text := by
  induction text with
  | nil => exact .nil
  | cons c text ih =>
      rw [List.all_cons, Bool.and_eq_true] at h
      exact .plain (by simpa using h.1) (ih h.2)

/-! ## Reading a spelling -/

theorem unescape_escape {octets : List UInt8} {escape : List Char} (h : Escape octets escape)
    (rest : List Char) :
    Percent.unescape (escape ++ rest) = octets ++ Percent.unescape rest := by
  induction h with
  | nil => rfl
  | @cons octet octets high low escape hhigh hlow _ ih =>
      have hoctet : 16 * (octet.toNat / 16) + octet.toNat % 16 = octet.toNat := by omega
      simp only [List.cons_append, Percent.unescape, hhigh, hlow, hoctet, UInt8.ofNat_toNat, ih]

theorem unescape_plain {c : Char} (hc : c ≠ '%') (rest : List Char) :
    Percent.unescape (c :: rest) = Utf8.encodeChar c ++ Percent.unescape rest := by
  rw [Percent.unescape]
  intro high low tail h
  exact absurd h hc

/-- Resolving the escapes of a spelling gives the octets of its text. -/
theorem unescape_spelling {reserved text spelled : List Char} (hreserved : '%' ∈ reserved)
    (h : Spelling reserved text spelled) : Percent.unescape spelled = Utf8.encode text := by
  induction h with
  | nil => rfl
  | @plain c text spelled hc _ ih =>
      have hne : c ≠ '%' := by
        rintro rfl
        exact hc hreserved
      rw [unescape_plain hne, ih]
      rfl
  | @escaped c text escape spelled hescape _ ih =>
      rw [unescape_escape hescape, ih]
      rfl

/-- Every spelling of a text is read as that text. -/
theorem decodeChars_spelling {reserved text spelled : List Char} (hreserved : '%' ∈ reserved)
    (h : Spelling reserved text spelled) : Percent.decodeChars spelled = text := by
  rw [Percent.decodeChars, unescape_spelling hreserved h, Utf8.decodeLossy_encode]

/-! ## Characters of a spelling -/

theorem Escape.mem {octets : List UInt8} {escape : List Char} (h : Escape octets escape) {c : Char}
    (hc : c ∈ escape) : c = '%' ∨ (hexDigit? c).isSome := by
  induction h with
  | nil => simp at hc
  | cons hhigh hlow _ ih =>
      simp only [List.mem_cons] at hc
      rcases hc with rfl | rfl | rfl | hc
      · exact .inl rfl
      · exact .inr (by simp [hhigh])
      · exact .inr (by simp [hlow])
      · exact ih hc

/-- A reserved mark that escapes are not made of does not occur in a spelling. -/
theorem Spelling.not_mem {reserved text spelled : List Char} (h : Spelling reserved text spelled)
    {mark : Char} (hmark : mark ∈ reserved) (hpercent : mark ≠ '%')
    (hdigit : hexDigit? mark = none) : mark ∉ spelled := by
  induction h with
  | nil => simp
  | @plain c text spelled hc _ ih =>
      intro hmem
      rcases List.mem_cons.1 hmem with rfl | hmem
      · exact hc hmark
      · exact ih hmem
  | @escaped c text escape spelled hescape _ ih =>
      intro hmem
      rcases List.mem_append.1 hmem with hmem | hmem
      · rcases hescape.mem hmem with heq | hsome
        · exact hpercent heq
        · simp [hdigit] at hsome
      · exact ih hmem

theorem Escape.ne_nil {octets : List UInt8} {escape : List Char} (h : Escape octets escape)
    (hoctets : octets ≠ []) : escape ≠ [] := by
  cases h with
  | nil => exact absurd rfl hoctets
  | cons => simp

/-- A text that is not empty has no empty spelling. -/
theorem Spelling.ne_nil {reserved text spelled : List Char} (h : Spelling reserved text spelled)
    (htext : text ≠ []) : spelled ≠ [] := by
  cases h with
  | nil => exact absurd rfl htext
  | plain => simp
  | escaped hescape =>
      have hne := hescape.ne_nil (Utf8.encodeChar_ne_nil _)
      simp [hne]

/-! ## Reading arbitrary text -/

theorem unescape_ne_nil {text : List Char} (h : text ≠ []) : Percent.unescape text ≠ [] := by
  unfold Percent.unescape
  split
  · exact absurd rfl h
  · split
    · simp
    · simp [Utf8.encodeChar_ne_nil]
  · simp [Utf8.encodeChar_ne_nil]

/-- What is not empty is read as something that is not empty. -/
theorem decodeChars_ne_nil {text : List Char} (h : text ≠ []) : Percent.decodeChars text ≠ [] :=
  Utf8.decodeLossy_ne_nil (unescape_ne_nil h)

end DeepLink.Text
