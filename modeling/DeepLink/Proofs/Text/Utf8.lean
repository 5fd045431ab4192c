import DeepLink.Text.Utf8

/-! # Reading back the octets of a text

The lenient reader returns every text from its own octets. Each width of character has a lemma on
its first octet, which names the character that has begun; the octets after it are read by two
lemmas that hold for every width. -/

namespace DeepLink.Text.Utf8

/-! ## Single octets -/

/-- The last octet of a character completes it. -/
theorem scan_last_tail {p : Pending} {b : Nat} (hb : b < 256) (hlow : p.low ≤ b)
    (hhigh : b ≤ p.high) (howed : p.owed ≤ 1) (rest : List UInt8) :
    scan (some p) (UInt8.ofNat b :: rest) =
      some (Char.ofNat (p.value * 64 + (b - 0x80))) :: scan none rest := by
  simp only [scan, UInt8.toNat_ofNat_of_lt' hb]
  rw [if_pos ⟨hlow, hhigh⟩, if_pos howed]

/-- An octet in the middle of a character adds six bits to its value. -/
theorem scan_inner_tail {p : Pending} {b : Nat} (hb : b < 256) (hlow : p.low ≤ b)
    (hhigh : b ≤ p.high) (howed : ¬ p.owed ≤ 1) (rest : List UInt8) :
    scan (some p) (UInt8.ofNat b :: rest) =
      scan (some ⟨p.owed - 1, 0x80, 0xBF, p.value * 64 + (b - 0x80)⟩) rest := by
  simp only [scan, UInt8.toNat_ofNat_of_lt' hb]
  rw [if_pos ⟨hlow, hhigh⟩, if_neg howed]

theorem scan_begin {octet : UInt8} {p : Pending} (h : lead octet = .begin p)
    (rest : List UInt8) : scan none (octet :: rest) = scan (some p) rest := by
  simp only [scan, h]

/-! ## First octets -/

theorem lead_two {n : Nat} (hlow : 0x80 ≤ n) (hhigh : n < 0x800) :
    lead (UInt8.ofNat (0xC0 + n / 64)) = .begin ⟨1, 0x80, 0xBF, n / 64⟩ := by
  have hb : 0xC0 + n / 64 < 256 := by omega
  simp only [lead, UInt8.toNat_ofNat_of_lt' hb]
  rw [if_neg (by omega), if_neg (by omega), if_pos (by omega)]
  simp

/-- The first of three octets admits exactly the second octets of code points that are neither
overlong nor surrogates. -/
theorem lead_three {n : Nat} (hlow : 0x800 ≤ n) (hhigh : n < 0x10000)
    (hvalid : n < 0xD800 ∨ 0xDFFF < n) :
    ∃ p, lead (UInt8.ofNat (0xE0 + n / 4096)) = .begin p ∧ p.owed = 2 ∧ p.value = n / 4096 ∧
      p.low ≤ 0x80 + n / 64 % 64 ∧ 0x80 + n / 64 % 64 ≤ p.high := by
  have hb : 0xE0 + n / 4096 < 256 := by omega
  simp only [lead, UInt8.toNat_ofNat_of_lt' hb]
  rw [if_neg (by omega), if_neg (by omega), if_neg (by omega)]
  by_cases hfirst : 0xE0 + n / 4096 = 0xE0
  · rw [if_pos hfirst]
    exact ⟨_, rfl, rfl, by simp only; omega, by simp only; omega, by simp only; omega⟩
  · rw [if_neg hfirst]
    by_cases hsurrogate : 0xE0 + n / 4096 = 0xED
    · rw [if_pos hsurrogate]
      exact ⟨_, rfl, rfl, by simp only; omega, by simp only; omega, by simp only; omega⟩
    · rw [if_neg hsurrogate, if_pos (by omega)]
      exact ⟨_, rfl, rfl, by simp only; omega, by simp only; omega, by simp only; omega⟩

/-- The first of four octets admits exactly the second octets of code points that are neither
overlong nor beyond the last one. -/
theorem lead_four {n : Nat} (hlow : 0x10000 ≤ n) (hhigh : n < 0x110000) :
    ∃ p, lead (UInt8.ofNat (0xF0 + n / 262144)) = .begin p ∧ p.owed = 3 ∧
      p.value = n / 262144 ∧ p.low ≤ 0x80 + n / 4096 % 64 ∧ 0x80 + n / 4096 % 64 ≤ p.high := by
  have hb : 0xF0 + n / 262144 < 256 := by omega
  simp only [lead, UInt8.toNat_ofNat_of_lt' hb]
  rw [if_neg (by omega), if_neg (by omega), if_neg (by omega), if_neg (by omega),
    if_neg (by omega), if_neg (by omega)]
  by_cases hfirst : 0xF0 + n / 262144 = 0xF0
  · rw [if_pos hfirst]
    exact ⟨_, rfl, rfl, by simp only; omega, by simp only; omega, by simp only; omega⟩
  · rw [if_neg hfirst]
    by_cases hinner : 0xF0 + n / 262144 < 0xF4
    · rw [if_pos hinner]
      exact ⟨_, rfl, rfl, by simp only; omega, by simp only; omega, by simp only; omega⟩
    · rw [if_neg hinner, if_pos (by omega)]
      exact ⟨_, rfl, rfl, by simp only; omega, by simp only; omega, by simp only; omega⟩

/-! ## Whole characters -/

/-- The octets of a character are read as that character, whatever follows. -/
theorem scan_encodeChar (c : Char) (rest : List UInt8) :
    scan none (encodeChar c ++ rest) = some c :: scan none rest := by
  have hc : Char.ofNat c.toNat = c := Char.ofNat_toNat c
  have hvalid : c.toNat < 0xD800 ∨ 0xDFFF < c.toNat ∧ c.toNat < 0x110000 := c.valid
  unfold encodeChar
  generalize c.toNat = n at hc hvalid
  dsimp only
  split
  · -- One octet stands for an ASCII character.
    have hb : n < 256 := by omega
    simp only [List.cons_append, List.nil_append, scan, lead, UInt8.toNat_ofNat_of_lt' hb]
    rw [if_pos (by omega), hc]
  · split
    · rw [List.cons_append, scan_begin (lead_two (by omega) (by omega)), List.cons_append,
        scan_last_tail (by omega) (by simp only; omega) (by simp only; omega)
          (Nat.le_refl 1)]
      have hvalue : n / 64 * 64 + (0x80 + n % 64 - 0x80) = n := by omega
      rw [hvalue, hc, List.nil_append]
    · split
      · obtain ⟨p, hlead, howed, hvalue, hlow, hhigh⟩ :=
          lead_three (n := n) (by omega) (by omega) (by omega)
        rw [List.cons_append, scan_begin hlead, List.cons_append,
          scan_inner_tail (by omega) hlow hhigh (by omega), List.cons_append,
          scan_last_tail (by omega) (by simp only; omega) (by simp only; omega)
            (by simp only; omega)]
        have hn :
            (p.value * 64 + (0x80 + n / 64 % 64 - 0x80)) * 64 + (0x80 + n % 64 - 0x80) = n := by
          rw [hvalue]
          omega
        rw [hn, hc, List.nil_append]
      · obtain ⟨p, hlead, howed, hvalue, hlow, hhigh⟩ :=
          lead_four (n := n) (by omega) (by omega)
        rw [List.cons_append, scan_begin hlead, List.cons_append,
          scan_inner_tail (by omega) hlow hhigh (by omega), List.cons_append,
          scan_inner_tail (by omega) (by simp only; omega) (by simp only; omega)
            (by simp only; omega), List.cons_append,
          scan_last_tail (by omega) (by simp only; omega) (by simp only; omega)
            (by simp only; omega)]
        have hn : ((p.value * 64 + (0x80 + n / 4096 % 64 - 0x80)) * 64 +
            (0x80 + n / 64 % 64 - 0x80)) * 64 + (0x80 + n % 64 - 0x80) = n := by
          rw [hvalue]
          omega
        rw [hn, hc, List.nil_append]

/-- The octets of a text are read as that text, each character on its own. -/
theorem scan_encode (text : List Char) : scan none (encode text) = text.map some := by
  induction text with
  | nil => rfl
  | cons c rest ih =>
      change scan none (encodeChar c ++ encode rest) = _
      rw [scan_encodeChar, ih, List.map_cons]

theorem decodeLossy_encode (text : List Char) : decodeLossy (encode text) = text := by
  simp [decodeLossy, scan_encode, Function.comp_def]

/-! ## Nothing is read as nothing -/

theorem scan_some_ne_nil (p : Pending) (octets : List UInt8) : scan (some p) octets ≠ [] := by
  induction octets generalizing p with
  | nil => simp [scan]
  | cons octet rest ih =>
      rw [scan]
      split
      · dsimp only
        split
        · simp
        · exact ih _
      · simp

theorem scan_none_ne_nil {octets : List UInt8} (h : octets ≠ []) : scan none octets ≠ [] := by
  cases octets with
  | nil => exact absurd rfl h
  | cons octet rest =>
      rw [scan]
      split
      · simp
      · exact scan_some_ne_nil _ rest
      · simp

/-- Octets that are there are read as some text, however broken they are. -/
theorem decodeLossy_ne_nil {octets : List UInt8} (h : octets ≠ []) : decodeLossy octets ≠ [] := by
  simpa [decodeLossy] using scan_none_ne_nil h

theorem encodeChar_ne_nil (c : Char) : encodeChar c ≠ [] := by
  unfold encodeChar
  dsimp only
  split
  · simp
  · split
    · simp
    · split <;> simp

end DeepLink.Text.Utf8
