/-! # Results that may be errors -/

namespace DeepLink

/-- A mapped result is a value only if the result was one. -/
theorem map_eq_ok {ε α β : Type} {f : α → β} {x : Except ε α} {b : β} (h : x.map f = .ok b) :
    ∃ a, x = .ok a ∧ f a = b := by
  cases x with
  | error e => cases h
  | ok a =>
      injection h with h
      exact ⟨a, rfl, h⟩

theorem map_eq_error_iff {ε α β : Type} (f : α → β) (x : Except ε α) (error : ε) :
    x.map f = .error error ↔ x = .error error := by
  cases x <;> simp [Except.map]

/-- A result is decided by properties of values and of errors that announce it, once one of them
holds. -/
theorem eq_iff_of_or {ε α : Type} {x : Except ε α} {value : α → Prop} {fault : ε → Prop}
    (hvalue : ∀ {a}, value a → x = .ok a) (hfault : ∀ {error}, fault error → x = .error error)
    (h : (∃ a, value a) ∨ ∃ error, fault error) :
    (∀ a, x = .ok a ↔ value a) ∧ ∀ error, x = .error error ↔ fault error := by
  refine ⟨fun a => ⟨fun hx => ?_, hvalue⟩, fun error => ⟨fun hx => ?_, hfault⟩⟩
  · rcases h with ⟨b, hb⟩ | ⟨error, herror⟩
    · rw [hvalue hb] at hx
      exact Except.ok.inj hx ▸ hb
    · rw [hfault herror] at hx
      cases hx
  · rcases h with ⟨b, hb⟩ | ⟨other, hother⟩
    · rw [hvalue hb] at hx
      cases hx
    · rw [hfault hother] at hx
      exact Except.error.inj hx ▸ hother

theorem toOption_eq_none_iff {ε α : Type} (x : Except ε α) :
    x.toOption = none ↔ ∃ error, x = .error error := by
  cases x <;> simp [Except.toOption]

theorem toOption_eq_some_iff {ε α : Type} (x : Except ε α) (a : α) :
    x.toOption = some a ↔ x = .ok a := by
  cases x <;> simp [Except.toOption]

end DeepLink
