/-! # Dictionaries

A dictionary maps texts to values and remembers the order in which its keys came. Writing a key
twice either replaces the value or keeps the first one; the lemmas give the value of every key after
each operation. -/

namespace DeepLink

/-- Keys with their values, in the order in which the keys came. -/
structure Dictionary (α : Type) where
  pairs : List (String × α)
  deriving DecidableEq, Repr

namespace Dictionary

variable {α : Type}

/-- The dictionary without keys. -/
def empty : Dictionary α := ⟨[]⟩

/-- The value of a key. -/
def get? (d : Dictionary α) (key : String) : Option α :=
  d.pairs.lookup key

/-- The keys, in the order in which they came. -/
def keys (d : Dictionary α) : List String :=
  d.pairs.map (·.1)

/-- Replaces the value of a key, in its place, or adds the key at the end. -/
def replaceIn (key : String) (value : α) : List (String × α) → List (String × α)
  | [] => [(key, value)]
  | (k, v) :: rest => if k = key then (key, value) :: rest else (k, v) :: replaceIn key value rest

/-- Gives a key a value, in place of the one it had. -/
def insert (d : Dictionary α) (key : String) (value : α) : Dictionary α :=
  ⟨replaceIn key value d.pairs⟩

/-- Gives a key a value unless it has one. -/
def insertNew (d : Dictionary α) (key : String) (value : α) : Dictionary α :=
  match d.get? key with
  | some _ => d
  | none => ⟨d.pairs ++ [(key, value)]⟩

/-- The first dictionary, overridden by the pairs of a list from left to right. -/
def insertAll (d : Dictionary α) (pairs : List (String × α)) : Dictionary α :=
  pairs.foldl (fun d p => d.insert p.1 p.2) d

/-- The dictionary of a list of pairs; the last value of a key counts. -/
def ofList (pairs : List (String × α)) : Dictionary α :=
  empty.insertAll pairs

@[simp]
theorem get?_empty (key : String) : (empty : Dictionary α).get? key = none := rfl

theorem lookup_replaceIn (key k : String) (value : α) (pairs : List (String × α)) :
    (replaceIn key value pairs).lookup k = if k = key then some value else pairs.lookup k := by
  induction pairs with
  | nil =>
      by_cases h : k = key
      · simp [replaceIn, h]
      · have : (k == key) = false := by simp [h]
        simp [replaceIn, h, List.lookup_cons, this]
  | cons p rest ih =>
      obtain ⟨a, v⟩ := p
      by_cases ha : a = key
      · subst ha
        by_cases hk : k = a
        · simp [replaceIn, hk]
        · have : (k == a) = false := by simp [hk]
          simp [replaceIn, hk, List.lookup_cons, this]
      · rw [replaceIn, if_neg ha, List.lookup_cons, List.lookup_cons, ih]
        by_cases hk : k = a
        · subst hk
          simp [ha]
        · have : (k == a) = false := by simp [hk]
          simp [this]

/-- After `insert` a key has the new value, and every other key its old one. -/
theorem get?_insert (d : Dictionary α) (key k : String) (value : α) :
    (d.insert key value).get? k = if k = key then some value else d.get? k :=
  lookup_replaceIn key k value d.pairs

/-- After `insertNew` a key keeps the value it had, if any. -/
theorem get?_insertNew (d : Dictionary α) (key k : String) (value : α) :
    (d.insertNew key value).get? k =
      if k = key then some ((d.get? key).getD value) else d.get? k := by
  unfold insertNew
  cases h : d.get? key with
  | some v =>
      by_cases hk : k = key
      · simp [hk, h]
      · simp [hk]
  | none =>
      simp only [get?] at h ⊢
      by_cases hk : k = key
      · subst hk
        simp [List.lookup_append, h]
      · have : (k == key) = false := by simp [hk]
        simp [List.lookup_append, hk, List.lookup_cons, this]

end Dictionary

end DeepLink
