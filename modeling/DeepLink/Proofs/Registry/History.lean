import DeepLink.Proofs.Registry.Building
import Mathlib.Data.List.DropRight
import Mathlib.Data.List.Induction

/-! # The history of a registry

A registry is called again and again: routes are registered, some are refused, and now and then it
is reset. What it holds is what was granted since the last reset, each template once, in one table,
and compiled. A further registration is granted exactly when its template compiles and is in no
table. -/

namespace DeepLink

/-- The registration that an entry was granted for. -/
def Entry.registration {β : Type} (entry : Entry β) : Registration β :=
  ⟨entry.kind, entry.key, entry.binding⟩

namespace Registry

variable {β : Type}

/-! ## Calls -/

/-- A call on a registry. -/
inductive Call (β : Type) where
  | register (wish : Registration β)
  | reset

/-- Whether a call is a reset. -/
def Call.isReset : Call β → Bool
  | .register _ => false
  | .reset => true

/-- What a call leaves behind. A registration that is refused leaves the registry as it was. -/
def call (r : Registry β) : Call β → Registry β
  | .register wish =>
      match (r.register wish.kind wish.key wish.binding).result with
      | .ok next => next
      | .error _ => r
  | .reset => r.reset.result

/-- What calls leave behind, one after the other. -/
def after (r : Registry β) (calls : List (Call β)) : Registry β :=
  calls.foldl call r

/-- A call with the registry that it is made on. -/
structure Deed (β : Type) where
  registry : Registry β
  call : Call β

/-- The registration that a call has granted. -/
def Deed.granted? (deed : Deed β) : Option (Registration β) :=
  match deed.call with
  | .register wish =>
      match (deed.registry.register wish.kind wish.key wish.binding).result with
      | .ok _ => some wish
      | .error _ => none
  | .reset => none

/-- Calls one after the other, each with the registry that it is made on. -/
def deeds (r : Registry β) : List (Call β) → List (Deed β)
  | [] => []
  | call :: rest => ⟨r, call⟩ :: (r.call call).deeds rest

/-- The registrations that were granted since the last reset, in order. -/
def granted (calls : List (Call β)) : List (Registration β) :=
  ((empty.deeds calls).rtakeWhile fun deed => !deed.call.isReset).filterMap Deed.granted?

theorem after_snoc (r : Registry β) (calls : List (Call β)) (last : Call β) :
    r.after (calls ++ [last]) = (r.after calls).call last := by
  simp [after]

theorem deeds_snoc (r : Registry β) (calls : List (Call β)) (last : Call β) :
    r.deeds (calls ++ [last]) = r.deeds calls ++ [⟨r.after calls, last⟩] := by
  induction calls generalizing r with
  | nil => rfl
  | cons first rest ih => exact congrArg _ (ih (r.call first))

theorem granted_snoc_reset (calls : List (Call β)) : granted (calls ++ [.reset]) = [] := by
  simp [granted, deeds_snoc, Call.isReset]

theorem granted_snoc_register (calls : List (Call β)) (wish : Registration β) :
    granted (calls ++ [.register wish]) =
      granted calls ++ (Deed.mk (empty.after calls) (.register wish)).granted?.toList := by
  simp only [granted, deeds_snoc, List.rtakeWhile_concat, Call.isReset, Bool.not_false, if_true,
    List.filterMap_append]
  cases hgranted : (Deed.mk (empty.after calls) (.register wish)).granted? with
  | none => simp [hgranted]
  | some other => simp [hgranted]

/-! ## What calls keep -/

/-- A registration is added at the end when it is granted, and otherwise nothing changes. -/
theorem call_register_cases (r : Registry β) (wish : Registration β) :
    ((Deed.mk r (.register wish)).granted? = none ∧ r.call (.register wish) = r) ∨
    ∃ pattern, (Deed.mk r (.register wish)).granted? = some wish ∧
      r.call (.register wish) =
        ⟨r.entries ++ [⟨wish.key, wish.kind, pattern, wish.binding⟩]⟩ := by
  simp only [Deed.granted?, call]
  cases hresult : (r.register wish.kind wish.key wish.binding).result with
  | error error => exact .inl ⟨rfl, rfl⟩
  | ok next =>
      obtain ⟨pattern, _, _, rfl⟩ := register_eq_ok hresult
      exact .inr ⟨pattern, rfl, rfl⟩

theorem WellFormed.call {r : Registry β} (hr : r.WellFormed) (c : Call β) :
    (r.call c).WellFormed := by
  cases c with
  | register wish =>
      simp only [Registry.call]
      cases hresult : (r.register wish.kind wish.key wish.binding).result with
      | error error => exact hr
      | ok next => exact hr.register hresult
  | reset => exact wellFormed_empty

theorem WellFormed.after {r : Registry β} (hr : r.WellFormed) (calls : List (Call β)) :
    (r.after calls).WellFormed := by
  induction calls generalizing r with
  | nil => exact hr
  | cons first rest ih => exact ih (hr.call first)

/-- The entries are those of the registrations granted since the last reset, one for one. -/
theorem map_registration_after (calls : List (Call β)) :
    (empty.after calls).entries.map Entry.registration = granted calls := by
  induction calls using List.reverseRecOn with
  | nil => rfl
  | append_singleton calls last ih =>
      rw [after_snoc]
      cases last with
      | reset =>
          rw [granted_snoc_reset]
          rfl
      | register wish =>
          rw [granted_snoc_register]
          rcases (empty.after calls).call_register_cases wish with
            ⟨hrefused, hsame⟩ | ⟨pattern, hgranted, hnext⟩
          · rw [hrefused, hsame, ih]
            simp
          · rw [hgranted, hnext, List.map_append, ih]
            rfl

/-! ## Tables -/

/-- Whether the table of a kind has the template. -/
def holdsIn (r : Registry β) (kind : Kind) (key : String) : Bool :=
  (r.table kind).any (·.key = key)

/-- No template is in two tables: the one that has it is that of its kind. -/
theorem WellFormed.holdsIn_iff {r : Registry β} (hr : r.WellFormed) (kind : Kind) (key : String) :
    r.holdsIn kind key = true ↔ r.kindOf? key = some kind := by
  simp only [holdsIn, List.any_eq_true, decide_eq_true_eq, table, List.mem_filter]
  constructor
  · rintro ⟨entry, ⟨hmem, hkind⟩, rfl⟩
    rw [kindOf?, hr.find?_of_mem hmem, Option.map_some, hkind]
  · intro h
    obtain ⟨entry, hfind, hkind⟩ := Option.map_eq_some_iff.1 h
    exact ⟨entry, ⟨List.mem_of_find?_eq_some hfind, hkind⟩, by simpa using List.find?_some hfind⟩

theorem WellFormed.forall_not_holdsIn_iff {r : Registry β} (hr : r.WellFormed) (key : String) :
    (∀ kind, r.holdsIn kind key = false) ↔ r.kindOf? key = none := by
  simp only [Option.eq_none_iff_forall_ne_some, ne_eq, ← hr.holdsIn_iff, Bool.not_eq_true]

/-- The tables are asked in turn which of them has the template. -/
theorem WellFormed.kindOf?_eq_find? {r : Registry β} (hr : r.WellFormed) (key : String) :
    r.kindOf? key = Kind.precedence.find? fun kind => r.holdsIn kind key := by
  cases hkind : r.kindOf? key with
  | none =>
      refine (List.find?_eq_none.2 fun kind _ => ?_).symm
      simpa using (hr.forall_not_holdsIn_iff key).2 hkind kind
  | some kind =>
      have hholds : (fun other => r.holdsIn other key) = fun other => decide (other = kind) := by
        funext other
        rw [Bool.eq_iff_iff, hr.holdsIn_iff, hkind, decide_eq_true_eq, Option.some.injEq, eq_comm]
      rw [hholds]
      cases kind <;> rfl

/-! ## Every history -/

/-- A registry holds what was granted, and nothing else. -/
structure Reflects (r : Registry β) (granted : List (Registration β)) : Prop where
  /-- No template is in two tables. -/
  unique : ∀ key first second, r.holdsIn first key = true → r.holdsIn second key = true →
    first = second
  compiled : ∀ entry ∈ r.entries, Pattern.compile entry.key = .ok entry.pattern
  /-- A template has the kind and the binding that it was granted first. -/
  find? : ∀ key, (r.find? key).map Entry.registration = granted.find? (·.key = key)
  kindOf? : ∀ key, r.kindOf? key = (granted.find? (·.key = key)).map (·.kind)
  tables : ∀ key, r.kindOf? key = Kind.precedence.find? fun kind => r.holdsIn kind key
  contains : ∀ key, r.contains key = true ↔ ∃ kind, r.kindOf? key = some kind
  size : r.size = granted.length
  size_tables : r.size =
    (r.table .direct).length + (r.table .composite).length + (r.table .action).length

theorem size_eq_sum_tables (r : Registry β) :
    r.size = (r.table .direct).length + (r.table .composite).length +
      (r.table .action).length := by
  obtain ⟨entries⟩ := r
  simp only [size, table]
  induction entries with
  | nil => rfl
  | cons entry entries ih =>
      cases hkind : entry.kind <;> simp [hkind] <;> omega

theorem reflects_granted (calls : List (Call β)) :
    (empty.after calls).Reflects (granted calls) := by
  have hwell : (empty.after calls).WellFormed := wellFormed_empty.after calls
  have hstored := map_registration_after calls
  have hfind : ∀ key, ((empty.after calls).find? key).map Entry.registration =
      (granted calls).find? (·.key = key) := by
    intro key
    rw [← hstored, List.find?_map]
    rfl
  refine ⟨?_, hwell.compiled, hfind, ?_, hwell.kindOf?_eq_find?, ?_, ?_, size_eq_sum_tables _⟩
  · intro key first second hfirst hsecond
    rw [hwell.holdsIn_iff] at hfirst hsecond
    exact Option.some.inj (hfirst.symm.trans hsecond)
  · intro key
    rw [← hfind, Option.map_map]
    rfl
  · intro key
    exact Option.isSome_iff_exists
  · rw [← hstored, List.length_map]
    rfl

/-- How a registration is answered. -/
structure Answers (r : Registry β) (wish : Registration β)
    (result : Except RouteError (Registry β)) : Prop where
  granted : (∃ next, result = .ok next) ↔
    (∃ pattern, Pattern.compile wish.key = .ok pattern) ∧ ∀ kind, r.holdsIn kind wish.key = false
  duplicate : ∀ kind, r.holdsIn kind wish.key = true →
    result = .error (.duplicateRoute wish.key kind)
  malformed : ∀ fault, (∀ kind, r.holdsIn kind wish.key = false) →
    Pattern.compile wish.key = .error fault → result = .error (.malformedPattern wish.key fault)

theorem WellFormed.answers_register {r : Registry β} (hr : r.WellFormed) (wish : Registration β) :
    r.Answers wish (r.register wish.kind wish.key wish.binding).result := by
  have hfree := hr.forall_not_holdsIn_iff wish.key
  refine ⟨?_, fun kind hholds => ?_, fun fault hnone hcompile => ?_⟩
  · rw [hfree]
    constructor
    · rintro ⟨next, hnext⟩
      obtain ⟨pattern, hkind, hcompile, _⟩ := register_eq_ok hnext
      exact ⟨⟨pattern, hcompile⟩, hkind⟩
    · rintro ⟨⟨pattern, hcompile⟩, hkind⟩
      exact ⟨_, register_of_compile hkind hcompile _ _⟩
  · rw [hr.holdsIn_iff] at hholds
    simp only [Registry.register, hholds]
  · simp only [Registry.register, hfree.1 hnone, hcompile]

/-! ## Chains -/

/-- No more is granted than was asked for. -/
theorem length_granted_le (calls : List (Call β)) (wishes : List (Registration β)) :
    (granted (calls ++ wishes.map .register)).length ≤ (granted calls).length + wishes.length := by
  induction wishes generalizing calls with
  | nil => simp
  | cons wish wishes ih =>
      have hrest := ih (calls ++ [.register wish])
      have hone := (Deed.mk (empty.after calls) (.register wish)).granted?.length_toList_le
      rw [granted_snoc_register, List.length_append, List.append_assoc] at hrest
      rw [List.map_cons, List.length_cons]
      simp only [List.singleton_append] at hrest
      omega

/-- A chain leaves a registry exactly when all of it is granted, and then the one that the same
calls leave one by one. -/
theorem chain_eq_ok_iff (calls : List (Call β)) (wishes : List (Registration β))
    (last : Registry β) :
    (empty.after calls).chain wishes = .ok last ↔
      last = empty.after (calls ++ wishes.map .register) ∧
        granted (calls ++ wishes.map .register) = granted calls ++ wishes := by
  induction wishes generalizing calls with
  | nil => simp [chain, eq_comm]
  | cons wish wishes ih =>
      have hcalls : calls ++ (wish :: wishes).map .register =
          (calls ++ [.register wish]) ++ wishes.map .register := by simp
      cases hresult : ((empty.after calls).register wish.kind wish.key wish.binding).result with
      | error error =>
          rw [chain_cons_of_error hresult]
          refine iff_of_false (by simp) ?_
          rintro ⟨_, hgranted⟩
          have hsame : granted (calls ++ [.register wish]) = granted calls := by
            simp only [granted_snoc_register, Deed.granted?, hresult, Option.toList_none,
              List.append_nil]
          have hfewer := length_granted_le (calls ++ [.register wish]) wishes
          rw [← hcalls, hgranted, hsame, List.length_append, List.length_cons] at hfewer
          omega
      | ok next =>
          have hnext : empty.after (calls ++ [.register wish]) = next := by
            rw [after_snoc, call, hresult]
          have hwish : granted (calls ++ [.register wish]) = granted calls ++ [wish] := by
            simp only [granted_snoc_register, Deed.granted?, hresult, Option.toList_some]
          rw [chain_cons_of_ok hresult, ← hnext, ih, hcalls, hwish,
            List.append_assoc (granted calls), List.singleton_append]

/-- A registry holds what its history says. After any calls from the registry without routes, it
holds what was granted since the last reset, each template in one table, with the kind and the
binding that it was granted first; a further registration is granted exactly when its template
compiles and is in no table. A chain leaves a registry exactly when it is such a series of calls,
all of them granted, and otherwise fails with the error of its first refusal. -/
theorem history_agrees (calls : List (Call β)) :
    (empty.after calls).Reflects (granted calls) ∧
    (∀ wish : Registration β, (empty.after calls).Answers wish
      ((empty.after calls).register wish.kind wish.key wish.binding).result) ∧
    (∀ wishes last, (empty.after calls).chain wishes = .ok last ↔
      last = empty.after (calls ++ wishes.map .register) ∧
        granted (calls ++ wishes.map .register) = granted calls ++ wishes) ∧
    ∀ wishes error, (empty.after calls).chain wishes = .error error ↔
      ∃ before wish behind reached, wishes = before ++ wish :: behind ∧
        (empty.after calls).chain before = .ok reached ∧
        (reached.register wish.kind wish.key wish.binding).result = .error error :=
  ⟨reflects_granted calls, (wellFormed_empty.after calls).answers_register,
    chain_eq_ok_iff calls, (empty.after calls).chain_eq_error_iff⟩

/-- A route is granted, its template refused under another kind, and a broken template refused;
after a reset the template is granted again. -/
def itemCalls : List (Call Nat) :=
  [.register ⟨.composite, itemTemplate, 7⟩, .register ⟨.direct, itemTemplate, 8⟩,
    .register ⟨.direct, "no pattern", 9⟩, .reset, .register ⟨.action, itemTemplate, 5⟩]

theorem history_agrees_item :
    (empty.after itemCalls).kindOf? itemTemplate = some .action ∧
      (empty.after itemCalls).size = 1 ∧
      ((empty.after itemCalls).find? itemTemplate).map (·.binding) = some 5 ∧
      (empty.after itemCalls).holdsIn .action itemTemplate = true ∧
      ((empty.after itemCalls).register .direct itemTemplate 6).result =
        .error (.duplicateRoute itemTemplate .action) ∧
      ∃ last, (empty.after itemCalls).chain [⟨.direct, "app://h", 6⟩] = .ok last ∧
        last = empty.after (itemCalls ++ [.register ⟨.direct, "app://h", 6⟩]) := by
  obtain ⟨hreflects, hanswers, hchain, _⟩ := history_agrees itemCalls
  have hgranted : granted itemCalls = [⟨.action, itemTemplate, 5⟩] := rfl
  have hkind : (empty.after itemCalls).kindOf? itemTemplate = some .action := by
    rw [hreflects.kindOf?, hgranted]
    rfl
  have hholds : (empty.after itemCalls).holdsIn .action itemTemplate = true := rfl
  have hlast : (empty.after itemCalls).chain [⟨.direct, "app://h", 6⟩] =
      .ok ⟨[⟨itemTemplate, .action, itemPattern, 5⟩, ⟨"app://h", .direct, ⟨"app", "h", []⟩, 6⟩]⟩ :=
    rfl
  refine ⟨hkind, ?_, rfl, hholds, (hanswers ⟨.direct, itemTemplate, 6⟩).duplicate _ hholds,
    _, hlast, ((hchain _ _).1 hlast).1⟩
  rw [hreflects.size, hgranted]
  rfl

end Registry

end DeepLink
