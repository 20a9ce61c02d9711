import ProductionClosure.Proofs.Table
import ProductionClosure.Schema.Scalar

/-!
What the fields of a record hold. A field reads the value given for it, or takes its default where
none is given; of two names the leading one counts wherever it is given at all. Which values can be
read, and as what, is said here for each kind of field by a relation, and the checks are shown to
accept exactly what the relations admit.
-/

namespace ProductionClosure

def Json.Members.either? (members : Json.Members) (leading name : String) : Option Json :=
  (members.get? leading).or (members.get? name)

namespace Schema

inductive IsText : Json → String → Prop where
  | string (s : String) : IsText (.string s) s

inductive IsTextOrNull : Json → Option String → Prop where
  | null : IsTextOrNull .null none
  | string (s : String) : IsTextOrNull (.string s) (some s)

inductive IsMapping : Json → Json.Members → Prop where
  | null : IsMapping .null []
  | object (members : Json.Members) : IsMapping (.object members) members

/-- A boolean, a number that is zero or one, or a word for yes or no. -/
inductive IsFlag : Json → Bool → Prop where
  | bool (b : Bool) : IsFlag (.bool b) b
  | zero : IsFlag (.int 0) false
  | one : IsFlag (.int 1) true
  | zeroFloat {x : Binary64} (h : x.isZero = true) : IsFlag (.float x) false
  | oneFloat {x : Binary64} (h : x.isOne = true) : IsFlag (.float x) true
  | word {s : String} {b : Bool} (h : (s.toLower, b) ∈ boolWords) : IsFlag (.string s) b

/-- What a field holds, given what was found under its name. -/
inductive Holds {α : Type} (reads : Json → α → Prop) (default : α) : Option Json → α → Prop where
  | absent : Holds reads default none default
  | given {value : Json} {held : α} (h : reads value held) :
      Holds reads default (some value) held

/-! ### The checks of single values -/

theorem text_eq_ok {value : Json} {held : String} : text value = .ok held ↔ IsText value held := by
  constructor
  · intro h
    cases value <;> simp [text, textOf, Json.shape] at h
    subst h
    exact .string _
  · rintro ⟨s⟩
    rfl

theorem optionalText_eq_ok {value : Json} {held : Option String} :
    optionalText value = .ok held ↔ IsTextOrNull value held := by
  constructor
  · intro h
    cases value <;>
      simp [optionalText, optionalTextOf, textOf, Json.shape, Except.map] at h
    all_goals subst h
    · exact .null
    · exact .string _
  · rintro (_ | s)
    · rfl
    · rfl

theorem dictionaryOrNull_eq_ok {value : Json} {held : Json.Members} :
    dictionaryOrNull value = .ok held ↔ IsMapping value held := by
  constructor
  · intro h
    cases value <;> simp [dictionaryOrNull, dictionary] at h
    all_goals subst h
    · exact .null
    · exact .object _
  · rintro (_ | members)
    · rfl
    · rfl

theorem boolOfWord_eq_ok {word : String} {b : Bool} :
    boolOfWord word = .ok b ↔ (word.toLower, b) ∈ boolWords := by
  rw [← Table.lookup_eq_some_iff_mem (by decide), boolOfWord]
  cases boolWords.lookup word.toLower <;> simp

theorem isZero_of_isOne {x : Binary64} (h : x.isOne = true) : x.isZero = false := by
  have hbits : x = ⟨0x3ff0000000000000⟩ := by
    cases x
    simpa [Binary64.isOne] using h
  subst hbits
  decide

theorem flag_eq_ok {value : Json} {held : Bool} : flag value = .ok held ↔ IsFlag value held := by
  cases value with
  | null | array | object =>
    constructor
    · intro h
      cases h
    · intro h
      cases h
  | bool b =>
    constructor
    · intro h
      cases h
      exact .bool _
    · rintro ⟨⟩
      rfl
  | int n =>
    constructor
    · intro h
      simp only [flag, Json.shape, boolOf] at h
      split at h
      · next hzero =>
        cases h
        exact hzero ▸ .zero
      · split at h
        · next hone =>
          cases h
          exact hone ▸ .one
        · split at h <;> cases h
    · intro h
      cases h <;> rfl
  | float x =>
    constructor
    · intro h
      simp only [flag, Json.shape, boolOf] at h
      split at h
      · next hzero =>
        cases h
        exact .zeroFloat hzero
      · split at h
        · next hone =>
          cases h
          exact .oneFloat hone
        · split at h <;> cases h
    · intro h
      cases h with
      | zeroFloat hzero => simp only [flag, Json.shape, boolOf, hzero, if_true]
      | oneFloat hone =>
        -- the check for zero comes first, so one has to be known as different from it
        simp only [flag, Json.shape, boolOf, isZero_of_isOne hone, hone, if_true,
          Bool.false_eq_true, if_false]
  | string s =>
    rw [show flag (.string s) = boolOfWord s from rfl, boolOfWord_eq_ok]
    constructor
    · exact .word
    · rintro ⟨⟩
      assumption

/-! ### The fields of a record -/

section

variable {α : Type} {reads : Json → α → Prop} {check : Json → Except Problem α} {default held : α}
  {members : Json.Members} {key leading name : String}

theorem optionalField_eq_valid (hcheck : ∀ value held, check value = .ok held ↔ reads value held) :
    optionalField members key check default = .valid held ↔
      Holds reads default (members.get? key) held := by
  unfold optionalField
  cases members.get? key with
  | none =>
    constructor
    · intro h
      cases h
      exact .absent
    · rintro ⟨⟩
      rfl
  | some value =>
    constructor
    · intro h
      cases hvalue : check value with
      | ok found =>
        simp only [atKey, hvalue, Checked.valid.injEq] at h
        exact .given ((hcheck value held).mp (h ▸ hvalue))
      | error problem => simp [atKey, hvalue] at h
    · rintro (_ | h)
      simp only [atKey, (hcheck value held).mpr h]

theorem aliasedField_eq_valid (hcheck : ∀ value held, check value = .ok held ↔ reads value held) :
    aliasedField members leading name check default = .valid held ↔
      Holds reads default (members.either? leading name) held := by
  unfold aliasedField Json.Members.either?
  cases hleading : members.get? leading with
  | some value =>
    rw [if_pos (by rfl), Option.some_or, ← hleading]
    exact optionalField_eq_valid hcheck
  | none =>
    rw [if_neg (by simp), Option.none_or]
    exact optionalField_eq_valid hcheck

end

/-! ### Fields put together -/

theorem Checked.apply_eq_seq {α β : Type} (f : Checked (α → β)) (c : Checked α) :
    f <*> c = f.seq c := rfl

theorem Checked.map_eq {α β : Type} (f : α → β) (c : Checked α) : f <$> c = c.map f := rfl

theorem Checked.toExcept_eq_ok {α : Type} {model : String} {checked : Checked α} {value : α} :
    checked.toExcept model = .ok value ↔ checked = .valid value := by
  cases checked <;> simp [Checked.toExcept]

end Schema

end ProductionClosure
