import Mathlib.Data.List.TakeWhile
import ProductionClosure.Json.Decoder

/-!
Which texts meet the limit on integers. A reader leaves an end of the text that it was given, so a
number that is refused for its length stands in the text with all its digits. A text without so many
digits in a row is therefore either a value or refused on grounds of its syntax or its nesting.
-/

namespace ProductionClosure.Json

/-- So many digits in a row stand in a text, and they are more than an integer may have. -/
structure HasLongInteger (cs : List Char) (digits : Nat) : Prop where
  long : maxIntegerDigits < digits
  written : ∃ run, run <:+: cs ∧ run.length = digits ∧ ∀ c ∈ run, isDigit c = true

theorem HasLongInteger.mono {cs text : List Char} {digits : Nat} (h : HasLongInteger cs digits)
    (hsub : cs <:+: text) : HasLongInteger text digits := by
  obtain ⟨run, hrun, hlength, hall⟩ := h.written
  exact ⟨h.long, run, hrun.trans hsub, hlength, hall⟩

/-- What a reader may come to on a text: it leaves an end of the text, and a number that it refuses
for its length stands in the text. -/
def Reading.Within {α : Type} (cs : List Char) : Reading α → Prop
  | .ok (_, rest) => rest <:+ cs
  | .error (.integerTooLong digits) => HasLongInteger cs digits
  | .error _ => True

namespace Reading.Within

variable {α β : Type} {cs text : List Char} {reading : Reading α}

/-- What is read from an end of a text is read from the text. -/
theorem mono (h : reading.Within cs) (hsuffix : cs <:+ text) : reading.Within text := by
  cases reading with
  | ok result => exact List.IsSuffix.trans h hsuffix
  | error stop =>
    cases stop with
    | integerTooLong digits => exact HasLongInteger.mono h hsuffix.isInfix
    | malformed | tooDeep => exact trivial

theorem suffix {value : α} {rest : List Char} (h : reading.Within cs)
    (hok : reading = .ok (value, rest)) : rest <:+ cs := by
  subst hok
  exact h

theorem of_error {stop : Stop} (h : reading.Within cs) (herror : reading = .error stop) :
    Reading.Within cs (.error stop : Reading β) := by
  subst herror
  cases stop <;> exact h

/-- Making something else of the value leaves the same rest. -/
theorem map (f : α → β) (h : reading.Within cs) :
    Reading.Within cs
      (Except.map (fun result : α × List Char => (f result.1, result.2)) reading : Reading β) := by
  cases hreading : reading with
  | ok result => exact h.suffix hreading
  | error stop => exact h.of_error hreading

end Reading.Within

theorem skipSpace_suffix (cs : List Char) : skipSpace cs <:+ cs := List.dropWhile_suffix isSpace

/-- A character that follows some space belongs to the text. -/
theorem suffix_of_skipSpace {cs rest : List Char} {c : Char} (h : skipSpace cs = c :: rest) :
    rest <:+ cs :=
  (List.suffix_cons c rest).trans (h ▸ skipSpace_suffix cs)

/-! ### Strings -/

theorem stringCodes_within (opening cs : List Char) : (stringCodes opening cs).Within cs := by
  fun_induction stringCodes opening cs with
  | case2 rest => exact List.suffix_cons _ rest
  | case4 a b c d rest code hrest hcode ih =>
    exact (ih.map (code :: ·)).mono ⟨['\\', 'u', a, b, c, d], rfl⟩
  | case7 e rest _ _ c hc ih =>
    exact (ih.map (c.toNat :: ·)).mono ⟨['\\', e], rfl⟩
  | case10 c rest =>
    rename_i ih
    exact (ih.map (c.toNat :: ·)).mono (List.suffix_cons c rest)
  -- all other cases are refused, and none of them for a number
  | _ => exact trivial

theorem readString_within (afterQuote : List Char) : (readString afterQuote).Within afterQuote :=
  (stringCodes_within _ afterQuote).map fun codes => String.ofList (charsOfCodes codes)

/-! ### Numbers -/

theorem readFraction_suffix (cs : List Char) : (readFraction cs).2 <:+ cs := by
  unfold readFraction
  split
  · next d rest =>
    split
    · exact (List.dropWhile_suffix isDigit).trans (List.suffix_cons '.' _)
    · exact List.suffix_refl _
  · exact List.suffix_refl _

/-- A number is refused only for the digits of its whole part. -/
theorem numberOf_eq_error {negative : Bool} {whole : List Char} {fraction : Option (List Char)}
    {exponent : Option Int} {stop : Stop}
    (h : numberOf negative whole fraction exponent = .error stop) :
    maxIntegerDigits < whole.length ∧ stop = .integerTooLong whole.length := by
  unfold numberOf at h
  split at h
  · split at h
    · next hlong =>
      cases h
      exact ⟨hlong, rfl⟩
    · cases h
  · cases h

theorem readNumber_of_digit {c : Char} {rest whole behind : List Char} (start : List Char)
    (negative : Bool) (hdigit : isDigit c = true)
    (hsplit : (if c = '0' then (['0'], rest) else spanDigits (c :: rest)) = (whole, behind)) :
    readNumber start negative (c :: rest) =
      (numberOf negative whole (readFraction behind).1
        (readExponent (readFraction behind).2).1).map
          fun value => (value, (readExponent (readFraction behind).2).2) := by
  simp only [readNumber, hdigit, if_true, hsplit]

/-- The whole part of a number is a run of digits at its front, be it a single zero. -/
theorem exists_whole {c : Char} (rest : List Char) (hdigit : isDigit c = true) :
    ∃ whole behind, (if c = '0' then (['0'], rest) else spanDigits (c :: rest)) = (whole, behind) ∧
      whole <+: c :: rest ∧ behind <:+ c :: rest ∧ ∀ d ∈ whole, isDigit d = true := by
  by_cases hzero : c = '0'
  · subst hzero
    refine ⟨['0'], rest, rfl, ⟨rest, rfl⟩, List.suffix_cons '0' rest, ?_⟩
    intro d hd
    rw [List.mem_singleton.mp hd]
    exact hdigit
  · rw [if_neg hzero]
    refine ⟨_, _, rfl, List.takeWhile_prefix _, List.dropWhile_suffix _, ?_⟩
    intro d hd
    exact List.mem_takeWhile_imp hd

theorem readNumber_within (start : List Char) (negative : Bool) (cs : List Char) :
    (readNumber start negative cs).Within cs := by
  cases cs with
  | nil => exact trivial
  | cons c rest =>
    cases hdigit : isDigit c with
    | false =>
      simp only [readNumber, hdigit]
      exact trivial
    | true =>
      obtain ⟨whole, behind, hsplit, hprefix, hsuffix, hall⟩ := exists_whole rest hdigit
      rw [readNumber_of_digit start negative hdigit hsplit]
      cases hnumber : numberOf negative whole (readFraction behind).1
          (readExponent (readFraction behind).2).1 with
      | error stop =>
        obtain ⟨hlong, rfl⟩ := numberOf_eq_error hnumber
        exact ⟨hlong, whole, hprefix.isInfix, rfl, hall⟩
      | ok value =>
        show (readExponent (readFraction behind).2).2 <:+ c :: rest
        exact ((readExponent_suffix _).trans (readFraction_suffix behind)).trans hsuffix

/-! ### Values -/

theorem readScalar_within (cs : List Char) : (readScalar cs).Within cs := by
  unfold readScalar
  split
  · next rest => exact ((readString_within rest).map Json.string).mono (List.suffix_cons _ rest)
  · next rest => exact ⟨['n', 'u', 'l', 'l'], rfl⟩
  · next rest => exact ⟨['t', 'r', 'u', 'e'], rfl⟩
  · next rest => exact ⟨['f', 'a', 'l', 's', 'e'], rfl⟩
  · next rest => exact ⟨['N', 'a', 'N'], rfl⟩
  · next rest => exact ⟨['I', 'n', 'f', 'i', 'n', 'i', 't', 'y'], rfl⟩
  · next rest => exact ⟨['-', 'I', 'n', 'f', 'i', 'n', 'i', 't', 'y'], rfl⟩
  · next rest _ => exact (readNumber_within _ true rest).mono (List.suffix_cons '-' rest)
  · exact readNumber_within cs false cs

section Step

variable {fuel : Nat} (hvalues : ∀ depth cs, (readValue fuel depth cs).Within cs)
  (hitems : ∀ depth cs, (readItems fuel depth cs).Within cs)
  (hmembers : ∀ depth members cs, (readMembers fuel depth members cs).Within cs)

include hitems hmembers in
theorem readValue_within_step (depth : Nat) (cs : List Char) :
    (readValue (fuel + 1) depth cs).Within cs := by
  unfold readValue
  split
  · next rest =>
    split
    · exact trivial
    · split
      · next behind hspace =>
        exact (suffix_of_skipSpace hspace).trans (List.suffix_cons _ rest)
      · have hinner := (hitems (depth + 1) (skipSpace rest)).map Json.array
        exact hinner.mono ((skipSpace_suffix rest).trans (List.suffix_cons _ rest))
  · next rest =>
    split
    · exact trivial
    · split
      · next behind hspace =>
        exact (suffix_of_skipSpace hspace).trans (List.suffix_cons _ rest)
      · have hinner := (hmembers (depth + 1) [] (skipSpace rest)).map Json.object
        exact hinner.mono ((skipSpace_suffix rest).trans (List.suffix_cons _ rest))
  · exact readScalar_within cs

include hvalues hitems in
theorem readItems_within_step (depth : Nat) (cs : List Char) :
    (readItems (fuel + 1) depth cs).Within cs := by
  unfold readItems
  have hvalue := hvalues depth cs
  split
  · next stop hstop => exact hvalue.of_error hstop
  · next item rest hitem =>
    have hrest : rest <:+ cs := hvalue.suffix hitem
    split
    · next behind hspace => exact (suffix_of_skipSpace hspace).trans hrest
    · next behind hspace =>
      have hbehind : behind <:+ cs := (suffix_of_skipSpace hspace).trans hrest
      have hothers := (hitems depth (skipSpace behind)).map (item :: ·)
      exact hothers.mono ((skipSpace_suffix behind).trans hbehind)
    · exact trivial

include hvalues hmembers in
theorem readMembers_within_step (depth : Nat) (members : Members) (cs : List Char) :
    (readMembers (fuel + 1) depth members cs).Within cs := by
  unfold readMembers
  split
  · next rest =>
    have hname := (readString_within rest).mono (List.suffix_cons '"' rest)
    split
    · next stop hstop => exact hname.of_error hstop
    · next key behind hkey =>
      have hbehind : behind <:+ '"' :: rest := hname.suffix hkey
      split
      · next after hcolon =>
        have hafter : after <:+ '"' :: rest := (suffix_of_skipSpace hcolon).trans hbehind
        have hvalue := (hvalues depth (skipSpace after)).mono
          ((skipSpace_suffix after).trans hafter)
        split
        · next stop hstop => exact hvalue.of_error hstop
        · next value last hlast =>
          have hrest : last <:+ '"' :: rest := hvalue.suffix hlast
          split
          · next tail hspace => exact (suffix_of_skipSpace hspace).trans hrest
          · next tail hspace =>
            have htail : tail <:+ '"' :: rest := (suffix_of_skipSpace hspace).trans hrest
            exact (hmembers depth _ (skipSpace tail)).mono ((skipSpace_suffix tail).trans htail)
          · exact trivial
      · exact trivial
  · exact trivial

end Step

/-- The three readers call each other with less fuel, so they are followed together. -/
theorem readers_within (fuel : Nat) :
    (∀ depth cs, (readValue fuel depth cs).Within cs) ∧
      (∀ depth cs, (readItems fuel depth cs).Within cs) ∧
      ∀ depth members cs, (readMembers fuel depth members cs).Within cs := by
  induction fuel with
  | zero => exact ⟨fun _ _ => trivial, fun _ _ => trivial, fun _ _ _ => trivial⟩
  | succ fuel ih =>
    obtain ⟨hvalues, hitems, hmembers⟩ := ih
    exact ⟨readValue_within_step hitems hmembers, readItems_within_step hvalues hitems,
      readMembers_within_step hvalues hmembers⟩

/-! ### Whole texts -/

theorem hasLongInteger_of_readText {cs : List Char} {digits : Nat}
    (h : readText cs = .error (.integerTooLong digits)) : HasLongInteger cs digits := by
  unfold readText at h
  split at h
  · cases h
  · have hvalue := (readers_within (2 * cs.length + 1)).1 0 (skipSpace cs)
    split at h
    · next stop hstop =>
      cases h
      rw [hstop] at hvalue
      exact HasLongInteger.mono hvalue (skipSpace_suffix cs).isInfix
    · split at h <;> cases h

/-- An integer is refused for its length only where that many digits stand in the text. -/
theorem hasLongInteger_of_decode {text : String} {digits : Nat}
    (h : decode text = .error (.integerTooLong digits)) : HasLongInteger text.toList digits := by
  unfold decode at h
  cases hread : readText text.toList with
  | ok value =>
    rw [hread] at h
    cases h
  | error stop =>
    rw [hread] at h
    cases stop with
    | integerTooLong found =>
      cases h
      exact hasLongInteger_of_readText hread
    | malformed | tooDeep => cases h

section Digits

variable {c : Char} {rest : List Char}

theorem readScalar_of_digit (h : isDigit c = true) :
    readScalar (c :: rest) = readNumber (c :: rest) false (c :: rest) := by
  unfold readScalar
  split
  case h_9 => rfl
  all_goals
    next heq =>
      obtain ⟨rfl, -⟩ := List.cons.inj heq
      exact absurd h (by decide)

theorem readValue_of_digit (fuel depth : Nat) (h : isDigit c = true) :
    readValue (fuel + 1) depth (c :: rest) = readScalar (c :: rest) := by
  unfold readValue
  split
  case h_3 => rfl
  all_goals
    next heq =>
      obtain ⟨rfl, -⟩ := List.cons.inj heq
      exact absurd h (by decide)

theorem skipSpace_of_digit (h : isDigit c = true) : skipSpace (c :: rest) = c :: rest := by
  have hspace : isSpace c = false := by
    simp only [isSpace, Bool.or_eq_false_iff, decide_eq_false_iff_not]
    refine ⟨⟨⟨?_, ?_⟩, ?_⟩, ?_⟩ <;> rintro rfl <;> exact absurd h (by decide)
  simp [skipSpace, hspace]

end Digits

/-- A text of digits alone, without a leading zero, is refused as soon as it is too long. -/
theorem decode_of_digits {digits : List Char} (hdigits : ∀ c ∈ digits, isDigit c = true)
    (hzero : digits.head? ≠ some '0') (hlong : maxIntegerDigits < digits.length) :
    decode (String.ofList digits) = .error (.integerTooLong digits.length) := by
  cases digits with
  | nil => cases hlong
  | cons c rest =>
    have hc : isDigit c = true := hdigits c List.mem_cons_self
    have hne : c ≠ '0' := fun heq => hzero (congrArg some heq)
    have hsplit : (if c = '0' then (['0'], rest) else spanDigits (c :: rest)) =
        (c :: rest, []) := by
      rw [if_neg hne, spanDigits, List.takeWhile_eq_self_iff.mpr hdigits,
        List.dropWhile_eq_nil_iff.mpr hdigits]
    have hnumber : readNumber (c :: rest) false (c :: rest) =
        .error (.integerTooLong (c :: rest).length) := by
      rw [readNumber_of_digit _ _ hc hsplit]
      simp only [readFraction, readExponent, numberOf, hlong, if_true]
      rfl
    have hread : readText (c :: rest) = .error (.integerTooLong (c :: rest).length) := by
      unfold readText
      split
      · next heq =>
        obtain ⟨rfl, -⟩ := List.cons.inj heq
        exact absurd hc (by decide)
      · rw [skipSpace_of_digit hc, readValue_of_digit _ _ hc, readScalar_of_digit hc, hnumber]
    rw [decode, String.toList_ofList, hread]
    rfl

end ProductionClosure.Json
