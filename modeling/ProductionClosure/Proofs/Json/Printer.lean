import Mathlib.Tactic.IntervalCases
import ProductionClosure.Json.Decoder
import ProductionClosure.Json.Printer

/-!
Strings that are written are read back. A character is written as itself, behind a backslash, or by
its 16-bit units in hexadecimal digits; the reader takes each of these forms for the same units, and
the units of a text make up its characters again. So an array of strings comes back as it was,
whatever is in the strings, and its text holds visible ASCII characters and line ends alone.
-/

namespace ProductionClosure.Json

/-! ### Hexadecimal digits -/

def hexDigit (n : Nat) : Char := "0123456789abcdef".toList.getD n '0'

theorem hexValue?_hexDigit {n : Nat} (h : n < 16) : hexValue? (hexDigit n) = some n := by
  interval_cases n <;> decide

theorem toList_hexText_succ (count value : Nat) :
    (Text.hexText (count + 1) value).toList =
      (Text.hexText count (value / 16)).toList ++ [hexDigit (value % 16)] := by
  rw [Text.hexText, String.toList_append, String.toList_singleton]
  rfl

theorem toList_hexText_four (code : Nat) :
    (Text.hexText 4 code).toList =
      [hexDigit (code / 16 / 16 / 16 % 16), hexDigit (code / 16 / 16 % 16),
        hexDigit (code / 16 % 16), hexDigit (code % 16)] := by
  rw [toList_hexText_succ, toList_hexText_succ, toList_hexText_succ, toList_hexText_succ]
  rfl

/-- Four digits are enough for a 16-bit unit. -/
theorem hex4?_hexDigit {code : Nat} (h : code < 0x10000) :
    hex4? (hexDigit (code / 16 / 16 / 16 % 16)) (hexDigit (code / 16 / 16 % 16))
      (hexDigit (code / 16 % 16)) (hexDigit (code % 16)) = some code := by
  have hdigit : ∀ n, hexValue? (hexDigit (n % 16)) = some (n % 16) := fun n =>
    hexValue?_hexDigit (Nat.mod_lt n (by decide))
  simp only [hex4?, hdigit, Option.bind_eq_bind, Option.bind_some, Option.pure_def,
    Option.some.injEq]
  omega

/-! ### Units -/

def unitsOf (c : Char) : List Nat :=
  if c.toNat < 0x10000 then [c.toNat]
  else [0xd800 + (c.toNat - 0x10000) / 0x400, 0xdc00 + (c.toNat - 0x10000) % 0x400]

/-- The numbers of characters leave out the halves of pairs. -/
theorem toNat_range (c : Char) : c.toNat < 0xd800 ∨ 0xdfff < c.toNat ∧ c.toNat < 0x110000 :=
  c.valid

theorem not_surrogate (c : Char) :
    isHighSurrogate c.toNat = false ∧ isLowSurrogate c.toNat = false := by
  have hrange := toNat_range c
  simp only [isHighSurrogate, isLowSurrogate, Bool.and_eq_false_iff, decide_eq_false_iff_not]
  omega

/-- The units of a character are taken for the character, whatever follows them. -/
theorem charsOfCodes_unitsOf (c : Char) (codes : List Nat) :
    charsOfCodes (unitsOf c ++ codes) = c :: charsOfCodes codes := by
  unfold unitsOf
  split
  · obtain ⟨hhigh, hlow⟩ := not_surrogate c
    cases codes with
    | nil => simp [charsOfCodes, hhigh, hlow]
    | cons next rest => simp [charsOfCodes, hhigh, hlow]
  · next hlarge =>
    have hrange := toNat_range c
    have hhigh : isHighSurrogate (0xd800 + (c.toNat - 0x10000) / 0x400) = true := by
      simp only [isHighSurrogate, Bool.and_eq_true, decide_eq_true_eq]
      omega
    have hlow : isLowSurrogate (0xdc00 + (c.toNat - 0x10000) % 0x400) = true := by
      simp only [isLowSurrogate, Bool.and_eq_true, decide_eq_true_eq]
      omega
    have hcode : 0x10000 + (0xd800 + (c.toNat - 0x10000) / 0x400 - 0xd800) * 0x400 +
        (0xdc00 + (c.toNat - 0x10000) % 0x400 - 0xdc00) = c.toNat := by
      omega
    simp only [List.cons_append, List.nil_append, charsOfCodes, hhigh, hlow, Bool.and_self,
      if_true, hcode, Char.ofNat_toNat]

theorem charsOfCodes_flatMap_unitsOf (cs : List Char) :
    charsOfCodes (cs.flatMap unitsOf) = cs := by
  induction cs with
  | nil => rfl
  | cons c cs ih => rw [List.flatMap_cons, charsOfCodes_unitsOf, ih]

/-! ### Characters inside a string -/

def IsVisible (c : Char) : Prop := 0x20 ≤ c.toNat ∧ c.toNat ≤ 0x7e

instance (c : Char) : Decidable (IsVisible c) := inferInstanceAs (Decidable (_ ∧ _))

/-- The forms in which a character may stand inside a string. -/
inductive Escaped (c : Char) : List Char → Prop where
  | short {e : Char} (hshort : shortEscape? e = some c) (hunit : e ≠ 'u') : Escaped c ['\\', e]
  | plain (hvisible : IsVisible c) (hquote : c ≠ '"') (hbackslash : c ≠ '\\') : Escaped c [c]
  | unit (h : c.toNat < 0x10000) : Escaped c (escapedUnit c.toNat).toList
  | pair (h : 0x10000 ≤ c.toNat) :
      Escaped c ((escapedUnit (0xd800 + (c.toNat - 0x10000) / 0x400)).toList ++
        (escapedUnit (0xdc00 + (c.toNat - 0x10000) % 0x400)).toList)

theorem escaped_escapedChar (c : Char) : Escaped c (escapedChar c).toList := by
  unfold escapedChar
  split
  case h_8 hquote hbackslash _ _ _ _ _ =>
    dsimp only
    split
    · next hvisible =>
      rw [String.toList_singleton]
      exact .plain hvisible hquote hbackslash
    · split
      · next hunit => exact .unit hunit
      · next hunit =>
        rw [String.toList_append]
        exact .pair (Nat.le_of_not_lt hunit)
  all_goals exact .short rfl (by decide)

/-! ### Strings -/

section

variable {c : Char} {opening rest : List Char}

theorem stringCodes_short {e : Char} (h : shortEscape? e = some c) (hunit : e ≠ 'u') :
    stringCodes opening ('\\' :: e :: rest) =
      (stringCodes opening rest).map fun (codes, rest) => (c.toNat :: codes, rest) := by
  rw [stringCodes]
  case x_1 => exact fun _ _ _ _ _ he _ => hunit he
  case x_2 => exact hunit
  rw [h]
  rfl

theorem stringCodes_plain (hvisible : IsVisible c) (hquote : c ≠ '"') (hbackslash : c ≠ '\\') :
    stringCodes opening (c :: rest) =
      (stringCodes opening rest).map fun (codes, rest) => (c.toNat :: codes, rest) := by
  rw [stringCodes]
  case x_1 => exact hquote
  case x_2 => exact fun hc _ => hbackslash hc
  case x_3 => exact fun _ _ _ _ _ hc _ => hbackslash hc
  case x_4 => exact fun _ hc _ => hbackslash hc
  case x_5 => exact fun _ _ hc _ => hbackslash hc
  rw [if_neg (Nat.not_lt.mpr hvisible.1)]
  rfl

/-- Behind an escaped unit the text has to go on. -/
theorem stringCodes_unit {code : Nat} (h : code < 0x10000) (hrest : rest ≠ []) :
    stringCodes opening ((escapedUnit code).toList ++ rest) =
      (stringCodes opening rest).map fun (codes, rest) => (code :: codes, rest) := by
  rw [escapedUnit, String.toList_append, toList_hexText_four]
  show stringCodes opening ('\\' :: 'u' :: _ :: _ :: _ :: _ :: rest) = _
  rw [stringCodes, hex4?_hexDigit h, List.isEmpty_eq_false_iff.mpr hrest]
  rfl

theorem Escaped.stringCodes_append {text : List Char} (h : Escaped c text) (hrest : rest ≠ []) :
    stringCodes opening (text ++ rest) =
      (stringCodes opening rest).map fun (codes, rest) => (unitsOf c ++ codes, rest) := by
  have hsmall : c.toNat < 0x10000 → unitsOf c = [c.toNat] := fun h => if_pos h
  cases h with
  | @short e hshort hunit =>
    have hcode : c.toNat < 0x10000 := by
      unfold shortEscape? at hshort
      split at hshort <;> cases hshort <;> decide
    rw [hsmall hcode]
    exact stringCodes_short hshort hunit
  | plain hvisible hquote hbackslash =>
    rw [hsmall (Nat.lt_of_le_of_lt hvisible.2 (by decide))]
    exact stringCodes_plain hvisible hquote hbackslash
  | unit hcode =>
    rw [hsmall hcode]
    exact stringCodes_unit hcode hrest
  | pair hcode =>
    have hrange := toNat_range c
    have hunits : unitsOf c = _ := if_neg (Nat.not_lt.mpr hcode)
    -- the first unit is followed by the second one, and that by the rest
    rw [hunits, List.append_assoc, stringCodes_unit (by omega) (by simp [hrest]),
      stringCodes_unit (by omega) hrest]
    cases stringCodes opening rest <;> rfl

end

def escapedChars (cs : List Char) : List Char := cs.flatMap fun c => (escapedChar c).toList

theorem toList_stringText (s : String) :
    (stringText s).toList = '"' :: (escapedChars s.toList ++ ['"']) := by
  have hjoin : ∀ cs : List Char,
      (String.join (cs.map escapedChar)).toList = escapedChars cs := by
    intro cs
    rw [String.toList_join, List.flatMap_map]
    rfl
  simp [stringText, hjoin]

theorem stringCodes_escapedChars (opening cs rest : List Char) :
    stringCodes opening (escapedChars cs ++ '"' :: rest) = .ok (cs.flatMap unitsOf, rest) := by
  induction cs with
  | nil => simp [escapedChars, stringCodes]
  | cons c cs ih =>
    have hsplit : escapedChars (c :: cs) ++ '"' :: rest =
        (escapedChar c).toList ++ (escapedChars cs ++ '"' :: rest) := by
      simp [escapedChars]
    rw [hsplit, (escaped_escapedChar c).stringCodes_append (by simp), ih]
    rfl

theorem readString_escapedChars (s : String) (rest : List Char) :
    readString (escapedChars s.toList ++ '"' :: rest) = .ok (s, rest) := by
  rw [readString, stringCodes_escapedChars]
  show Except.ok (String.ofList (charsOfCodes _), rest) = _
  rw [charsOfCodes_flatMap_unitsOf, String.ofList_toList]

/-- A string that is written is read back, and the reader stops right behind it. -/
theorem readValue_stringText (fuel depth : Nat) (s : String) (rest : List Char) :
    readValue (fuel + 1) depth ((stringText s).toList ++ rest) = .ok (.string s, rest) := by
  rw [toList_stringText, List.cons_append, List.append_assoc, List.singleton_append]
  show (readString _).map _ = _
  rw [readString_escapedChars]
  rfl

/-! ### Parts of a container -/

def laterParts (parts : List String) : List Char :=
  parts.flatMap fun part => ",\n  ".toList ++ part.toList

theorem toList_intercalate_parts (part : String) (parts : List String) :
    (String.intercalate ",\n  " (part :: parts)).toList = part.toList ++ laterParts parts := by
  induction parts generalizing part with
  | nil => simp [laterParts]
  | cons next rest ih =>
    rw [String.intercalate_cons_cons, String.toList_append, String.toList_append, ih]
    simp [laterParts]

theorem toList_bracketed_block (opening closing part : String) (parts : List String) :
    (bracketed (.block 0) opening closing (part :: parts)).toList =
      opening.toList ++ ("\n  ".toList ++ (part.toList ++
        (laterParts parts ++ ("\n".toList ++ closing.toList)))) := by
  have hopening : (Layout.block 0).opening = "\n  " := by decide
  have hseparator : (Layout.block 0).separator = ",\n  " := by decide
  have hclosing : (Layout.block 0).closing = "\n" := by decide
  rw [bracketed, if_neg (by simp), hopening, hseparator, hclosing]
  simp only [String.toList_append, toList_intercalate_parts, List.append_assoc]

theorem length_laterParts (parts : List String) :
    4 * parts.length ≤ (laterParts parts).length := by
  induction parts with
  | nil => exact Nat.zero_le _
  | cons part rest ih =>
    have hcons : laterParts (part :: rest) =
        ",\n  ".toList ++ part.toList ++ laterParts rest := List.flatMap_cons
    have hsize : ",\n  ".toList.length = 4 := rfl
    simp only [hcons, List.length_append, List.length_cons, hsize]
    omega

/-- What is read off a text as a value, up to the line end behind it, is what the text writes. -/
theorem decode_of_readValue {text : String} {opening : Char} {cs : List Char} {value : Json}
    (htext : text.toList = opening :: cs) (hspace : isSpace opening = false)
    (hmark : opening ≠ '\ufeff')
    (hread : ∀ fuel, text.toList.length < fuel →
      readValue fuel 0 (text.toList ++ ['\n']) = .ok (value, ['\n'])) :
    decode (text ++ "\n") = .ok value := by
  have hline : (text ++ "\n").toList = text.toList ++ ['\n'] := by
    rw [String.toList_append]
    rfl
  have hskip : skipSpace (text.toList ++ ['\n']) = text.toList ++ ['\n'] := by
    rw [htext]
    exact List.dropWhile_cons_of_neg (by simp [hspace])
  have hwhole : readText (text ++ "\n").toList = .ok value := by
    unfold readText
    split
    · next heq =>
      rw [hline, htext] at heq
      exact absurd (List.cons.inj heq).1 hmark
    · rw [hline, hskip, hread _ (by simp only [List.length_append]; omega)]
      rfl
  rw [decode, hwhole]
  rfl

/-! ### Arrays of strings -/

def laterItems (items : List String) : List Char :=
  items.flatMap fun item => ",\n  ".toList ++ (stringText item).toList

theorem laterItems_eq (items : List String) :
    laterItems items = laterParts (items.map stringText) := by
  rw [laterParts, List.flatMap_map, laterItems]

theorem renderItems_strings (layout : Layout) (items : List String) :
    renderItems layout (items.map .string) = items.map stringText := by
  induction items with
  | nil => rfl
  | cons item rest ih =>
    rw [List.map_cons, renderItems, ih]
    rfl

theorem toList_toBlock_cons (item : String) (items : List String) :
    (ofStrings (item :: items)).toBlock.toList =
      "[\n  ".toList ++ ((stringText item).toList ++ (laterItems items ++ "\n]".toList)) := by
  have hparts : (ofStrings (item :: items)).toBlock =
      bracketed (.block 0) "[" "]" ((item :: items).map stringText) := by
    rw [← renderItems_strings (.block 1)]
    rfl
  rw [hparts, List.map_cons, toList_bracketed_block, laterItems_eq]
  rfl

/-- Items that are written are read back, up to the closing bracket. -/
theorem readItems_written (depth : Nat) (item : String) (items : List String) (rest : List Char)
    {fuel : Nat} (hfuel : items.length + 1 < fuel) :
    readItems fuel depth
        ((stringText item).toList ++ (laterItems items ++ "\n]".toList ++ rest)) =
      .ok ((item :: items).map .string, rest) := by
  obtain ⟨fuel, rfl⟩ : ∃ fewer, fuel = fewer + 2 := ⟨fuel - 2, by omega⟩
  -- on the items behind the first one: reading an item leaves the reader in front of the next
  induction items generalizing item fuel with
  | nil =>
    rw [readItems, readValue_stringText]
    rfl
  | cons next more ih =>
    obtain ⟨fuel, rfl⟩ : ∃ fewer, fuel = fewer + 1 := ⟨fuel - 1, by simp at hfuel; omega⟩
    have hsplit : laterItems (next :: more) ++ "\n]".toList ++ rest =
        ",\n  ".toList ++ ((stringText next).toList ++ (laterItems more ++ "\n]".toList ++ rest)) := by
      simp [laterItems]
    have hskip : ∀ behind, skipSpace ("\n  ".toList ++ ((stringText next).toList ++ behind)) =
        (stringText next).toList ++ behind := by
      intro behind
      rw [toList_stringText]
      rfl
    rw [readItems, readValue_stringText, hsplit]
    show (readItems _ depth (skipSpace ("\n  ".toList ++ _))).map _ = _
    rw [hskip, ih]
    · rfl
    · simp at hfuel
      omega

theorem readValue_written (item : String) (items : List String) (rest : List Char) {fuel : Nat}
    (hfuel : items.length + 2 < fuel) :
    readValue fuel 0
        ("[\n  ".toList ++ ((stringText item).toList ++ (laterItems items ++ "\n]".toList ++ rest))) =
      .ok (ofStrings (item :: items), rest) := by
  obtain ⟨fuel, rfl⟩ : ∃ fewer, fuel = fewer + 1 := ⟨fuel - 1, by omega⟩
  have hitems := readItems_written 1 item items rest (show items.length + 1 < fuel by omega)
  rw [toList_stringText, List.cons_append] at hitems ⊢
  show (readItems fuel 1 ('"' :: _)).map _ = _
  rw [hitems]
  rfl

/-- An array of strings that is written one item a line is read back as it was, with a line end
behind it. -/
theorem decode_toBlock_ofStrings (items : List String) :
    decode ((ofStrings items).toBlock ++ "\n") = .ok (ofStrings items) := by
  cases items with
  | nil => rfl
  | cons item rest =>
    have htext := toList_toBlock_cons item rest
    refine decode_of_readValue htext rfl (by decide) fun fuel hfuel => ?_
    -- every item is longer than its share of the fuel
    have hlength := length_laterParts (rest.map stringText)
    rw [← laterItems_eq, List.length_map] at hlength
    have hshare : rest.length + 2 < fuel := by
      have hopening : "[\n  ".toList.length = 4 := rfl
      rw [htext] at hfuel
      simp only [List.length_append, hopening] at hfuel
      omega
    rw [htext, ← readValue_written item rest ['\n'] hshare]
    simp

example : (ofStrings ["\"", "😀"]).toBlock = "[\n  \"\\\"\",\n  \"\\ud83d\\ude00\"\n]" := by rfl

/-! ### Visible characters -/

theorem visible_hexDigit {n : Nat} (h : n < 16) : IsVisible (hexDigit n) := by
  interval_cases n <;> decide

theorem visible_escapedUnit (code : Nat) : ∀ d ∈ (escapedUnit code).toList, IsVisible d := by
  have hdigit : ∀ n, IsVisible (hexDigit (n % 16)) := fun n =>
    visible_hexDigit (Nat.mod_lt n (by decide))
  have hfront : ∀ d ∈ "\\u".toList, IsVisible d := by simp [IsVisible]
  rw [escapedUnit, String.toList_append, toList_hexText_four, List.forall_mem_append]
  refine ⟨hfront, ?_⟩
  simp only [List.forall_mem_cons, hdigit, true_and]
  exact fun d hd => absurd hd List.not_mem_nil

theorem visible_of_shortEscape {c e : Char} (h : shortEscape? e = some c) : IsVisible e := by
  unfold shortEscape? at h
  split at h <;> first | decide | cases h

theorem Escaped.visible {c : Char} {text : List Char} (h : Escaped c text) :
    ∀ d ∈ text, IsVisible d := by
  cases h with
  | short hshort =>
    refine List.forall_mem_cons.mpr ⟨by decide, ?_⟩
    exact List.forall_mem_singleton.mpr (visible_of_shortEscape hshort)
  | plain hvisible => exact List.forall_mem_singleton.mpr hvisible
  | unit => exact visible_escapedUnit _
  | pair => exact List.forall_mem_append.mpr ⟨visible_escapedUnit _, visible_escapedUnit _⟩

theorem visible_stringText (s : String) : ∀ d ∈ (stringText s).toList, IsVisible d := by
  rw [toList_stringText, List.forall_mem_cons, List.forall_mem_append]
  refine ⟨by decide, ?_, List.forall_mem_singleton.mpr (by decide)⟩
  intro d hd
  obtain ⟨c, -, hc⟩ := List.mem_flatMap.mp hd
  exact (escaped_escapedChar c).visible d hc

theorem visible_laterParts {parts : List String}
    (h : ∀ part ∈ parts, ∀ d ∈ part.toList, d = '\n' ∨ IsVisible d) :
    ∀ d ∈ laterParts parts, d = '\n' ∨ IsVisible d := by
  have hbetween : ∀ d ∈ ",\n  ".toList, d = '\n' ∨ IsVisible d := by simp [IsVisible]
  intro d hd
  obtain ⟨part, hpart, hd⟩ := List.mem_flatMap.mp hd
  rcases List.mem_append.mp hd with hseparator | hinside
  · exact hbetween d hseparator
  · exact h part hpart d hinside

/-- An array of strings holds visible characters and the ends of its lines, whatever is in the
strings. -/
theorem visible_toBlock_ofStrings (items : List String) :
    ∀ d ∈ (ofStrings items).toBlock.toList, d = '\n' ∨ IsVisible d := by
  cases items with
  | nil =>
    have htext : (ofStrings []).toBlock = "[]" := rfl
    simp [htext, IsVisible]
  | cons item rest =>
    have hopening : ∀ d ∈ "[\n  ".toList, d = '\n' ∨ IsVisible d := by simp [IsVisible]
    have hclosing : ∀ d ∈ "\n]".toList, d = '\n' ∨ IsVisible d := by simp [IsVisible]
    have hitem : ∀ text d, d ∈ (stringText text).toList → d = '\n' ∨ IsVisible d :=
      fun text d hd => Or.inr (visible_stringText text d hd)
    rw [toList_toBlock_cons, laterItems_eq]
    simp only [List.forall_mem_append]
    refine ⟨hopening, hitem item, visible_laterParts ?_, hclosing⟩
    intro part hpart
    obtain ⟨text, -, rfl⟩ := List.mem_map.mp hpart
    exact hitem text

end ProductionClosure.Json
