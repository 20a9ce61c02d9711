import ProductionClosure.Proofs.Json.Printer

/-!
Objects that are written are read back, as long as their members are strings, truth values and
nulls. The reader takes a member at a time and puts it behind those that it has; keys that differ
from one another stay as they are written.
-/

namespace ProductionClosure.Json

/-! ### Values without parts -/

/-- A value that is written as a word or a string. -/
inductive IsFlat : Json → Prop where
  | null : IsFlat .null
  | bool (value : Bool) : IsFlat (.bool value)
  | string (text : String) : IsFlat (.string text)

theorem isFlat_ofString? (text : Option String) : IsFlat (ofString? text) := by
  cases text with
  | none => exact .null
  | some text => exact .string text

namespace IsFlat

variable {value : Json} {layout : Layout} {rest : List Char}

/-- A flat value is read back, whatever stands behind it. -/
theorem readValue_render (h : value.IsFlat) (fuel depth : Nat) :
    readValue (fuel + 1) depth ((render layout value).toList ++ rest) = .ok (value, rest) := by
  cases h with
  | null =>
    rw [render]
    rfl
  | bool value => cases value <;> rw [render] <;> rfl
  | string text =>
    rw [render]
    exact readValue_stringText fuel depth text rest

/-- A flat value does not begin with space. -/
theorem skipSpace_render (h : value.IsFlat) :
    skipSpace ((render layout value).toList ++ rest) = (render layout value).toList ++ rest := by
  cases h with
  | null =>
    rw [render]
    rfl
  | bool value => cases value <;> rw [render] <;> rfl
  | string text =>
    rw [render, toList_stringText]
    rfl

theorem visible_render (h : value.IsFlat) :
    ∀ d ∈ (render layout value).toList, IsVisible d := by
  cases h with
  | null => simp [render, IsVisible]
  | bool value => cases value <;> simp [render, IsVisible]
  | string text => exact visible_stringText text

end IsFlat

/-! ### Members -/

def memberText (layout : Layout) (member : String × Json) : String :=
  stringText member.1 ++ ": " ++ render layout member.2

theorem renderMembers_eq_map (layout : Layout) (members : Members) :
    renderMembers layout members = members.map (memberText layout) := by
  induction members with
  | nil => rfl
  | cons member rest ih =>
    obtain ⟨key, value⟩ := member
    rw [renderMembers, ih]
    rfl

/-- A member under a new key goes behind the others. -/
theorem Members.set_of_fresh {members : Members} {key : String} (value : Json)
    (h : key ∉ members.map Prod.fst) : members.set key value = members ++ [(key, value)] := by
  induction members with
  | nil => rfl
  | cons member rest ih =>
    obtain ⟨other, kept⟩ := member
    rw [List.map_cons, List.mem_cons, not_or] at h
    rw [Members.set, if_neg fun heq => h.1 heq.symm, ih h.2]
    rfl

section

variable {layout : Layout} {fuel depth : Nat} {members : Members} {member : String × Json}
  {rest : List Char}

/-- A member begins with the quote of its key. -/
theorem skipSpace_memberText :
    skipSpace ((memberText layout member).toList ++ rest) =
      (memberText layout member).toList ++ rest := by
  rw [memberText, String.toList_append, String.toList_append, toList_stringText]
  rfl

/-- The reader gets over a member as far as its value. -/
theorem toList_memberText_append :
    (memberText layout member).toList ++ rest =
      '"' :: (escapedChars member.1.toList ++
        '"' :: (": ".toList ++ ((render layout member.2).toList ++ rest))) := by
  rw [memberText, String.toList_append, String.toList_append, toList_stringText]
  simp

theorem readValue_behind_colon (hflat : member.2.IsFlat) :
    readValue (fuel + 1) depth
        (skipSpace (" ".toList ++ ((render layout member.2).toList ++ rest))) =
      .ok (member.2, rest) := by
  show readValue (fuel + 1) depth (skipSpace ((render layout member.2).toList ++ rest)) = _
  rw [hflat.skipSpace_render, hflat.readValue_render]

section

variable {behind : List Char} (hflat : member.2.IsFlat)
include hflat

/-- A brace behind a member ends the object. -/
theorem readMembers_of_brace (hrest : skipSpace rest = '\x7d' :: behind) :
    readMembers (fuel + 2) depth members ((memberText layout member).toList ++ rest) =
      .ok (members.set member.1 member.2, behind) := by
  have hcolon : skipSpace (": ".toList ++ ((render layout member.2).toList ++ rest)) =
      ':' :: (" ".toList ++ ((render layout member.2).toList ++ rest)) := rfl
  rw [toList_memberText_append, readMembers]
  simp only [readString_escapedChars, hcolon, readValue_behind_colon hflat, hrest]

/-- A comma behind a member leads to the next one. -/
theorem readMembers_of_comma (hrest : skipSpace rest = ',' :: behind) :
    readMembers (fuel + 2) depth members ((memberText layout member).toList ++ rest) =
      readMembers (fuel + 1) depth (members.set member.1 member.2) (skipSpace behind) := by
  have hcolon : skipSpace (": ".toList ++ ((render layout member.2).toList ++ rest)) =
      ':' :: (" ".toList ++ ((render layout member.2).toList ++ rest)) := rfl
  rw [toList_memberText_append, readMembers]
  simp only [readString_escapedChars, hcolon, readValue_behind_colon hflat, hrest]

end

end

/-! ### Objects -/

/-- An object whose members have keys of their own and flat values. -/
structure IsRecord (members : Members) : Prop where
  keys : (members.map Prod.fst).Nodup
  flat : ∀ member ∈ members, member.2.IsFlat

namespace IsRecord

variable {before later : Members} {member : String × Json}

theorem flat_member (h : IsRecord (before ++ member :: later)) : member.2.IsFlat :=
  h.flat member (List.mem_append_right before List.mem_cons_self)

/-- Its members come behind one another when they are set in turn. -/
theorem set_member (h : IsRecord (before ++ member :: later)) :
    before.set member.1 member.2 = before ++ [member] := by
  refine Members.set_of_fresh _ fun hmem => ?_
  have hkeys := h.keys
  rw [List.map_append, List.map_cons] at hkeys
  exact (List.nodup_append.mp hkeys).2.2 _ hmem _ List.mem_cons_self rfl

end IsRecord

/-- Members that are written are read back behind those already read, up to the closing brace. -/
theorem readMembers_written (layout : Layout) (depth : Nat) (before : Members)
    (member : String × Json) (later : Members) (rest : List Char)
    (h : IsRecord (before ++ member :: later)) {fuel : Nat} (hfuel : later.length + 1 < fuel) :
    readMembers fuel depth before ((memberText layout member).toList ++
        (laterParts (later.map (memberText layout)) ++ ("\n\x7d".toList ++ rest))) =
      .ok (before ++ member :: later, rest) := by
  obtain ⟨fuel, rfl⟩ : ∃ fewer, fuel = fewer + 2 := ⟨fuel - 2, by omega⟩
  -- on the members behind the first one: each step puts one of them behind those already read
  induction later generalizing before member fuel with
  | nil =>
    rw [← h.set_member]
    exact readMembers_of_brace h.flat_member rfl
  | cons next more ih =>
    obtain ⟨fuel, rfl⟩ : ∃ fewer, fuel = fewer + 1 := ⟨fuel - 1, by simp at hfuel; omega⟩
    have hbehind : laterParts ((next :: more).map (memberText layout)) ++
        ("\n\x7d".toList ++ rest) = ',' :: ("\n  ".toList ++ ((memberText layout next).toList ++
          (laterParts (more.map (memberText layout)) ++ ("\n\x7d".toList ++ rest)))) := by
      simp [laterParts]
    have hskip : ∀ behind, skipSpace ("\n  ".toList ++ behind) = skipSpace behind := fun _ => rfl
    have hmoved : before ++ member :: next :: more = (before ++ [member]) ++ next :: more := by
      simp
    rw [hbehind, readMembers_of_comma h.flat_member rfl, hskip, skipSpace_memberText,
      h.set_member, hmoved]
    rw [hmoved] at h
    refine ih _ _ h fuel ?_
    simp at hfuel
    omega

theorem toList_toBlock_object (member : String × Json) (later : Members) :
    (object (member :: later)).toBlock.toList =
      "\x7b\n  ".toList ++ ((memberText (.block 1) member).toList ++
        (laterParts (later.map (memberText (.block 1))) ++ "\n\x7d".toList)) := by
  rw [toBlock, render, renderMembers_eq_map, List.map_cons, toList_bracketed_block]
  rfl

theorem readValue_object (member : String × Json) (later : Members) (rest : List Char)
    (h : IsRecord (member :: later)) {fuel : Nat} (hfuel : later.length + 2 < fuel) :
    readValue fuel 0 ("\x7b\n  ".toList ++ ((memberText (.block 1) member).toList ++
        (laterParts (later.map (memberText (.block 1))) ++ ("\n\x7d".toList ++ rest)))) =
      .ok (.object (member :: later), rest) := by
  obtain ⟨fuel, rfl⟩ : ∃ fewer, fuel = fewer + 1 := ⟨fuel - 1, by omega⟩
  have hmembers := readMembers_written (.block 1) 1 [] member later rest h
    (show later.length + 1 < fuel by omega)
  rw [toList_memberText_append] at hmembers ⊢
  show (readMembers fuel 1 [] ('"' :: _)).map _ = _
  rw [hmembers]
  rfl

/-- A record that is written one member a line is read back as it was, with a line end behind it. -/
theorem decode_toBlock_object {members : Members} (h : IsRecord members) :
    decode ((object members).toBlock ++ "\n") = .ok (.object members) := by
  cases members with
  | nil =>
    rw [toBlock, render, renderMembers]
    rfl
  | cons member later =>
    have htext := toList_toBlock_object member later
    refine decode_of_readValue htext rfl (by decide) fun fuel hfuel => ?_
    -- every member is longer than its share of the fuel
    have hlength := length_laterParts (later.map (memberText (.block 1)))
    rw [List.length_map] at hlength
    have hshare : later.length + 2 < fuel := by
      have hopening : "\x7b\n  ".toList.length = 4 := rfl
      rw [htext] at hfuel
      simp only [List.length_append, hopening] at hfuel
      omega
    rw [htext, ← readValue_object member later ['\n'] h hshare]
    simp

theorem visible_memberText {layout : Layout} {member : String × Json} (h : member.2.IsFlat) :
    ∀ d ∈ (memberText layout member).toList, IsVisible d := by
  have hcolon : ∀ d ∈ ": ".toList, IsVisible d := by simp [IsVisible]
  simp only [memberText, String.toList_append, List.forall_mem_append]
  exact ⟨⟨visible_stringText member.1, hcolon⟩, h.visible_render⟩

/-- A record holds visible characters and the ends of its lines, whatever is in its strings. -/
theorem visible_toBlock_object {members : Members} (h : IsRecord members) :
    ∀ d ∈ (object members).toBlock.toList, d = '\n' ∨ IsVisible d := by
  cases members with
  | nil =>
    rw [toBlock, render, renderMembers]
    simp [bracketed, IsVisible]
  | cons member later =>
    have hopening : ∀ d ∈ "\x7b\n  ".toList, d = '\n' ∨ IsVisible d := by simp [IsVisible]
    have hclosing : ∀ d ∈ "\n\x7d".toList, d = '\n' ∨ IsVisible d := by simp [IsVisible]
    have hpart : ∀ part ∈ member :: later, ∀ d ∈ (memberText (.block 1) part).toList,
        d = '\n' ∨ IsVisible d :=
      fun part hpart d hd => Or.inr (visible_memberText (h.flat part hpart) d hd)
    rw [toList_toBlock_object]
    simp only [List.forall_mem_append]
    refine ⟨hopening, hpart member List.mem_cons_self, visible_laterParts ?_, hclosing⟩
    intro text htext
    obtain ⟨part, hmem, rfl⟩ := List.mem_map.mp htext
    exact hpart part (List.mem_cons_of_mem member hmem)

end ProductionClosure.Json
