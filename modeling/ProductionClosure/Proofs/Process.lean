import ProductionClosure.Process
import ProductionClosure.Proofs.Text.Utf8

/-!
The variables that a process gets, and what is read of the octets that it prints. A variable that is
set hides the one of its name and no other. Plain text comes through as it was printed: an octet
below 128 is a character of its own, and only carriage returns are changed.
-/

namespace ProductionClosure

theorem Environment.lookup_set (environment : Environment) (name value other : String) :
    (environment.set name value).lookup other =
      if other = name then some value else environment.lookup other := by
  induction environment with
  | nil =>
    by_cases hother : other = name
    · simp [Environment.set, hother]
    · simp [Environment.set, List.lookup_cons, beq_eq_false_iff_ne.mpr hother, hother]
  | cons entry rest ih =>
    obtain ⟨n, v⟩ := entry
    by_cases hname : n = name
    · subst hname
      by_cases hother : other = n
      · simp [Environment.set, hother]
      · simp [Environment.set, List.lookup_cons, beq_eq_false_iff_ne.mpr hother, hother]
    · rw [Environment.set, if_neg hname]
      by_cases hother : other = n
      · subst hother
        simp [hname]
      · simpa [List.lookup_cons, beq_eq_false_iff_ne.mpr hother] using ih

/-! ### Variables that make no difference -/

/-- Two environments that agree, but for some names. -/
def Environment.AgreesBut (names : List String) (environment other : Environment) : Prop :=
  ∀ name, name ∉ names → environment.lookup name = other.lookup name

namespace Environment.AgreesBut

variable {names : List String} {environment other : Environment}

theorem set (h : environment.AgreesBut names other) (name value : String) :
    (environment.set name value).AgreesBut names (other.set name value) := by
  intro looked hlooked
  rw [lookup_set, lookup_set, h looked hlooked]

/-- What is set in both of them leaves them in agreement. -/
theorem overridden (h : environment.AgreesBut names other) (changes : Environment) :
    (environment.over changes).AgreesBut names (other.over changes) := by
  induction changes generalizing environment other with
  | nil => exact h
  | cons change rest ih => exact ih (h.set change.1 change.2)

theorem value?_eq (h : environment.AgreesBut names other) {name : String} (hname : name ∉ names) :
    environment.value? name = other.value? name := by
  rw [Environment.value?, Environment.value?, h name hname]

end Environment.AgreesBut

/-- Two calls of the same command in the same folder, whose environments agree, but for some
names. -/
structure Call.AgreesBut (names : List String) (call other : Call) : Prop where
  command : call.command = other.command
  folder : call.folder = other.folder
  environment : Option.Rel (Environment.AgreesBut names) call.environment other.environment

/-! ### Plain text -/

namespace Text

theorem unifyNewlines_of_no_return {cs : List Char} (h : '\r' ∉ cs) : unifyNewlines cs = cs := by
  fun_induction unifyNewlines cs with
  | case1 => rfl
  | case2 rest => exact absurd List.mem_cons_self h
  | case3 rest => exact absurd List.mem_cons_self h
  | case4 c rest hnewline hreturn ih =>
    rw [ih fun hmem => h (List.mem_cons_of_mem c hmem)]

end Text

/-- Plain octets without a carriage return are read character by character. -/
theorem printedText_of_ascii {octets : List UInt8} (h : ∀ b ∈ octets, b < 0x80)
    (hreturn : '\r' ∉ octets.map fun b => Char.ofNat b.toNat) :
    printedText octets = String.ofList (octets.map fun b => Char.ofNat b.toNat) := by
  rw [printedText, Text.decodeUtf8Lossy, Text.decodeCharsLossy_of_ascii h, Text.withUnixNewlines,
    String.toList_ofList, Text.unifyNewlines_of_no_return hreturn]

end ProductionClosure
