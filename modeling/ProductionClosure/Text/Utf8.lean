/-!
Reading octets as UTF-8. One step either yields a character or names the longest stretch of octets
that begins like a character and does not finish as one; the strict reader stops there and the
lenient reader writes one replacement character for it.
-/

namespace ProductionClosure.Text

inductive Utf8Problem where
  | badLead
  | badContinuation
  | truncated
  deriving DecidableEq, Repr

/-- A refused stretch: where it starts, how long it is, its first octet and the reason. -/
structure Utf8Fault where
  offset : Nat
  length : Nat
  octet : UInt8
  problem : Utf8Problem
  deriving DecidableEq, Repr

/-- What a lead octet promises: its payload, the number of octets to follow, and the range of the
octet right behind it, which rules out overlong forms, surrogates and values past the last plane. -/
structure Lead where
  payload : Nat
  following : Nat
  low : UInt8
  high : UInt8

def Lead.ofOctet? (b : UInt8) : Option Lead :=
  if b < 0x80 then some ⟨b.toNat, 0, 0x80, 0xbf⟩
  else if b < 0xc2 then none
  else if b < 0xe0 then some ⟨b.toNat - 0xc0, 1, 0x80, 0xbf⟩
  else if b = 0xe0 then some ⟨0, 2, 0xa0, 0xbf⟩
  else if b = 0xed then some ⟨0xd, 2, 0x80, 0x9f⟩
  else if b < 0xf0 then some ⟨b.toNat - 0xe0, 2, 0x80, 0xbf⟩
  else if b = 0xf0 then some ⟨0, 3, 0x90, 0xbf⟩
  else if b < 0xf4 then some ⟨b.toNat - 0xf0, 3, 0x80, 0xbf⟩
  else if b = 0xf4 then some ⟨4, 3, 0x80, 0x8f⟩
  else none

/-- Reads the octets that a lead promised: the code point, or the number of octets that fitted and
whether the input ended there. -/
def continuation (code : Nat) (low high : UInt8) : Nat → List UInt8 → Except (Nat × Bool) Nat
  | 0, _ => .ok code
  | _ + 1, [] => .error (0, true)
  | n + 1, b :: rest =>
    if low ≤ b ∧ b ≤ high then
      match continuation (code * 64 + (b.toNat - 0x80)) 0x80 0xbf n rest with
      | .ok c => .ok c
      | .error (fitted, ended) => .error (fitted + 1, ended)
    else .error (0, false)

/-- The first character of a non-empty input with the number of octets it takes beyond its first,
or the number of octets beyond the first that belong to a refused stretch, with the reason. -/
def firstChar (b : UInt8) (rest : List UInt8) : Except (Nat × Utf8Problem) (Char × Nat) :=
  match Lead.ofOctet? b with
  | none => .error (0, .badLead)
  | some lead =>
    match continuation lead.payload lead.low lead.high lead.following rest with
    | .ok code => .ok (Char.ofNat code, lead.following)
    | .error (fitted, true) => .error (fitted, .truncated)
    | .error (fitted, false) => .error (fitted, .badContinuation)

def decodeChars (offset : Nat) : List UInt8 → Except Utf8Fault (List Char)
  | [] => .ok []
  | b :: rest =>
    match firstChar b rest with
    | .error (extra, problem) => .error ⟨offset, extra + 1, b, problem⟩
    | .ok (c, extra) =>
      match decodeChars (offset + extra + 1) (rest.drop extra) with
      | .ok cs => .ok (c :: cs)
      | .error fault => .error fault
  termination_by bytes => bytes.length
  decreasing_by simp only [List.length_cons, List.length_drop]; omega

/-- Reads all octets, with one replacement character for each refused stretch. -/
def decodeCharsLossy : List UInt8 → List Char
  | [] => []
  | b :: rest =>
    match firstChar b rest with
    | .error (extra, _) => '\ufffd' :: decodeCharsLossy (rest.drop extra)
    | .ok (c, extra) => c :: decodeCharsLossy (rest.drop extra)
  termination_by bytes => bytes.length
  decreasing_by all_goals (simp only [List.length_cons, List.length_drop]; omega)

def decodeUtf8 (bytes : List UInt8) : Except Utf8Fault String :=
  (decodeChars 0 bytes).map String.ofList

def decodeUtf8Lossy (bytes : List UInt8) : String :=
  String.ofList (decodeCharsLossy bytes)

def encodeUtf8 (s : String) : List UInt8 :=
  s.toUTF8.toList

private def hexDigits : List Char := "0123456789abcdef".toList

def hexText : Nat → Nat → String
  | 0, _ => ""
  | n + 1, value => hexText n (value / 16) ++ String.singleton (hexDigits.getD (value % 16) '0')

def Utf8Problem.message : Utf8Problem → String
  | .badLead => "invalid start byte"
  | .badContinuation => "invalid continuation byte"
  | .truncated => "unexpected end of data"

/-- The report on a refused stretch; a single octet is shown, a longer stretch is located. -/
def Utf8Fault.message (fault : Utf8Fault) : String :=
  if fault.length = 1 then
    s!"'utf-8' codec can't decode byte 0x{hexText 2 fault.octet.toNat} in position "
      ++ s!"{fault.offset}: {fault.problem.message}"
  else
    s!"'utf-8' codec can't decode bytes in position {fault.offset}-"
      ++ s!"{fault.offset + fault.length - 1}: {fault.problem.message}"

end ProductionClosure.Text
