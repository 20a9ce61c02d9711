/-!
Octets written as base-64 text. Characters outside the alphabet are skipped; what is left must end
on a whole group, padded if need be.
-/

namespace ProductionClosure.Yaml

def sextet? (c : Char) : Option Nat :=
  if 'A' ≤ c ∧ c ≤ 'Z' then some (c.toNat - 'A'.toNat)
  else if 'a' ≤ c ∧ c ≤ 'z' then some (c.toNat - 'a'.toNat + 26)
  else if '0' ≤ c ∧ c ≤ '9' then some (c.toNat - '0'.toNat + 52)
  else if c = '+' then some 62
  else if c = '/' then some 63
  else none

/-- Reads characters with `filled` sextets of the present group taken, whose unused low bits are in
`pending`, and `padding` padding characters in a row behind them. -/
def decodeSextets (filled pending padding : Nat) : List Char → Option (List UInt8)
  | [] => if filled = 0 then some [] else none
  | '=' :: rest =>
    if 2 ≤ filled then
      if 4 ≤ filled + (padding + 1) then some []
      else decodeSextets filled pending (padding + 1) rest
    else decodeSextets filled pending padding rest
  | c :: rest =>
    match sextet? c with
    | none => decodeSextets filled pending padding rest
    | some bits =>
      match filled with
      | 0 => decodeSextets 1 bits 0 rest
      | 1 => (decodeSextets 2 (bits % 16) 0 rest).map (UInt8.ofNat (pending * 4 + bits / 16) :: ·)
      | 2 => (decodeSextets 3 (bits % 4) 0 rest).map (UInt8.ofNat (pending * 16 + bits / 4) :: ·)
      | _ => (decodeSextets 0 0 0 rest).map (UInt8.ofNat (pending * 64 + bits) :: ·)

def decodeBase64 (text : String) : Option (List UInt8) :=
  if text.toList.all (·.toNat < 0x80) then decodeSextets 0 0 0 text.toList else none

end ProductionClosure.Yaml
