import ProductionClosure.Schema.Basic
import ProductionClosure.Text.Blank

/-!
Texts that stand for integers. What may surround the digits is taken away step by step: blanks, a
plus sign, zeros in front, a fraction of zeros, and underscores between digits.
-/

namespace ProductionClosure.Schema

def maxIntegerDigits : Nat := 4300

def isOuterBlank (c : Char) : Bool := Text.isBlank c && !Text.isInformationSeparator c

/-- Drops a plus sign, behind which no other sign may stand. -/
def withoutPlus : List Char → Option (List Char)
  | '+' :: '+' :: _ => none
  | '+' :: '-' :: _ => none
  | '+' :: rest => some rest
  | cs => some cs

private def startsInteger (c : Char) : Bool := ('1' ≤ c && c ≤ '9') || c = '-'

/-- Drops zeros and underscores behind a zero. The last one stays if nothing else follows or a
point. -/
def behindZeros (last : Char) : List Char → Option (List Char)
  | [] => some [last]
  | c :: rest =>
    if c = '0' ∨ c = '_' then behindZeros c rest
    else if startsInteger c then some (c :: rest)
    else if c = '.' then some (last :: c :: rest)
    else none

def withoutLeadingZeros : List Char → Option (List Char)
  | [] => none
  | c :: rest =>
    if c = '0' then behindZeros c rest
    else if startsInteger c then some (c :: rest)
    else none

def withoutZeroFraction (cs : List Char) : List Char :=
  match cs.dropWhile (· ≠ '.') with
  | '.' :: fraction =>
    if !fraction.isEmpty && fraction.all (· = '0') then cs.takeWhile (· ≠ '.') else cs
  | _ => cs

private def hasDoubleUnderscore : List Char → Bool
  | '_' :: '_' :: _ => true
  | _ :: rest => hasDoubleUnderscore rest
  | [] => false

/-- Drops underscores, if each stands alone and none at an end. -/
def withoutUnderscores (cs : List Char) : List Char :=
  if cs.head? = some '_' || cs.getLast? = some '_' || hasDoubleUnderscore cs then cs
  else cs.filter (· ≠ '_')

private def withoutMinus : List Char → List Char
  | '-' :: rest => rest
  | cs => cs

def integerTextCheck (s : String) : Except Problem Unit :=
  match withoutPlus (Text.trimChars isOuterBlank s.toList) >>= withoutLeadingZeros with
  | none => .error .unreadableInteger
  | some cs =>
    let cs := withoutMinus (withoutUnderscores (withoutZeroFraction cs))
    let digits := cs.takeWhile Char.isDigit
    if maxIntegerDigits < digits.length then .error .integerTooLarge
    else if digits.isEmpty || digits.length < cs.length then .error .unreadableInteger
    else .ok ()

end ProductionClosure.Schema
