import ProductionClosure.Text.LowerCase
import ProductionClosure.Text.Numeral
import ProductionClosure.Text.Pieces
import ProductionClosure.Yaml.Problem

/-!
What number a text spells. Underscores are dropped first. Digits and blanks may be those of any
script; colons separate digits to the base sixty, and marks at the front choose other bases.
-/

namespace ProductionClosure.Yaml

private def signOf (cs : List Char) : Bool × List Char :=
  match cs with
  | '-' :: rest => (true, rest)
  | '+' :: rest => (false, rest)
  | cs => (false, cs)

private def negateIf (negative : Bool) (n : Int) : Int := if negative then -n else n

/-! ### Integers -/

/-- The letter that may stand behind a zero in front of digits to a base. -/
private def baseLetter? : Nat → Option Char
  | 2 => some 'b'
  | 8 => some 'o'
  | 16 => some 'x'
  | _ => none

private def withoutBaseMark (base : Nat) (cs : List Char) : List Char :=
  match cs with
  | '0' :: letter :: rest => if some letter.toLower = baseLetter? base then rest else cs
  | cs => cs

private def digitOf? (base : Nat) (c : Char) : Option Nat := (Json.hexValue? c).filter (· < base)

private def natOfBase (base : Nat) (digits : List Char) : Nat :=
  digits.foldl (fun n c => n * base + (digitOf? base c).getD 0) 0

/-- The integer that digits to a base spell, with a sign and blanks around them. Too many decimal
digits are refused before anything behind them is looked at. -/
def integerOf (base : Nat) (text : List Char) : Except ScalarProblem Int :=
  let (negative, cs) := signOf ((Text.numeralChars text).dropWhile Text.isPlainBlank)
  let cs := withoutBaseMark base cs
  let digits := cs.takeWhile fun c => (digitOf? base c).isSome
  let behind := (cs.drop digits.length).dropWhile Text.isPlainBlank
  if base = 10 ∧ Json.maxIntegerDigits < digits.length then .error (.integerTooLong digits.length)
  else if digits.isEmpty || !behind.isEmpty then .error (.notInteger base (String.ofList text))
  else .ok (negateIf negative (natOfBase base digits))

private def sumSexagesimal (digits : List Int) : Int :=
  digits.foldl (fun sum digit => sum * 60 + digit) 0

def readInteger (text : String) : Except ScalarProblem Int :=
  let cs := text.toList.filter (· ≠ '_')
  if cs.isEmpty then .error .noDigits
  else
    let (negative, cs) := signOf cs
    (fun n => negateIf negative n) <$> match cs with
      | ['0'] => .ok 0
      | '0' :: 'b' :: rest => integerOf 2 rest
      | '0' :: 'x' :: rest => integerOf 16 rest
      | '0' :: _ => integerOf 8 cs
      | [] => .error .noDigits
      | _ =>
        if cs.contains ':' then
          ((Text.pieces (· = ':') cs).mapM (integerOf 10)).map sumSexagesimal
        else integerOf 10 cs

/-! ### Doubles -/

private def decimalOf? (negative : Bool) (cs : List Char) : Option Binary64 :=
  let (whole, rest) := Json.spanDigits cs
  let (places, rest) := match rest with
    | '.' :: rest => Json.spanDigits rest
    | rest => ([], rest)
  if whole.isEmpty && places.isEmpty then none
  else
    match rest with
    | [] => some (.ofDecimal negative (Json.natOfDigits (whole ++ places)) (-(places.length : Int)))
    | _ =>
      match Json.readExponent rest with
      | (some exponent, []) =>
        some (.ofDecimal negative (Json.natOfDigits (whole ++ places))
          (exponent - (places.length : Int)))
      | _ => none

def doubleOf (text : List Char) : Except ScalarProblem Binary64 :=
  let (negative, cs) := signOf (Text.trimPlain (Text.numeralChars text))
  let word := String.ofList cs
  if word = "inf" ∨ word = "infinity" then .ok (.infinity negative)
  else if word = "nan" then .ok .nan
  else
    match decimalOf? negative cs with
    | some x => .ok x
    | none => .error (.notNumber (String.ofList text))

private def Binary64.toFloat (x : Binary64) : Float := Float.ofBits x.bits

private def doubleOfNat? (n : Nat) : Option Binary64 :=
  let magnitude := Binary64.magnitudeOfRatio n 1
  let x := Binary64.ofSignAndBits false magnitude
  if x.isInfinite then none else some x

/-- Sums doubles to the base sixty, starting with the ones. Each power of sixty is rounded by
itself, so there has to be a double for it. -/
private def sumSexagesimalDoubles (digits : List Binary64) : Except ScalarProblem Binary64 := do
  let (sum, _) ← digits.reverse.foldlM (fun (sum, power) digit =>
    match doubleOfNat? power with
    | some scale =>
      .ok (sum + Binary64.toFloat digit * Binary64.toFloat scale, power * 60)
    | none => .error .powerTooLarge) ((0.0 : Float), 1)
  pure ⟨sum.toBits⟩

private def Binary64.negateIf (negative : Bool) (x : Binary64) : Binary64 :=
  if negative then ⟨x.bits ^^^ 0x8000000000000000⟩ else x

/-- The double that a scalar spells, or nothing for the word that means no number. -/
def readDouble (text : String) : Except ScalarProblem (Option Binary64) :=
  let cs := (Text.lowerCase (String.ofList (text.toList.filter (· ≠ '_')))).toList
  if cs.isEmpty then .error .noDigits
  else
    let (negative, cs) := signOf cs
    if cs = ['.', 'n', 'a', 'n'] then .ok none
    else
      (some ∘ Binary64.negateIf negative) <$>
        if cs = ['.', 'i', 'n', 'f'] then .ok (.infinity false)
        else if cs.contains ':' then do
          sumSexagesimalDoubles (← (Text.pieces (· = ':') cs).mapM doubleOf)
        else doubleOf cs

end ProductionClosure.Yaml
