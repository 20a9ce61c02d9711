import ProductionClosure.Json.Decoder
import ProductionClosure.Text.Pieces

/-!
Which plain texts are numbers. Underscores group digits, a colon separates digits to the base sixty,
and marks at the front choose other bases.
-/

namespace ProductionClosure.Yaml

private def withoutSign : List Char → List Char
  | '-' :: rest => rest
  | '+' :: rest => rest
  | cs => cs

private def isGrouped (isDigit : Char → Bool) (c : Char) : Bool := isDigit c || c = '_'

private def isDigitRun : List Char → Bool
  | [] => false
  | c :: rest => Json.isDigit c && rest.all (isGrouped Json.isDigit)

private def isSexagesimal : List Char → Bool
  | [c] => Json.isDigit c
  | [c, d] => '0' ≤ c && c ≤ '5' && Json.isDigit d
  | _ => false

private def isSexagesimalRun (first : List Char → Bool) (cs : List Char) : Bool :=
  match Text.pieces (· = ':') cs with
  | head :: rest@(_ :: _) => first head && rest.all isSexagesimal
  | _ => false

private def isPositiveRun (cs : List Char) : Bool := isDigitRun cs && cs.head? ≠ some '0'

def isInteger (cs : List Char) : Bool :=
  match withoutSign cs with
  | '0' :: 'b' :: rest => !rest.isEmpty && rest.all (isGrouped fun c => c = '0' || c = '1')
  | '0' :: 'x' :: rest => !rest.isEmpty && rest.all (isGrouped fun c => (Json.hexValue? c).isSome)
  | '0' :: rest => rest.all (isGrouped fun c => '0' ≤ c && c ≤ '7')
  | cs => isPositiveRun cs || isSexagesimalRun isPositiveRun cs

private def isExponent : List Char → Bool
  | [] => true
  | letter :: sign :: digits =>
    (letter = 'e' || letter = 'E') && (sign = '-' || sign = '+') && !digits.isEmpty
      && digits.all Json.isDigit
  | _ => false

private def isExponentLetter (c : Char) : Bool := c = 'e' || c = 'E'

private def isFraction (cs : List Char) : Bool :=
  (cs.takeWhile (!isExponentLetter ·)).all (isGrouped Json.isDigit)
    && isExponent (cs.dropWhile (!isExponentLetter ·))

private def isPoint (c : Char) : Bool := c = '.'

def isFloat (cs : List Char) : Bool :=
  let unsigned := withoutSign cs
  let whole := unsigned.takeWhile (!isPoint ·)
  match unsigned.dropWhile (!isPoint ·) with
  | [] => false
  | _ :: fraction =>
    (isDigitRun whole && isFraction fraction)
      || (isSexagesimalRun isDigitRun whole && fraction.all (isGrouped Json.isDigit))
      || (whole.isEmpty && ["inf", "Inf", "INF"].contains (String.ofList fraction))
      || (unsigned = cs && whole.isEmpty
        && (["nan", "NaN", "NAN"].contains (String.ofList fraction)
          || ((fraction.head?.any Json.isDigit) && isFraction fraction)))

end ProductionClosure.Yaml
