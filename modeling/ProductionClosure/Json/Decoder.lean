import ProductionClosure.Json.Basic

/-!
Reading JSON texts. Besides the standard grammar the words `NaN`, `Infinity` and `-Infinity` are
numbers. A failure names the first place where the text cannot go on; nesting past a fixed depth
and integers past a fixed length are refused on their own grounds.
-/

namespace ProductionClosure.Json

inductive SyntaxProblem where
  | expectedValue
  | expectedName
  | expectedColon
  | expectedComma
  | extraData
  | unterminatedString
  | controlCharacter
  | badEscape
  | badUnicodeEscape
  | byteOrderMark
  deriving DecidableEq, Repr

inductive Container where
  | array
  | object
  deriving DecidableEq, Repr

/-- A place in a text: characters before it, its line and its column, the last two from one. -/
structure Position where
  offset : Nat
  line : Nat
  column : Nat
  deriving DecidableEq, Repr

inductive DecodeFailure where
  | malformed (problem : SyntaxProblem) (position : Position)
  | tooDeep (container : Container)
  | integerTooLong (digits : Nat)
  deriving DecidableEq, Repr

def maxDepth : Nat := 990

def maxIntegerDigits : Nat := 4300

def isTooLong (n : Int) : Bool := Binary64.tenTo maxIntegerDigits ≤ n.natAbs

/-- What stops the reader. A problem is located by the number of characters that are left. -/
inductive Stop where
  | malformed (problem : SyntaxProblem) (remaining : Nat)
  | tooDeep (container : Container)
  | integerTooLong (digits : Nat)

abbrev Reading (α : Type) := Except Stop (α × List Char)

private def fault {α : Type} (problem : SyntaxProblem) (rest : List Char) : Reading α :=
  .error (.malformed problem rest.length)

def isSpace (c : Char) : Bool := c = ' ' || c = '\t' || c = '\n' || c = '\r'

def skipSpace (cs : List Char) : List Char := cs.dropWhile isSpace

/-! ### Strings -/

def hexValue? (c : Char) : Option Nat :=
  if '0' ≤ c ∧ c ≤ '9' then some (c.toNat - '0'.toNat)
  else if 'a' ≤ c ∧ c ≤ 'f' then some (c.toNat - 'a'.toNat + 10)
  else if 'A' ≤ c ∧ c ≤ 'F' then some (c.toNat - 'A'.toNat + 10)
  else none

def hex4? (a b c d : Char) : Option Nat := do
  let a ← hexValue? a
  let b ← hexValue? b
  let c ← hexValue? c
  let d ← hexValue? d
  pure (((a * 16 + b) * 16 + c) * 16 + d)

def shortEscape? (c : Char) : Option Char :=
  match c with
  | '"' => some '"'
  | '\\' => some '\\'
  | '/' => some '/'
  | 'b' => some '\x08'
  | 'f' => some '\x0c'
  | 'n' => some '\n'
  | 'r' => some '\r'
  | 't' => some '\t'
  | _ => none

private def withCode (code : Nat) (reading : Reading (List Nat)) : Reading (List Nat) :=
  reading.map fun (codes, rest) => (code :: codes, rest)

/-- The codes of a string up to its closing quote, an escaped surrogate half being a code of its
own. `opening` is the text from the opening quote on. -/
def stringCodes (opening : List Char) : List Char → Reading (List Nat)
  | [] => fault .unterminatedString opening
  | '"' :: rest => .ok ([], rest)
  | '\\' :: [] => fault .unterminatedString opening
  | '\\' :: 'u' :: a :: b :: c :: d :: rest =>
    match rest.isEmpty, hex4? a b c d with
    | false, some code => withCode code (stringCodes opening rest)
    | _, _ => fault .badUnicodeEscape ('u' :: a :: b :: c :: d :: rest)
  | '\\' :: 'u' :: rest => fault .badUnicodeEscape ('u' :: rest)
  | '\\' :: e :: rest =>
    match shortEscape? e with
    | some c => withCode c.toNat (stringCodes opening rest)
    | none => fault .badEscape ('\\' :: e :: rest)
  | c :: rest =>
    if c.toNat < 0x20 then fault .controlCharacter (c :: rest)
    else withCode c.toNat (stringCodes opening rest)

def isHighSurrogate (code : Nat) : Bool := 0xd800 ≤ code && code < 0xdc00

def isLowSurrogate (code : Nat) : Bool := 0xdc00 ≤ code && code < 0xe000

/-- The characters of codes: a high and a low half in a row are one character, and a half without
its partner, which no text can hold, is replaced. -/
def charsOfCodes : List Nat → List Char
  | [] => []
  | high :: low :: rest =>
    if isHighSurrogate high && isLowSurrogate low then
      Char.ofNat (0x10000 + (high - 0xd800) * 0x400 + (low - 0xdc00)) :: charsOfCodes rest
    else if isHighSurrogate high || isLowSurrogate high then
      '\ufffd' :: charsOfCodes (low :: rest)
    else Char.ofNat high :: charsOfCodes (low :: rest)
  | [code] =>
    if isHighSurrogate code || isLowSurrogate code then ['\ufffd'] else [Char.ofNat code]

def readString (afterQuote : List Char) : Reading String :=
  (stringCodes ('"' :: afterQuote) afterQuote).map fun (codes, rest) =>
    (String.ofList (charsOfCodes codes), rest)

/-! ### Numbers -/

def isDigit (c : Char) : Bool := '0' ≤ c && c ≤ '9'

def spanDigits (cs : List Char) : List Char × List Char :=
  (cs.takeWhile isDigit, cs.dropWhile isDigit)

def natOfDigits (cs : List Char) : Nat :=
  cs.foldl (fun n c => n * 10 + (c.toNat - '0'.toNat)) 0

def readFraction (cs : List Char) : Option (List Char) × List Char :=
  match cs with
  | '.' :: d :: rest =>
    if isDigit d then
      let (digits, rest) := spanDigits (d :: rest)
      (some digits, rest)
    else (none, cs)
  | _ => (none, cs)

private def exponentDigits (negative : Bool) (cs whole : List Char) : Option Int × List Char :=
  match spanDigits cs with
  | ([], _) => (none, whole)
  | (digits, rest) =>
    let size : Int := natOfDigits digits
    (some (if negative then -size else size), rest)

def readExponent (cs : List Char) : Option Int × List Char :=
  match cs with
  | letter :: rest =>
    if letter = 'e' ∨ letter = 'E' then
      match rest with
      | '-' :: tail => exponentDigits true tail cs
      | '+' :: tail => exponentDigits false tail cs
      | _ => exponentDigits false rest cs
    else (none, cs)
  | [] => (none, cs)

/-- Behind an exponent stands an end of the text. -/
theorem readExponent_suffix (cs : List Char) : (readExponent cs).2 <:+ cs := by
  have hdigits : ∀ negative tail, tail <:+ cs → (exponentDigits negative tail cs).2 <:+ cs := by
    intro negative tail htail
    unfold exponentDigits
    split
    · exact List.suffix_refl cs
    · next digits rest _ hspan =>
      have hrest : rest = tail.dropWhile isDigit := (congrArg Prod.snd hspan).symm
      rw [hrest]
      exact (List.dropWhile_suffix isDigit).trans htail
  unfold readExponent
  split
  · next letter rest =>
    split
    · have hrest : rest <:+ letter :: rest := List.suffix_cons letter rest
      split
      · exact hdigits true _ ((List.suffix_cons _ _).trans hrest)
      · exact hdigits false _ ((List.suffix_cons _ _).trans hrest)
      · exact hdigits false _ hrest
    · exact List.suffix_refl _
  · exact List.suffix_refl _

def numberOf (negative : Bool) (whole : List Char) (fraction : Option (List Char))
    (exponent : Option Int) : Except Stop Json :=
  match fraction, exponent with
  | none, none =>
    if maxIntegerDigits < whole.length then .error (.integerTooLong whole.length)
    else
      let size : Int := natOfDigits whole
      .ok (.int (if negative then -size else size))
  | _, _ =>
    let places := fraction.getD []
    .ok (.float (.ofDecimal negative (natOfDigits (whole ++ places))
      (exponent.getD 0 - (places.length : Int))))

/-- A number; `start` is the text from its sign on. -/
def readNumber (start : List Char) (negative : Bool) (cs : List Char) : Reading Json :=
  match cs with
  | [] => fault .expectedValue start
  | c :: rest =>
    if isDigit c then
      let (whole, rest) := if c = '0' then (['0'], rest) else spanDigits (c :: rest)
      let (fraction, rest) := readFraction rest
      let (exponent, rest) := readExponent rest
      (numberOf negative whole fraction exponent).map fun value => (value, rest)
    else fault .expectedValue start

def readScalar (cs : List Char) : Reading Json :=
  match cs with
  | '"' :: rest => (readString rest).map fun (s, rest) => (.string s, rest)
  | 'n' :: 'u' :: 'l' :: 'l' :: rest => .ok (.null, rest)
  | 't' :: 'r' :: 'u' :: 'e' :: rest => .ok (.bool true, rest)
  | 'f' :: 'a' :: 'l' :: 's' :: 'e' :: rest => .ok (.bool false, rest)
  | 'N' :: 'a' :: 'N' :: rest => .ok (.float .nan, rest)
  | 'I' :: 'n' :: 'f' :: 'i' :: 'n' :: 'i' :: 't' :: 'y' :: rest =>
    .ok (.float (.infinity false), rest)
  | '-' :: 'I' :: 'n' :: 'f' :: 'i' :: 'n' :: 'i' :: 't' :: 'y' :: rest =>
    .ok (.float (.infinity true), rest)
  | '-' :: rest => readNumber cs true rest
  | _ => readNumber cs false cs

/-! ### Containers -/

mutual

/-- A value at the front of a text, inside `depth` containers. Each call uses one unit of fuel and
at least one character, so fuel past the text's length is never exhausted. -/
def readValue (fuel depth : Nat) (cs : List Char) : Reading Json :=
  match fuel with
  | 0 => fault .expectedValue cs
  | fuel + 1 =>
    match cs with
    | '[' :: rest =>
      if maxDepth ≤ depth then .error (.tooDeep .array)
      else
        match skipSpace rest with
        | ']' :: rest => .ok (.array [], rest)
        | rest => (readItems fuel (depth + 1) rest).map fun (items, rest) => (.array items, rest)
    | '\x7b' :: rest =>
      if maxDepth ≤ depth then .error (.tooDeep .object)
      else
        match skipSpace rest with
        | '\x7d' :: rest => .ok (.object [], rest)
        | rest =>
          (readMembers fuel (depth + 1) [] rest).map fun (members, rest) => (.object members, rest)
    | _ => readScalar cs

def readItems (fuel depth : Nat) (cs : List Char) : Reading (List Json) :=
  match fuel with
  | 0 => fault .expectedValue cs
  | fuel + 1 =>
    match readValue fuel depth cs with
    | .error stop => .error stop
    | .ok (item, rest) =>
      match skipSpace rest with
      | ']' :: rest => .ok ([item], rest)
      | ',' :: rest =>
        (readItems fuel depth (skipSpace rest)).map fun (items, rest) => (item :: items, rest)
      | rest => fault .expectedComma rest

/-- The members of an object up to its closing brace, added to those already read. -/
def readMembers (fuel depth : Nat) (members : Members) (cs : List Char) : Reading Members :=
  match fuel with
  | 0 => fault .expectedValue cs
  | fuel + 1 =>
    match cs with
    | '"' :: rest =>
      match readString rest with
      | .error stop => .error stop
      | .ok (key, rest) =>
        match skipSpace rest with
        | ':' :: rest =>
          match readValue fuel depth (skipSpace rest) with
          | .error stop => .error stop
          | .ok (value, rest) =>
            match skipSpace rest with
            | '\x7d' :: rest => .ok (members.set key value, rest)
            | ',' :: rest => readMembers fuel depth (members.set key value) (skipSpace rest)
            | rest => fault .expectedComma rest
        | rest => fault .expectedColon rest
    | _ => fault .expectedName cs

end

/-! ### Whole texts -/

def positionAfter (before : List Char) : Position where
  offset := before.length
  line := before.count '\n' + 1
  column := (before.reverse.takeWhile (· ≠ '\n')).length + 1

private def failureOf (cs : List Char) : Stop → DecodeFailure
  | .malformed problem remaining =>
    .malformed problem (positionAfter (cs.take (cs.length - remaining)))
  | .tooDeep container => .tooDeep container
  | .integerTooLong digits => .integerTooLong digits

def readText (cs : List Char) : Except Stop Json :=
  match cs with
  | '\ufeff' :: _ => .error (.malformed .byteOrderMark cs.length)
  | _ =>
    match readValue (2 * cs.length + 1) 0 (skipSpace cs) with
    | .error stop => .error stop
    | .ok (value, rest) =>
      match skipSpace rest with
      | [] => .ok value
      | rest => .error (.malformed .extraData rest.length)

def decode (text : String) : Except DecodeFailure Json :=
  (readText text.toList).mapError (failureOf text.toList)

/-! ### Wording -/

def SyntaxProblem.message : SyntaxProblem → String
  | .expectedValue => "Expecting value"
  | .expectedName => "Expecting property name enclosed in double quotes"
  | .expectedColon => "Expecting ':' delimiter"
  | .expectedComma => "Expecting ',' delimiter"
  | .extraData => "Extra data"
  | .unterminatedString => "Unterminated string starting at"
  | .controlCharacter => "Invalid control character at"
  | .badEscape => "Invalid \\escape"
  | .badUnicodeEscape => "Invalid \\uXXXX escape"
  | .byteOrderMark => "Unexpected UTF-8 BOM (decode using utf-8-sig)"

def Container.noun : Container → String
  | .array => "array"
  | .object => "object"

def integerTooLongMessage (digits : Nat) : String :=
  s!"Exceeds the limit ({maxIntegerDigits} digits) for integer string conversion: "
    ++ s!"value has {digits} digits; use sys.set_int_max_str_digits() to increase the limit"

def integerNotShownMessage : String :=
  s!"Exceeds the limit ({maxIntegerDigits} digits) for integer string conversion; "
    ++ "use sys.set_int_max_str_digits() to increase the limit"

def DecodeFailure.message : DecodeFailure → String
  | .malformed problem position =>
    s!"{problem.message}: line {position.line} column {position.column} (char {position.offset})"
  | .tooDeep container =>
    s!"maximum recursion depth exceeded while decoding a JSON {container.noun} "
      ++ "from a unicode string"
  | .integerTooLong digits => integerTooLongMessage digits

end ProductionClosure.Json
