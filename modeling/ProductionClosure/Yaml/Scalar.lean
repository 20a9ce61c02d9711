import ProductionClosure.Yaml.Cursor
import ProductionClosure.Text.Utf8

/-!
The three ways to write a scalar: in a block below its header, between quotes, and plain. Line ends
inside are folded: a single one becomes a blank, and of several the first one is dropped.
-/

namespace ProductionClosure.Yaml

private def hexOf (cs : List Char) : Option Nat :=
  cs.foldlM (fun n c => (Json.hexValue? c).map (n * 16 + ·)) 0

/-! ### Blocks -/

/-- What the header of a block says: whether line ends at the end are all kept, or all dropped, and
how far the block is indented. -/
structure BlockHeader where
  chomping : Option Bool
  increment : Option Nat

private def chompingOf (c : Char) : Option Bool :=
  if c = '+' then some true else if c = '-' then some false else none

private def incrementOf (c : Char) : Reading (Option Nat) :=
  if c = '0' then .error .malformed
  else if '1' ≤ c ∧ c ≤ '9' then .ok (some (c.toNat - '0'.toNat))
  else .ok none

def blockHeader (c : Cursor) : Reading (BlockHeader × Cursor) := do
  let finish (header : BlockHeader) (c : Cursor) : Reading (BlockHeader × Cursor) :=
    if c.peek = ' ' || isBreakOrEnd c.peek then .ok (header, c) else .error .malformed
  match chompingOf c.peek with
  | some chomping =>
    let c := c.next
    match ← incrementOf c.peek with
    | some increment => finish ⟨some chomping, some increment⟩ c.next
    | none => finish ⟨some chomping, none⟩ c
  | none =>
    match ← incrementOf c.peek with
    | some increment =>
      let c := c.next
      match chompingOf c.peek with
      | some chomping => finish ⟨some chomping, some increment⟩ c.next
      | none => finish ⟨none, some increment⟩ c
    | none => finish ⟨none, none⟩ c

def leadingBreaks (fuel : Nat) (deepest : Nat) (c : Cursor) : List Char × Nat × Cursor :=
  match fuel with
  | 0 => ([], deepest, c)
  | fuel + 1 =>
    if c.peek = ' ' then
      let c := c.next
      leadingBreaks fuel (max deepest c.column) c
    else
      match c.lineBreak? with
      | some (lineEnd, c) =>
        let (ends, deepest, c) := leadingBreaks fuel deepest c
        (lineEnd :: ends, deepest, c)
      | none => ([], deepest, c)

private def skipIndent (indent : Nat) (c : Cursor) : Cursor :=
  c.skip (min (indent - c.column) (c.rest.takeWhile (· = ' ')).length)

def blockBreaks (fuel : Nat) (indent : Nat) (c : Cursor) : List Char × Cursor :=
  match fuel with
  | 0 => ([], c)
  | fuel + 1 =>
    let c := skipIndent indent c
    match c.lineBreak? with
    | some (lineEnd, c) =>
      let (ends, c) := blockBreaks fuel indent c
      (lineEnd :: ends, c)
    | none => ([], c)

/-- The lines of a block. `breaks` are the empty lines before the line ahead; the answer is the text
with the last line's end and the empty lines behind it. -/
def blockLines (fuel : Nat) (folded : Bool) (indent : Nat) (breaks : List Char) (c : Cursor) :
    List Char × List Char × List Char × Cursor :=
  match fuel with
  | 0 => ([], [], breaks, c)
  | fuel + 1 =>
    let startsWithText := c.peek ≠ ' ' && c.peek ≠ '\t'
    let (line, c) := c.takeWhile (!isBreakOrEnd ·)
    let (lineEnd, c) := match c.lineBreak? with
      | some (lineEnd, c) => ([lineEnd], c)
      | none => ([], c)
    let (next, c) := blockBreaks (c.rest.length + 1) indent c
    if c.column = indent && !isEnd c.peek then
      let joint :=
        if folded && lineEnd = ['\n'] && startsWithText && c.peek ≠ ' ' && c.peek ≠ '\t' then
          if next.isEmpty then [' '] else []
        else lineEnd
      let (text, lastEnd, trailing, c) := blockLines fuel folded indent next c
      (breaks ++ line ++ joint ++ text, lastEnd, trailing, c)
    else (breaks ++ line, lineEnd, next, c)

def blockScalar (folded : Bool) (outer : Int) (c : Cursor) : Reading (String × Cursor) := do
  let (header, c) ← blockHeader c.next
  let c ← c.finishLine
  let least := max (outer + 1) 1 |>.toNat
  let fuel := c.rest.length + 1
  let (breaks, indent, c) := match header.increment with
    | none =>
      let (breaks, deepest, c) := leadingBreaks fuel 0 c
      (breaks, max least deepest, c)
    | some increment =>
      let indent := least + increment - 1
      let (breaks, c) := blockBreaks fuel indent c
      (breaks, indent, c)
  let (text, lastEnd, trailing, c) :=
    if c.column = indent && !isEnd c.peek then
      blockLines fuel folded indent breaks c
    else ([], [], breaks, c)
  let tail := match header.chomping with
    | some false => []
    | none => lastEnd
    | some true => lastEnd ++ trailing
  pure (String.ofList (text ++ tail), c)

/-! ### Quotes -/

def escape? (c : Char) : Option Char :=
  match c with
  | '0' => some '\x00'
  | 'a' => some '\x07'
  | 'b' => some '\x08'
  | 't' => some '\t'
  | '\t' => some '\t'
  | 'n' => some '\n'
  | 'v' => some '\x0b'
  | 'f' => some '\x0c'
  | 'r' => some '\r'
  | 'e' => some '\x1b'
  | ' ' => some ' '
  | '"' => some '"'
  | '\\' => some '\\'
  | '/' => some '/'
  | 'N' => some '\x85'
  | '_' => some '\xa0'
  | 'L' => some '\u2028'
  | 'P' => some '\u2029'
  | _ => none

def escapeDigits? (c : Char) : Option Nat :=
  match c with
  | 'x' => some 2
  | 'u' => some 4
  | 'U' => some 8
  | _ => none

/-- The character with a given code; half a surrogate pair is replaced. -/
private def charOfCode (code : Nat) : Reading Char :=
  if 0x80000000 ≤ code then .error (.scalar .hugeCharacter)
  else if 0x110000 ≤ code then .error (.scalar .noSuchCharacter)
  else if 0xd800 ≤ code ∧ code < 0xe000 then .ok '\ufffd'
  else .ok (Char.ofNat code)

def quotedBreaks (fuel : Nat) (c : Cursor) : Reading (List Char × Cursor) :=
  match fuel with
  | 0 => .ok ([], c)
  | fuel + 1 =>
    if c.atDocumentMarker then .error .malformed
    else
      let c := c.skipWhile fun ch => ch = ' ' || ch = '\t'
      match c.lineBreak? with
      | some (lineEnd, c) => do
        let (ends, c) ← quotedBreaks fuel c
        pure (lineEnd :: ends, c)
      | none => .ok ([], c)

def quotedEscape (c : Cursor) : Reading (List Char × Cursor) :=
  let c := c.next
  match escape? c.peek, escapeDigits? c.peek with
  | some ch, _ => .ok ([ch], c.next)
  | none, some count => do
    let c := c.next
    let digits := c.rest.take count
    match hexOf digits with
    | some code =>
      if digits.length < count then .error .malformed
      else
        let ch ← charOfCode code
        pure ([ch], c.skip count)
    | none => .error .malformed
  | none, none =>
    if isBreak c.peek then quotedBreaks (c.rest.length + 1) c.skipLineBreak
    else .error .malformed

private def after (first : List Char) (reading : Reading (List Char × Cursor)) :
    Reading (List Char × Cursor) :=
  reading.map fun (text, c) => (first ++ text, c)

def quotedText (fuel : Nat) (double : Bool) (c : Cursor) : Reading (List Char × Cursor) :=
  match fuel with
  | 0 => .error .malformed
  | fuel + 1 =>
    let ch := c.peek
    if isEnd ch then .error .malformed
    else if ch = ' ' || ch = '\t' || isBreak ch then
      let (blanks, c) := c.takeWhile fun ch => ch = ' ' || ch = '\t'
      match c.lineBreak? with
      | some (lineEnd, c) => do
        let (ends, c) ← quotedBreaks (c.rest.length + 1) c
        let joint :=
          if lineEnd ≠ '\n' then [lineEnd] else if ends.isEmpty then [' '] else []
        after (joint ++ ends) (quotedText fuel double c)
      | none => after blanks (quotedText fuel double c)
    else if double then
      if ch = '"' then .ok ([], c.next)
      else if ch = '\\' then do
        let (escaped, c) ← quotedEscape c
        after escaped (quotedText fuel double c)
      else after [ch] (quotedText fuel double c.next)
    else if ch = '\x27' then
      if c.peek 1 = '\x27' then after [ch] (quotedText fuel double (c.skip 2)) else .ok ([], c.next)
    else after [ch] (quotedText fuel double c.next)

def quotedScalar (double : Bool) (c : Cursor) : Reading (String × Cursor) := do
  let (text, c) ← quotedText (c.rest.length + 1) double c.next
  pure (String.ofList text, c)

/-! ### Plain -/

def endsPlain (inFlow : Bool) (ch following : Char) : Bool :=
  isSpaceOrEnd ch
    || (ch = ':' && (isSpaceOrEnd following
      || (inFlow && (following = ',' || following = '[' || following = ']'
        || following = '\x7b' || following = '\x7d'))))
    || (inFlow && (ch = ',' || ch = '?' || ch = '[' || ch = ']' || ch = '\x7b' || ch = '\x7d'))

def plainWord (inFlow : Bool) : List Char → List Char
  | [] => []
  | ch :: rest =>
    if endsPlain inFlow ch (rest.headD '\x00') then [] else ch :: plainWord inFlow rest

/-- The empty lines ahead inside a plain scalar, unless a document marker cuts it off. -/
def plainBreaks (fuel : Nat) (c : Cursor) : Option (List Char) × Cursor :=
  match fuel with
  | 0 => (some [], c)
  | fuel + 1 =>
    let c := c.skipSpaces
    match c.lineBreak? with
    | some (lineEnd, c) =>
      if c.atDocumentMarker then (none, c)
      else
        let (ends, c) := plainBreaks fuel c
        (ends.map (lineEnd :: ·), c)
    | none => (some [], c)

/-- What stands between two words of a plain scalar, blanks or line ends folded, unless the scalar
is over; and whether a line end was met. -/
def plainSpaces (c : Cursor) : Option (List Char) × Bool × Cursor :=
  let (blanks, c) := c.takeWhile (· = ' ')
  match c.lineBreak? with
  | some (lineEnd, c) =>
    if c.atDocumentMarker then (none, true, c)
    else
      let (ends, c) := plainBreaks (c.rest.length + 1) c
      let joint := fun ends : List Char =>
        if lineEnd ≠ '\n' then lineEnd :: ends else if ends.isEmpty then [' '] else ends
      (ends.map joint, true, c)
  | none => (if blanks.isEmpty then none else some blanks, false, c)

/-- The words of a plain scalar. `indent` is the least column of a further line outside of flow
collections, `newLine` whether the last step went over a line end. -/
def plainWords (fuel : Nat) (inFlow : Bool) (indent : Int) (spaces : List Char) (newLine : Bool)
    (c : Cursor) : List Char × Bool × Cursor :=
  match fuel with
  | 0 => ([], newLine, c)
  | fuel + 1 =>
    let word := if c.peek = '#' then [] else plainWord inFlow c.rest
    if word.isEmpty then ([], newLine, c)
    else
      let (between, newLine, c) := plainSpaces (c.skip word.length)
      match between with
      | none => (spaces ++ word, newLine, c)
      | some between =>
        if c.peek = '#' || (!inFlow && (c.column : Int) < indent) then
          (spaces ++ word, newLine, c)
        else
          let (text, newLine, c) := plainWords fuel inFlow indent between newLine c
          (spaces ++ word ++ text, newLine, c)

def plainScalar (inFlow : Bool) (outer : Int) (c : Cursor) : String × Bool × Cursor :=
  let (text, newLine, c) := plainWords (c.rest.length + 1) inFlow (outer + 1) [] false c
  (String.ofList text, newLine, c)

end ProductionClosure.Yaml
