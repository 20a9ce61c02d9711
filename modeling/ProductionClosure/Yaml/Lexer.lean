import ProductionClosure.Yaml.Scalar
import ProductionClosure.Yaml.Token

/-!
Cutting a YAML text into tokens. Indentation is turned into brackets by a stack of columns. A key
without a mark is recognised only at the `:` behind it; until then the place where its mark belongs
is remembered, one for each level of flow collections, and dropped when the line or a fixed number
of characters is over.
-/

namespace ProductionClosure.Yaml

/-- A place that turns out to start a key if a `:` follows in time. -/
structure PossibleKey where
  tokenCount : Nat
  required : Bool
  index : Nat
  line : Nat
  column : Nat

/-- How far behind the start of a key its `:` may stand. -/
def maxKeyLength : Nat := 1024

structure Lexer where
  cursor : Cursor
  /-- The tokens so far, the last one first. -/
  tokens : List Token
  /-- The number of tokens so far. -/
  count : Nat
  flowLevel : Nat
  /-- The column of the innermost block, or -1. -/
  indent : Int
  outerIndents : List Int
  keyAllowed : Bool
  possibleKeys : List (Nat × PossibleKey)

namespace Lexer

def ofChars (cs : List Char) : Lexer :=
  ⟨.ofChars cs, [], 0, 0, -1, [], true, []⟩

def inFlow (l : Lexer) : Bool := l.flowLevel ≠ 0

def emit (l : Lexer) (token : Token) : Lexer :=
  { l with tokens := token :: l.tokens, count := l.count + 1 }

def moveTo (l : Lexer) (cursor : Cursor) : Lexer := { l with cursor := cursor }

/-- Puts a token behind the first so many tokens. -/
def insertAt (l : Lexer) (count : Nat) (token : Token) : Lexer :=
  { l with tokens := l.tokens.insertIdx (l.count - count) token, count := l.count + 1 }

def allowKey (l : Lexer) (allowed : Bool) : Lexer := { l with keyAllowed := allowed }

/-- Steps over blanks, comments and line ends. Outside of flow collections a new line may start with
a key. -/
def skipToToken (l : Lexer) (fuel : Nat) : Lexer :=
  match fuel with
  | 0 => l
  | fuel + 1 =>
    let c := l.cursor.skipSpaces.skipComment
    match c.lineBreak? with
    | some (_, c) => ((l.moveTo c).allowKey (l.keyAllowed || !l.inFlow)).skipToToken fuel
    | none => l.moveTo c

/-- Drops the possible keys that are too far behind; one that had to be a key is a fault. -/
def dropStaleKeys (l : Lexer) : Reading Lexer :=
  let stale (key : PossibleKey) : Bool :=
    key.line ≠ l.cursor.line || maxKeyLength < l.cursor.index - key.index
  if l.possibleKeys.any fun (_, key) => stale key && key.required then .error .malformed
  else .ok { l with possibleKeys := l.possibleKeys.filter fun (_, key) => !stale key }

def dropKey (l : Lexer) : Reading Lexer :=
  match l.possibleKeys.lookup l.flowLevel with
  | some key =>
    if key.required then .error .malformed
    else .ok { l with possibleKeys := l.possibleKeys.filter fun (level, _) => level ≠ l.flowLevel }
  | none => .ok l

/-- Remembers that the next token may start a key. -/
def saveKey (l : Lexer) : Reading Lexer :=
  if l.keyAllowed then do
    let required := !l.inFlow && l.indent = (l.cursor.column : Int)
    let l ← l.dropKey
    let key : PossibleKey :=
      ⟨l.count, required, l.cursor.index, l.cursor.line, l.cursor.column⟩
    pure { l with possibleKeys := (l.flowLevel, key) :: l.possibleKeys }
  else .ok l

def closeBlocks (column : Int) : List Int → Lexer → Lexer
  | [], l => l
  | outer :: rest, l =>
    if column < l.indent then
      closeBlocks column rest ({ l with indent := outer, outerIndents := rest }.emit .blockEnd)
    else l

def unwind (l : Lexer) (column : Int) : Lexer :=
  if l.inFlow then l else closeBlocks column l.outerIndents l

/-- Opens a block at a column deeper than the present one; `count` tokens stand before it. -/
def openBlock (l : Lexer) (column : Nat) (count : Nat) (token : Token) : Lexer :=
  if l.indent < (column : Int) then
    { l with indent := column, outerIndents := l.indent :: l.outerIndents }.insertAt count token
  else l

/-! ### Tokens of several characters -/

/-- A handle of tags: `!`, `!!` or a word between exclamation marks. -/
def tagHandle (c : Cursor) : Reading (String × Cursor) :=
  if c.peek ≠ '!' then .error .malformed
  else if c.peek 1 = ' ' then .ok ("!", c.next)
  else
    let (word, behind) := c.next.takeWhile isWordChar
    if behind.peek = '!' then .ok (String.ofList ('!' :: word ++ ['!']), behind.next)
    else .error .malformed

def isUriChar (c : Char) : Bool :=
  isWordChar c || (";/?:@&=+$,.!~*\x27()[]").contains c

def uriOctets (fuel : Nat) (c : Cursor) : Reading (List UInt8 × Cursor) :=
  match fuel with
  | 0 => .ok ([], c)
  | fuel + 1 =>
    if c.peek ≠ '%' then .ok ([], c)
    else
      match Json.hexValue? (c.peek 1), Json.hexValue? (c.peek 2) with
      | some high, some low => do
        let (octets, c) ← uriOctets fuel (c.skip 3)
        pure (UInt8.ofNat (high * 16 + low) :: octets, c)
      | _, _ => .error .malformed

def uriText (fuel : Nat) (c : Cursor) : Reading (String × Cursor) :=
  match fuel with
  | 0 => .ok ("", c)
  | fuel + 1 =>
    if c.peek = '%' then do
      let (octets, c) ← uriOctets (c.rest.length + 1) c
      match Text.decodeUtf8 octets with
      | .error _ => .error .malformed
      | .ok s =>
        let (text, c) ← uriText fuel c
        pure (s ++ text, c)
    else if isUriChar c.peek then do
      let (word, c) := c.takeWhile isUriChar
      let (text, c) ← uriText fuel c
      pure (String.ofList word ++ text, c)
    else .ok ("", c)

def uri (c : Cursor) : Reading (String × Cursor) :=
  if c.peek = '%' || isUriChar c.peek then uriText (c.rest.length + 1) c
  else .error .malformed

private def isSpaceBreakOrEnd (c : Char) : Bool := c = ' ' || isBreakOrEnd c

/-- A tag: a full one in angle brackets, a lone `!`, or a handle and a suffix. -/
def tag (c : Cursor) : Reading (Token × Cursor) := do
  let following := c.peek 1
  let (token, c) ←
    if following = '<' then do
      let (suffix, c) ← uri (c.skip 2)
      if c.peek = '>' then pure (Token.tag none suffix, c.next) else .error .malformed
    else if isSpaceOrEnd following then pure (Token.tag none "!", c.next)
    else do
      let ahead := c.next.rest.takeWhile fun ch => !isSpaceBreakOrEnd ch
      let (handle, c) ← if ahead.contains '!' then tagHandle c else pure ("!", c.next)
      let (suffix, c) ← uri c
      pure (Token.tag (some handle) suffix, c)
  if isSpaceBreakOrEnd c.peek then pure (token, c) else .error .malformed

def anchorName (c : Cursor) : Reading (String × Cursor) :=
  let (name, c) := c.next.takeWhile isWordChar
  if name.isEmpty then .error .malformed
  else if isSpaceOrEnd c.peek || ("?:,]\x7d%@\x60").contains c.peek then
    .ok (String.ofList name, c)
  else .error .malformed

private def number (c : Cursor) : Reading (Nat × Cursor) :=
  let (digits, c) := c.takeWhile Json.isDigit
  if digits.isEmpty then .error .malformed
  else if Json.maxIntegerDigits < digits.length then
    .error (.scalar (.integerTooLong digits.length))
  else .ok (Json.natOfDigits digits, c)

private def directiveValue (name : String) (c : Cursor) : Reading (Directive × Cursor) :=
  if name = "YAML" then do
    let (major, c) ← number c.skipSpaces
    if c.peek ≠ '.' then .error .malformed
    else
      let (minor, c) ← number c.next
      if isSpaceBreakOrEnd c.peek then pure (.version major minor, c) else .error .malformed
  else if name = "TAG" then do
    let (handle, c) ← tagHandle c.skipSpaces
    if c.peek ≠ ' ' then .error .malformed
    else
      let (value, c) ← uri c.skipSpaces
      if isSpaceBreakOrEnd c.peek then pure (.tag handle value, c) else .error .malformed
  else .ok (.other, c.skipWhile (!isBreakOrEnd ·))

def directive (c : Cursor) : Reading (Directive × Cursor) := do
  let (name, c) := c.next.takeWhile isWordChar
  if name.isEmpty || !isSpaceBreakOrEnd c.peek then .error .malformed
  else
    let (directive, c) ← directiveValue (String.ofList name) c
    let c ← c.finishLine
    pure (directive, c)

/-! ### One token -/

private def mark (l : Lexer) (token : Token) (width : Nat) : Lexer :=
  (l.moveTo (l.cursor.skip width)).emit token

private def flowStart (l : Lexer) (token : Token) : Reading Lexer := do
  let l ← l.saveKey
  pure (({ l with flowLevel := l.flowLevel + 1 }.allowKey true).mark token 1)

/-- The end of a flow collection; one that was never started fits nowhere. -/
private def flowEnd (l : Lexer) (token : Token) : Reading Lexer := do
  let l ← l.dropKey
  if l.flowLevel = 0 then .error .malformed
  else pure (({ l with flowLevel := l.flowLevel - 1 }.allowKey false).mark token 1)

private def documentMarker (l : Lexer) (token : Token) : Reading Lexer := do
  let l ← (l.unwind (-1)).dropKey
  pure ((l.allowKey false).mark token 3)

private def blockEntry (l : Lexer) : Reading Lexer := do
  if !l.inFlow && !l.keyAllowed then .error .malformed
  else
    let l := if l.inFlow then l
      else l.openBlock l.cursor.column l.count .blockSequenceStart
    let l ← (l.allowKey true).dropKey
    pure (l.mark .blockEntry 1)

private def keyMark (l : Lexer) : Reading Lexer := do
  if !l.inFlow && !l.keyAllowed then .error .malformed
  else
    let l := if l.inFlow then l
      else l.openBlock l.cursor.column l.count .blockMappingStart
    let l ← (l.allowKey (!l.inFlow)).dropKey
    pure (l.mark .key 1)

private def valueMark (l : Lexer) : Reading Lexer := do
  match l.possibleKeys.lookup l.flowLevel with
  | some key =>
    let l := { l with possibleKeys := l.possibleKeys.filter fun (level, _) => level ≠ l.flowLevel }
    let l := l.insertAt key.tokenCount .key
    let l := if l.inFlow then l else l.openBlock key.column key.tokenCount .blockMappingStart
    pure ((l.allowKey false).mark .value 1)
  | none =>
    if !l.inFlow && !l.keyAllowed then .error .malformed
    else
      let l := if l.inFlow then l
        else l.openBlock l.cursor.column l.count .blockMappingStart
      let l ← (l.allowKey (!l.inFlow)).dropKey
      pure (l.mark .value 1)

/-- A token that may start a key and forbids another one right behind it. -/
private def content (l : Lexer) (read : Cursor → Reading (Token × Cursor)) : Reading Lexer := do
  let l ← l.saveKey
  let (token, c) ← read l.cursor
  pure (((l.allowKey false).moveTo c).emit token)

private def block (l : Lexer) (folded : Bool) : Reading Lexer := do
  let l ← (l.allowKey true).dropKey
  let (text, c) ← blockScalar folded l.indent l.cursor
  pure ((l.moveTo c).emit (.scalar text false))

private def plain (l : Lexer) : Reading Lexer := do
  let l ← l.saveKey
  let (text, newLine, c) := plainScalar l.inFlow l.indent l.cursor
  pure (((l.allowKey newLine).moveTo c).emit (.scalar text true))

def startsPlain (inFlow : Bool) (ch following : Char) : Bool :=
  !(isSpaceOrEnd ch || ("-?:,[]\x7b\x7d#&*!|>\x27\"%@\x60").contains ch)
    || (!isSpaceOrEnd following && (ch = '-' || (!inFlow && (ch = '?' || ch = ':'))))

/-- The next token, with the brackets that its place calls for; the lexer must stand at its first
character. -/
def token (l : Lexer) : Reading Lexer :=
  let c := l.cursor
  let ch := c.peek
  let spaceFollows := isSpaceOrEnd (c.peek 1)
  if ch = '%' && c.column = 0 then do
    let l ← (l.unwind (-1)).dropKey
    let (directive, c) ← directive l.cursor
    pure (((l.allowKey false).moveTo c).emit (.directive directive))
  else if c.column = 0 && c.atMarker '-' then documentMarker l .documentStart
  else if c.column = 0 && c.atMarker '.' then documentMarker l .documentEnd
  else if ch = '[' then flowStart l .flowSequenceStart
  else if ch = '\x7b' then flowStart l .flowMappingStart
  else if ch = ']' then flowEnd l .flowSequenceEnd
  else if ch = '\x7d' then flowEnd l .flowMappingEnd
  else if ch = ',' then do
    let l ← (l.allowKey true).dropKey
    pure (l.mark .flowEntry 1)
  else if ch = '-' && spaceFollows then blockEntry l
  else if ch = '?' && (l.inFlow || spaceFollows) then keyMark l
  else if ch = ':' && (l.inFlow || spaceFollows) then valueMark l
  else if ch = '*' then content l fun c => do
    let (name, c) ← anchorName c
    pure (.alias name, c)
  else if ch = '&' then content l fun c => do
    let (name, c) ← anchorName c
    pure (.anchor name, c)
  else if ch = '!' then content l tag
  else if ch = '|' && !l.inFlow then block l false
  else if ch = '>' && !l.inFlow then block l true
  else if ch = '"' || ch = '\x27' then content l fun c => do
    let (text, c) ← quotedScalar (ch = '"') c
    pure (.scalar text false, c)
  else if startsPlain l.inFlow ch (c.peek 1) then plain l
  else .error .malformed

/-- Reads on by one token, or to the end of the text. The answer says whether this was the end. Fuel
past the text's length is enough for the blanks and comments ahead. -/
def step (fuel : Nat) (l : Lexer) : Reading (Bool × Lexer) := do
  let l := l.skipToToken fuel
  let l ← l.dropStaleKeys
  let l := l.unwind l.cursor.column
  if isEnd l.cursor.peek then
    let l ← (l.unwind (-1)).dropKey
    pure (true, l)
  else
    let l ← l.token
    pure (false, l)

/-- The tokens so far that are settled: those in front of every place that may turn out to start a
key. -/
def settled (l : Lexer) : Reading (List Token) := do
  let l ← l.dropStaleKeys
  let count := l.possibleKeys.foldl (fun count (_, key) => min count key.tokenCount) l.count
  pure (l.tokens.reverse.take count)

/-- All tokens from here to the end of the text. Every step but the last reads at least one
character, so fuel past the text's length is never exhausted. -/
def run (fuel : Nat) (l : Lexer) : Reading (List Token) :=
  match fuel with
  | 0 => .error .malformed
  | fuel + 1 =>
    match l.step fuel with
    | .ok (true, l) => .ok l.tokens.reverse
    | .ok (false, l) => run fuel l
    | .error (.scalar problem) => l.settled.map (· ++ [.unreadable problem])
    | .error problem => .error problem

end Lexer

/-- The tokens of a text. A byte order mark at its front is passed over. -/
def Token.ofChars (cs : List Char) : Reading (List Token) :=
  if cs.all isAllowed then
    let l := Lexer.ofChars cs
    let l := if l.cursor.peek = '\ufeff' then l.moveTo l.cursor.next else l
    l.run (cs.length + 2)
  else .error .malformed

end ProductionClosure.Yaml
