import ProductionClosure.Yaml.Problem

/-!
A place in a YAML text, with what lies ahead. Past the end there is a NUL, which no text may hold.
-/

namespace ProductionClosure.Yaml

def isBreak (c : Char) : Bool :=
  c = '\n' || c = '\r' || c = '\x85' || c = '\u2028' || c = '\u2029'

def isEnd (c : Char) : Bool := c = '\x00'

def isBreakOrEnd (c : Char) : Bool := isBreak c || isEnd c

def isSpaceOrEnd (c : Char) : Bool := c = ' ' || c = '\t' || isBreakOrEnd c

def isAllowed (c : Char) : Bool :=
  let code := c.toNat
  c = '\t' || c = '\n' || c = '\r' || (0x20 ≤ code && code ≤ 0x7e) || c = '\x85'
    || (0xa0 ≤ code && code ≤ 0xfffd) || 0x10000 ≤ code

/-- Letters, digits, `-` and `_`: the characters of anchors, handles and directive names. -/
def isWordChar (c : Char) : Bool :=
  ('0' ≤ c && c ≤ '9') || ('A' ≤ c && c ≤ 'Z') || ('a' ≤ c && c ≤ 'z') || c = '-' || c = '_'

structure Cursor where
  rest : List Char
  index : Nat
  line : Nat
  column : Nat

namespace Cursor

def ofChars (cs : List Char) : Cursor := ⟨cs, 0, 0, 0⟩

def peek (c : Cursor) (ahead : Nat := 0) : Char := c.rest.getD ahead '\x00'

/-- One character further. A byte order mark has no width. -/
def next (c : Cursor) : Cursor :=
  match c.rest with
  | [] => c
  | ch :: rest =>
    if isBreak ch && !(ch = '\r' && rest.head? = some '\n') then
      ⟨rest, c.index + 1, c.line + 1, 0⟩
    else ⟨rest, c.index + 1, c.line, if ch = '\ufeff' then c.column else c.column + 1⟩

def skip (c : Cursor) : Nat → Cursor
  | 0 => c
  | n + 1 => c.next.skip n

def takeWhile (c : Cursor) (test : Char → Bool) : List Char × Cursor :=
  let taken := c.rest.takeWhile test
  (taken, c.skip taken.length)

def skipWhile (c : Cursor) (test : Char → Bool) : Cursor := (c.takeWhile test).2

def skipSpaces (c : Cursor) : Cursor := c.skipWhile (· = ' ')

/-- Steps over a line end and yields it, every plain one as a line feed. -/
def lineBreak? (c : Cursor) : Option (Char × Cursor) :=
  match c.rest with
  | '\r' :: '\n' :: _ => some ('\n', c.skip 2)
  | ch :: _ =>
    if ch = '\u2028' || ch = '\u2029' then some (ch, c.next)
    else if isBreak ch then some ('\n', c.next)
    else none
  | [] => none

def skipLineBreak (c : Cursor) : Cursor := (c.lineBreak?.map (·.2)).getD c

def skipComment (c : Cursor) : Cursor :=
  if c.peek = '#' then c.skipWhile (!isBreakOrEnd ·) else c

/-- Whether a line of three of these characters, standing alone, is ahead. -/
def atMarker (c : Cursor) (mark : Char) : Bool :=
  c.peek = mark && c.peek 1 = mark && c.peek 2 = mark && isSpaceOrEnd (c.peek 3)

def atDocumentMarker (c : Cursor) : Bool := c.atMarker '-' || c.atMarker '.'

/-- Steps over blanks and a comment to the end of the line, where nothing else may stand. -/
def finishLine (c : Cursor) : Reading Cursor :=
  let c := c.skipSpaces.skipComment
  if isBreakOrEnd c.peek then .ok c.skipLineBreak else .error .malformed

end Cursor

end ProductionClosure.Yaml
