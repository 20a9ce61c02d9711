import ProductionClosure.Json.Basic
import ProductionClosure.Text.Utf8

/-!
Writing JSON texts in plain ASCII: whatever lies outside the visible ASCII characters is escaped, a
character past the first plane as a surrogate pair. A text is either one line or one item a line,
two more columns for each level.
-/

namespace ProductionClosure.Json

def escapedUnit (code : Nat) : String := "\\u" ++ Text.hexText 4 code

def escapedChar (c : Char) : String :=
  match c with
  | '"' => "\\\""
  | '\\' => "\\\\"
  | '\n' => "\\n"
  | '\r' => "\\r"
  | '\t' => "\\t"
  | '\x0c' => "\\f"
  | '\x08' => "\\b"
  | c =>
    let code := c.toNat
    if 0x20 ≤ code ∧ code ≤ 0x7e then String.singleton c
    else if code < 0x10000 then escapedUnit code
    else
      escapedUnit (0xd800 + (code - 0x10000) / 0x400)
        ++ escapedUnit (0xdc00 + (code - 0x10000) % 0x400)

def stringText (s : String) : String :=
  "\"" ++ String.join (s.toList.map escapedChar) ++ "\""

def floatText (x : Binary64) : String :=
  if x.isNaN then "NaN"
  else if x.isInfinite then (if x.isNegative then "-Infinity" else "Infinity")
  else x.toText

/-- How the parts of a container are set apart. -/
inductive Layout where
  | line
  | block (level : Nat)

def Layout.inner : Layout → Layout
  | .line => .line
  | .block level => .block (level + 1)

private def indentation (level : Nat) : String :=
  "\n" ++ String.ofList (List.replicate (2 * level) ' ')

def Layout.opening : Layout → String
  | .line => ""
  | .block level => indentation (level + 1)

def Layout.separator : Layout → String
  | .line => ", "
  | .block level => "," ++ indentation (level + 1)

def Layout.closing : Layout → String
  | .line => ""
  | .block level => indentation level

/-- Puts the parts of a container between its brackets; an empty one is the brackets alone. -/
def bracketed (layout : Layout) (opening closing : String) (parts : List String) : String :=
  if parts.isEmpty then opening ++ closing
  else
    opening ++ layout.opening ++ String.intercalate layout.separator parts ++ layout.closing
      ++ closing

mutual

def render (layout : Layout) : Json → String
  | .null => "null"
  | .bool true => "true"
  | .bool false => "false"
  | .int n => toString n
  | .float x => floatText x
  | .string s => stringText s
  | .array items => bracketed layout "[" "]" (renderItems layout.inner items)
  | .object members => bracketed layout "\x7b" "\x7d" (renderMembers layout.inner members)

def renderItems (layout : Layout) : List Json → List String
  | [] => []
  | item :: rest => render layout item :: renderItems layout rest

def renderMembers (layout : Layout) : List (String × Json) → List String
  | [] => []
  | (key, value) :: rest =>
    (stringText key ++ ": " ++ render layout value) :: renderMembers layout rest

end

def toLine (value : Json) : String := render .line value

def toBlock (value : Json) : String := render (.block 0) value

/-- A single value as plain text, without quotes and escapes. -/
def plainText : Json → String
  | .null => "None"
  | .bool true => "True"
  | .bool false => "False"
  | .int n => toString n
  | .float x => x.toText
  | .string s => s
  | value => value.toLine

def ofStrings (items : List String) : Json := .array (items.map .string)

def ofString? (s : Option String) : Json := s.elim .null .string

end ProductionClosure.Json
