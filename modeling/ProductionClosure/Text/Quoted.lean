import ProductionClosure.Text.Printable
import ProductionClosure.Text.Utf8

/-!
A text in quotes, as messages show it: single quotes unless the text holds a single quote and no
double one, a backslash before the quote and the backslash, short escapes for the common controls,
and hexadecimal escapes for whatever has no visible form.
-/

namespace ProductionClosure.Text

def quoteFor (cs : List Char) : Char :=
  if cs.contains '\x27' && !cs.contains '"' then '"' else '\x27'

def quotedChar (quote c : Char) : String :=
  if c = quote || c = '\\' then String.ofList ['\\', c]
  else if c = '\n' then "\\n"
  else if c = '\r' then "\\r"
  else if c = '\t' then "\\t"
  else if isPrintable c then String.singleton c
  else if c.toNat < 0x100 then "\\x" ++ hexText 2 c.toNat
  else if c.toNat < 0x10000 then "\\u" ++ hexText 4 c.toNat
  else "\\U" ++ hexText 8 c.toNat

def quoted (s : String) : String :=
  let cs := s.toList
  let quote := quoteFor cs
  String.singleton quote ++ String.join (cs.map (quotedChar quote)) ++ String.singleton quote

def quotedStart (count : Nat) (s : String) : String := String.ofList ((quoted s).toList.take count)

end ProductionClosure.Text
