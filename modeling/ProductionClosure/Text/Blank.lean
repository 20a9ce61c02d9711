/-!
Blank characters and trimming. The class holds the separators of all scripts and the control
characters that move the position: tab to carriage return, and the four information separators.
-/

namespace ProductionClosure.Text

/-- The information separators, which part texts and not words. -/
def isInformationSeparator (c : Char) : Bool := '\x1c' ≤ c && c ≤ '\x1f'

def isBlank (c : Char) : Bool :=
  let code := c.toNat
  (0x09 ≤ code && code ≤ 0x0d) || isInformationSeparator c || code == 0x20 || code == 0x85
    || code == 0xa0 || code == 0x1680 || (0x2000 ≤ code && code ≤ 0x200a) || code == 0x2028
    || code == 0x2029 || code == 0x202f || code == 0x205f || code == 0x3000

def trimChars (test : Char → Bool) (cs : List Char) : List Char :=
  ((cs.dropWhile test).reverse.dropWhile test).reverse

def trim (s : String) : String := String.ofList (trimChars isBlank s.toList)

def allBlank (s : String) : Bool :=
  s.toList.all isBlank

end ProductionClosure.Text
