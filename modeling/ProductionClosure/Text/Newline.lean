/-!
Line ends. A carriage return, alone or before a line feed, stands for a line feed; after that a
text is split at line feeds only.
-/

namespace ProductionClosure.Text

def unifyNewlines : List Char → List Char
  | [] => []
  | '\r' :: '\n' :: rest => '\n' :: unifyNewlines rest
  | '\r' :: rest => '\n' :: unifyNewlines rest
  | c :: rest => c :: unifyNewlines rest

def withUnixNewlines (s : String) : String :=
  String.ofList (unifyNewlines s.toList)

def withoutLineFeed (cs : List Char) : List Char :=
  if cs.getLast? = some '\n' then cs.dropLast else cs

end ProductionClosure.Text
