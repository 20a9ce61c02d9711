/-!
Cutting a text at separators. The pieces of a text are what stands between its separators, so there
is one more of them than there are separators, and empty pieces are kept.
-/

namespace ProductionClosure.Text

def pushFront (c : Char) : List (List Char) → List (List Char)
  | [] => [[c]]
  | piece :: rest => (c :: piece) :: rest

def pieces (isSeparator : Char → Bool) : List Char → List (List Char)
  | [] => [[]]
  | c :: rest =>
    if isSeparator c then [] :: pieces isSeparator rest
    else pushFront c (pieces isSeparator rest)

def split (isSeparator : Char → Bool) (s : String) : List String :=
  (pieces isSeparator s.toList).map String.ofList

def splitSlash (s : String) : List String := split (· = '/') s

theorem pieces_ne_nil (isSeparator : Char → Bool) (cs : List Char) :
    pieces isSeparator cs ≠ [] := by
  cases cs with
  | nil => simp [pieces]
  | cons c rest =>
    rw [pieces]
    split
    · simp
    · cases pieces isSeparator rest <;> simp [pushFront]

end ProductionClosure.Text
