/-!
Text for a terminal. Messages may carry terminal codes of other programs; what is printed here goes
without them.
-/

namespace ProductionClosure.CommandLine

def isCodeParameter (c : Char) : Bool := c.isDigit || c = ';' || c = '?'

/-- What stands behind the terminal code that a text begins with: an escape, a bracket, parameters
and a letter. -/
def behindCode? : List Char → Option (List Char)
  | '\x1b' :: '[' :: rest =>
    match rest.dropWhile isCodeParameter with
    | c :: behind => if c.isAlpha then some behind else none
    | [] => none
  | _ => none

theorem length_behindCode? {cs rest : List Char} (h : behindCode? cs = some rest) :
    rest.length < cs.length := by
  unfold behindCode? at h
  split at h
  · next inner =>
    have bound : (inner.dropWhile isCodeParameter).length ≤ inner.length :=
      (List.dropWhile_sublist _).length_le
    split at h
    · next c behind hdrop =>
      split at h
      · cases h
        rw [hdrop, List.length_cons] at bound
        simp only [List.length_cons]
        omega
      · simp at h
    · simp at h
  · simp at h

def withoutCodes (cs : List Char) : List Char :=
  match _h : behindCode? cs with
  | some rest => withoutCodes rest
  | none =>
    match cs with
    | [] => []
    | c :: rest => c :: withoutCodes rest
  termination_by cs.length
  decreasing_by
    · exact length_behindCode? _h
    · simp

def line (text : String) : String := String.ofList (withoutCodes text.toList) ++ "\n"

end ProductionClosure.CommandLine
