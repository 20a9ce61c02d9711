import ProductionClosure.FileSystem.Basic
import ProductionClosure.Text.Quoted

/-!
Finding what a path names. A lookup goes name by name from the root or the working folder, follows
the links that it meets, and fails for one of a few reasons; the questions asked of a path answer
"no" for some of the reasons and pass the others on.
-/

namespace ProductionClosure

inductive FileProblem where
  | missing
  | denied
  | notDirectory
  | isDirectory
  | nameTooLong
  | tooManyLinks
  | nulCharacter
  deriving DecidableEq, Repr

/-- The system's number and words for a problem; a NUL is refused before the system is asked. -/
def FileProblem.systemText? : FileProblem → Option (Nat × String)
  | .missing => some (2, "No such file or directory")
  | .denied => some (13, "Permission denied")
  | .notDirectory => some (20, "Not a directory")
  | .isDirectory => some (21, "Is a directory")
  | .nameTooLong => some (36, "File name too long")
  | .tooManyLinks => some (40, "Too many levels of symbolic links")
  | .nulCharacter => none

def FileProblem.message (problem : FileProblem) (path : String) : String :=
  match problem.systemText? with
  | some (number, words) => s!"[Errno {number}] {words}: {Text.quoted path}"
  | none => "embedded null byte"

/-- A problem that means "there is no such thing" when one asks whether a path exists. -/
def FileProblem.meansAbsent : FileProblem → Bool
  | .missing | .notDirectory | .tooManyLinks | .nulCharacter => true
  | .denied | .isDirectory | .nameTooLong => false

namespace FileSystem

def maxLinks : Nat := 40

def maxNameOctets : Nat := 255

def maxPathOctets : Nat := 4095

/-- Follows the components of a path. `here` is the place reached and `links` the number of links
that may still be followed; a link in the last place is followed only on demand. The entry is
missing when only the last name leads nowhere. -/
def walk (fs : FileSystem) (followLast : Bool) (links : Nat) (here : Place) :
    List String → Except FileProblem (Place × Option Entry)
  | [] => .ok (here, fs.entry? here)
  | name :: rest =>
    match fs.entry? here with
    | none => .error .missing
    | some (.file ..) | some (.link _) => .error .notDirectory
    | some .directory =>
      if name = "" ∨ name = "." then walk fs followLast links here rest
      else if name = ".." then walk fs followLast links here.dropLast rest
      else if maxNameOctets < name.utf8ByteSize then .error .nameTooLong
      else
        let place := here ++ [name]
        match fs.entry? place with
        | none => if rest = [] then .ok (place, none) else .error .missing
        | some (.link target) =>
          if rest = [] ∧ !followLast then .ok (place, some (.link target))
          else
            match links with
            | 0 => .error .tooManyLinks
            | links + 1 =>
              if target = "" then .error .missing
              else
                walk fs followLast links (if (Path.ofString target).isAbsolute then [] else here)
                  (Text.splitSlash target ++ rest)
        | some _ => walk fs followLast links place rest
  termination_by components => (links, components.length)

def locate (fs : FileSystem) (followLast : Bool) (path : String) :
    Except FileProblem (Place × Option Entry) :=
  if path.contains '\x00' then .error .nulCharacter
  else if path = "" then .error .missing
  else if maxPathOctets < path.utf8ByteSize then .error .nameTooLong
  else
    let start := if (Path.ofString path).isAbsolute then [] else Text.splitSlash fs.workingFolder
    walk fs followLast maxLinks [] (start ++ Text.splitSlash path)

private def present : Place × Option Entry → Except FileProblem Entry
  | (_, some entry) => .ok entry
  | (_, none) => .error .missing

def status (fs : FileSystem) (path : String) : Except FileProblem Entry :=
  fs.locate true path >>= present

/-- What a path names, a link in its last place being an answer of its own. -/
def linkStatus (fs : FileSystem) (path : String) : Except FileProblem Entry :=
  fs.locate false path >>= present

def ask (fs : FileSystem) (test : Entry → Bool) (path : Path) : Except FileProblem Bool :=
  match fs.status path.toString with
  | .ok entry => .ok (test entry)
  | .error problem => if problem.meansAbsent then .ok false else .error problem

def exists? (fs : FileSystem) (path : Path) : Except FileProblem Bool :=
  fs.ask (fun _ => true) path

def isDirectory? (fs : FileSystem) (path : Path) : Except FileProblem Bool :=
  fs.ask Entry.isDirectory path

def isFile? (fs : FileSystem) (path : Path) : Except FileProblem Bool :=
  fs.ask Entry.isFile path

/-- Whether a path names a folder, every problem meaning "no". -/
def isDirectoryText (fs : FileSystem) (path : String) : Bool :=
  match fs.status path with
  | .ok entry => entry.isDirectory
  | .error _ => false

def read (fs : FileSystem) (path : String) : Except FileProblem (List UInt8) :=
  match fs.status path with
  | .ok (.file content true) => .ok content
  | .ok (.file _ false) => .error .denied
  | .ok _ => .error .isDirectory
  | .error problem => .error problem

/-- The place of the file that a path names for writing, made empty where nothing stands. -/
def openForAppending (fs : FileSystem) (path : String) : Except FileProblem (Place × FileSystem) :=
  match fs.locate true path with
  | .ok (place, some (.file _ true)) => .ok (place, fs)
  | .ok (_, some (.file _ false)) => .error .denied
  | .ok (_, some _) => .error .isDirectory
  | .ok (place, none) => .ok (place, fs.put place (.file [] true))
  | .error problem => .error problem

def append (fs : FileSystem) (place : Place) (octets : List UInt8) : FileSystem :=
  match fs.entry? place with
  | some (.file content readable) => fs.put place (.file (content ++ octets) readable)
  | _ => fs

end FileSystem

end ProductionClosure
