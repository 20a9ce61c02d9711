import ProductionClosure.Path

/-!
A file system as a table: what stands at each place, a place being the names that lead to it from
the root without any link. Relative paths start from the working folder.
-/

namespace ProductionClosure

/-- The names from the root down to an entry. -/
abbrev Place := List String

inductive Entry where
  | directory
  | file (content : List UInt8) (readable : Bool)
  | link (target : String)
  deriving DecidableEq, Repr

def Entry.isDirectory : Entry → Bool
  | .directory => true
  | _ => false

def Entry.isFile : Entry → Bool
  | .file .. => true
  | _ => false

structure FileSystem where
  entries : List (Place × Entry)
  workingFolder : String
  deriving DecidableEq, Repr

namespace FileSystem

def empty : FileSystem := ⟨[], "/"⟩

/-- What stands at a place; the root is always a folder. -/
def entry? (fs : FileSystem) (place : Place) : Option Entry :=
  if place = [] then some .directory else fs.entries.lookup place

def placeOf (path : String) : Place :=
  Path.collapse true (Path.ofString path).segments

def remove (fs : FileSystem) (place : Place) : FileSystem :=
  { fs with entries := fs.entries.filter fun e => !place.isPrefixOf e.1 }

/-- The places strictly between the root and the given place, from the root down. -/
def ancestors (place : Place) : List Place :=
  (List.range place.length).tail.map place.take

/-- Adds the folders above a place where nothing stands yet. -/
def withParents (fs : FileSystem) (place : Place) : FileSystem :=
  { fs with
    entries := ((ancestors place).filter fun above => (fs.entry? above).isNone).map
      (fun above => (above, Entry.directory)) ++ fs.entries }

/-- Puts an entry at a place. A folder put over a folder keeps what is in it; anything else replaces
what stood there. -/
def put (fs : FileSystem) (place : Place) (entry : Entry) : FileSystem :=
  if place = [] then fs
  else
    let fs := fs.withParents place
    if entry = .directory ∧ fs.entry? place = some .directory then fs
    else
      let fs := fs.remove place
      { fs with entries := (place, entry) :: fs.entries }

end FileSystem

end ProductionClosure
