import ProductionClosure.Json.Basic
import ProductionClosure.World

/-!
Worlds written down as JSON. A snapshot lists the files, folders and links of a disk in the order in
which they are put there, says how the package manager turns out in each folder, and gives the texts
that are passed on.
-/

namespace ProductionClosure.Snapshot

def hexDigit? (c : Char) : Option Nat :=
  if '0' ≤ c ∧ c ≤ '9' then some (c.toNat - '0'.toNat)
  else if 'a' ≤ c ∧ c ≤ 'f' then some (c.toNat - 'a'.toNat + 10)
  else if 'A' ≤ c ∧ c ≤ 'F' then some (c.toNat - 'A'.toNat + 10)
  else none

def octetsOfHex : List Char → List UInt8
  | high :: low :: rest =>
    match hexDigit? high, hexDigit? low with
    | some h, some l => UInt8.ofNat (16 * h + l) :: octetsOfHex rest
    | _, _ => []
  | _ => []

/-- Octets: those of a text, or those written in hexadecimal digits. -/
def octets? : Json → Option (List UInt8)
  | .string text => some (Text.encodeUtf8 text)
  | value => (value.get? "hex").bind fun hex => hex.string?.map fun s => octetsOfHex s.toList

def strings (value : Json) : List String := (value.array?.getD []).filterMap Json.string?

def environment (value : Json) : Environment :=
  (value.members?.getD []).filterMap fun (name, value) => value.string?.map (name, ·)

/-- Puts one item on a disk: its kind, its path, and its content or target. -/
def putItem (files : FileSystem) (item : Json) : FileSystem :=
  match item with
  | .array (.string kind :: .string path :: data) =>
    let place := FileSystem.placeOf path
    let content := (data.head?.bind octets?).getD []
    match kind with
    | "dir" => files.put place .directory
    | "file" => files.put place (.file content true)
    | "noread" => files.put place (.file content false)
    | "link" => files.put place (.link ((data.head?.bind Json.string?).getD ""))
    | _ => files
  | _ => files

def putItems (files : FileSystem) (items : Json) : FileSystem :=
  (items.array?.getD []).foldl putItem files

/-- What a stream printed: nothing unless it is given, and no stream at all if it is null. -/
def stream (value : Option Json) : Option (List UInt8) :=
  match value with
  | none => some []
  | some value => octets? value

def outcome? (value : Json) : Option ProcessOutcome :=
  match value.get? "raise" with
  | some (.string "missing") => some (.notStarted .missing)
  | some (.string "denied") => some (.notStarted .denied)
  | some (.string "value") => some (.notStarted .nulCharacter)
  | some _ => none
  | none =>
    let code := match value.get? "rc" with
      | some (.int n) => n
      | _ => 0
    some (.ended (stream (value.get? "stdout")) (stream (value.get? "stderr")) code)

/-- Changes what is known of the package manager: outcomes by folder are added, the rest is
replaced where it is given. -/
def withTools (tools : Tools) (snapshot : Json) : Tools where
  listings :=
    (((snapshot.get? "pnpm").bind Json.members?).getD []).filterMap
      (fun (folder, value) => (outcome? value).map (folder, ·)) ++ tools.listings
  version := ((snapshot.get? "pnpm_version").map outcome?).getD tools.version
  onPath := ((snapshot.get? "on_path").map strings).getD tools.onPath
  platform := tools.platform

/-- The texts that are passed on: the help of each command by its name, and one text for all command
lines and one for all settings files that cannot be read. -/
def wording (value : Json) : Wording where
  help command := text ((value.get? "help").getD .null) (String.intercalate " " command)
  usage _ _ := text value "usage"
  malformedYaml _ := text value "yaml"
where
  text (value : Json) (key : String) : String := ((value.get? key).bind Json.string?).getD ""

def world (snapshot : Json) : World where
  files :=
    { putItems FileSystem.empty ((snapshot.get? "fs").getD .null) with
      workingFolder := ((snapshot.get? "cwd").bind Json.string?).getD "/" }
  tools := withTools {} snapshot
  environment := environment ((snapshot.get? "env").getD .null)
  wording := wording ((snapshot.get? "wording").getD .null)

end ProductionClosure.Snapshot
