import ProductionClosure.Yaml.Number.Form
import ProductionClosure.Yaml.Timestamp

/-!
The kinds of nodes. A tag is written out in full or, on a scalar without one, follows from the text.
-/

namespace ProductionClosure.Yaml

inductive Tag where
  | null
  | bool
  | int
  | float
  | string
  | binary
  | timestamp
  | sequence
  | mapping
  | set
  | orderedPairs
  | pairs
  | merge
  | value
  | unknown
  deriving DecidableEq, Repr

def Tag.ofName (name : String) : Tag :=
  if name = "tag:yaml.org,2002:null" then .null
  else if name = "tag:yaml.org,2002:bool" then .bool
  else if name = "tag:yaml.org,2002:int" then .int
  else if name = "tag:yaml.org,2002:float" then .float
  else if name = "tag:yaml.org,2002:str" then .string
  else if name = "tag:yaml.org,2002:binary" then .binary
  else if name = "tag:yaml.org,2002:timestamp" then .timestamp
  else if name = "tag:yaml.org,2002:seq" then .sequence
  else if name = "tag:yaml.org,2002:map" then .mapping
  else if name = "tag:yaml.org,2002:set" then .set
  else if name = "tag:yaml.org,2002:omap" then .orderedPairs
  else if name = "tag:yaml.org,2002:pairs" then .pairs
  else if name = "tag:yaml.org,2002:merge" then .merge
  else if name = "tag:yaml.org,2002:value" then .value
  else .unknown

def trueWords : List String := ["yes", "Yes", "YES", "true", "True", "TRUE", "on", "On", "ON"]

def falseWords : List String := ["no", "No", "NO", "false", "False", "FALSE", "off", "Off", "OFF"]

def nullWords : List String := ["", "~", "null", "Null", "NULL"]

def Tag.ofWord (word : String) : Tag :=
  let cs := word.toList
  if trueWords.contains word || falseWords.contains word then .bool
  else if isFloat cs then .float
  else if isInteger cs then .int
  else if word = "<<" then .merge
  else if nullWords.contains word then .null
  else if Timestamp.isTimestamp cs then .timestamp
  else if word = "=" then .value
  else if word = "!" || word = "&" || word = "*" then .unknown
  else .string

/-- The tag of a scalar without one. A line feed at the end of its text does not count, unless it is
all there is. -/
def Tag.ofText (text : String) : Tag :=
  if text = "\n" then .string else .ofWord (String.ofList (Text.withoutLineFeed text.toList))

end ProductionClosure.Yaml
