import ProductionClosure.Text.Newline
import ProductionClosure.Yaml.Problem

/-!
Dates and times in YAML scalars: a date alone, or a date with a time of day and perhaps the distance
of its clock from universal time.
-/

namespace ProductionClosure.Yaml

/-- A time of day, with the minutes by which its clock is ahead of universal time. -/
structure TimeOfDay where
  hour : Nat
  minute : Nat
  second : Nat
  microsecond : Nat
  offset : Option Int
  deriving DecidableEq, Repr

structure Timestamp where
  year : Nat
  month : Nat
  day : Nat
  time : Option TimeOfDay
  deriving DecidableEq, Repr

namespace Timestamp

private def oneOrTwo (cs : List Char) : Option (Nat × Nat × List Char) :=
  let digits := (cs.takeWhile Json.isDigit).take 2
  if digits.isEmpty then none
  else some (Json.natOfDigits digits, digits.length, cs.drop digits.length)

private def exactly (count : Nat) (cs : List Char) : Option (Nat × List Char) :=
  let digits := cs.take count
  if digits.length = count ∧ digits.all Json.isDigit then
    some (Json.natOfDigits digits, cs.drop count)
  else none

private def expect (c : Char) : List Char → Option (List Char)
  | d :: rest => if d = c then some rest else none
  | [] => none

private def isBlankChar (c : Char) : Bool := c = ' ' || c = '\t'

private def offsetOf (cs : List Char) : Option (Option Int) :=
  match cs.dropWhile isBlankChar with
  | [] => if cs.isEmpty then some none else none
  | ['Z'] => some (some 0)
  | sign :: rest =>
    if sign ≠ '+' ∧ sign ≠ '-' then none
    else do
      let (hours, _, rest) ← oneOrTwo rest
      let minutes ← match rest with
        | [] => some 0
        | _ => do
          let (minutes, rest) ← exactly 2 (← expect ':' rest)
          if rest.isEmpty then some minutes else none
      let size : Int := ((hours * 60 + minutes : Nat) : Int)
      pure (some (if sign = '-' then -size else size))

private def timeOf (cs : List Char) : Option TimeOfDay := do
  let rest ← match cs with
    | c :: rest =>
      if c = 'T' ∨ c = 't' then some rest
      else if isBlankChar c then some (rest.dropWhile isBlankChar)
      else none
    | [] => none
  let (hour, _, rest) ← oneOrTwo rest
  let (minute, rest) ← exactly 2 (← expect ':' rest)
  let (second, rest) ← exactly 2 (← expect ':' rest)
  let (fraction, rest) := match rest with
    | '.' :: rest => Json.spanDigits rest
    | rest => ([], rest)
  let places := fraction.take 6
  let microsecond := Json.natOfDigits places * Binary64.tenTo (6 - places.length)
  let offset ← offsetOf rest
  pure ⟨hour, minute, second, microsecond, offset⟩

/-- The numbers of a timestamp, and whether a date alone has two digits for month and day. -/
def parse? (cs : List Char) : Option (Timestamp × Bool) := do
  let (year, rest) ← exactly 4 cs
  let (month, monthDigits, rest) ← oneOrTwo (← expect '-' rest)
  let (day, dayDigits, rest) ← oneOrTwo (← expect '-' rest)
  match rest with
  | [] => pure (⟨year, month, day, none⟩, monthDigits = 2 && dayDigits = 2)
  | _ =>
    let time ← timeOf rest
    pure (⟨year, month, day, some time⟩, true)

def isTimestamp (cs : List Char) : Bool := (parse? cs).any (·.2)

def isLeapYear (year : Nat) : Bool :=
  year % 4 = 0 && (year % 100 ≠ 0 || year % 400 = 0)

def daysInMonth (year month : Nat) : Nat :=
  if month = 2 then (if isLeapYear year then 29 else 28)
  else if [4, 6, 9, 11].contains month then 30
  else 31

/-- How a span of minutes is shown: whole days, then seconds that are never negative. -/
def shownSpan (minutes : Int) : String :=
  let seconds := minutes * 60
  let days := seconds / 86400
  let rest := seconds % 86400
  if days = 0 ∧ rest = 0 then "datetime.timedelta(0)"
  else
    let parts := (if days = 0 then [] else [s!"days={days}"])
      ++ (if rest = 0 then [] else [s!"seconds={rest}"])
    "datetime.timedelta(" ++ String.intercalate ", " parts ++ ")"

/-- The first number of a timestamp that is out of range. The clock's distance is looked at before
the date, and the date before the time of day. -/
def problem? (stamp : Timestamp) : Option ScalarProblem :=
  let offset : Int := (stamp.time.bind (·.offset)).getD 0
  if 24 * 60 ≤ offset.natAbs then some (.offsetOutOfRange (shownSpan offset))
  else if stamp.year = 0 then some (.yearOutOfRange 0)
  else if stamp.month = 0 ∨ 12 < stamp.month then some .monthOutOfRange
  else if stamp.day = 0 ∨ daysInMonth stamp.year stamp.month < stamp.day then some .dayOutOfRange
  else
    match stamp.time with
    | none => none
    | some time =>
      if 23 < time.hour then some .hourOutOfRange
      else if 59 < time.minute then some .minuteOutOfRange
      else if 59 < time.second then some .secondOutOfRange
      else none

/-- The timestamp that a scalar spells. A line feed at its end does not count. -/
def read (text : String) : Except ScalarProblem Timestamp :=
  match parse? (Text.withoutLineFeed text.toList) with
  | none => .error .notTimestamp
  | some (stamp, _) =>
    match stamp.problem? with
    | some problem => .error problem
    | none => .ok stamp

def dayNumber (year month day : Nat) : Nat :=
  let earlier := year - 1
  let months := (List.range (month - 1)).foldl (fun days m => days + daysInMonth year (m + 1)) 0
  earlier * 365 + earlier / 4 - earlier / 100 + earlier / 400 + months + day

/-- The microseconds of universal time at a timestamp whose clock's distance is known. -/
def instant? (stamp : Timestamp) : Option Int := do
  let time ← stamp.time
  let offset ← time.offset
  let minutes := (dayNumber stamp.year stamp.month stamp.day * 24 + time.hour) * 60 + time.minute
  pure ((((minutes : Int) - offset) * 60 + time.second) * 1000000 + time.microsecond)

/-- Whether two timestamps are equal: by their instants where both have one, else by their numbers.
A clock of unknown distance never shows the same time as a known one. -/
def same (a b : Timestamp) : Bool :=
  match a.instant?, b.instant? with
  | some s, some t => s = t
  | _, _ => a = b

private def shownOffset (offset : Option Int) : String :=
  match offset with
  | none => ""
  | some 0 => ", tzinfo=datetime.timezone.utc"
  | some minutes => s!", tzinfo=datetime.timezone({shownSpan minutes})"

/-- How a timestamp is shown in messages: zeros at its end are left out. -/
def shown (stamp : Timestamp) : String :=
  let date := s!"{stamp.year}, {stamp.month}, {stamp.day}"
  match stamp.time with
  | none => s!"datetime.date({date})"
  | some time =>
    let small :=
      if time.microsecond ≠ 0 then s!", {time.second}, {time.microsecond}"
      else if time.second ≠ 0 then s!", {time.second}"
      else ""
    s!"datetime.datetime({date}, {time.hour}, {time.minute}{small}{shownOffset time.offset})"

end Timestamp

end ProductionClosure.Yaml
