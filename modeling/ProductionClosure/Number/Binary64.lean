/-!
Double-precision numbers by their sixty-four bits. A decimal is rounded to the nearest double, ties
to the even one, in exact natural arithmetic; a double is written with the fewest digits that round
back to it.
-/

namespace ProductionClosure

structure Binary64 where
  bits : UInt64
  deriving DecidableEq, Repr, Inhabited

namespace Binary64

def twoTo (power : Nat) : Nat := Nat.pow 2 power

def tenTo (power : Nat) : Nat := Nat.pow 10 power

private def signBit : Nat := 0x8000000000000000

private def fractionRange : Nat := 0x10000000000000

private def infinityBits : Nat := 0x7ff0000000000000

def ofSignAndBits (negative : Bool) (magnitude : Nat) : Binary64 :=
  ⟨UInt64.ofNat (if negative then signBit + magnitude else magnitude)⟩

def infinity (negative : Bool) : Binary64 := ofSignAndBits negative infinityBits

def nan : Binary64 := ⟨0x7ff8000000000000⟩

def isNegative (x : Binary64) : Bool := signBit ≤ x.bits.toNat

def magnitude (x : Binary64) : Nat := x.bits.toNat % signBit

def isInfinite (x : Binary64) : Bool := x.magnitude = infinityBits

def isNaN (x : Binary64) : Bool := infinityBits < x.magnitude

def isZero (x : Binary64) : Bool := x.magnitude = 0

def isOne (x : Binary64) : Bool := x.bits = 0x3ff0000000000000

/-- A finite double is its significand times two to its exponent. -/
def significand (x : Binary64) : Nat :=
  let biased := x.magnitude / fractionRange
  let fraction := x.magnitude % fractionRange
  if biased = 0 then fraction else fractionRange + fraction

def exponent (x : Binary64) : Int :=
  let biased : Nat := x.magnitude / fractionRange
  if biased = 0 then -1074 else (biased : Int) - 1075

/-- The quotient rounded to the nearest natural number, a tie to the even one. -/
def roundQuotient (num den : Nat) : Nat :=
  let q := num / den
  let r := num % den
  if 2 * r < den || (2 * r = den && q % 2 = 0) then q else q + 1

private def scaled (num den : Nat) (power : Int) : Nat × Nat :=
  if 0 ≤ power then (num * twoTo power.toNat, den) else (num, den * twoTo (-power).toNat)

/-- The magnitude bits of the double nearest to a positive ratio. The significand and the exponent
are added, so that a significand rounded up to a power of two carries into the exponent. -/
def magnitudeOfRatio (num den : Nat) : Nat :=
  let estimate : Int := (Nat.log2 num : Int) - (Nat.log2 den : Int)
  let (n, d) := scaled num den (-estimate)
  let top := if d ≤ n then estimate else estimate - 1
  let unit := max (top - 52) (-1074)
  let (n, d) := scaled num den (-unit)
  min ((unit + 1074).toNat * fractionRange + roundQuotient n d) infinityBits

/-- The double nearest to `digits` times ten to the given power. Powers that leave the range of
doubles whatever the digits are answered without computing them. -/
def ofDecimal (negative : Bool) (digits : Nat) (power : Int) : Binary64 :=
  if digits = 0 then ofSignAndBits negative 0
  else
    let places : Int := ((Nat.log2 digits * 30103 / 100000 : Nat) : Int) + power
    if 400 < places then infinity negative
    else if places < -400 then ofSignAndBits negative 0
    else if 0 ≤ power then
      ofSignAndBits negative (magnitudeOfRatio (digits * tenTo power.toNat) 1)
    else ofSignAndBits negative (magnitudeOfRatio digits (tenTo (-power).toNat))

def ratio (x : Binary64) : Nat × Nat :=
  scaled x.significand 1 x.exponent

/-- The largest decimal of the grid with step ten to the given power that is not above the value. -/
private def gridBelow (num den : Nat) (power : Int) : Nat :=
  if 0 ≤ power then num / (den * tenTo power.toNat) else num * tenTo (-power).toNat / den

/-- Whether the grid point above the value is nearer to it than the one below; a tie goes to the
even point. -/
private def aboveIsNearer (num den : Nat) (power : Int) (below : Nat) : Bool :=
  let (n, d) :=
    if 0 ≤ power then (num, den * tenTo power.toNat) else (num * tenTo (-power).toNat, den)
  let twice := 2 * n
  let middle := (2 * below + 1) * d
  middle < twice || (middle = twice && below % 2 = 1)

/-- The number of places before the point of a positive ratio, by counting the digits of its whole
part or the zeros that follow the point. -/
private def leadingPower (num den : Nat) : Int :=
  if den ≤ num then (Nat.repr (num / den)).length
  else 1 - ((Nat.repr ((den - 1) / num)).length : Int)

/-- The shortest digits and power of ten that round back to a finite non-zero double: the first of
the grids with one, two, … digits that has such a point next to the value. -/
def shortestFrom (x : Binary64) (num den : Nat) (top : Int) : Nat → Nat → Nat × Int
  | 0, count => (gridBelow num den (top - count), top - count)
  | tries + 1, count =>
    let power := top - count
    let below := gridBelow num den power
    let hits (digits : Nat) : Bool := (ofDecimal x.isNegative digits power) = x && digits ≠ 0
    if hits below || hits (below + 1) then
      if hits below && !(hits (below + 1) && aboveIsNearer num den power below) then (below, power)
      else (below + 1, power)
    else shortestFrom x num den top tries (count + 1)

def withoutTrailingZeros (digits : Nat) (power : Int) : Nat × Int :=
  if h : 0 < digits ∧ digits % 10 = 0 then withoutTrailingZeros (digits / 10) (power + 1)
  else (digits, power)
  termination_by digits
  decreasing_by omega

def shortest (x : Binary64) : Nat × Int :=
  if x.isZero then (0, 0)
  else
    let (num, den) := x.ratio
    let (digits, power) := shortestFrom x num den (leadingPower num den) 17 1
    withoutTrailingZeros digits power

private def zeros (count : Nat) : String := String.ofList (List.replicate count '0')

/-- The text of a double: positional from 1e-4 up to 1e16 with at least one digit on each side of
the point, otherwise with a signed exponent of at least two digits. -/
def toText (x : Binary64) : String :=
  if x.isNaN then "nan"
  else
    let sign := if x.isNegative then "-" else ""
    if x.isInfinite then sign ++ "inf"
    else if x.isZero then sign ++ "0.0"
    else
      let (digits, power) := x.shortest
      let text := Nat.repr digits
      let point : Int := text.length + power
      if -4 < point ∧ point ≤ 16 then
        if point ≤ 0 then sign ++ "0." ++ zeros (-point).toNat ++ text
        else if (text.length : Int) ≤ point then
          sign ++ text ++ zeros (point - text.length).toNat ++ ".0"
        else
          let cs := text.toList
          sign ++ String.ofList (cs.take point.toNat) ++ "."
            ++ String.ofList (cs.drop point.toNat)
      else
        let cs := text.toList
        let scale := point - 1
        let mantissa := String.ofList (cs.take 1)
          ++ (if cs.length = 1 then "" else "." ++ String.ofList (cs.drop 1))
        let scaleText := Nat.repr scale.natAbs
        sign ++ mantissa ++ "e" ++ (if scale < 0 then "-" else "+")
          ++ (if scaleText.length < 2 then "0" ++ scaleText else scaleText)

end Binary64

end ProductionClosure
