import TreeQuery.Decimal.Shortest
import TreeQuery.Decimal.Text

set_option autoImplicit false

/-! # Numbers of JSON

A number written without fraction and exponent is an integer as long as it fits 64 bits; every other
number is a binary64 number, kept as its bits. Reading one keeps as many leading digits as fit 64
bits and scales them by a single power of ten, so that the last bit can differ from correct
rounding. -/

namespace TreeQuery.Json

/-- A number: an integer between `-2 ^ 63` and `2 ^ 64 - 1`, or a finite number of binary64. -/
inductive Number
  | integer (value : Int)
  | binary (bits : UInt64)
  deriving DecidableEq, Repr, Inhabited

namespace Number

/-! ## Writing -/

/-- One step of the exponent field: the fraction takes the 52 bits below it. -/
def exponentStep : Nat := 0x10000000000000

/-- The place of the sign: the highest of the 64 bits. -/
def signPlace : Nat := UInt64.size / 2

/-- The magnitude of a finite, nonzero number of binary64. -/
def magnitude (bits : UInt64) : Decimal.Binary :=
  let fraction : Nat := bits.toNat % exponentStep
  let field : Nat := bits.toNat / exponentStep % 0x800
  if field = 0 then ⟨fraction, -1074, false⟩
  else ⟨fraction + exponentStep, (field : Int) - 1075, fraction = 0 && field ≠ 1⟩

/-- The least and the greatest exponent of a first digit that are not written: the first digit then
stands at most five places behind the point or at most sixteen before it. -/
def plainExponents : Int × Int := (-5, 15)

/-- The text of a decimal, with an exponent if that of its first digit is to be written. -/
def decimalText (digits : Nat) (k : Int) : String :=
  let exponent := Decimal.leadingExponent digits k
  if plainExponents.1 ≤ exponent && exponent ≤ plainExponents.2 then Decimal.positional digits k
  else Decimal.scientific digits k

/-- The text of a number of binary64: the shortest decimal that stands for it. -/
def binaryText (bits : UInt64) : String :=
  let sign := if bits.toNat < signPlace then "" else "-"
  if bits.toNat % signPlace = 0 then sign ++ "0.0"
  else
    let (digits, k) := Decimal.shortest (magnitude bits)
    sign ++ decimalText digits k

/-- The text of a number. -/
def text : Number → String
  | integer i => toString i
  | binary bits => binaryText bits

/-! ## Reading -/

/-- A number as it is written: sign, digits before and after the point, exponent. -/
structure Numeral where
  negative : Bool
  whole : List Char
  fraction : Option (List Char)
  exponent : Option Int
  deriving DecidableEq, Repr

/-- Append digits to a significand as long as it stays below `2 ^ 64`; the digits that no longer fit
are returned with it. -/
def absorb (significand : Nat) : List Char → Nat × List Char
  | [] => (significand, [])
  | c :: cs =>
    let next := significand * 10 + (c.toNat - '0'.toNat)
    if next < UInt64.size then absorb next cs else (significand, c :: cs)

/-- The power of ten with a natural exponent, as a number of binary64. -/
def powerOfTen (e : Nat) : Float := Float.ofScientific 1 false e

/-- A significand times a power of ten, or none if that is too large for binary64. -/
def scale (significand : Nat) (e : Int) : Option Float :=
  let f := (UInt64.ofNat significand).toFloat
  if 308 < e then if significand = 0 then some f else none
  else if 0 ≤ e then
    let r := f * powerOfTen e.toNat
    if r.isInf then none else some r
  else if -308 ≤ e then some (f / powerOfTen (-e).toNat)
  else if -616 ≤ e then some (f / powerOfTen 308 / powerOfTen (-e - 308).toNat)
  else some 0

/-- Give a binary64 number a sign. -/
def signed (negative : Bool) (f : Float) : Number :=
  binary (if negative then (-f).toBits else f.toBits)

/-- The number that a numeral denotes, if it is in range. -/
def ofNumeral? (n : Numeral) : Option Number :=
  let (whole, surplus) := absorb 0 n.whole
  match n.fraction, n.exponent with
  | none, none =>
    if surplus.isEmpty && !n.negative then some (integer whole)
    else if surplus.isEmpty && 0 < whole && whole ≤ UInt64.size / 2 then some (integer (-whole))
    else (scale whole surplus.length).map (signed n.negative)
  | fraction, exponent =>
    let digits := fraction.getD []
    let (significand, ignored) := absorb whole digits
    -- A digit left out before the point counts one power of ten, one taken behind it takes one.
    let places := digits.length - ignored.length
    (scale significand (surplus.length - places + exponent.getD 0)).map (signed n.negative)

/-- Read the digits at the front of a text. -/
def digits (cs : List Char) : List Char × List Char :=
  (cs.takeWhile Char.isDigit, cs.dropWhile Char.isDigit)

/-- Read the exponent of a number: at least one digit, after an optional sign. -/
def readExponent (cs : List Char) : Option (Int × List Char) :=
  let (negative, cs) : Bool × List Char :=
    match cs with
    | '-' :: cs => (true, cs)
    | '+' :: cs => (false, cs)
    | cs => (false, cs)
  match digits cs with
  | ([], _) => none
  | (ds, rest) =>
    let e : Int := Nat.ofDigitChars 10 ds 0
    some (if negative then -e else e, rest)

/-- Read a numeral; no digit may follow a leading zero, and a point needs a digit on either side. -/
def readNumeral (cs : List Char) : Option (Numeral × List Char) := do
  let (negative, cs) : Bool × List Char :=
    match cs with
    | '-' :: cs => (true, cs)
    | cs => (false, cs)
  let (whole, cs) := digits cs
  guard (!whole.isEmpty && (whole.length = 1 || whole.head? ≠ some '0'))
  let (fraction, cs) ←
    match cs with
    | '.' :: cs =>
      match digits cs with
      | ([], _) => none
      | (ds, rest) => some (some ds, rest)
    | cs => some (none, cs)
  let (exponent, cs) ←
    match cs with
    | 'e' :: cs | 'E' :: cs => (readExponent cs).map fun (e, rest) => (some e, rest)
    | cs => some (none, cs)
  return (⟨negative, whole, fraction, exponent⟩, cs)

/-- Read a number at the front of a text. -/
def read (cs : List Char) : Option (Number × List Char) := do
  let (numeral, rest) ← readNumeral cs
  return (← ofNumeral? numeral, rest)

end Number

end TreeQuery.Json
