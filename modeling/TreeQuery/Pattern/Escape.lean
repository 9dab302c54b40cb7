import TreeQuery.Pattern.Layout
import TreeQuery.Pattern.Property

set_option autoImplicit false

/-! # Escapes

What a backslash in a pattern can begin: a character, given by itself or by its number, a class of
characters, or an assertion. -/

namespace TreeQuery.Pattern

/-- What an escape stands for. -/
inductive Escape
  | literal (c : Char)
  | characterClass
  | assertion
  deriving DecidableEq, Repr

namespace Escape

/-! ## Characters by number -/

/-- Whether a character is a hexadecimal digit. -/
def isHexDigit (c : Char) : Bool :=
  c.isDigit || ('a' ≤ c && c ≤ 'f') || ('A' ≤ c && c ≤ 'F')

/-- The number that hexadecimal digits denote. -/
def hexValue (ds : List Char) : Nat :=
  ds.foldl (fun n d =>
    n * 16 + if d.isDigit then d.toNat - '0'.toNat else d.toLower.toNat - 'a'.toNat + 10) 0

/-- The character with a number in hexadecimal digits, if there is one. -/
def charOfHex? (ds : List Char) : Option Char :=
  if !ds.isEmpty && ds.all isHexDigit && (hexValue ds).isValidChar then
    some (Char.ofNat (hexValue ds))
  else none

/-- Read a fixed number of characters; what does not count is dropped behind each. -/
def exactly (flags : Flags) : Nat → List Char → Option (List Char × List Char)
  | 0, cs => some ([], cs)
  | _ + 1, [] => none
  | n + 1, c :: cs => (exactly flags n (flags.skip cs)).map fun (taken, rest) => (c :: taken, rest)

/-- What stands between braces, given the text behind the opening one. -/
def braced (flags : Flags) (cs : List Char) : Option (List Char × List Char) :=
  match flags.run (· ≠ '\x7d') (flags.skip cs) with
  | (inner, '\x7d' :: rest) => some (inner, rest)
  | _ => none

/-- Read the number of a character: digits in braces, or a fixed number of digits. Two digits
denote a byte, which without Unicode has to be ASCII. -/
def readHex (flags : Flags) (count : Nat) (cs : List Char) : Option (Escape × List Char) :=
  match flags.skip cs with
  | '\x7b' :: cs => do
    let (ds, rest) ← braced flags cs
    return (.literal (← charOfHex? ds), rest)
  | cs => do
    let (ds, rest) ← exactly flags count cs
    let c ← charOfHex? ds
    guard (flags.unicode || count ≠ 2 || c.toNat < 0x80)
    return (.literal c, rest)

/-! ## Classes and assertions -/

/-- Read a property: a name in braces, or one character. There are none without Unicode. -/
def readProperty (flags : Flags) (cs : List Char) : Option (Escape × List Char) :=
  if flags.unicode then
    match flags.skip cs with
    | [] => none
    | '\x7b' :: cs => do
      let (text, rest) ← braced flags cs
      guard (Property.isValid text)
      return (.characterClass, rest)
    | c :: rest => if c ≠ '\\' && Property.isKnown [c] then some (.characterClass, rest) else none
  else none

/-- The words that stand in braces behind `\b`. -/
def boundaryWords : List String := ["start", "end", "start-half", "end-half"]

/-- Read what stands in braces behind `\b`: a word that says which boundary is meant. Braces that
do not begin with a letter or a hyphen are left for a count. -/
def readBoundary (flags : Flags) (cs : List Char) : Option (Escape × List Char) :=
  let isWordChar (c : Char) : Bool := c.isAlpha || c = '-'
  match cs with
  | '\x7b' :: inner =>
    match flags.skip inner with
    | [] => none
    | c :: inner =>
      if isWordChar c then
        match flags.run isWordChar (c :: inner) with
        | (word, '\x7d' :: rest) =>
          if String.ofList word ∈ boundaryWords then some (.assertion, rest) else none
        | _ => none
      else some (.assertion, cs)
  | _ => some (.assertion, cs)

/-- Read an escape, given the text behind the backslash. -/
def read (flags : Flags) : List Char → Option (Escape × List Char)
  | [] => none
  | c :: cs =>
    if c = 'x' then readHex flags 2 cs
    else if c = 'u' then readHex flags 4 cs
    else if c = 'U' then readHex flags 8 cs
    else if c = 'p' || c = 'P' then readProperty flags cs
    else if c ∈ ['d', 's', 'w'] then some (.characterClass, cs)
    else if c ∈ ['D', 'S', 'W'] then if flags.unicode then some (.characterClass, cs) else none
    else if c = 'a' then some (.literal '\x07', cs)
    else if c = 'f' then some (.literal '\x0c', cs)
    else if c = 't' then some (.literal '\t', cs)
    else if c = 'n' then some (.literal '\n', cs)
    else if c = 'r' then some (.literal '\r', cs)
    else if c = 'v' then some (.literal '\x0b', cs)
    else if c = 'b' then readBoundary flags cs
    else if c ∈ ['A', 'z', 'B', '<', '>'] then some (.assertion, cs)
    else if c.toNat < 0x80 && !c.isAlphanum then some (.literal c, cs)
    else none

end Escape

end TreeQuery.Pattern
