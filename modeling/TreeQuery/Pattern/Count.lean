import TreeQuery.Pattern.Layout

set_option autoImplicit false

/-! # Counts

How often an item is repeated, written in braces: a number, a number and upwards, or two numbers. -/

namespace TreeQuery.Pattern.Count

/-- Read a decimal number below `2 ^ 32`. Blanks around it do not count in any mode. -/
def readNumber (flags : Flags) (cs : List Char) : Option (Nat × List Char) :=
  let (ds, rest) := flags.run Char.isDigit (cs.dropWhile Text.isBlank)
  let value := Nat.ofDigitChars 10 ds 0
  if ds.isEmpty || UInt32.size ≤ value then none else some (value, (flags.run Text.isBlank rest).2)

/-- Read a count, given the text behind its brace: the limit, if there is one, and the rest. -/
def readLimit (flags : Flags) (cs : List Char) : Option (Option Nat × List Char) := do
  let (least, cs) ← readNumber flags (flags.skip cs)
  match cs with
  | '\x7d' :: rest => return (some least, rest)
  | ',' :: cs =>
    match flags.skip cs with
    | '\x7d' :: rest => return (none, rest)
    | cs =>
      let (most, cs) ← readNumber flags cs
      match cs with
      | '\x7d' :: rest => if least ≤ most then return (some most, rest) else none
      | _ => none
  | _ => none

/-- Drop the mark of a lazy repetition at the front of a text. -/
def dropLazy : List Char → List Char
  | '?' :: cs => cs
  | cs => cs

/-- Read a count with its mark, given the text behind the brace. -/
def read (flags : Flags) (cs : List Char) : Option (Option Nat × List Char) :=
  (readLimit flags cs).map fun (limit, rest) => (limit, dropLazy (flags.skip rest))

end TreeQuery.Pattern.Count
