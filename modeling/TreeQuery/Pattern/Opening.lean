import TreeQuery.Pattern.Layout
import TreeQuery.Text.Word

set_option autoImplicit false

/-! # Openings of groups

What can stand behind an opening parenthesis: nothing of note, a name, flags for the group, or flags
for what follows. Looking ahead or behind is not among it. -/

namespace TreeQuery.Pattern

/-- What an opening parenthesis begins. -/
inductive Opening
  /-- A change of flags up to the end of the enclosing group. -/
  | directive (flags : Flags)
  /-- A group that captures, with its name if it has one. -/
  | capture (name : Option (List Char))
  /-- A group that does not capture, with its flags. -/
  | plain (flags : Flags)
  deriving DecidableEq, Repr

namespace Opening

/-- Whether a text can be the name of a group: it begins with a letter or an underscore. -/
def isName : List Char → Bool
  | [] => false
  | c :: cs =>
    (c = '_' || Text.isLetter c) && cs.all fun c => c ∈ ['_', '.', '[', ']'] || Text.isWord c

/-- Read a name up to the bracket that ends it. -/
def readName (cs : List Char) : Option (Opening × List Char) :=
  match cs.dropWhile (· ≠ '>') with
  | [] => none
  | _ :: rest =>
    let name := cs.takeWhile (· ≠ '>')
    if isName name then some (.capture (some name), rest) else none

/-- Read flags up to what ends them: a colon opens a group, and a parenthesis makes a directive,
which must not be empty. -/
def readFlags (flags : Flags) (cs : List Char) : Option (Opening × List Char) :=
  let isFlag (c : Char) : Bool := c ≠ ':' && c ≠ ')'
  let text := cs.takeWhile isFlag
  match cs.dropWhile isFlag with
  | ':' :: rest => (flags.after? text).map fun flags => (.plain flags, rest)
  | _ :: rest =>
    if text.isEmpty then none else (flags.after? text).map fun flags => (.directive flags, rest)
  | [] => none

/-- Read an opening, given the text behind the parenthesis. -/
def read (flags : Flags) (cs : List Char) : Option (Opening × List Char) :=
  match flags.skip cs with
  | '?' :: '=' :: _ | '?' :: '!' :: _ | '?' :: '<' :: '=' :: _ | '?' :: '<' :: '!' :: _ => none
  | '?' :: 'P' :: '<' :: cs | '?' :: '<' :: cs => readName cs
  | '?' :: cs => readFlags flags cs
  | cs => some (.capture none, cs)

end Opening

end TreeQuery.Pattern
