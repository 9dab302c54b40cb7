import TreeQuery.Pattern.Escape
import TreeQuery.Pattern.Shape

set_option autoImplicit false

/-! # Bracketed classes

A class in brackets holds characters, ranges, named classes and classes in brackets of their own,
joined by set operators of equal strength. Without Unicode it may neither be negated nor name a
character beyond ASCII. -/

namespace TreeQuery.Pattern.Class

/-! ## Items -/

/-- The names that can stand between `[:` and `:]`. -/
def asciiNames : List String :=
  ["alnum", "alpha", "ascii", "blank", "cntrl", "digit", "graph", "lower", "print", "punct",
    "space", "upper", "word", "xdigit"]

/-- Read a named class, given the text behind its bracket: whether it is negated, and the rest. -/
def asciiClass? : List Char → Option (Bool × List Char)
  | ':' :: cs =>
    let (negated, cs) : Bool × List Char :=
      match cs with
      | '^' :: cs => (true, cs)
      | cs => (false, cs)
    match cs.dropWhile (· ≠ ':') with
    | ':' :: ']' :: rest =>
      if String.ofList (cs.takeWhile (· ≠ ':')) ∈ asciiNames then some (negated, rest) else none
    | _ => none
  | _ => none

/-- Read one end of a range: a character, or none for a class. -/
def readEnd (flags : Flags) : List Char → Option (Option Char × List Char)
  | [] => none
  | c :: cs => do
    let (item, rest) ← if c = '\\' then Escape.read flags cs else some (.literal c, cs)
    match item with
    | .literal c =>
      guard (flags.unicode || c.toNat < 0x80)
      return (some c, rest)
    | .characterClass => return (none, rest)
    | .assertion => none

/-- Read a character, a class or a range; a range runs upwards between two characters. -/
def readItem (flags : Flags) (cs : List Char) : Option (List Char) := do
  let (first, rest) ← readEnd flags cs
  match flags.skip rest with
  | [] => none
  | '-' :: behind =>
    -- In front of a bracket or another hyphen the hyphen makes no range.
    if flags.peek behind = some ']' || flags.peek behind = some '-' then return '-' :: behind
    else
      let (last, rest) ← readEnd flags (flags.skip behind)
      guard ((← first) ≤ (← last))
      return rest
  | rest => return rest

/-! ## Nesting -/

/-- What encloses the items that are being read. -/
inductive Frame
  /-- A bracket, with the items read before it outside, latest first. -/
  | bracket (outside : List ClassShape)
  /-- The right side of a set operator. -/
  | operand (left : ClassShape)
  deriving Inhabited, Repr

/-- The items read so far inside the innermost frame, latest first, and the frames. -/
structure State where
  items : List ClassShape := []
  frames : List Frame := []
  deriving Inhabited, Repr

namespace State

/-- Add an item. -/
def push (s : State) (item : ClassShape) : State := { s with items := item :: s.items }

/-- End the items as the right side of the operator before them, if there is one. -/
def operand (s : State) : ClassShape × List Frame :=
  let right := ClassShape.ofItems s.items.reverse
  match s.frames with
  | .operand left :: frames => (.operation left right, frames)
  | frames => (right, frames)

/-- Begin the right side of a set operator. -/
def operator (s : State) : State :=
  let (left, frames) := s.operand
  ⟨[], .operand left :: frames⟩

end State

/-- Read what may stand at the beginning of a class, given the text behind its bracket: the
negation, hyphens, and a closing bracket that stands for itself. -/
def readHead (flags : Flags) (s : State) (cs : List Char) : Option (State × List Char) :=
  let cs := flags.skip cs
  let (negated, cs) : Bool × List Char :=
    match cs with
    | '^' :: cs => (true, flags.skip cs)
    | cs => (false, cs)
  let (hyphens, cs) := flags.run (· = '-') cs
  -- A closing bracket stands for itself here, unless a hyphen comes before it.
  let (items, cs) : List ClassShape × List Char :=
    match hyphens, cs with
    | [], ']' :: cs => ([.single], flags.skip cs)
    | hyphens, cs => (hyphens.map fun _ => .single, cs)
  if cs.isEmpty || (negated && !flags.unicode) then none
  else some (⟨items, .bracket s.items :: s.frames⟩, cs)

/-- Read a class up to its closing bracket. Every step takes a character at least, so the length of
the text bounds their number. -/
def readBody (flags : Flags) : Nat → State → List Char → Option (ClassShape × List Char)
  | 0, _, _ => none
  | steps + 1, s, cs =>
    match flags.skip cs with
    | [] => none
    | '[' :: rest =>
      match asciiClass? rest with
      | some (negated, rest) =>
        if negated && !flags.unicode then none else readBody flags steps (s.push .single) rest
      | none => do
        let (s, rest) ← readHead flags s rest
        readBody flags steps s rest
    | ']' :: rest =>
      -- The outermost bracket ends the class, an inner one is an item of the class around it.
      match s.operand with
      | (inner, [.bracket _]) => some (inner, rest)
      | (inner, .bracket outside :: frames) =>
        readBody flags steps ⟨.bracketed inner :: outside, frames⟩ rest
      | _ => none
    | '&' :: '&' :: rest | '-' :: '-' :: rest | '~' :: '~' :: rest =>
      readBody flags steps s.operator rest
    | cs => do
      let rest ← readItem flags cs
      readBody flags steps (s.push .single) rest

/-- Read a class, given the text behind its bracket. -/
def read (flags : Flags) (cs : List Char) : Option (ClassShape × List Char) := do
  let (s, rest) ← readHead flags {} cs
  readBody flags rest.length s rest

end TreeQuery.Pattern.Class
