import TreeQuery.Text.Blank

set_option autoImplicit false

/-! # Flags and layout

Two of the flags of a pattern decide whether it is valid: in extended mode blanks and comments
between the parts of a pattern do not count, and without Unicode a pattern must not match anything
but ASCII by the way. -/

namespace TreeQuery.Pattern

/-- The flags that matter for reading. -/
structure Flags where
  /-- Blanks and comments are skipped. -/
  extended : Bool := false
  /-- Classes are classes of Unicode characters. -/
  unicode : Bool := true
  deriving DecidableEq, Repr, Inhabited

namespace Flags

/-- The letters that name a flag. -/
def letters : List Char := ['i', 'm', 's', 'U', 'u', 'R', 'x']

/-- The state of a flag after the text of a directive: letters behind the minus switch off. -/
def switch (directive : List Char) (letter : Char) (old : Bool) : Bool :=
  if letter ∈ directive.takeWhile (· ≠ '-') then true
  else if letter ∈ directive then false
  else old

/-- The flags after the text of a directive, if that is well formed: letters, each once, and at most
one minus, which is not the last. -/
def after? (flags : Flags) (directive : List Char) : Option Flags :=
  if directive.all (fun c => c = '-' || c ∈ letters) && directive.eraseDups = directive
      && directive.getLast? ≠ some '-' then
    some ⟨switch directive 'x' flags.extended, switch directive 'u' flags.unicode⟩
  else none

end Flags

/-- Drop the blanks and comments at the front of a text. A comment runs from `#` to the end of the
line; the first argument says whether the text begins inside one. -/
def dropLayout : Bool → List Char → List Char
  | _, [] => []
  | true, c :: cs => dropLayout (c ≠ '\n') cs
  | false, c :: cs =>
    if Text.isBlank c then dropLayout false cs
    else if c = '#' then dropLayout true cs
    else c :: cs

theorem length_dropLayout_le (inComment : Bool) (cs : List Char) :
    (dropLayout inComment cs).length ≤ cs.length := by
  induction cs generalizing inComment with
  | nil => simp [dropLayout]
  | cons c cs ih =>
    cases inComment <;> simp only [dropLayout]
    · split
      · exact Nat.le_succ_of_le (ih false)
      · split
        · exact Nat.le_succ_of_le (ih true)
        · exact Nat.le_refl _
    · exact Nat.le_succ_of_le (ih _)

namespace Flags

/-- Drop what does not count at the front of a text. -/
def skip (flags : Flags) (cs : List Char) : List Char :=
  if flags.extended then dropLayout false cs else cs

theorem length_skip_le (flags : Flags) (cs : List Char) :
    (flags.skip cs).length ≤ cs.length := by
  unfold skip
  split
  · exact length_dropLayout_le false cs
  · exact Nat.le_refl _

/-- The characters at the front of a text that pass a test, and the rest. What does not count is
dropped behind each of them. -/
def run (flags : Flags) (test : Char → Bool) : List Char → List Char × List Char
  | [] => ([], [])
  | c :: cs =>
    if test c then
      let (taken, rest) := flags.run test (flags.skip cs)
      (c :: taken, rest)
    else ([], c :: cs)
termination_by cs => cs.length
decreasing_by exact Nat.lt_succ_of_le (flags.length_skip_le cs)

/-- The character to be expected behind a hyphen in a class. In extended mode that is the first one
behind blanks, of which one `#` counts as a blank; if none follows, it is just the next one. -/
def peek (flags : Flags) (cs : List Char) : Option Char :=
  if flags.extended then
    let ahead :=
      match cs.dropWhile Text.isBlank with
      | '#' :: rest => rest.dropWhile Text.isBlank
      | rest => rest
    ahead.head? <|> cs.head?
  else cs.head?

end Flags

end TreeQuery.Pattern
