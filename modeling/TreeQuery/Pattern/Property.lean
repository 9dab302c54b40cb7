import TreeQuery.Pattern.PropertyNames

set_option autoImplicit false

/-! # Character properties in patterns

A pattern asks for a property of characters by name, or for a property to have a value. Names are
compared loosely: case, blanks, underscores and hyphens do not count, nor does `is` at the front. -/

namespace TreeQuery.Pattern.Property

/-- The form in which names are compared. Only `isc` keeps its first letters, which would otherwise
become the name of the category `C`. -/
def normalize (name : List Char) : List Char :=
  let plain (cs : List Char) : List Char :=
    (cs.filter fun c => c.toNat < 0x80 && !(c = ' ' || c = '_' || c = '-')).map Char.toLower
  match name with
  | i :: s :: rest =>
    if i.toLower = 'i' && s.toLower = 's' then
      if plain rest = ['c'] then ['i', 's', 'c'] else plain rest
    else plain name
  | _ => plain name

/-- Whether a name is in a list of names. -/
def isNamed (names : List String) (name : List Char) : Bool :=
  names.any fun n => normalize n.toList = normalize name

/-- Whether a property is known by one name: a two-valued property, a general category or a script.
-/
def isKnown (name : List Char) : Bool :=
  isNamed binaryNames name || isNamed categoryNames name || isNamed scriptNames name

/-- Whether a property is known to have a value. -/
def hasValue (name value : List Char) : Bool :=
  (isNamed ["General_Category", "gc"] name && isNamed categoryNames value)
    || (isNamed ["Script", "sc", "Script_Extensions", "scx"] name && isNamed scriptNames value)
    || (isNamed ["Age"] name && isNamed ageNames value)
    || (isNamed ["Grapheme_Cluster_Break", "GCB"] name && isNamed clusterNames value)
    || (isNamed ["Word_Break", "WB"] name && isNamed wordBreakNames value)
    || (isNamed ["Sentence_Break", "SB"] name && isNamed sentenceBreakNames value)

/-- What stands before and behind the first occurrence of a separator. -/
def cut (separator : List Char) : List Char → Option (List Char × List Char)
  | [] => none
  | c :: cs =>
    if separator.isPrefixOf (c :: cs) then some ([], (c :: cs).drop separator.length)
    else (cut separator cs).map fun (before, behind) => (c :: before, behind)

/-- Whether what stands between the braces of a property is known: a name, or a name and a value
with `!=`, `:` or `=` between them. -/
def isValid (text : List Char) : Bool :=
  match cut ['!', '='] text <|> cut [':'] text <|> cut ['='] text with
  | some (name, value) => hasValue name value
  | none => isKnown text

end TreeQuery.Pattern.Property
