import TreeQuery.Relation.Descriptor
import TreeQuery.Json.Writer
import TreeQuery.Text.Quoted

set_option autoImplicit false

/-! # Exchanged form of descriptors

Descriptors are exchanged as JSON: an object with one member for each field, or an array of the five
fields in order. Reading refuses a value for one cause, which says what was found and what was
wanted; of several causes the one met first counts. -/

namespace TreeQuery.Relation

/-! ## Causes of refusal -/

/-- The fields of a descriptor, in the order in which they are written. -/
inductive Field
  | kind
  | negative
  | optional
  | n
  | via
  deriving DecidableEq, Repr

/-- The key of a field. -/
def Field.key : Field → String
  | kind => "kind"
  | negative => "negative"
  | optional => "optional"
  | n => "n"
  | via => "via"

/-- What a place in the data has to hold. -/
inductive Wanted
  | descriptor
  | kind
  | singleKey
  | unit
  | boolean
  | childIndex
  | text
  deriving DecidableEq, Repr

/-- How messages name what is wanted. -/
def Wanted.message : Wanted → String
  | descriptor => "struct RelationDescriptor"
  | kind => "string or map"
  | singleKey => "map with a single key"
  | unit => "unit"
  | boolean => "a boolean"
  | childIndex => "a nonzero u32"
  | text => "a string"

/-- Why a JSON value does not denote a descriptor or a kind. -/
inductive ReadError
  /-- The value is of the wrong type. -/
  | wrongType (found : Json) (wanted : Wanted)
  /-- The value is of the right type, but out of range. -/
  | wrongValue (found : Json) (wanted : Wanted)
  | unknownKind (key : String)
  | missingField (field : Field)
  /-- The array ends before its fifth item. -/
  | tooShort (length : Nat)
  /-- The array goes on after its fifth item. -/
  | tooLong (length : Nat)
  deriving Repr

/-- How messages name a value that was found. -/
def describe : Json → String
  | .null => "null"
  | .bool b => "boolean `" ++ (if b then "true" else "false") ++ "`"
  | .number (.integer i) => "integer `" ++ toString i ++ "`"
  | .number (.binary bits) => "floating point `" ++ Json.Number.binaryText bits ++ "`"
  | .string s => "string " ++ Text.quoted s
  | .array _ => "sequence"
  | .object _ => "map"

/-- The keys of all kinds, each in backquotes, separated by commas. -/
def kindList : String :=
  ", ".intercalate (Kind.all.map fun k => "`" ++ k.key ++ "`")

/-- The text of a refusal. -/
def ReadError.message : ReadError → String
  | wrongType found wanted => "invalid type: " ++ describe found ++ ", expected " ++ wanted.message
  | wrongValue found wanted =>
    "invalid value: " ++ describe found ++ ", expected " ++ wanted.message
  | unknownKind key => "unknown variant `" ++ key ++ "`, expected one of " ++ kindList
  | missingField field => "missing field `" ++ field.key ++ "`"
  | tooShort length =>
    "invalid length " ++ toString length ++ ", expected struct RelationDescriptor with 5 elements"
  | tooLong length => "invalid length " ++ toString length ++ ", expected fewer elements in array"

/-! ## Reading the fields -/

/-- The kind that a key stands for. -/
def kindOfKey (key : String) : Except ReadError Kind :=
  match Kind.ofKey? key with
  | some kind => .ok kind
  | none => .error (.unknownKind key)

/-- Read a kind: its key, or an object with that key alone and the value null. -/
def readKind : Json → Except ReadError Kind
  | .string key => kindOfKey key
  | .object members =>
    match Json.keys members with
    | [key] => do
      let kind ← kindOfKey key
      match Json.lookup members key with
      | none | some .null => return kind
      | some found => .error (.wrongType found .unit)
    | _ => .error (.wrongValue (.object members) .singleKey)
  | found => .error (.wrongType found .kind)

/-- Read a truth value. -/
def readBool : Json → Except ReadError Bool
  | .bool b => .ok b
  | found => .error (.wrongType found .boolean)

/-- Read a child index. -/
def readChildIndex : Json → Except ReadError ChildIndex
  | .number (.integer i) =>
    match ChildIndex.ofInt? i with
    | some n => .ok n
    | none => .error (.wrongValue (.number (.integer i)) .childIndex)
  | found => .error (.wrongType found .childIndex)

/-- Read a text. -/
def readText : Json → Except ReadError String
  | .string s => .ok s
  | found => .error (.wrongType found .text)

/-! ## Reading a descriptor -/

namespace Descriptor

/-- Read the member of a field, if the object has it. -/
def readMember {α : Type} (members : List (String × Json)) (field : Field)
    (read : Json → Except ReadError α) : Except ReadError (Option α) :=
  match Json.lookup members field.key with
  | some value => some <$> read value
  | none => .ok none

/-- The value of a field that has to be there. -/
def require {α : Type} (field : Field) : Option α → Except ReadError α
  | some a => .ok a
  | none => .error (.missingField field)

/-- Read an object. The members are read in the order of their keys, so that a bad value is found
before a field is missed; other members are ignored. -/
def ofMembers (members : List (String × Json)) : Except ReadError Descriptor := do
  let kind ← readMember members .kind readKind
  let n ← readMember members .n readChildIndex
  let negative ← readMember members .negative readBool
  let optional ← readMember members .optional readBool
  let via ← readMember members .via readText
  return {
    kind := ← require .kind kind
    negative := ← require .negative negative
    optional := ← require .optional optional
    n := ← require .n n
    via := ← require .via via }

/-- Read the next item of an array, given how many items the array has in all. -/
def nextItem {α : Type} (length : Nat) (read : Json → Except ReadError α) :
    List Json → Except ReadError (α × List Json)
  | [] => .error (.tooShort length)
  | item :: rest => (·, rest) <$> read item

/-- Read an array: the fields in order and nothing after them. -/
def ofItems (items : List Json) : Except ReadError Descriptor := do
  let (kind, rest) ← nextItem items.length readKind items
  let (negative, rest) ← nextItem items.length readBool rest
  let (optional, rest) ← nextItem items.length readBool rest
  let (n, rest) ← nextItem items.length readChildIndex rest
  let (via, rest) ← nextItem items.length readText rest
  if rest.isEmpty then return { kind, negative, optional, n, via }
  else .error (.tooLong items.length)

/-- Read a descriptor. -/
def ofJson : Json → Except ReadError Descriptor
  | .object members => ofMembers members
  | .array items => ofItems items
  | found => .error (.wrongType found .descriptor)

/-! ## Writing a descriptor -/

/-- The descriptor as an object, its fields in order. -/
def toJson (d : Descriptor) : Json :=
  .object [
    (Field.kind.key, .string d.kind.key),
    (Field.negative.key, .bool d.negative),
    (Field.optional.key, .bool d.optional),
    (Field.n.key, .nat d.n.value),
    (Field.via.key, .string d.via)]

/-- The compact text of the exchanged form. -/
def exchangeText (d : Descriptor) : String := d.toJson.text

end Descriptor

end TreeQuery.Relation
